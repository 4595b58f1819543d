import RegisterMap.Proofs.Description.Nesting
import RegisterMap.Proofs.Description.Phrases

/-!
# Reading modules and constants

Modules and constants are read with the open modules at hand, where the grammar has a module inside
a module. What is left of the open modules and of the file around them relates the two, and the
braces count the open modules: reading gives up where there are more of them than the machine lets
calls be nested, and nowhere else.
-/

namespace RegisterMap.Parser

open Grammar Grammar.Phrase

variable {ts rest : List Token}

theorem moduleStart_eq_ok {name : String} :
    moduleStart ts = .ok (name, rest) ↔ Grammar.moduleStart.Reads ts name rest := by
  simp [moduleStart, Grammar.moduleStart, bind_eq_ok, expect_eq_ok, expectName_eq_ok, reads_word,
    reads_name, reads_mark, and_assoc]

theorem reads_skipPub (ts : List Token) :
    ∃ o, (optional (word "pub")).Reads ts o (skipPub ts) := by
  rw [skipPub]
  by_cases h : peek ts = .name "pub"
  · rw [if_pos h]
    exact ⟨_, reads_optional.2 (.inr ⟨_, reads_word.2 ⟨h, rfl, rfl⟩, rfl⟩)⟩
  · rw [if_neg h]
    exact ⟨none, reads_optional.2 (.inl ⟨rfl, rfl⟩)⟩

theorem skipPub_of_reads {o : Option Nat} (h : (optional (word "pub")).Reads ts o rest)
    (hrest : peek rest ≠ .name "pub") : skipPub ts = rest := by
  rw [skipPub]
  obtain ⟨-, rfl⟩ | ⟨line, h, -⟩ := reads_optional.1 h
  · exact if_neg hrest
  · obtain ⟨hp, -, rfl⟩ := reads_word.1 h
    exact if_pos hp

theorem skipType_eq_ok (hrest : peek rest = .mark .equals) :
    skipType ts = .ok rest ↔
      ∃ o, (optional (do let _ ← mark .colon; name)).Reads ts o rest := by
  simp only [skipType, reads_optional, reads_bind, reads_mark, reads_name]
  by_cases h : peek ts = .mark .colon
  · rw [if_pos h, map_eq_ok]
    constructor
    · rintro ⟨⟨s, rest⟩, hn, rfl⟩
      exact ⟨some s, .inr ⟨s, ⟨_, ts.tail, ⟨h, rfl, rfl⟩, expectName_eq_ok.1 hn⟩, rfl⟩⟩
    · rintro ⟨o, ⟨-, rfl⟩ | ⟨s, ⟨_, _, ⟨-, -, rfl⟩, hn⟩, -⟩⟩
      · exact absurd (h.symm.trans hrest) (by decide)
      · exact ⟨(s, rest), expectName_eq_ok.2 hn, rfl⟩
  · rw [if_neg h, Except.ok.injEq]
    constructor
    · rintro rfl
      exact ⟨none, .inl ⟨rfl, rfl⟩⟩
    · rintro ⟨o, ⟨-, rfl⟩ | ⟨s, ⟨_, _, ⟨hc, -⟩, -⟩, -⟩⟩
      · rfl
      · exact absurd hc h

theorem constant_eq_ok {modules lines : List String} {c : Constant} :
    constant modules lines ts = .ok (c, rest) ↔
      (Grammar.constant modules lines).Reads ts c rest := by
  simp only [Grammar.constant, reads_bind, reads_pure, reads_word, reads_name, reads_mark,
    reads_number]
  constructor
  · intro h
    obtain ⟨_, hconst, h⟩ := bind_eq_ok.1 h
    obtain ⟨⟨name, _⟩, hname, h⟩ := bind_eq_ok.1 h
    obtain ⟨_, htype, h⟩ := bind_eq_ok.1 h
    obtain ⟨_, hequals, h⟩ := bind_eq_ok.1 h
    split at h
    · next value hvalue =>
      obtain ⟨_, hend, h⟩ := bind_eq_ok.1 h
      cases h
      obtain ⟨hc, rfl⟩ := expect_eq_ok.1 hconst
      obtain ⟨he, rfl⟩ := expect_eq_ok.1 hequals
      obtain ⟨hs, rfl⟩ := expect_eq_ok.1 hend
      obtain ⟨o, ht⟩ := (skipType_eq_ok he).1 htype
      exact ⟨_, _, ⟨hc, rfl, rfl⟩, name, _, expectName_eq_ok.1 hname, o, _, ht, _, _,
        ⟨he, rfl, rfl⟩, value, _, ⟨hvalue, rfl⟩, _, _, ⟨hs, rfl, rfl⟩, rfl, rfl⟩
    · cases h
  · rintro ⟨_, _, ⟨hc, rfl, rfl⟩, name, _, hn, o, _, ht, _, _, ⟨he, rfl, rfl⟩, value, _, ⟨hv, rfl⟩,
      _, _, ⟨hs, rfl, rfl⟩, rfl, rfl⟩
    refine bind_eq_ok.2 ⟨_, expect_eq_ok.2 ⟨hc, rfl⟩, ?_⟩
    refine bind_eq_ok.2 ⟨_, expectName_eq_ok.2 hn, ?_⟩
    refine bind_eq_ok.2 ⟨_, (skipType_eq_ok he).2 ⟨o, ht⟩, ?_⟩
    refine bind_eq_ok.2 ⟨_, expect_eq_ok.2 ⟨he, rfl⟩, ?_⟩
    rw [hv]
    exact bind_eq_ok.2 ⟨_, expect_eq_ok.2 ⟨hs, rfl⟩, rfl⟩

theorem itemStart_of_reads {lines : List String} (h : itemStart.Reads ts lines rest)
    (hpub : peek rest ≠ .name "pub") (hdoc : ∀ line, peek rest ≠ .doc line) :
    (docs ts).1 = lines ∧ skipPub (docs ts).2 = rest := by
  obtain ⟨_, between, hd, o, _, ho, rfl, rfl⟩ := h
  have hbetween : ∀ line, peek between ≠ .doc line := by
    obtain ⟨-, rfl⟩ | ⟨_, hw, -⟩ := reads_optional.1 ho
    · exact hdoc
    · rw [(reads_word.1 hw).1]
      exact nofun
  rw [docs_of_reads hd hbetween]
  exact ⟨rfl, skipPub_of_reads ho hpub⟩

theorem reads_itemStart (ts : List Token) :
    itemStart.Reads ts (docs ts).1 (skipPub (docs ts).2) := by
  obtain ⟨o, ho⟩ := reads_skipPub (docs ts).2
  exact ⟨_, _, reads_docs ts, o, _, ho, rfl, rfl⟩

/-- What is left of the modules `inside`, innermost first, and of the file around them. -/
inductive Inside : List String → List Token → List Constant → List Token → Prop where
  | file {ts rest : List Token} {cs : List Constant} (others : Items [] ts cs rest) :
      Inside [] ts cs rest
  | module {name : String} {outer : List String} {ts ts₁ ts₂ rest : List Token}
      {cs more : List Constant} {line : Nat} (others : Items (name :: outer).reverse ts cs ts₁)
      (closes : moduleEnd.Reads ts₁ line ts₂) (around : Inside outer ts₂ more rest) :
      Inside (name :: outer) ts (cs ++ more) rest

namespace Inside

variable {inside lines : List String} {ts₁ ts₂ : List Token} {cs : List Constant}

theorem constant {c : Constant} (start : itemStart.Reads ts lines ts₁)
    (first : (Grammar.constant inside.reverse lines).Reads ts₁ c ts₂)
    (h : Inside inside ts₂ cs rest) : Inside inside ts (c :: cs) rest := by
  cases h with
  | file others => exact file (.constant start first others)
  | module others closes around => exact module (.constant start first others) closes around

theorem opened {name : String} (start : itemStart.Reads ts lines ts₁)
    (opens : Grammar.moduleStart.Reads ts₁ name ts₂) (h : Inside (name :: inside) ts₂ cs rest) :
    Inside inside ts cs rest := by
  cases h with
  | module body closes around =>
    rw [List.reverse_cons] at body
    cases around with
    | file others => exact file (.module start opens body closes others)
    | module others closes' around =>
      rw [← List.append_assoc]
      exact module (.module start opens body closes others) closes' around

theorem closed {name : String} {line : Nat} (closes : moduleEnd.Reads ts line ts₁)
    (h : Inside inside ts₁ cs rest) : Inside (name :: inside) ts cs rest :=
  module (.done _ ts) closes h

end Inside

variable [Machine]

/-- What is read first, and then the rest. -/
theorem items_eq (inside : List String) (ts : List Token) :
    items inside ts =
      if peek (skipPub (docs ts).2) = .name "mod" then do
        let (name, rest) ← moduleStart (skipPub (docs ts).2)
        if inside.length < Machine.modules then items (name :: inside) rest
        else .error (faultAt rest .tooDeep)
      else if peek (skipPub (docs ts).2) = .name "const" then do
        let (c, rest) ← constant inside.reverse (docs ts).1 (skipPub (docs ts).2)
        (items inside rest).map fun (cs, rest) => (c :: cs, rest)
      else
        match inside with
        | [] => .ok ([], ts)
        | name :: outer =>
          expect (.mark .rightBrace) ("'\x7d' closing mod " ++ name) (docs ts).2 >>=
            items outer := by
  rw [items.eq_def]
  simp only
  split
  · split <;> next heq => rw [heq]; rfl
  · split
    · split <;> next heq => rw [heq]; rfl
    · cases inside with
      | nil => rfl
      | cons name outer =>
        simp only
        split <;> next heq => rw [heq]; rfl

/-- Modules and constants are read as the grammar has them. -/
theorem inside_of_items {inside : List String} {cs : List Constant}
    (h : items inside ts = .ok (cs, rest)) : Inside inside ts cs rest := by
  fun_induction items inside ts generalizing cs rest with
  | case2 inside ts start body hmod name between =>
    rename_i hopens hroom ih
    exact (ih h).opened (reads_itemStart ts) (moduleStart_eq_ok.1 hopens)
  | case5 inside ts start body hmod hconst c between =>
    rename_i hfirst ih
    obtain ⟨⟨more, last⟩, hmore, he⟩ := map_eq_ok.1 h
    cases he
    exact (ih hmore).constant (reads_itemStart ts) (constant_eq_ok.1 hfirst)
  | case6 ts =>
    cases h
    exact .file (.done [] ts)
  | case8 ts start body hmod hconst name outer between =>
    rename_i hbrace ih
    obtain ⟨hmark, rfl⟩ := expect_eq_ok.1 hbrace
    exact (ih h).closed ⟨_, _, reads_docs ts, reads_mark.2 ⟨hmark, rfl, rfl⟩⟩
  | _ => cases h

/-- No more modules are read than calls can be nested. -/
theorem deepest_of_items {inside : List String} {cs : List Constant}
    (h : items inside ts = .ok (cs, rest)) (hinside : inside.length ≤ Machine.modules) :
    deepest inside.length ts ≤ max Machine.modules (depth rest) := by
  fun_induction items inside ts generalizing cs rest with
  | case2 inside ts start body hmod name between =>
    rename_i hopens hroom ih
    rw [Flat.itemStart (reads_itemStart ts), deepest_of_moduleStart (moduleStart_eq_ok.1 hopens)]
    exact ih h hroom
  | case5 inside ts start body hmod hconst c between =>
    rename_i hfirst ih
    obtain ⟨⟨more, last⟩, hmore, he⟩ := map_eq_ok.1 h
    cases he
    rw [Flat.itemStart (reads_itemStart ts), Flat.constant _ _ (constant_eq_ok.1 hfirst)]
    exact ih hmore hinside
  | case6 ts =>
    cases h
    exact Nat.le_max_right _ _
  | case8 ts start body hmod hconst name outer between =>
    rename_i hbrace ih
    obtain ⟨hmark, rfl⟩ := expect_eq_ok.1 hbrace
    have hcloses : moduleEnd.Reads ts _ (docs ts).2.tail :=
      ⟨_, _, reads_docs ts, reads_mark.2 ⟨hmark, rfl, rfl⟩⟩
    rw [List.length_cons, deepest_of_moduleEnd hcloses]
    exact Nat.max_le.2
      ⟨Nat.le_trans hinside (Nat.le_max_left _ _), ih h (Nat.le_of_succ_le hinside)⟩
  | _ => cases h

/-- A module is read inside of the modules around it if there is room for one more. -/
theorem items_module {inside lines : List String} {name : String} {ts₁ ts₂ : List Token}
    (start : itemStart.Reads ts lines ts₁) (opens : Grammar.moduleStart.Reads ts₁ name ts₂) :
    items inside ts =
      if inside.length < Machine.modules then items (name :: inside) ts₂
      else .error (faultAt ts₂ .tooDeep) := by
  have hmod : peek ts₁ = .name "mod" := by
    obtain ⟨_, _, hw, -⟩ := opens
    exact (reads_word.1 hw).1
  obtain ⟨-, hbody⟩ := itemStart_of_reads start (by simp [hmod]) (by simp [hmod])
  rw [items_eq, hbody, if_pos hmod, moduleStart_eq_ok.2 opens]
  rfl

theorem items_constant {inside lines : List String} {c : Constant} {ts₁ ts₂ : List Token}
    (start : itemStart.Reads ts lines ts₁)
    (first : (Grammar.constant inside.reverse lines).Reads ts₁ c ts₂) :
    items inside ts = (items inside ts₂).map fun (cs, rest) => (c :: cs, rest) := by
  have hconst : peek ts₁ = .name "const" := by
    obtain ⟨_, _, hw, -⟩ := first
    exact (reads_word.1 hw).1
  obtain ⟨hlines, hbody⟩ := itemStart_of_reads start (by simp [hconst]) (by simp [hconst])
  rw [items_eq, hbody, hlines, if_neg (by simp [hconst]), if_pos hconst, constant_eq_ok.2 first]
  rfl

/-- Reading goes on outside a module behind its brace. -/
theorem items_moduleEnd {outer : List String} {name : String} {line : Nat}
    (closes : moduleEnd.Reads ts line rest) : items (name :: outer) ts = items outer rest := by
  obtain ⟨lines, between, hdocs, hbrace⟩ := closes
  obtain ⟨hmark, -, rfl⟩ := reads_mark.1 hbrace
  have hstart := docs_of_reads hdocs (by simp [hmark])
  have hpub : skipPub between = between := if_neg (by simp [hmark])
  rw [items_eq, hstart, hpub, if_neg (by simp [hmark]), if_neg (by simp [hmark])]
  simp only [expect_eq_ok.2 ⟨hmark, rfl⟩]
  rfl

/-- What the grammar has as modules and constants is read as such, or is nested too deep. -/
theorem items_of_reads {modules : List String} {cs : List Constant}
    (h : Items modules ts cs rest) {inside : List String} (hinside : inside.reverse = modules) :
    items inside ts = (items inside rest).map (fun (more, last) => (cs ++ more, last)) ∨
      Machine.modules < deepest inside.length ts ∧
        ∃ place, items inside ts = .error (faultAt place .tooDeep) := by
  induction h generalizing inside with
  | done modules ts =>
    left
    cases items inside ts <;> rfl
  | constant start first others ih =>
    subst hinside
    rw [items_constant start first, Flat.itemStart start, Flat.constant _ _ first]
    obtain heq | ⟨hdeep, place, heq⟩ := ih rfl <;> rw [heq]
    · left
      cases items inside _ <;> rfl
    · exact .inr ⟨hdeep, place, rfl⟩
  | @module _ _ _ _ _ _ _ _ name _ _ _ start opens body closes others ihBody ihOthers =>
    subst hinside
    rw [items_module start opens, Flat.itemStart start, deepest_of_moduleStart opens]
    by_cases hroom : inside.length < Machine.modules
    · rw [if_pos hroom]
      obtain heq | hdeep := ihBody (List.reverse_cons (a := name))
      · rw [heq, items_moduleEnd closes]
        obtain heq | ⟨hdeep, place, heq⟩ := ihOthers rfl <;> rw [heq]
        · left
          cases items inside _ with
          | error fault => rfl
          | ok read => simp only [Except.map, List.append_assoc]
        · refine .inr ⟨Nat.lt_of_lt_of_le hdeep ?_, place, rfl⟩
          refine Nat.le_trans ?_ (deepest_le_of_items body _)
          rw [deepest_of_moduleEnd closes]
          exact Nat.le_max_right _ _
      · exact .inr hdeep
    · rw [if_neg hroom]
      refine .inr ⟨?_, _, rfl⟩
      exact Nat.lt_of_lt_of_le (Nat.lt_succ_of_le (Nat.le_of_not_lt hroom)) (le_deepest _ _)

end RegisterMap.Parser
