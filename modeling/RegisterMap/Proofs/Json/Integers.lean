import Mathlib.Data.List.Infix
import RegisterMap.Json.Reader
import RegisterMap.Proofs.Endings
import RegisterMap.Proofs.Number.Decimal

/-!
# Integers in JSON

The integers of a value that is read are short enough to be written in decimal again. One with more
digits is complained about, and stands in the text.
-/

namespace RegisterMap.Json

open Number

/-- A value that is a part of another one or that value itself. -/
inductive IsPart : Json → Json → Prop where
  | self (v : Json) : IsPart v v
  | item {v w : Json} {items : List Json} (mem : w ∈ items) (part : IsPart v w) :
    IsPart v (.list items)
  | member {v : Json} {m : String × Json} {members : List (String × Json)} (mem : m ∈ members)
    (part : IsPart v m.2) : IsPart v (.object members)

theorem IsPart.trans {u v w : Json} (huv : IsPart u v) (hvw : IsPart v w) : IsPart u w := by
  induction hvw with
  | self => exact huv
  | item mem _ ih => exact .item mem ih
  | member mem _ ih => exact .member mem ih

theorem isPart_of_get? {name : String} {members : List (String × Json)} {v : Json}
    (h : get? name members = some v) : IsPart v (.object members) := by
  obtain ⟨before, after, rfl, -⟩ := List.lookup_eq_some_iff.1 h
  exact .member (List.mem_append_right before List.mem_cons_self) (.self v)

/-- A value whose integers are all short. -/
def IsShort (v : Json) : Prop :=
  ∀ n, IsPart (.int n) v → Number.isShort n = true

/-- A list of characters with a run of `count` digits in it, more than a number may have. -/
def HasRun (cs : List Char) (count : Nat) : Prop :=
  ∃ ds, ds <:+: cs ∧ ds.length = count ∧ digitLimit < count ∧ ∀ d ∈ ds, d.isDigit = true

/-- A complaint about a long number has the run of its digits in the text. -/
def Stop.Tells (whole : List Char) (stop : Stop) : Prop :=
  ∀ count, stop.reason = .longNumber count → HasRun whole count

variable {α : Type} {whole cs : List Char}

theorem tells_of_ne {reason : Reason} {left : Nat} (h : ∀ count, reason ≠ .longNumber count) :
    Stop.Tells whole ⟨reason, left⟩ :=
  fun count heq => absurd heq (h count)

/-- What was read, and an end of the text. -/
def Leaves (whole : List Char) (r : α × List Char) : Prop :=
  r.2 <:+ whole

theorem suffix_of_cons {c : Char} (h : c :: cs <:+ whole) : cs <:+ whole :=
  (List.suffix_cons c cs).trans h

theorem skipGap_suffix (h : cs <:+ whole) : skipGap cs <:+ whole :=
  (List.dropWhile_suffix _).trans h

/-! ## Texts -/

section Texts

theorem unicodeEscape_ends (cs : List Char) :
    Ends (Stop.Tells whole) (fun _ => True) (unicodeEscape cs) := by
  have hsecond : ∀ rest, Ends (Stop.Tells whole) (fun _ => True) (secondUnit rest) := by
    intro rest
    rw [secondUnit.eq_def]
    split
    · split
      · trivial
      · split
        · trivial
        · exact tells_of_ne nofun
    · trivial
  rw [unicodeEscape]
  split
  · exact tells_of_ne nofun
  · split
    · exact tells_of_ne nofun
    · split
      · split
        · next hstop => exact (hsecond _).of_error hstop
        · split <;> trivial
        · trivial
      · trivial

theorem stringChars_ends (opened : List Char) (h : cs <:+ whole) :
    Ends (Stop.Tells whole) (Leaves whole) (stringChars opened cs) := by
  fun_induction stringChars opened cs with
  | case1 => exact tells_of_ne nofun
  | case2 rest => exact suffix_of_cons h
  | case3 => exact tells_of_ne nofun
  | case4 rest stop hstop => exact (unicodeEscape_ends rest).of_error hstop
  | case5 rest p taken hescape ih =>
    exact (ih ((List.drop_suffix _ _).trans (suffix_of_cons (suffix_of_cons h)))).map
      fun _ hleft => hleft
  | case6 => exact tells_of_ne nofun
  | case7 e rest hu c hc ih =>
    exact (ih (suffix_of_cons (suffix_of_cons h))).map fun _ hleft => hleft
  | case8 => exact tells_of_ne nofun
  | case9 c rest hquote hbackslash hc ih =>
    exact (ih (suffix_of_cons h)).map fun _ hleft => hleft

end Texts

/-! ## Numbers -/

section Numbers

theorem isPrefix_digitsFront (cs : List Char) : digitsFront cs <+: cs :=
  List.takeWhile_prefix _

theorem isPrefix_wholePart (cs : List Char) : wholePart cs <+: cs := by
  rw [wholePart.eq_def]
  split
  · exact List.prefix_append ['0'] _
  · exact isPrefix_digitsFront _

theorem isDigit_wholePart (cs : List Char) : ∀ d ∈ wholePart cs, d.isDigit = true := by
  rw [wholePart.eq_def]
  split
  · exact List.forall_mem_singleton.2 rfl
  · exact List.all_eq_true.1 List.all_takeWhile

theorem isShort_of_digits {ds : List Char} (h : ∀ d ∈ ds, d.isDigit = true)
    (hlength : ds.length ≤ digitLimit) {n : Int} (hn : n.natAbs = digitsValue 10 0 ds) :
    Number.isShort n = true := by
  have hlt : ∀ k, ds.length ≤ k → n.natAbs < Nat.pow 10 k := by
    intro k hk
    have hvalue := digitsValue_lt (fun d hd => isDigitOf_of_isDigit (h d hd)) 0
    rw [Nat.zero_add, Nat.one_mul, ← hn] at hvalue
    exact hvalue.trans_le (Nat.pow_le_pow_right (by decide) hk)
  exact isShort_iff.2 (hlt digitLimit hlength)

theorem isShort_int {n : Int} (h : Number.isShort n = true) : IsShort (.int n) := by
  rintro _ ⟨⟩
  exact h

theorem isShort_real (written : String) : IsShort (.real written) :=
  nofun

theorem number_ends (h : cs <:+ whole) :
    Ends (Stop.Tells whole) (fun r => r.1.IsShort ∧ r.2 <:+ whole) (number cs) := by
  rw [number]
  generalize hsign : (if cs.head? = some '-' then ['-'] else []) = sign
  generalize hbody : cs.drop sign.length = body
  have hsuffix : body <:+ whole := hbody ▸ (List.drop_suffix _ _).trans h
  have hleft : ∀ frac exp : List Char,
      ((body.drop (wholePart body).length).drop frac.length).drop exp.length <:+ whole :=
    fun _ _ => (((List.drop_suffix _ _).trans (List.drop_suffix _ _)).trans
      (List.drop_suffix _ _)).trans hsuffix
  dsimp only
  split
  · exact tells_of_ne nofun
  · split
    · split
      · next hlong =>
        rintro _ ⟨⟩
        exact ⟨wholePart body, (isPrefix_wholePart body).isInfix.trans hsuffix.isInfix, rfl, hlong,
          isDigit_wholePart body⟩
      · next hshort =>
        refine ⟨isShort_int ?_, hleft _ _⟩
        refine isShort_of_digits (isDigit_wholePart body) (Nat.le_of_not_lt hshort) ?_
        split
        · exact Int.natAbs_natCast _
        · rw [Int.natAbs_neg, Int.natAbs_natCast]
    · exact ⟨isShort_real _, hleft _ _⟩

end Numbers

/-! ## Values -/

section Values

theorem isShort_text (t : String) : IsShort (.text t) :=
  nofun

theorem isShort_list {items : List Json} (h : ∀ v ∈ items, v.IsShort) : IsShort (.list items) := by
  rintro n (_ | ⟨hmem, hpart⟩)
  exact h _ hmem n hpart

theorem isShort_object {members : List (String × Json)} (h : ∀ m ∈ members, m.2.IsShort) :
    IsShort (.object members) := by
  rintro n (_ | _ | ⟨hmem, hpart⟩)
  exact h _ hmem n hpart

theorem isShort_put (name : String) {v : Json} {known : List (String × Json)} (hv : v.IsShort)
    (h : ∀ m ∈ known, m.2.IsShort) : ∀ m ∈ put name v known, m.2.IsShort := by
  induction known with
  | nil => exact List.forall_mem_singleton.2 hv
  | cons m ms ih =>
    obtain ⟨hm, hms⟩ := List.forall_mem_cons.1 h
    rw [put]
    split
    · exact List.forall_mem_cons.2 ⟨hv, hms⟩
    · exact List.forall_mem_cons.2 ⟨hm, ih hms⟩

theorem named_ends {found : Json × List Char} (h : cs <:+ whole) (hfound : named? cs = some found) :
    found.1.IsShort ∧ found.2 <:+ whole := by
  obtain ⟨⟨name, v⟩, hmem, hv⟩ := List.exists_of_findSome?_eq_some hfound
  have hshort : ∀ m ∈ namedValues, m.2.IsShort := by
    simp only [namedValues, List.forall_mem_cons, List.not_mem_nil, false_imp_iff, implies_true,
      and_true]
    exact ⟨nofun, nofun, nofun, nofun, nofun, nofun⟩
  dsimp only at hv
  split at hv
  · cases hv
    exact ⟨hshort _ hmem, (List.drop_suffix _ _).trans h⟩
  · cases hv

/-- What is read to a depth of `fuel` steps has short integers. -/
structure ReadsShort [Machine] (whole : List Char) (fuel : Nat) : Prop where
  value : ∀ (depth : Nat) {cs}, cs <:+ whole →
    Ends (Stop.Tells whole) (fun r => r.1.IsShort ∧ r.2 <:+ whole) (value fuel depth cs)
  members : ∀ (depth : Nat) {known cs}, (∀ m ∈ known, m.2.IsShort) → cs <:+ whole →
    Ends (Stop.Tells whole) (fun r => (∀ m ∈ r.1, m.2.IsShort) ∧ r.2 <:+ whole)
      (members fuel depth known cs)
  items : ∀ (depth : Nat) {cs}, cs <:+ whole →
    Ends (Stop.Tells whole) (fun r => (∀ v ∈ r.1, v.IsShort) ∧ r.2 <:+ whole)
      (items fuel depth cs)

theorem suffix_of_skipGap {c : Char} {left : List Char} (h : cs <:+ whole)
    (hgap : skipGap cs = c :: left) : left <:+ whole :=
  suffix_of_cons (hgap ▸ skipGap_suffix h)

variable [Machine] {fuel depth : Nat}

theorem ReadsShort.value_succ (ih : ReadsShort whole fuel) (h : cs <:+ whole) :
    Ends (Stop.Tells whole) (fun r => r.1.IsShort ∧ r.2 <:+ whole)
      (Json.value (fuel + 1) depth cs) := by
  rw [Json.value.eq_def]
  dsimp only
  split
  · exact (stringChars_ends _ (suffix_of_cons h)).map fun _ hleft => ⟨isShort_text _, hleft⟩
  · next rest =>
    have hrest := suffix_of_cons h
    split
    · split
      · next left hgap =>
        exact ⟨isShort_object (List.forall_mem_nil _), suffix_of_skipGap hrest hgap⟩
      · exact (ih.members _ (List.forall_mem_nil _) (skipGap_suffix hrest)).map fun _ hr =>
          ⟨isShort_object hr.1, hr.2⟩
    · exact tells_of_ne nofun
  · next rest =>
    have hrest := suffix_of_cons h
    split
    · split
      · next left hgap =>
        exact ⟨isShort_list (List.forall_mem_nil _), suffix_of_skipGap hrest hgap⟩
      · exact (ih.items _ (skipGap_suffix hrest)).map fun _ hr => ⟨isShort_list hr.1, hr.2⟩
    · exact tells_of_ne nofun
  · split
    · next found hfound => exact named_ends h hfound
    · exact number_ends h

theorem ReadsShort.members_succ (ih : ReadsShort whole fuel) {known : List (String × Json)}
    (hknown : ∀ m ∈ known, m.2.IsShort) (h : cs <:+ whole) :
    Ends (Stop.Tells whole) (fun r => (∀ m ∈ r.1, m.2.IsShort) ∧ r.2 <:+ whole)
      (Json.members (fuel + 1) depth known cs) := by
  rw [Json.members.eq_def]
  dsimp only
  split
  · split
    · next stop hstop => exact (stringChars_ends _ (suffix_of_cons h)).of_error hstop
    · next name left hname =>
      have hleft : left <:+ whole := (stringChars_ends _ (suffix_of_cons h)).of_ok hname
      split
      · next rest hcolon =>
        have hvalue := ih.value depth
          (skipGap_suffix (suffix_of_skipGap hleft hcolon))
        split
        · next stop hstop => exact hvalue.of_error hstop
        · next v left hv =>
          obtain ⟨hshort, hleft⟩ := hvalue.of_ok hv
          have hput := isShort_put (String.ofList name) hshort hknown
          split
          · next rest hgap => exact ⟨hput, suffix_of_skipGap hleft hgap⟩
          · next rest hgap =>
            exact ih.members _ hput (skipGap_suffix (suffix_of_skipGap hleft hgap))
          · exact tells_of_ne nofun
      · exact tells_of_ne nofun
  · exact tells_of_ne nofun

theorem ReadsShort.items_succ (ih : ReadsShort whole fuel) (h : cs <:+ whole) :
    Ends (Stop.Tells whole) (fun r => (∀ v ∈ r.1, v.IsShort) ∧ r.2 <:+ whole)
      (Json.items (fuel + 1) depth cs) := by
  rw [Json.items.eq_def]
  dsimp only
  split
  · next stop hstop => exact (ih.value _ h).of_error hstop
  · next v left hv =>
    obtain ⟨hshort, hleft⟩ := (ih.value _ h).of_ok hv
    split
    · next rest hgap => exact ⟨List.forall_mem_singleton.2 hshort, suffix_of_skipGap hleft hgap⟩
    · next rest hgap =>
      have hrest := skipGap_suffix (suffix_of_skipGap hleft hgap)
      exact (ih.items _ hrest).map fun _ hr => ⟨List.forall_mem_cons.2 ⟨hshort, hr.1⟩, hr.2⟩
    · exact tells_of_ne nofun

theorem readsShort (whole : List Char) (fuel : Nat) : ReadsShort whole fuel := by
  induction fuel with
  | zero =>
    refine ⟨fun _ _ _ => ?_, fun _ _ _ _ _ => ?_, fun _ _ _ => ?_⟩
    · rw [value.eq_def]
      exact tells_of_ne nofun
    · rw [members.eq_def]
      exact tells_of_ne nofun
    · rw [items.eq_def]
      exact tells_of_ne nofun
  | succ fuel ih =>
    exact ⟨fun _ _ => ih.value_succ, fun _ _ _ => ih.members_succ, fun _ _ => ih.items_succ⟩

theorem readChars_ends (cs : List Char) : Ends (Stop.Tells cs) IsShort (readChars cs) := by
  rw [readChars]
  split
  · exact tells_of_ne nofun
  · have hvalue := (readsShort cs (2 * cs.length + 2)).value 0
      (skipGap_suffix (List.suffix_refl cs))
    split
    · next stop hstop => exact hvalue.of_error hstop
    · next v left hv =>
      split
      · exact (hvalue.of_ok hv).1
      · exact tells_of_ne nofun

/-- The integers of a value that a text holds are short. A complaint about a long one has the run of
its digits in the text. -/
theorem read_ends (s : String) :
    Ends (fun fault => ∀ count, fault.reason = .longNumber count → HasRun s.toList count) IsShort
      (read s) := by
  rw [read]
  have hends := readChars_ends s.toList
  split
  · next stop hstop => exact hends.of_error hstop
  · next v hv => exact hends.of_ok hv

end Values

end RegisterMap.Json
