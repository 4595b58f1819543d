import RegisterMap.Proofs.Json.Integers

/-!
# Nested values in JSON

How many brackets are open at once can be counted on the characters of a text that stand outside of
its strings. Reading gives up only where there are more of them than calls can be nested.
-/

namespace RegisterMap.Json

/-- The brackets that are open behind a character with `now` of them open in front of it. -/
def openBehind (now : Nat) : Char → Nat
  | '\x7b' => now + 1
  | '[' => now + 1
  | '\x7d' => now - 1
  | ']' => now - 1
  | _ => now

/-- The greatest number of brackets open at once, `now` of them at the start, which is inside of a
string or not. -/
def deepest : Bool → Nat → List Char → Nat
  | _, now, [] => now
  | true, now, '\\' :: _ :: cs => deepest true now cs
  | true, now, c :: cs => deepest (c != '"') now cs
  | false, now, c :: cs => max now (deepest (c == '"') (openBehind now c) cs)

/-- How deep the values of a text are nested. -/
def depth (s : String) : Nat :=
  deepest false 0 s.toList

variable {cs left : List Char} {now : Nat}

theorem le_deepest (inside : Bool) (now : Nat) (cs : List Char) : now ≤ deepest inside now cs := by
  fun_induction deepest inside now cs with
  | case1 => exact Nat.le_refl _
  | case2 now c cs ih => exact ih
  | case3 now c cs hescape ih => exact ih
  | case4 now c cs => exact Nat.le_max_left _ _

/-- Neither a quote nor a bracket. -/
def IsPlain (c : Char) : Prop :=
  c ∉ ['"', '\x7b', '\x7d', '[', ']']

instance : DecidablePred IsPlain :=
  fun c => inferInstanceAs (Decidable (c ∉ ['"', '\x7b', '\x7d', '[', ']']))

theorem openBehind_of_isPlain {c : Char} (h : IsPlain c) : openBehind now c = now := by
  rw [openBehind.eq_def]
  split
  · exact absurd h (by decide)
  · exact absurd h (by decide)
  · exact absurd h (by decide)
  · exact absurd h (by decide)
  · rfl

theorem deepest_cons_of_isPlain {c : Char} (h : IsPlain c) (now : Nat) (cs : List Char) :
    deepest false now (c :: cs) = deepest false now cs := by
  have hquote : (c == '"') = false := by
    simpa using fun heq => h (by simp [heq])
  rw [deepest, hquote, openBehind_of_isPlain h, Nat.max_eq_right (le_deepest _ _ _)]

theorem deepest_drop_of_isPrefix {front : List Char} (h : front <+: cs)
    (hplain : ∀ c ∈ front, IsPlain c) (now : Nat) :
    deepest false now (cs.drop front.length) = deepest false now cs := by
  obtain ⟨tail, rfl⟩ := h
  rw [List.drop_left]
  induction front with
  | nil => rfl
  | cons c front ih =>
    obtain ⟨hc, hfront⟩ := List.forall_mem_cons.1 hplain
    rw [List.cons_append, deepest_cons_of_isPlain hc, ih hfront]

theorem deepest_skipGap (now : Nat) (cs : List Char) :
    deepest false now (skipGap cs) = deepest false now cs := by
  induction cs with
  | nil => rfl
  | cons c cs ih =>
    rw [skipGap, List.dropWhile_cons]
    split
    · next hgap =>
      have hplain : IsPlain c := by
        simp only [isGap, Bool.or_eq_true, beq_iff_eq] at hgap
        obtain ((rfl | rfl) | rfl) | rfl := hgap <;> decide
      rw [deepest_cons_of_isPlain hplain]
      exact ih
    · rfl

theorem deepest_open {c : Char} (hc : openBehind now c = now + 1) (hquote : c ≠ '"') :
    deepest false now (c :: cs) = deepest false (now + 1) cs := by
  have hfalse : (c == '"') = false := by simpa using hquote
  rw [deepest, hc, hfalse]
  exact Nat.max_eq_right (Nat.le_of_succ_le (le_deepest _ _ _))

theorem deepest_close {c : Char} (hc : openBehind (now + 1) c = now) (hquote : c ≠ '"') :
    deepest false now cs ≤ deepest false (now + 1) (c :: cs) := by
  have hfalse : (c == '"') = false := by simpa using hquote
  rw [deepest, hc, hfalse]
  exact Nat.le_max_right _ _

/-! ## Strings -/

section Strings

/-- A character of a string that does not end it and starts no escape. -/
theorem deepest_inside {c : Char} (hquote : c ≠ '"') (hescape : c ≠ '\\') (now : Nat)
    (cs : List Char) : deepest true now (c :: cs) = deepest true now cs := by
  have htrue : (c != '"') = true := by simpa using hquote
  rw [deepest.eq_def]
  split
  · next h => cases h
  · next h =>
    cases h
    exact absurd rfl hescape
  · next h =>
    cases h
    rw [htrue]
  · next h _ => cases h

theorem deepest_of_hexQuad {n : Nat} (h : hexQuad? (cs.take 4) = some n) (now : Nat) :
    deepest true now (cs.drop 4) = deepest true now cs := by
  have hinside : ∀ c, Number.isDigitOf 16 c = true → ∀ cs,
      deepest true now (c :: cs) = deepest true now cs := by
    intro c hc cs
    refine deepest_inside ?_ ?_ now cs <;> rintro rfl <;> exact absurd hc (by decide)
  match cs, h with
  | a :: b :: c :: d :: cs, h =>
    rw [List.take_succ_cons, List.take_succ_cons, List.take_succ_cons, List.take_succ_cons,
      List.take_zero, hexQuad?] at h
    split at h
    · next hall =>
      simp only [List.all_cons, List.all_nil, Bool.and_true, Bool.and_eq_true] at hall
      obtain ⟨ha, hb, hc, hd⟩ := hall
      rw [hinside a ha, hinside b hb, hinside c hc, hinside d hd]
      rfl
    · cases h

theorem deepest_of_secondUnit {n : Nat} (h : secondUnit cs = .ok (some n)) (now : Nat) :
    deepest true now (cs.drop 6) = deepest true now cs := by
  rw [secondUnit.eq_def] at h
  split at h
  · next rest =>
    split at h
    · cases h
    · split at h
      · next hquad => exact deepest_of_hexQuad hquad now
      · cases h
  · cases h

theorem deepest_of_unicodeEscape {p : Text.Point} {taken : Nat}
    (h : unicodeEscape cs = .ok (p, taken)) (now : Nat) :
    deepest true now (cs.drop taken) = deepest true now cs := by
  rw [unicodeEscape] at h
  split at h
  · cases h
  · split at h
    · cases h
    · next high hhigh =>
      have hone := deepest_of_hexQuad hhigh now
      split at h
      · split at h
        · cases h
        · next low hlow =>
          split at h
          · obtain ⟨-, rfl⟩ := Prod.mk.inj (Except.ok.inj h)
            rw [← hone, ← deepest_of_secondUnit hlow now, List.drop_drop]
          · obtain ⟨-, rfl⟩ := Prod.mk.inj (Except.ok.inj h)
            exact hone
        · obtain ⟨-, rfl⟩ := Prod.mk.inj (Except.ok.inj h)
          exact hone
      · obtain ⟨-, rfl⟩ := Prod.mk.inj (Except.ok.inj h)
        exact hone

theorem deepest_of_stringChars {opened s : List Char} (h : stringChars opened cs = .ok (s, left))
    (now : Nat) : deepest true now cs = deepest false now left := by
  fun_induction stringChars opened cs generalizing s left with
  | case2 rest =>
    cases h
    rfl
  | case5 rest p taken hescape ih =>
    obtain ⟨⟨t, last⟩, ht, he⟩ := map_eq_ok.1 h
    cases he
    exact (deepest_of_unicodeEscape hescape now).symm.trans (ih ht)
  | case7 e rest hu c hc ih =>
    obtain ⟨⟨t, last⟩, ht, he⟩ := map_eq_ok.1 h
    cases he
    exact ih ht
  | case9 c rest hquote hbackslash hc ih =>
    obtain ⟨⟨t, last⟩, ht, he⟩ := map_eq_ok.1 h
    cases he
    exact (deepest_inside hquote hbackslash now rest).trans (ih ht)
  | _ => cases h

/-- A fault that is not about depth. -/
def Stop.IsShallow (stop : Stop) : Prop :=
  stop.reason ≠ .tooDeep

theorem isShallow_of_ne {reason : Reason} {left : Nat} (h : reason ≠ .tooDeep) :
    Stop.IsShallow ⟨reason, left⟩ :=
  h

theorem shallow_secondUnit (cs : List Char) :
    Ends Stop.IsShallow (fun _ => True) (secondUnit cs) := by
  rw [secondUnit.eq_def]
  split
  · split
    · trivial
    · split
      · trivial
      · exact isShallow_of_ne (by simp)
  · trivial

theorem shallow_unicodeEscape (cs : List Char) :
    Ends Stop.IsShallow (fun _ => True) (unicodeEscape cs) := by
  rw [unicodeEscape]
  split
  · exact isShallow_of_ne (by simp)
  · split
    · exact isShallow_of_ne (by simp)
    · split
      · split
        · next hstop => exact (shallow_secondUnit _).of_error hstop
        · split <;> trivial
        · trivial
      · trivial

theorem shallow_stringChars (opened cs : List Char) :
    Ends Stop.IsShallow (fun _ => True) (stringChars opened cs) := by
  fun_induction stringChars opened cs with
  | case1 => exact isShallow_of_ne (by simp)
  | case2 => trivial
  | case3 => exact isShallow_of_ne (by simp)
  | case4 rest stop hstop => exact (shallow_unicodeEscape rest).of_error hstop
  | case5 rest p taken hescape ih => exact ih.map fun _ => id
  | case6 => exact isShallow_of_ne (by simp)
  | case7 e rest hu c hc ih => exact ih.map fun _ => id
  | case8 => exact isShallow_of_ne (by simp)
  | case9 c rest hquote hbackslash hc ih => exact ih.map fun _ => id

end Strings

/-! ## Numbers -/

section Numbers

theorem isPlain_of_isDigit {c : Char} (h : c.isDigit = true) : IsPlain c := by
  intro hmem
  simp only [List.mem_cons, List.not_mem_nil, or_false] at hmem
  obtain rfl | rfl | rfl | rfl | rfl := hmem <;> exact absurd h (by decide)

theorem isPlain_digitsFront (cs : List Char) : ∀ c ∈ digitsFront cs, IsPlain c :=
  fun _ hc => isPlain_of_isDigit (List.all_eq_true.1 List.all_takeWhile _ hc)

theorem isPlain_fraction (cs : List Char) : ∀ c ∈ fraction cs, IsPlain c := by
  rw [fraction.eq_def]
  split
  · split
    · exact List.forall_mem_nil _
    · exact List.forall_mem_cons.2 ⟨by decide, isPlain_digitsFront _⟩
  · exact List.forall_mem_nil _

theorem isPrefix_fraction (cs : List Char) : fraction cs <+: cs := by
  rw [fraction.eq_def]
  split
  · split
    · exact List.nil_prefix
    · exact List.prefix_cons_inj _ |>.2 (isPrefix_digitsFront _)
  · exact List.nil_prefix

theorem exponentSign_cases (cs : List Char) :
    exponentSign cs = [] ∨ ∃ c rest, cs = c :: rest ∧ exponentSign cs = [c] ∧ IsPlain c := by
  rw [exponentSign.eq_def]
  split
  · exact .inr ⟨_, _, rfl, rfl, by decide⟩
  · exact .inr ⟨_, _, rfl, rfl, by decide⟩
  · exact .inl rfl

theorem exponent_spec (cs : List Char) : exponent cs <+: cs ∧ ∀ c ∈ exponent cs, IsPlain c := by
  rw [exponent.eq_def]
  split
  · exact ⟨List.nil_prefix, List.forall_mem_nil _⟩
  · next c cs =>
    dsimp only
    split
    · next hletter =>
      have hc : IsPlain c := by obtain rfl | rfl := hletter <;> decide
      split
      · exact ⟨List.nil_prefix, List.forall_mem_nil _⟩
      · obtain hsign | ⟨sign, rest, rfl, hsign, hplain⟩ := exponentSign_cases cs
        · rw [hsign]
          exact ⟨(List.prefix_cons_inj _).2 (isPrefix_digitsFront _),
            List.forall_mem_cons.2 ⟨hc, isPlain_digitsFront _⟩⟩
        · rw [hsign]
          exact ⟨(List.prefix_cons_inj _).2 ((List.prefix_cons_inj _).2 (isPrefix_digitsFront _)),
            List.forall_mem_cons.2 ⟨hc, List.forall_mem_cons.2 ⟨hplain, isPlain_digitsFront _⟩⟩⟩
    · exact ⟨List.nil_prefix, List.forall_mem_nil _⟩

/-- A number has no brackets. -/
theorem deepest_of_number {v : Json} (h : number cs = .ok (v, left)) (now : Nat) :
    deepest false now left = deepest false now cs := by
  have hsign : deepest false now (cs.drop (if cs.head? = some '-' then ['-'] else []).length) =
      deepest false now cs := by
    refine deepest_drop_of_isPrefix ?_ ?_ now
    · split
      · next hhead =>
        obtain ⟨rest, rfl⟩ := List.head?_eq_some_iff.1 hhead
        exact List.prefix_append ['-'] rest
      · exact List.nil_prefix
    · split
      · exact List.forall_mem_singleton.2 (by decide)
      · exact List.forall_mem_nil _
  rw [← hsign]
  rw [number] at h
  generalize cs.drop (if cs.head? = some '-' then ['-'] else []).length = body at h ⊢
  have hrest : deepest false now (((body.drop (wholePart body).length).drop
      (fraction (body.drop (wholePart body).length)).length).drop
      (exponent ((body.drop (wholePart body).length).drop
        (fraction (body.drop (wholePart body).length)).length)).length) =
      deepest false now body := by
    rw [deepest_drop_of_isPrefix (exponent_spec _).1 (exponent_spec _).2,
      deepest_drop_of_isPrefix (isPrefix_fraction _) (isPlain_fraction _),
      deepest_drop_of_isPrefix (isPrefix_wholePart _)
        fun c hc => isPlain_of_isDigit (isDigit_wholePart _ c hc)]
  dsimp only at h
  split at h
  · cases h
  · split at h
    · split at h
      · cases h
      · obtain ⟨-, rfl⟩ := Prod.mk.inj (Except.ok.inj h)
        exact hrest
    · obtain ⟨-, rfl⟩ := Prod.mk.inj (Except.ok.inj h)
      exact hrest

theorem shallow_number (cs : List Char) :
    Ends Stop.IsShallow (fun _ => True) (number cs) := by
  rw [number]
  generalize cs.drop (if cs.head? = some '-' then ['-'] else []).length = body
  dsimp only
  split
  · exact isShallow_of_ne (by simp)
  · split
    · split
      · exact isShallow_of_ne (by simp)
      · trivial
    · trivial

theorem deepest_of_named {found : Json × List Char} (h : named? cs = some found) (now : Nat) :
    deepest false now found.2 = deepest false now cs := by
  obtain ⟨⟨name, v⟩, hmem, hv⟩ := List.exists_of_findSome?_eq_some h
  have hplain : ∀ m ∈ namedValues, m.1.toList.all (decide <| IsPlain ·) = true := by decide
  dsimp only at hv
  split at hv
  · next hprefix =>
    cases hv
    exact deepest_drop_of_isPrefix (List.isPrefixOf_iff_prefix.1 hprefix)
      (fun c hc => of_decide_eq_true (List.all_eq_true.1 (hplain _ hmem) c hc)) now
  · cases hv

end Numbers

/-! ## Values -/

section Values

variable [Machine]

/-- A complaint about depth is made only where more brackets are open at once than calls can be
nested. -/
def Stop.IsFor (deep : Nat) (stop : Stop) : Prop :=
  stop.reason = .tooDeep → Machine.brackets < deep

/-- What is read in `fuel` steps leaves the brackets as it found them, and gives up for them only
where they are nested too deep. -/
structure Balances (fuel : Nat) : Prop where
  value : ∀ (depth : Nat) (cs : List Char), Ends (Stop.IsFor (deepest false depth cs))
    (fun r => deepest false depth r.2 ≤ deepest false depth cs) (value fuel depth cs)
  members : ∀ (depth : Nat) (known : List (String × Json)) (cs : List Char),
    Ends (Stop.IsFor (deepest false (depth + 1) cs))
      (fun r => deepest false depth r.2 ≤ deepest false (depth + 1) cs)
      (members fuel (depth + 1) known cs)
  items : ∀ (depth : Nat) (cs : List Char), Ends (Stop.IsFor (deepest false (depth + 1) cs))
    (fun r => deepest false depth r.2 ≤ deepest false (depth + 1) cs) (items fuel (depth + 1) cs)

variable {fuel depth : Nat}

theorem Stop.IsShallow.isFor {stop : Stop} (h : stop.IsShallow) (deep : Nat) : stop.IsFor deep :=
  fun hdeep => absurd hdeep h

theorem Stop.IsFor.mono {stop : Stop} {deep deep' : Nat} (h : stop.IsFor deep)
    (hle : deep ≤ deep') : stop.IsFor deep' :=
  fun hdeep => Nat.lt_of_lt_of_le (h hdeep) hle

theorem isFor_of_ne {reason : Reason} {left : Nat} (h : reason ≠ .tooDeep) (deep : Nat) :
    Stop.IsFor deep ⟨reason, left⟩ :=
  (isShallow_of_ne h).isFor deep

theorem isFor_of_full {cs : List Char} (hfull : ¬depth < Machine.brackets) {c : Char}
    (hc : openBehind depth c = depth + 1) (hquote : c ≠ '"') (left : Nat) :
    Stop.IsFor (deepest false depth (c :: cs)) ⟨.tooDeep, left⟩ := by
  intro _
  rw [deepest_open hc hquote]
  exact Nat.lt_of_le_of_lt (Nat.le_of_not_lt hfull) (le_deepest false (depth + 1) cs)

theorem Balances.value_succ (ih : Balances fuel) (depth : Nat) (cs : List Char) :
    Ends (Stop.IsFor (deepest false depth cs))
      (fun r => deepest false depth r.2 ≤ deepest false depth cs)
      (Json.value (fuel + 1) depth cs) := by
  rw [Json.value.eq_def]
  dsimp only
  split
  · next rest =>
    have hquote : deepest true depth rest ≤ deepest false depth ('"' :: rest) :=
      Nat.le_max_right _ _
    cases hstring : stringChars ('"' :: rest) rest with
    | error stop => exact ((shallow_stringChars _ _).of_error hstring).isFor _
    | ok r =>
      rw [deepest_of_stringChars hstring] at hquote
      exact hquote
  · next rest =>
    split
    · rw [deepest_open rfl (by decide)]
      split
      · next left hgap =>
        rw [← deepest_skipGap (depth + 1) rest, hgap]
        exact deepest_close rfl (by decide)
      · rw [← deepest_skipGap (depth + 1) rest]
        exact (ih.members depth [] _).map fun _ => id
    · next hfull => exact isFor_of_full hfull rfl (by decide) _
  · next rest =>
    split
    · rw [deepest_open rfl (by decide)]
      split
      · next left hgap =>
        rw [← deepest_skipGap (depth + 1) rest, hgap]
        exact deepest_close rfl (by decide)
      · rw [← deepest_skipGap (depth + 1) rest]
        exact (ih.items depth _).map fun _ => id
    · next hfull => exact isFor_of_full hfull rfl (by decide) _
  · split
    · next found hfound => exact Nat.le_of_eq (deepest_of_named hfound depth)
    · cases hnumber : number cs with
      | error stop => exact ((shallow_number _).of_error hnumber).isFor _
      | ok r => exact Nat.le_of_eq (deepest_of_number hnumber depth)

theorem Balances.members_succ (ih : Balances fuel) (depth : Nat) (known : List (String × Json))
    (cs : List Char) :
    Ends (Stop.IsFor (deepest false (depth + 1) cs))
      (fun r => deepest false depth r.2 ≤ deepest false (depth + 1) cs)
      (Json.members (fuel + 1) (depth + 1) known cs) := by
  rw [Json.members.eq_def]
  dsimp only
  split
  · next rest =>
    have hquote : deepest true (depth + 1) rest ≤ deepest false (depth + 1) ('"' :: rest) :=
      Nat.le_max_right _ _
    split
    · next stop hstop => exact ((shallow_stringChars _ _).of_error hstop).isFor _
    · next name left hname =>
      rw [deepest_of_stringChars hname, ← deepest_skipGap] at hquote
      split
      · next inner hcolon =>
        rw [hcolon, deepest_cons_of_isPlain (by decide), ← deepest_skipGap] at hquote
        have hvalue := ih.value (depth + 1) (skipGap inner)
        split
        · next stop hstop => exact (hvalue.of_error hstop).mono hquote
        · next v left hv =>
          have hleft := Nat.le_trans (hvalue.of_ok hv) hquote
          rw [← deepest_skipGap] at hleft
          split
          · next rest hgap =>
            rw [hgap] at hleft
            exact Nat.le_trans (deepest_close rfl (by decide)) hleft
          · next rest hgap =>
            rw [hgap, deepest_cons_of_isPlain (by decide), ← deepest_skipGap] at hleft
            exact (ih.members depth _ _).imp (fun _ h => h.mono hleft)
              fun _ h => Nat.le_trans h hleft
          · exact isFor_of_ne (by simp) _
      · exact isFor_of_ne (by simp) _
  · exact isFor_of_ne (by simp) _

theorem Balances.items_succ (ih : Balances fuel) (depth : Nat) (cs : List Char) :
    Ends (Stop.IsFor (deepest false (depth + 1) cs))
      (fun r => deepest false depth r.2 ≤ deepest false (depth + 1) cs)
      (Json.items (fuel + 1) (depth + 1) cs) := by
  rw [Json.items.eq_def]
  dsimp only
  have hvalue := ih.value (depth + 1) cs
  split
  · next stop hstop => exact hvalue.of_error hstop
  · next v left hv =>
    have hleft := hvalue.of_ok hv
    rw [← deepest_skipGap] at hleft
    split
    · next rest hgap =>
      rw [hgap] at hleft
      exact Nat.le_trans (deepest_close rfl (by decide)) hleft
    · next rest hgap =>
      rw [hgap, deepest_cons_of_isPlain (by decide), ← deepest_skipGap] at hleft
      have hitems := (ih.items depth (skipGap rest)).imp (fun _ h => h.mono hleft)
        fun _ h => Nat.le_trans h hleft
      exact hitems.map fun _ => id
    · exact isFor_of_ne (by simp) _

theorem balances (fuel : Nat) : Balances fuel := by
  induction fuel with
  | zero =>
    refine ⟨fun _ _ => ?_, fun _ _ _ => ?_, fun _ _ => ?_⟩
    · rw [value.eq_def]
      exact isFor_of_ne (by simp) _
    · rw [members.eq_def]
      exact isFor_of_ne (by simp) _
    · rw [items.eq_def]
      exact isFor_of_ne (by simp) _
  | succ fuel ih => exact ⟨ih.value_succ, ih.members_succ, ih.items_succ⟩

/-- Reading a text gives up only where it is nested deeper than calls can be. -/
theorem lt_depth_of_tooDeep {s : String} {fault : Fault} (h : read s = .error fault)
    (hdeep : fault.reason = .tooDeep) : Machine.brackets < Json.depth s := by
  have hends : Ends (Stop.IsFor (Json.depth s)) (fun _ => True) (readChars s.toList) := by
    rw [readChars]
    split
    · exact isFor_of_ne (by simp) _
    · have hvalue := (balances (2 * s.toList.length + 2)).value 0 (skipGap s.toList)
      rw [deepest_skipGap] at hvalue
      split
      · next stop hstop => exact hvalue.of_error hstop
      · split
        · trivial
        · exact isFor_of_ne (by simp) _
  rw [read] at h
  split at h
  · next stop hstop =>
    cases h
    exact hends.of_error hstop hdeep
  · cases h

end Values

end RegisterMap.Json
