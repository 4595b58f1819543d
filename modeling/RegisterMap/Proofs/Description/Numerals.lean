import Mathlib.Data.Nat.Digits.Defs
import RegisterMap.Proofs.Description.Pieces

/-!
# The numbers of literals

An integer literal denotes the number that its digits make in its base, with underscores left out.
Main statement: the lexer reads a literal as the number that it denotes, and reads no other.
-/

namespace RegisterMap

open Text

namespace Number

section Digits

variable {c : Char} {cs : List Char} {v : Nat}

/-- Digits, the first of them first, make a number in a base. -/
theorem digitsValue_eq_ofDigits {vs : List Nat} (h : cs.map digitValue? = vs.map some)
    (base : Nat) : digitsValue base 0 cs = Nat.ofDigits base vs.reverse := by
  have hvalues : digitsValue base 0 cs =
      (cs.map digitValue?).foldl (fun n o => n * base + o.getD 0) 0 := by
    rw [digitsValue, List.foldl_map]
  calc digitsValue base 0 cs
      = (vs.map some).foldl (fun n o => n * base + o.getD 0) 0 := by rw [hvalues, h]
    _ = vs.foldl (fun n v => v + base * n) 0 := by
      simp only [List.foldl_map, Option.getD_some, Nat.mul_comm, Nat.add_comm]
    _ = Nat.ofDigits base vs.reverse := by
      rw [Nat.ofDigits_eq_foldr, List.foldr_reverse]
      rfl

/-- No decimal digit is white space. -/
theorem isBlank_of_decimalValue? (hc : ¬c.val < 0x80) (h : decimalValue? c = some v) :
    isBlank c = false := by
  have hapart : ∀ z ∈ zeros, ∀ r ∈ blankRanges, r.2 < z ∨ z + 10 ≤ r.1 := by decide +kernel
  rw [decimalValue?, if_neg hc] at h
  obtain ⟨z, hz, -⟩ := Option.map_eq_some_iff.1 h
  have hrange := List.find?_some hz
  simp only [Bool.and_eq_true, decide_eq_true_eq] at hrange
  refine eq_false_of_ne_true fun hblank => ?_
  obtain ⟨r, hr, hlow, hhigh⟩ := Ranges.has_iff.1 hblank
  have := hapart z (List.mem_of_find?_eq_some hz) r hr
  omega

/-- Literals see the decimal digits of all scripts as the plain ones. -/
theorem plainChar_of_decimalValue? (h : decimalValue? c = some v) :
    v < 10 ∧ plainChar c = v.digitChar := by
  have hplain : ∀ v < 10, Char.ofNat (48 + v) = v.digitChar := by decide
  by_cases hc : c.val < 0x80
  · rw [decimalValue?, if_pos hc] at h
    split at h
    · next hdigit =>
      cases h
      obtain ⟨hlow, hhigh⟩ := toNat_of_isDigit hdigit
      have hv : c.toNat - 48 < 10 := by omega
      refine ⟨hv, ?_⟩
      rw [plainChar_of_isDigit hdigit, ← hplain _ hv, Nat.add_sub_cancel' hlow, Char.ofNat_toNat]
    · cases h
  · have hv := Lexer.decimalValue?_lt h hc
    rw [plainChar, if_neg hc, if_neg (by simp [isBlank_of_decimalValue? hc h]), h]
    exact ⟨hv, hplain v hv⟩

end Digits

end Number

namespace Lexer

open Number

/-- The numbers that literals denote. In decimal no zero leads other digits, unless all are zeros,
and there are not too many of them. -/
inductive Denotes : List Char → Nat → Prop where
  | decimal {cs : List Char} {n : Nat} (h : IsDigits cs)
      (hcount : (cs.filterMap decimalValue?).length ≤ digitLimit)
      (hn : n = Nat.ofDigits 10 (cs.filterMap decimalValue?).reverse)
      (hzero : (cs.filterMap decimalValue?).head? = some 0 → n = 0) : Denotes cs n
  | prefixed {base : Nat} {letter : Char} {cs : List Char} {n : Nat}
      (hbase : baseOf? letter = some base) (h : ∀ d ∈ cs, isBasePart base d = true)
      (hne : cs.filterMap digitValue? ≠ [])
      (hn : n = Nat.ofDigits base (cs.filterMap digitValue?).reverse) :
      Denotes ('0' :: letter :: cs) n

section Literals

variable {cs : List Char} {base : Nat} {v : Int}

theorem map_plainChar_digits (h : ∀ c ∈ cs, isDigitPart c = true) :
    (cs.filter (· != '_')).map plainChar = (cs.filterMap decimalValue?).map Nat.digitChar := by
  induction cs with
  | nil => rfl
  | cons c cs ih =>
    obtain ⟨hc, hcs⟩ := List.forall_mem_cons.1 h
    by_cases hunder : c = '_'
    · subst hunder
      exact ih hcs
    · have hdecimal : isDecimal c = true :=
        (Bool.or_eq_true_iff.1 hc).resolve_right fun h => hunder (eq_of_beq h)
      obtain ⟨w, hw⟩ := Option.isSome_iff_exists.1 hdecimal
      rw [List.filter_cons_of_pos (p := (· != '_')) (bne_iff_ne.2 hunder), List.map_cons,
        List.filterMap_cons_some hw, List.map_cons, ih hcs, (plainChar_of_decimalValue? hw).2]

theorem lt_of_mem_digits {w : Nat} (h : w ∈ cs.filterMap decimalValue?) : w < 10 := by
  obtain ⟨c, -, hc⟩ := List.mem_filterMap.1 h
  exact (plainChar_of_decimalValue? hc).1

theorem map_digitValue?_digits (h : ∀ c ∈ cs, isBasePart base c = true) :
    (cs.filter (· != '_')).map digitValue? = (cs.filterMap digitValue?).map some := by
  induction cs with
  | nil => rfl
  | cons c cs ih =>
    obtain ⟨hc, hcs⟩ := List.forall_mem_cons.1 h
    by_cases hunder : c = '_'
    · subst hunder
      exact ih hcs
    · have hdigit : isDigitOf base c = true :=
        (Bool.or_eq_true_iff.1 hc).resolve_right fun h => hunder (eq_of_beq h)
      obtain ⟨w, hw, -⟩ := exists_digitValue?_eq hdigit
      rw [List.filter_cons_of_pos (p := (· != '_')) (bne_iff_ne.2 hunder), List.map_cons,
        List.filterMap_cons_some hw, List.map_cons, ih hcs, hw]

theorem IsDigits.isDigitPart (h : IsDigits cs) : ∀ d ∈ cs, isDigitPart d = true := by
  obtain ⟨c, more, rfl, hc, hmore⟩ := h
  exact List.forall_mem_cons.2 ⟨isDigitPart_of_isDecimal hc, hmore⟩

theorem not_isDigits_of_baseOf? {letter : Char} (hbase : baseOf? letter = some base)
    (cs : List Char) : ¬IsDigits ('0' :: letter :: cs) := by
  intro h
  have hpart := h.isDigitPart letter (List.mem_cons_of_mem _ List.mem_cons_self)
  cases (isDigitPart_of_baseOf? hbase).symm.trans hpart

theorem exists_digits (h : IsDigits cs) :
    ∃ vs : List Nat, cs.filterMap decimalValue? = vs ∧ vs ≠ [] ∧ ∀ w ∈ vs, w < 10 := by
  refine ⟨_, rfl, ?_, fun w hw => lt_of_mem_digits hw⟩
  obtain ⟨c, more, rfl, hc, -⟩ := h
  obtain ⟨w, hw⟩ := Option.isSome_iff_exists.1 hc
  rw [List.filterMap_cons_some hw]
  exact List.cons_ne_nil _ _

/-- The plain digits of numbers below ten are a literal unless there are too many, or a zero leads
others. -/
theorem readChars_digitChar {vs : List Nat} (hne : vs ≠ []) (hlt : ∀ w ∈ vs, w < 10) :
    readChars .prefixed (vs.map Nat.digitChar) =
      if digitLimit < vs.length then .error (.tooLong vs.length)
      else if vs.head? = some 0 ∧ Nat.ofDigits 10 vs.reverse ≠ 0 then .error .malformed
      else .ok (Nat.ofDigits 10 vs.reverse : Nat) := by
  have hchar : ∀ w < 10, w.digitChar.isDigit = true ∧ digitValue? w.digitChar = some w ∧
      (w.digitChar = '0' ↔ w = 0) := by decide
  have hdigits : ∀ c ∈ vs.map Nat.digitChar, c.isDigit = true := by
    intro c hc
    obtain ⟨w, hw, rfl⟩ := List.mem_map.1 hc
    exact (hchar w (hlt w hw)).1
  have hvalues : (vs.map Nat.digitChar).map digitValue? = vs.map some := by
    rw [List.map_map]
    exact List.map_congr_left fun w hw => (hchar w (hlt w hw)).2.1
  have hhead : (vs.map Nat.digitChar).head? = some '0' ↔ vs.head? = some 0 := by
    cases vs with
    | nil => exact absurd rfl hne
    | cons w ws =>
      simp [(hchar w (hlt w List.mem_cons_self)).2.2]
  rw [readChars_of_isDigit hdigits (mt List.map_eq_nil_iff.1 hne),
    digitsValue_eq_ofDigits hvalues, List.length_map]
  simp only [hhead]

theorem readLoose_of_isDigits (h : IsDigits cs) :
    readLoose (String.ofList cs) = .ok v ↔ ∃ n : Nat, v = n ∧ Denotes cs n := by
  obtain ⟨vs, hvs, hne, hlt⟩ := exists_digits h
  rw [readLoose, Number.read, String.toList_ofList, String.toList_ofList,
    map_plainChar_digits h.isDigitPart, hvs, readChars_digitChar hne hlt]
  constructor
  · intro hread
    split_ifs at hread with hlong hlead
    cases hread
    refine ⟨_, rfl, .decimal h (hvs ▸ Nat.le_of_not_lt hlong) (by rw [hvs]) fun hzero => ?_⟩
    exact not_not.1 fun hvalue => hlead ⟨hvs ▸ hzero, hvalue⟩
  · rintro ⟨n, rfl, hn⟩
    cases hn with
    | decimal _ hcount hvalue hzero =>
      rw [hvs] at hcount hvalue hzero
      subst hvalue
      rw [if_neg (Nat.not_lt.2 hcount), if_neg fun hlead => hlead.2 (hzero hlead.1)]
    | prefixed hbase => exact absurd h (not_isDigits_of_baseOf? hbase _)

theorem denotes_prefix_iff {letter : Char} (hbase : baseOf? letter = some base)
    (h : ∀ d ∈ cs, isBasePart base d = true) {n : Nat} :
    Denotes ('0' :: letter :: cs) n ↔ cs.filterMap digitValue? ≠ [] ∧
      n = Nat.ofDigits base (cs.filterMap digitValue?).reverse := by
  constructor
  · intro hn
    cases hn with
    | decimal hdigits => exact absurd hdigits (not_isDigits_of_baseOf? hbase _)
    | prefixed hbase' _ hne hvalue =>
      obtain rfl := Option.some.inj (hbase.symm.trans hbase')
      exact ⟨hne, hvalue⟩
  · rintro ⟨hne, hvalue⟩
    exact .prefixed hbase h hne hvalue

/-- A prefix without digits is no literal. -/
theorem readLoose_prefix_alone {letter : Char} (hbase : baseOf? letter = some base)
    (h : cs.filter (· != '_') = []) :
    readLoose (String.ofList ('0' :: letter :: cs)) = .error .malformed := by
  obtain ⟨hletter, -, -, hsplit⟩ := baseOf?_eq_some hbase
  have hfilter : ('0' :: letter :: cs).filter (· != '_') = ['0', letter] := by
    simp [ne_underscore_of_isAlphanum hletter, h]
  have hplain : ['0', letter].map plainChar = ['0', letter] := by
    simp [plainChar_of_isAlphanum hletter, plainChar_of_isDigit]
  have hspace : ['0', letter].dropWhile isSpace = ['0', letter] :=
    List.dropWhile_cons_of_neg (by decide)
  have hsign : splitSign ['0', letter] = (false, ['0', letter]) := rfl
  have hnone : splitDigits base [] = .error .malformed := by
    simp [splitDigits, underscoresFit]
  rw [readLoose, Number.read, String.toList_ofList, String.toList_ofList, hfilter, hplain,
    readChars, hspace, hsign]
  simp only [hsplit, skipUnderscore, hnone]

theorem readLoose_of_prefix {letter : Char} (hbase : baseOf? letter = some base)
    (h : ∀ d ∈ cs, isBasePart base d = true) :
    readLoose (String.ofList ('0' :: letter :: cs)) = .ok v ↔
      ∃ n : Nat, v = n ∧ Denotes ('0' :: letter :: cs) n := by
  have hvalues := map_digitValue?_digits h
  have hnone : cs.filter (· != '_') = [] ↔ cs.filterMap digitValue? = [] := by
    rw [← List.map_eq_nil_iff (f := digitValue?), hvalues, List.map_eq_nil_iff]
  simp only [denotes_prefix_iff hbase h]
  by_cases hne : cs.filterMap digitValue? = []
  · rw [readLoose_prefix_alone hbase (hnone.2 hne)]
    exact ⟨nofun, fun ⟨_, _, h, _⟩ => absurd hne h⟩
  · rw [readLoose_prefixed hbase h (mt hnone.1 hne), digitsValue_eq_ofDigits hvalues]
    constructor
    · rintro ⟨⟩
      exact ⟨_, rfl, hne, rfl⟩
    · rintro ⟨n, rfl, -, rfl⟩
      rfl

/-- A literal is read as the number that it denotes. -/
theorem readLoose_eq_ok_iff (h : Spells .integer cs) :
    readLoose (String.ofList cs) = .ok v ↔ ∃ n : Nat, v = n ∧ Denotes cs n := by
  cases h with
  | decimal h => exact readLoose_of_isDigits h
  | prefixed hbase _ h => exact readLoose_of_prefix hbase h

end Literals

end Lexer

end RegisterMap
