import Mathlib.Algebra.Group.Nat.Defs
import Mathlib.Data.List.TakeWhile
import RegisterMap.Number.Literal

/-!
# Decimal literals

The decimal digits of a number are a literal of it, as long as they are not too many.
-/

namespace RegisterMap.Number

open RegisterMap.Text

section Digits

variable {c : Char}

theorem toNat_of_isDigit (h : c.isDigit = true) : 48 ≤ c.toNat ∧ c.toNat ≤ 57 := by
  simp only [Char.isDigit, Bool.and_eq_true, decide_eq_true_eq, ge_iff_le,
    UInt32.le_iff_toNat_le] at h
  exact h

theorem lt_of_isDigit (h : c.isDigit = true) : c.val < 0x80 :=
  UInt32.lt_iff_toNat_lt.2 (Nat.lt_of_le_of_lt (toNat_of_isDigit h).2 (by decide))

theorem plainChar_of_isDigit (h : c.isDigit = true) : plainChar c = c :=
  if_pos (lt_of_isDigit h)

theorem isDecimal_of_isDigit (h : c.isDigit = true) : isDecimal c = true := by
  rw [isDecimal, decimalValue?, if_pos (lt_of_isDigit h), if_pos h]
  rfl

theorem digitValue?_of_isDigit (h : c.isDigit = true) :
    digitValue? c = some (c.toNat - '0'.toNat) := by
  simp only [Char.isDigit, Bool.and_eq_true, decide_eq_true_eq] at h
  exact if_pos h

theorem isDigitOf_of_isDigit (h : c.isDigit = true) : isDigitOf 10 c = true := by
  obtain ⟨hlow, hhigh⟩ := toNat_of_isDigit h
  have hzero : '0'.toNat = 48 := rfl
  rw [isDigitOf, digitValue?_of_isDigit h]
  exact decide_eq_true (by omega)

theorem exists_digitValue?_eq {base : Nat} (h : isDigitOf base c = true) :
    ∃ v, digitValue? c = some v ∧ v < base := by
  unfold isDigitOf at h
  split at h
  · next v hv => exact ⟨v, hv, by simpa using h⟩
  · cases h

/-- A digit is no character that is no digit. -/
theorem ne_of_isDigit (h : c.isDigit = true) {d : Char} (hd : d.isDigit = false) : c ≠ d := by
  rintro rfl
  cases h.symm.trans hd

theorem isSpace_of_isDigit (h : c.isDigit = true) : isSpace c = false := by
  obtain ⟨hlow, -⟩ := toNat_of_isDigit h
  have hne : c ≠ ' ' := ne_of_isDigit h (by decide)
  have hhigh : ¬c.toNat ≤ 13 := by omega
  simp [isSpace, hne, hhigh]

end Digits

section Literals

variable {cs : List Char}

theorem underscoresFit_of_not_mem (h : '_' ∉ cs) : underscoresFit cs = true := by
  induction cs with
  | nil => rfl
  | cons c cs ih =>
    obtain ⟨hc, hcs⟩ := not_or.1 (mt List.mem_cons.2 h)
    rw [underscoresFit.eq_4 c cs (fun hc' _ => hc hc'.symm) fun _ hc' _ => hc hc'.symm]
    exact ih hcs

theorem digitsValue_eq (h : ∀ c ∈ cs, c.isDigit = true) (n : Nat) :
    digitsValue 10 n cs = Nat.ofDigitChars 10 cs n := by
  induction cs generalizing n with
  | nil => rfl
  | cons c cs ih =>
    rw [Nat.ofDigitChars_cons, ← ih fun d hd => h d (List.mem_cons_of_mem c hd), Nat.mul_comm]
    rw [digitsValue, List.foldl_cons, digitValue?_of_isDigit (h c List.mem_cons_self)]
    rfl

/-- Digits make a number below the power of their base that their count gives. -/
theorem digitsValue_lt {base : Nat} (h : ∀ c ∈ cs, isDigitOf base c = true) (n : Nat) :
    digitsValue base n cs < (n + 1) * base ^ cs.length := by
  induction cs generalizing n with
  | nil => simp [digitsValue]
  | cons c cs ih =>
    obtain ⟨v, hv, hlt⟩ := exists_digitValue?_eq (h c List.mem_cons_self)
    have hrest := ih (fun d hd => h d (List.mem_cons_of_mem c hd)) (n * base + v)
    have hstep : digitsValue base n (c :: cs) = digitsValue base (n * base + v) cs := by
      rw [digitsValue, List.foldl_cons, hv]
      rfl
    have hvalue : n * base + v + 1 ≤ (n + 1) * base := by
      rw [Nat.succ_mul]
      omega
    calc digitsValue base n (c :: cs)
        < (n * base + v + 1) * base ^ cs.length := hstep ▸ hrest
      _ ≤ ((n + 1) * base) * base ^ cs.length := Nat.mul_le_mul_right _ hvalue
      _ = (n + 1) * base ^ (c :: cs).length := by
        rw [List.length_cons, Nat.pow_succ', Nat.mul_assoc]

theorem splitPrefix_of_isDigit (h : ∀ c ∈ cs, c.isDigit = true) : splitPrefix cs = (10, cs) := by
  rw [splitPrefix.eq_def]
  split
  · next c rest =>
    have hne : ∀ {d : Char}, d.isDigit = false → c ≠ d := ne_of_isDigit (h c (by simp))
    rw [if_neg (not_or.2 ⟨hne (by decide), hne (by decide)⟩),
      if_neg (not_or.2 ⟨hne (by decide), hne (by decide)⟩),
      if_neg (not_or.2 ⟨hne (by decide), hne (by decide)⟩)]
  · rfl

theorem splitDigits_of_isDigit (h : ∀ c ∈ cs, c.isDigit = true) (hne : cs ≠ []) :
    splitDigits 10 cs =
      if digitLimit < cs.length then .error (.tooLong cs.length) else .ok (cs, []) := by
  have hplain : ∀ c ∈ cs, c ≠ '_' := fun c hc => ne_of_isDigit (h c hc) (by decide)
  have hpart : ∀ c ∈ cs, (isDigitOf 10 c || c == '_') = true := fun c hc => by
    rw [isDigitOf_of_isDigit (h c hc), Bool.true_or]
  have hrun : cs.takeWhile (fun c => isDigitOf 10 c || c == '_') = cs :=
    List.takeWhile_eq_self_iff.2 hpart
  have hrest : cs.dropWhile (fun c => isDigitOf 10 c || c == '_') = [] :=
    List.dropWhile_eq_nil_iff.2 hpart
  have hdigits : cs.filter (· != '_') = cs :=
    List.filter_eq_self.2 fun c hc => bne_iff_ne.2 (hplain c hc)
  have hfit : underscoresFit cs = true := underscoresFit_of_not_mem fun hmem => hplain _ hmem rfl
  have hhead : cs.head? ≠ some '_' := fun hhead => hplain _ (List.mem_of_mem_head? hhead) rfl
  rw [splitDigits, hrun, hdigits, hrest]
  simp [hhead, hfit, hne]

/-- Digits are a literal unless there are too many, or a zero leads others. -/
theorem readChars_of_isDigit (h : ∀ c ∈ cs, c.isDigit = true) (hne : cs ≠ []) :
    readChars .prefixed cs =
      if digitLimit < cs.length then .error (.tooLong cs.length)
      else if cs.head? = some '0' ∧ digitsValue 10 0 cs ≠ 0 then .error .malformed
      else .ok (digitsValue 10 0 cs) := by
  have hspace : cs.dropWhile isSpace = cs := by
    cases cs with
    | nil => rfl
    | cons c cs =>
      exact List.dropWhile_cons_of_neg (by simp [isSpace_of_isDigit (h c List.mem_cons_self)])
  have hsign : splitSign cs = (false, cs) := by
    rw [splitSign.eq_def]
    split
    · exact absurd rfl (ne_of_isDigit (h _ List.mem_cons_self) (by decide))
    · exact absurd rfl (ne_of_isDigit (h _ List.mem_cons_self) (by decide))
    · rfl
  rw [readChars, hspace, hsign]
  simp only [splitPrefix_of_isDigit h, splitDigits_of_isDigit h hne]
  by_cases hlong : digitLimit < cs.length
  · rw [if_pos hlong, if_pos hlong]
  · rw [if_neg hlong, if_neg hlong]
    by_cases hlead : cs.head? = some '0' ∧ digitsValue 10 0 cs ≠ 0
    · simp [hlead]
    · simp only [true_and, if_neg hlead]
      rfl

end Literals

/-- The digits of a number other than zero do not start with a zero. -/
theorem head_toDigits {n : Nat} (hn : 0 < n) : (Nat.toDigits 10 n).head? ≠ some '0' := by
  induction n using Nat.strongRecOn with
  | ind n ih =>
    rw [Nat.toDigits_eq_if (by decide)]
    split
    · next hlt =>
      have hdigit : ∀ n < 10, 0 < n → n.digitChar ≠ '0' := by decide
      simpa using hdigit n hlt hn
    · have hhead := ih (n / 10) (by omega) (by omega)
      cases hfirst : (Nat.toDigits 10 (n / 10)).head? with
      | none => exact absurd (List.head?_eq_none_iff.1 hfirst) Nat.toDigits_ne_nil
      | some c =>
        rw [List.head?_append, hfirst]
        rwa [hfirst] at hhead

theorem isShort_natCast (n : Nat) :
    isShort n = true ↔ (Nat.toDigits 10 n).length ≤ digitLimit := by
  have hlength : ∀ k, 0 < k → ((n : Int).natAbs < Nat.pow 10 k ↔ (Nat.toDigits 10 n).length ≤ k) :=
    fun k hk => (Nat.length_toDigits_le_iff (by decide) hk).symm
  exact isShort_iff.trans (hlength digitLimit (by decide))

theorem readLoose_toDigits (n : Nat) :
    readLoose (String.ofList (Nat.toDigits 10 n)) =
      if digitLimit < (Nat.toDigits 10 n).length then
        .error (.tooLong (Nat.toDigits 10 n).length)
      else .ok n := by
  have hdigits : ∀ c ∈ Nat.toDigits 10 n, c.isDigit = true := fun c hc =>
    Nat.isDigit_of_mem_toDigits (by decide) (by decide) hc
  have hvalue : Nat.ofDigitChars 10 (Nat.toDigits 10 n) 0 = n :=
    Nat.ofDigitChars_toDigits (by decide) (by decide)
  have hfilter : (Nat.toDigits 10 n).filter (· != '_') = Nat.toDigits 10 n :=
    List.filter_eq_self.2 fun c hc => bne_iff_ne.2 (ne_of_isDigit (hdigits c hc) (by decide))
  have hplain : (Nat.toDigits 10 n).map plainChar = Nat.toDigits 10 n :=
    (List.map_congr_left fun c hc => plainChar_of_isDigit (hdigits c hc)).trans (List.map_id _)
  have hlead : ¬((Nat.toDigits 10 n).head? = some '0' ∧ n ≠ 0) := fun ⟨hhead, hn⟩ =>
    head_toDigits (Nat.pos_of_ne_zero hn) hhead
  rw [readLoose, Number.read, String.toList_ofList, String.toList_ofList, hfilter, hplain,
    readChars_of_isDigit hdigits Nat.toDigits_ne_nil, digitsValue_eq hdigits, hvalue, if_neg hlead]

/-- The decimal digits of a number are read as the number when they are few enough. -/
theorem readLoose_of_short {n : Nat} (h : isShort n = true) :
    readLoose (String.ofList (Nat.toDigits 10 n)) = .ok n := by
  rw [readLoose_toDigits]
  exact if_neg (Nat.not_lt.2 ((isShort_natCast n).1 h))

theorem readLoose_of_long {n : Nat} (h : isShort n = false) :
    ∃ fault, readLoose (String.ofList (Nat.toDigits 10 n)) = .error fault := by
  rw [readLoose_toDigits]
  refine ⟨_, if_pos (Nat.lt_of_not_le fun hle => ?_)⟩
  cases h.symm.trans ((isShort_natCast n).2 hle)

end RegisterMap.Number
