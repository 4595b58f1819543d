import RegisterMap.Proofs.Number.Decimal
import RegisterMap.Proofs.Text.Ascii

/-!
# Literals with a prefix

Behind a prefix the digits of its base are read for their value, however many they are. So a
hexadecimal text of a number is read as the number, unless it has a sign, which may not stand
behind a prefix.
-/

namespace RegisterMap.Number

open RegisterMap.Text

section Digits

variable {base : Nat} {c : Char}

/-- The digits of all bases are plain letters and digits. -/
theorem isAlphanum_of_isDigitOf (h : isDigitOf base c = true) : c.isAlphanum = true := by
  obtain ⟨v, hv, -⟩ := exists_digitValue?_eq h
  unfold digitValue? at hv
  split at hv
  · next hc =>
    have hdigit : c.isDigit = true :=
      Bool.and_eq_true_iff.2 ⟨decide_eq_true hc.1, decide_eq_true hc.2⟩
    exact Bool.or_eq_true_iff.2 (.inr hdigit)
  split at hv
  · next hc =>
    have hlower : c.isLower = true :=
      Bool.and_eq_true_iff.2 ⟨decide_eq_true hc.1, decide_eq_true hc.2⟩
    exact Bool.or_eq_true_iff.2 (.inl (Bool.or_eq_true_iff.2 (.inr hlower)))
  split at hv
  · next hc =>
    have hupper : c.isUpper = true := decide_eq_true hc
    exact Bool.or_eq_true_iff.2 (.inl (Bool.or_eq_true_iff.2 (.inl hupper)))
  · cases hv

theorem ne_underscore_of_isAlphanum (h : c.isAlphanum = true) : c ≠ '_' := by
  rintro rfl
  cases h

theorem plainChar_of_isAlphanum (h : c.isAlphanum = true) : plainChar c = c := by
  have hlt : c.val.toNat < 0x80 := lt_of_isAlphanum h
  exact if_pos (UInt32.lt_iff_toNat_lt.2 hlt)

end Digits

section Literals

variable {base : Nat} {letter : Char} {digits : List Char}

theorem splitDigits_of_isDigitOf (hbase : base ≠ 10)
    (hdigits : ∀ c ∈ digits, isDigitOf base c = true) (hne : digits ≠ []) :
    splitDigits base digits = .ok (digits, []) := by
  have hplain : ∀ c ∈ digits, c ≠ '_' := fun c hc =>
    ne_underscore_of_isAlphanum (isAlphanum_of_isDigitOf (hdigits c hc))
  have hpart : ∀ c ∈ digits, (isDigitOf base c || c == '_') = true := fun c hc => by
    rw [hdigits c hc, Bool.true_or]
  have hrun : digits.takeWhile (fun c => isDigitOf base c || c == '_') = digits :=
    List.takeWhile_eq_self_iff.2 hpart
  have hrest : digits.dropWhile (fun c => isDigitOf base c || c == '_') = [] :=
    List.dropWhile_eq_nil_iff.2 hpart
  have hfilter : digits.filter (· != '_') = digits :=
    List.filter_eq_self.2 fun c hc => bne_iff_ne.2 (hplain c hc)
  have hfit : underscoresFit digits = true :=
    underscoresFit_of_not_mem fun hmem => hplain _ hmem rfl
  have hhead : digits.head? ≠ some '_' := fun h => hplain _ (List.mem_of_mem_head? h) rfl
  rw [splitDigits, hrun, hfilter, hrest]
  simp [hhead, hfit, hne, hbase]

/-- Digits behind a prefix of their base are a literal of their value. -/
theorem readChars_of_prefix
    (hsplit : ∀ cs, splitPrefix ('0' :: letter :: cs) = (base, skipUnderscore cs))
    (hbase : base ≠ 10) (hdigits : ∀ c ∈ digits, isDigitOf base c = true) (hne : digits ≠ []) :
    readChars .prefixed ('0' :: letter :: digits) = .ok (digitsValue base 0 digits) := by
  have hspace : ('0' :: letter :: digits).dropWhile isSpace = '0' :: letter :: digits :=
    List.dropWhile_cons_of_neg (by decide)
  have hsign : splitSign ('0' :: letter :: digits) = (false, '0' :: letter :: digits) := by
    rfl
  have hskip : skipUnderscore digits = digits := by
    rw [skipUnderscore.eq_def]
    split
    · next cs =>
      have hword := isAlphanum_of_isDigitOf (hdigits '_' List.mem_cons_self)
      exact absurd rfl (ne_underscore_of_isAlphanum hword)
    · rfl
  rw [readChars, hspace, hsign]
  simp only [hsplit, hskip, splitDigits_of_isDigitOf hbase hdigits hne]
  simp [hbase]

end Literals

/-! ### How large numbers are -/

section Sizes

variable {rule : Notation} {base : Nat} {cs digits rest : List Char} {v : Int}

theorem length_splitSign_le (cs : List Char) : (splitSign cs).2.length ≤ cs.length := by
  rw [splitSign.eq_def]
  split
  · exact Nat.le_succ _
  · exact Nat.le_succ _
  · exact le_refl _

theorem length_skipUnderscore_le (cs : List Char) : (skipUnderscore cs).length ≤ cs.length := by
  rw [skipUnderscore.eq_def]
  split
  · exact Nat.le_succ _
  · exact le_refl _

theorem splitPrefix_le (cs : List Char) :
    (splitPrefix cs).1 ≤ 16 ∧ (splitPrefix cs).2.length ≤ cs.length := by
  rw [splitPrefix.eq_def]
  split
  · next c cs =>
    have hskip : (skipUnderscore cs).length ≤ ('0' :: c :: cs).length := by
      rw [List.length_cons, List.length_cons]
      have := length_skipUnderscore_le cs
      omega
    split_ifs
    · exact ⟨le_refl 16, hskip⟩
    · exact ⟨show 8 ≤ 16 by decide, hskip⟩
    · exact ⟨show 2 ≤ 16 by decide, hskip⟩
    · exact ⟨show 10 ≤ 16 by decide, le_refl _⟩
  · exact ⟨show 10 ≤ 16 by decide, le_refl _⟩

theorem of_splitDigits (h : splitDigits base cs = .ok (digits, rest)) :
    (∀ c ∈ digits, isDigitOf base c = true) ∧ digits.length ≤ cs.length := by
  simp only [splitDigits] at h
  split at h
  · cases h
  · split at h
    · cases h
    · split at h
      · cases h
      · cases h
        constructor
        · intro c hc
          obtain ⟨hrun, hword⟩ := List.mem_filter.1 hc
          have hpart := List.mem_takeWhile_imp hrun
          rcases Bool.or_eq_true_iff.1 hpart with hdigit | hscore
          · exact hdigit
          · exact absurd hscore (bne_iff_ne.1 hword ∘ eq_of_beq)
        · exact (List.length_filter_le _ _).trans (List.takeWhile_prefix _).length_le

theorem digitsValue_lt_of_splitDigits (h : splitDigits base digits = .ok (cs, rest))
    (hbase : base ≤ 16) {count : Nat} (hcount : digits.length ≤ count) :
    digitsValue base 0 cs < 16 ^ count := by
  obtain ⟨hall, hlength⟩ := of_splitDigits h
  calc digitsValue base 0 cs < (0 + 1) * base ^ cs.length := digitsValue_lt hall 0
    _ = base ^ cs.length := by omega
    _ ≤ 16 ^ cs.length := Nat.pow_le_pow_left hbase _
    _ ≤ 16 ^ count := Nat.pow_le_pow_right (by decide) (hlength.trans hcount)

/-- A number has no more hexadecimal digits than its literal has characters. -/
theorem natAbs_lt_of_readChars (h : readChars rule cs = .ok v) : v.natAbs < 16 ^ cs.length := by
  have hsign : (splitSign (cs.dropWhile isSpace)).2.length ≤ cs.length :=
    (length_splitSign_le _).trans (List.length_dropWhile_le _ _)
  have hstarts := splitPrefix_le (splitSign (cs.dropWhile isSpace)).2
  cases rule with
  | plain =>
    simp only [readChars] at h
    split at h
    · cases h
    · next digits rest hdigits =>
      have hvalue := digitsValue_lt_of_splitDigits hdigits (by decide) hsign
      split_ifs at h <;> cases h <;> omega
  | prefixed =>
    simp only [readChars] at h
    split at h
    · cases h
    · next digits rest hdigits =>
      have hvalue := digitsValue_lt_of_splitDigits hdigits hstarts.1 (hstarts.2.trans hsign)
      split_ifs at h <;> cases h <;> omega

theorem natAbs_lt_of_read {s : String} (h : read rule s = .ok v) : v.natAbs < 16 ^ s.length := by
  have hlt := natAbs_lt_of_readChars h
  rwa [List.length_map, String.length_toList] at hlt

end Sizes

section Hexadecimal

theorem isDigitOf_hexDigit {n : Nat} (h : n < 16) : isDigitOf 16 (hexDigit n) = true := by
  have hall : ∀ n < 16, isDigitOf 16 (hexDigit n) = true := by decide
  exact hall n h

theorem digitValue?_hexDigit {n : Nat} (h : n < 16) : digitValue? (hexDigit n) = some n := by
  have hall : ∀ n < 16, digitValue? (hexDigit n) = some n := by decide
  exact hall n h

theorem isDigitOf_hexDigitsBefore (n : Nat) {tail : List Char}
    (h : ∀ c ∈ tail, isDigitOf 16 c = true) :
    ∀ c ∈ hexDigitsBefore n tail, isDigitOf 16 c = true := by
  induction n, tail using hexDigitsBefore.induct with
  | case1 n tail hn =>
    rw [hexDigitsBefore, dif_pos hn]
    exact List.forall_mem_cons.2 ⟨isDigitOf_hexDigit hn, h⟩
  | case2 n tail hn ih =>
    rw [hexDigitsBefore, dif_neg hn]
    exact ih (List.forall_mem_cons.2 ⟨isDigitOf_hexDigit (Nat.mod_lt n (by decide)), h⟩)

/-- The digits of a number are read for the number, and what follows them after it. -/
theorem digitsValue_hexDigitsBefore (n : Nat) (tail : List Char) :
    digitsValue 16 0 (hexDigitsBefore n tail) = digitsValue 16 n tail := by
  induction n, tail using hexDigitsBefore.induct with
  | case1 n tail hn =>
    rw [hexDigitsBefore, dif_pos hn, digitsValue, List.foldl_cons, digitValue?_hexDigit hn]
    simp [digitsValue]
  | case2 n tail hn ih =>
    have hmod : n % 16 < 16 := Nat.mod_lt n (by decide)
    rw [hexDigitsBefore, dif_neg hn, ih, digitsValue, List.foldl_cons, digitValue?_hexDigit hmod,
      Option.getD_some, Nat.div_add_mod']
    rfl

theorem digitsValue_padZeros (base width : Nat) (digits : List Char) :
    digitsValue base 0 (padZeros width digits) = digitsValue base 0 digits := by
  unfold padZeros
  induction width - digits.length with
  | zero => rfl
  | succ k ih =>
    rw [List.replicate_succ, List.cons_append, digitsValue, List.foldl_cons, Nat.zero_mul]
    exact ih

theorem isDigitOf_padZeros (width : Nat) {digits : List Char}
    (h : ∀ c ∈ digits, isDigitOf 16 c = true) :
    ∀ c ∈ padZeros width digits, isDigitOf 16 c = true := by
  intro c hc
  rcases List.mem_append.1 hc with hc | hc
  · rw [List.eq_of_mem_replicate hc]
    decide
  · exact h c hc

theorem hexDigitsBefore_ne_nil (n : Nat) (tail : List Char) : hexDigitsBefore n tail ≠ [] := by
  induction n, tail using hexDigitsBefore.induct with
  | case1 n tail hn =>
    rw [hexDigitsBefore, dif_pos hn]
    exact List.cons_ne_nil _ _
  | case2 n tail hn ih =>
    rw [hexDigitsBefore, dif_neg hn]
    exact ih

theorem toList_prefixedHex (width : Nat) (v : Int) :
    (prefixedHex width v).toList = '0' :: 'x' :: hexChars width v := by
  have hfront : "0x".toList = ['0', 'x'] := rfl
  rw [prefixedHex, hex, String.toList_append, hfront, String.toList_ofList]
  rfl

/-- A hexadecimal text is read as the number that it was written for, if that is not negative. -/
theorem read_prefixedHex (width : Nat) (v : Int) :
    read .prefixed (prefixedHex width v) = if 0 ≤ v then .ok v else .error .malformed := by
  rw [read, toList_prefixedHex]
  cases v with
  | ofNat n =>
    have hdigits : ∀ c ∈ padZeros width (hexDigits n), isDigitOf 16 c = true :=
      isDigitOf_padZeros _ (isDigitOf_hexDigitsBefore n (fun c hc => absurd hc List.not_mem_nil))
    have hplain : ('0' :: 'x' :: padZeros width (hexDigits n)).map plainChar =
        '0' :: 'x' :: padZeros width (hexDigits n) := by
      refine (List.map_congr_left fun c hc => ?_).trans (List.map_id _)
      simp only [List.mem_cons] at hc
      rcases hc with rfl | rfl | hc
      · exact plainChar_of_isAlphanum (by decide)
      · exact plainChar_of_isAlphanum (by decide)
      · exact plainChar_of_isAlphanum (isAlphanum_of_isDigitOf (hdigits c hc))
    have hne : padZeros width (hexDigits n) ≠ [] :=
      List.append_ne_nil_of_right_ne_nil _ (hexDigitsBefore_ne_nil n [])
    rw [hexChars, hplain, readChars_of_prefix (fun _ => rfl) (by decide) hdigits hne,
      digitsValue_padZeros, hexDigits, digitsValue_hexDigitsBefore]
    exact (if_pos (Int.natCast_nonneg n)).symm
  | negSucc n =>
    rw [if_neg (Int.not_le.2 (Int.negSucc_lt_zero n))]
    rfl

end Hexadecimal

/-- A decimal text is read as the number that it was written for, if it is short enough. -/
theorem read_toString {n : Nat} (h : isShort n = true) : read .prefixed (toString n) = .ok n := by
  have hrepr : toString n = String.ofList (Nat.toDigits 10 n) := rfl
  have hloose := readLoose_of_short h
  have hplain : (Nat.toDigits 10 n).filter (· != '_') = Nat.toDigits 10 n :=
    List.filter_eq_self.2 fun c hc => bne_iff_ne.2
      (ne_of_isDigit (Nat.isDigit_of_mem_toDigits (by decide) (by decide) hc) (by decide))
  rwa [readLoose, String.toList_ofList, hplain, ← hrepr] at hloose

end RegisterMap.Number
