import Mathlib.Data.List.Basic
import RegisterMap.Number.Format
import RegisterMap.Proofs.Text.Ascii
import RegisterMap.Text.Identifier
import RegisterMap.Text.Utf8

/-!
# Clean texts

Texts without null characters and without halves that stand alone. They have bytes. Numbers are
written cleanly, and what is put together from clean texts is clean.
-/

namespace RegisterMap.Text

/-- A character that is not null and does not mark a half. -/
def isCleanChar (c : Char) : Bool :=
  c != '\x00' && c != halfMark

/-- Whether a text has only characters that can stand in a file of code. -/
def isClean (s : String) : Bool :=
  s.toList.all isCleanChar

theorem isClean_append (s t : String) : isClean (s ++ t) = (isClean s && isClean t) := by
  simp [isClean]

theorem isClean_ofList (cs : List Char) : isClean (String.ofList cs) = cs.all isCleanChar := by
  rw [isClean, String.toList_ofList]

theorem isClean_intercalate {separator : String} {texts : List String}
    (hs : isClean separator = true) (ht : ∀ s ∈ texts, isClean s = true) :
    isClean (separator.intercalate texts) = true := by
  induction texts with
  | nil => rfl
  | cons s texts ih =>
    cases texts with
    | nil => simpa using ht s (by simp)
    | cons t texts =>
      rw [String.intercalate_cons_cons, isClean_append, isClean_append, hs, ht s (by simp),
        ih fun u hu => ht u (List.mem_cons_of_mem _ hu)]
      rfl

theorem isClean_of_isAscii {s : String} (h : isAscii s = true) (hn : '\x00' ∉ s.toList) :
    isClean s = true := by
  refine List.all_eq_true.2 fun c hc => ?_
  have hlt := lt_of_isAscii h c hc
  have hnull : c ≠ '\x00' := fun h => hn (h ▸ hc)
  have hmark : c ≠ halfMark := by
    rintro rfl
    exact absurd hlt (by decide)
  simp [isCleanChar, hnull, hmark]

theorem points_of_all_ne {cs : List Char} (h : ∀ c ∈ cs, c ≠ halfMark) :
    points cs = cs.map .char := by
  induction cs with
  | nil => rfl
  | cons c cs ih =>
    rw [points.eq_def]
    simp only [if_neg (h c List.mem_cons_self), List.map_cons,
      ih fun d hd => h d (List.mem_cons_of_mem _ hd)]

theorem Utf8.firstFault_eq_none {isFault : Point → Bool} {position : Nat} {ps : List Point} :
    Utf8.firstFault isFault position ps = none ↔ ∀ p ∈ ps, isFault p = false := by
  induction ps generalizing position with
  | nil => simp [Utf8.firstFault]
  | cons p ps ih =>
    rw [Utf8.firstFault]
    cases h : isFault p <;> simp [h, ih]

theorem firstFault_chars (position : Nat) (cs : List Char) :
    Utf8.firstFault Point.isHalf position (cs.map .char) = none := by
  refine Utf8.firstFault_eq_none.2 fun p hp => ?_
  obtain ⟨c, -, rfl⟩ := List.mem_map.1 hp
  rfl

theorem exists_encode_of_isClean {s : String} (h : isClean s = true) :
    ∃ bytes, Utf8.encode s = .ok bytes := by
  have hne : ∀ c ∈ s.toList, c ≠ halfMark := by
    intro c hc
    have := List.all_eq_true.1 h c hc
    simp only [isCleanChar, Bool.and_eq_true, bne_iff_ne] at this
    exact this.2
  rw [Utf8.encode, pointsOf, points_of_all_ne hne, firstFault_chars]
  exact ⟨_, rfl⟩

theorem not_mem_of_isClean {s : String} (h : isClean s = true) : '\x00' ∉ s.toList := by
  intro hmem
  exact absurd (List.all_eq_true.1 h _ hmem) (by decide)

theorem not_mem_of_isIdentifier {d : Char} (hstart : isNameStart d = false)
    (hpart : isNamePart d = false) {n : String} (hn : isIdentifier n = true) : d ∉ n.toList := by
  unfold isIdentifier at hn
  split at hn
  · cases hn
  · next c rest hcs =>
    rw [hcs]
    rw [Bool.and_eq_true] at hn
    rintro (_ | ⟨_, hmem⟩)
    · rw [hstart] at hn
      exact Bool.false_ne_true hn.1
    · have hd := List.all_eq_true.1 hn.2 d hmem
      rw [hpart] at hd
      cases hd

theorem isClean_of_isIdentifier {s : String} (h : isIdentifier s = true) : isClean s = true := by
  refine List.all_eq_true.2 fun c hc => ?_
  have hnull : c ≠ '\x00' := by
    rintro rfl
    exact not_mem_of_isIdentifier (by decide) (by decide) h hc
  have hmark : c ≠ halfMark := by
    rintro rfl
    exact not_mem_of_isIdentifier (by decide +kernel) (by decide +kernel) h hc
  simp [isCleanChar, hnull, hmark]

theorem isClean_toString (n : Nat) : isClean (toString n) = true := by
  have hdigit : ∀ c : Char, c.isDigit = true → isCleanChar c = true := by
    intro c hc
    have hnull : c ≠ '\x00' := by
      rintro rfl
      exact absurd hc (by decide)
    have hmark : c ≠ halfMark := by
      rintro rfl
      exact absurd hc (by decide)
    simp [isCleanChar, hnull, hmark]
  have hrepr : toString n = String.ofList (Nat.toDigits 10 n) := rfl
  rw [hrepr, isClean_ofList, List.all_eq_true]
  exact fun c hc => hdigit c (Nat.isDigit_of_mem_toDigits (by decide) (by decide) hc)

theorem isCleanChar_hexDigit {n : Nat} (h : n < 16) : isCleanChar (Number.hexDigit n) = true := by
  have hall : ∀ n < 16, isCleanChar (Number.hexDigit n) = true := by decide
  exact hall n h

theorem all_hexDigitsBefore (n : Nat) (tail : List Char) (h : tail.all isCleanChar = true) :
    (Number.hexDigitsBefore n tail).all isCleanChar = true := by
  induction n, tail using Number.hexDigitsBefore.induct with
  | case1 n tail hn =>
    rw [Number.hexDigitsBefore, dif_pos hn, List.all_cons, isCleanChar_hexDigit hn, h]
    rfl
  | case2 n tail hn ih =>
    rw [Number.hexDigitsBefore, dif_neg hn]
    refine ih ?_
    rw [List.all_cons, isCleanChar_hexDigit (Nat.mod_lt _ (by decide)), h]
    rfl

theorem all_padZeros {width : Nat} {digits : List Char} (h : digits.all isCleanChar = true) :
    (Number.padZeros width digits).all isCleanChar = true := by
  have hzero : isCleanChar '0' = true := by decide
  rw [Number.padZeros, List.all_append, h, Bool.and_true, List.all_eq_true]
  intro c hc
  rw [List.eq_of_mem_replicate hc, hzero]

theorem all_hexChars (width : Nat) (v : Int) :
    (Number.hexChars width v).all isCleanChar = true := by
  have hsign : isCleanChar '-' = true := by decide
  have hdigits : ∀ n, (Number.hexDigits n).all isCleanChar = true := fun n =>
    all_hexDigitsBefore n [] rfl
  cases v with
  | ofNat n => exact all_padZeros (hdigits n)
  | negSucc n =>
    rw [Number.hexChars, List.all_cons, hsign, all_padZeros (hdigits _), Bool.and_true]

theorem isClean_prefixedHex (width : Nat) (v : Int) :
    isClean (Number.prefixedHex width v) = true := by
  have hhex : isClean (Number.hex width v) = true := by
    rw [Number.hex, isClean_ofList, all_hexChars]
  rw [Number.prefixedHex, isClean_append, hhex]
  rfl

end RegisterMap.Text
