import Mathlib.Data.List.Basic
import RegisterMap.Text.Canonical
import RegisterMap.Text.Case

/-!
# Plain letters

Texts of the first 128 characters. They are their own canonical form, and changing their case
leaves them such texts.
-/

namespace RegisterMap.Text

/-- What is so of the characters below a bound one by one is so of each. -/
theorem of_forall_lt {b : Nat} (P : Char → Prop) (h : ∀ n < b, P (Char.ofNat n)) {c : Char}
    (hc : c.toNat < b) : P c := by
  have hp := h c.toNat hc
  rwa [Char.ofNat_toNat] at hp

theorem lt_of_isAlphanum {c : Char} (h : c.isAlphanum = true) : c.toNat < 0x80 := by
  have hlast : ∀ last : Char, last.toNat < 0x80 → c.val ≤ last.val → c.toNat < 0x80 :=
    fun _ hlt hle => Nat.lt_of_le_of_lt (UInt32.le_iff_toNat_le.1 hle) hlt
  obtain h | h := Bool.or_eq_true_iff.1 h
  · obtain h | h := Bool.or_eq_true_iff.1 h
    · exact hlast 'Z' (by decide) (of_decide_eq_true h).2
    · exact hlast 'z' (by decide) (of_decide_eq_true (Bool.and_eq_true_iff.1 h).2)
  · exact hlast '9' (by decide) (of_decide_eq_true (Bool.and_eq_true_iff.1 h).2)

/-- Whether a text has only characters below 128. -/
def isAscii (s : String) : Bool :=
  s.toList.all (·.toNat < 0x80)

theorem canonical_of_isAscii {s : String} (h : isAscii s = true) : canonical s = s :=
  if_pos h

theorem isAscii_append (s t : String) : isAscii (s ++ t) = (isAscii s && isAscii t) := by
  simp [isAscii]

theorem toNat_toUpper_lt {c : Char} (h : c.toNat < 0x80) : c.toUpper.toNat < 0x80 :=
  of_forall_lt (fun c => c.toUpper.toNat < 0x80) (by decide) h

theorem toNat_toLower_lt {c : Char} (h : c.toNat < 0x80) : c.toLower.toNat < 0x80 :=
  of_forall_lt (fun c => c.toLower.toNat < 0x80) (by decide) h

theorem upperChar_of_lt {c : Char} (h : c.toNat < 0x80) : upperChar c = [c.toUpper] :=
  if_pos h

theorem lowerChar_of_lt {c : Char} (h : c.toNat < 0x80) : lowerChar c = [c.toLower] :=
  if_pos h

theorem lt_of_isAscii {s : String} (h : isAscii s = true) : ∀ c ∈ s.toList, c.toNat < 0x80 := by
  simpa [isAscii] using h

theorem toList_upper {s : String} (h : isAscii s = true) :
    (upper s).toList = s.toList.map Char.toUpper := by
  rw [upper, String.toList_ofList, List.map_eq_flatMap]
  exact List.flatMap_congr fun c hc => upperChar_of_lt (lt_of_isAscii h c hc)

theorem lowerFrom_of_lt (before cs : List Char) (h : ∀ c ∈ cs, c.toNat < 0x80) :
    lowerFrom before cs = cs.map Char.toLower := by
  induction cs generalizing before with
  | nil => rfl
  | cons c cs ih =>
    have hc := h c List.mem_cons_self
    have hs : c ≠ capitalSigma := by
      rintro rfl
      exact absurd hc (by decide)
    rw [lowerFrom, if_neg hs, lowerChar_of_lt hc, ih _ fun d hd => h d (List.mem_cons_of_mem _ hd)]
    rfl

theorem toList_lower {s : String} (h : isAscii s = true) :
    (lower s).toList = s.toList.map Char.toLower := by
  rw [lower, String.toList_ofList, lowerFrom_of_lt [] _ (lt_of_isAscii h)]

theorem isAscii_upper {s : String} (h : isAscii s = true) : isAscii (upper s) = true := by
  rw [isAscii, toList_upper h, List.all_map, List.all_eq_true]
  exact fun c hc => decide_eq_true (toNat_toUpper_lt (lt_of_isAscii h c hc))

theorem isAscii_lower {s : String} (h : isAscii s = true) : isAscii (lower s) = true := by
  rw [isAscii, toList_lower h, List.all_map, List.all_eq_true]
  exact fun c hc => decide_eq_true (toNat_toLower_lt (lt_of_isAscii h c hc))

theorem toLower_toUpper_toLower {c : Char} (h : c.toNat < 0x80) :
    c.toLower.toUpper.toLower = c.toLower :=
  of_forall_lt (fun c => c.toLower.toUpper.toLower = c.toLower) (by decide) h

theorem lower_eq_of_upper_lower_eq {s t : String} (hs : isAscii s = true) (ht : isAscii t = true)
    (h : upper (lower s) = upper (lower t)) : lower s = lower t := by
  have hback : ∀ u, isAscii u = true → lower (upper (lower u)) = lower u := by
    intro u hu
    apply String.toList_inj.1
    rw [toList_lower (isAscii_upper (isAscii_lower hu)), toList_upper (isAscii_lower hu),
      toList_lower hu, List.map_map, List.map_map]
    exact List.map_congr_left fun c hc => toLower_toUpper_toLower (lt_of_isAscii hu c hc)
  rw [← hback s hs, h, hback t ht]

theorem toUpper_ne_underscore {c : Char} (h : c.toNat < 0x80) (hc : c ≠ '_') :
    c.toUpper ≠ '_' :=
  of_forall_lt (fun c => c ≠ '_' → c.toUpper ≠ '_') (by decide) h hc

/-- Whether a text has no small letters of the plain alphabet. -/
def hasNoSmall (s : String) : Bool :=
  s.toList.all fun c => !c.isLower

theorem hasNoSmall_iff {s : String} :
    hasNoSmall s = true ↔ ∀ c ∈ s.toList, c.isLower = false := by
  simp [hasNoSmall]

/-- A plain text in capitals has no small letters. -/
theorem hasNoSmall_upper_append {s t : String} (hs : isAscii s = true)
    (ht : hasNoSmall t = true) : hasNoSmall (upper s ++ t) = true := by
  rw [hasNoSmall_iff, String.toList_append, toList_upper hs]
  refine List.forall_mem_append.2 ⟨List.forall_mem_map.2 fun c hc => ?_, hasNoSmall_iff.1 ht⟩
  exact of_forall_lt (fun c => c.toUpper.isLower = false) (by decide) (lt_of_isAscii hs c hc)

end RegisterMap.Text
