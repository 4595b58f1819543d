import Mathlib.Data.List.Induction
import RegisterMap.Proofs.Text.Ascii

/-!
# Plain letters at the end of a text

A plain letter stands for itself in a canonical form, whatever stands before it: no mark and no
other letter joins it from the left. So a plain ending stays what it is. And a lower case has no
plain capitals, of whatever letters it is made.
-/

namespace RegisterMap.Text

/-! ## Canonical forms -/

theorem fold_of_lt {n : Nat} (h : n < 0x80) : fold n = [n] := by
  have hsequences : ∀ p ∈ foldSequences, 0x80 ≤ p.1 := by decide +kernel
  have hruns : ∀ r ∈ foldRuns ++ ideographRuns ++ laterFoldRuns, 0x80 ≤ r.first := by
    decide +kernel
  have hlookup : foldSequences.lookup n = none := by
    rw [List.lookup_eq_none_iff]
    intro p hp
    have := hsequences p hp
    exact bne_iff_ne.2 (by omega)
  have hfind : (foldRuns ++ ideographRuns ++ laterFoldRuns).find? (·.covers n) = none := by
    rw [List.find?_eq_none]
    intro r hr
    have := hruns r hr
    simp only [FoldRun.covers, Bool.and_eq_true, decide_eq_true_eq]
    omega
  rw [fold, hlookup, hfind]

theorem parts_of_lt (depth : Nat) {n : Nat} (h : n < 0x80) : parts depth n = [n] := by
  have hpairs : ∀ p ∈ pairs, 0x80 ≤ p.whole := by decide +kernel
  cases depth with
  | zero => rfl
  | succ depth =>
    have hsyllable : isSyllable n = false := by
      have hlow : ¬firstSyllable ≤ n := by
        have : firstSyllable = 0xAC00 := rfl
        omega
      rw [isSyllable, decide_eq_false hlow, Bool.false_and]
    have hfind : pairs.find? (·.whole == n) = none := by
      rw [List.find?_eq_none]
      intro p hp
      have := hpairs p hp
      exact fun he => absurd (beq_iff_eq.1 he) (by omega)
    rw [parts, hsyllable, hfind]
    exact fold_of_lt h

theorem markOrder_of_lt {n : Nat} (h : n < 0x80) : markOrder n = 0 := by
  have hruns : ∀ r ∈ markRuns, 0x80 ≤ r.first := by decide +kernel
  have hfind : markRuns.find? (fun r => r.first ≤ n && n ≤ r.last) = none := by
    rw [List.find?_eq_none]
    intro r hr
    have := hruns r hr
    simp only [Bool.and_eq_true, decide_eq_true_eq]
    omega
  rw [markOrder, hfind]

theorem join?_of_lt (letter : Nat) {n : Nat} (h : n < 0x80) : join? letter n = none := by
  have hmarks : ∀ p ∈ pairs, 0x80 ≤ p.mark := by decide +kernel
  have hsyllable : joinSyllable? letter n = none := by
    have hvowel : firstVowel = 0x1161 := rfl
    have htail : noTail = 0x11A7 := rfl
    simp only [joinSyllable?, Bool.and_eq_true, decide_eq_true_eq]
    rw [if_neg (by omega), if_neg (by omega)]
  have hpairs : pairs.find? (fun p => p.letter == letter && p.mark == n) = none := by
    rw [List.find?_eq_none]
    intro p hp
    have := hmarks p hp
    simp only [Bool.and_eq_true, beq_iff_eq]
    omega
  rw [join?, hsyllable, hpairs]
  rfl

theorem orderMarks_append {n : Nat} (h : n < 0x80) (ns : List Nat) :
    orderMarks (ns ++ [n]) = orderMarks ns ++ [n] := by
  have hinsert : ∀ done, insertMark n done = n :: done := by
    intro done
    cases done with
    | nil => rfl
    | cons m ms => simp [insertMark, markOrder_of_lt h]
  rw [orderMarks, List.foldl_append, List.foldl_cons, List.foldl_nil, hinsert, List.reverse_cons]
  rfl

theorem composeFrom_append {n : Nat} (h : n < 0x80) (letter : Nat) (marks ns : List Nat) :
    composeFrom letter marks (ns ++ [n]) = composeFrom letter marks ns ++ [n] := by
  induction ns generalizing letter marks with
  | nil => simp [composeFrom, join?_of_lt letter h, markOrder_of_lt h]
  | cons m ms ih =>
    simp only [List.cons_append, composeFrom]
    -- a mark joins the letter, starts a letter of its own or stays behind
    split
    · exact ih _ _
    · split
      · rw [ih]
        simp only [List.cons_append, List.append_assoc]
      · exact ih _ _

theorem compose_append {n : Nat} (h : n < 0x80) (ns : List Nat) :
    compose (ns ++ [n]) = compose ns ++ [n] := by
  induction ns with
  | nil => simp [compose, composeFrom, markOrder_of_lt h]
  | cons m ms ih =>
    simp only [List.cons_append, compose]
    split
    · exact composeFrom_append h m [] ms
    · rw [ih, List.cons_append]

theorem canonicalPoints_append {n : Nat} (h : n < 0x80) (ns : List Nat) :
    canonicalPoints (ns ++ [n]) = canonicalPoints ns ++ [n] := by
  rw [canonicalPoints, List.flatMap_append, List.flatMap_singleton, parts_of_lt _ h,
    orderMarks_append h, compose_append h]
  rfl

theorem canonicalPoints_append_of_lt (ns ms : List Nat) (h : ∀ n ∈ ms, n < 0x80) :
    canonicalPoints (ns ++ ms) = canonicalPoints ns ++ ms := by
  induction ms using List.reverseRecOn with
  | nil => simp
  | append_singleton ms n ih =>
    rw [← List.append_assoc, canonicalPoints_append (h n (by simp)),
      ih fun m hm => h m (by simp [hm]), List.append_assoc]

/-- The canonical form of a text keeps a plain ending. -/
theorem canonical_append {t : String} (h : isAscii t = true) (s : String) :
    canonical (s ++ t) = canonical s ++ t := by
  by_cases hs : isAscii s = true
  · rw [canonical_of_isAscii hs, canonical_of_isAscii]
    rw [isAscii_append, hs, h]
    rfl
  · have hst : ¬isAscii (s ++ t) = true := by
      rw [isAscii_append, h, Bool.and_true]
      exact hs
    have hlow : ∀ n ∈ t.toList.map Char.toNat, n < 0x80 := by
      intro n hn
      obtain ⟨c, hc, rfl⟩ := List.mem_map.1 hn
      exact lt_of_isAscii h c hc
    have hback : (t.toList.map Char.toNat).map Char.ofNat = t.toList := by
      simp [Function.comp_def, Char.ofNat_toNat]
    have hform : ∀ u : String, ¬isAscii u = true →
        canonical u = String.ofList ((canonicalPoints (u.toList.map Char.toNat)).map Char.ofNat) :=
      fun u hu => if_neg hu
    rw [hform _ hst, hform _ hs, String.toList_append, List.map_append,
      canonicalPoints_append_of_lt _ _ hlow, List.map_append, hback, String.ofList_append,
      String.ofList_toList]

/-! ## Lower case -/

/-- A capital letter of the plain alphabet. -/
def isCapital (c : Char) : Bool :=
  0x41 ≤ c.toNat && c.toNat ≤ 0x5A

theorem isCapital_toLower {c : Char} (h : c.toNat < 0x80) : isCapital c.toLower = false :=
  of_forall_lt (fun c => isCapital c.toLower = false) (by decide) h

theorem isCapital_ofNat {n : Nat} (h : 0x5A < n) : isCapital (Char.ofNat n) = false := by
  by_cases hv : n.isValidChar
  · have hchar : Char.ofNat n = Char.ofNatAux n hv := dif_pos hv
    have hn : (Char.ofNatAux n hv).toNat = n := rfl
    rw [hchar, isCapital, hn, decide_eq_false (by omega : ¬n ≤ 0x5A), Bool.and_false]
  · have hchar : Char.ofNat n = Char.ofNat 0 := dif_neg hv
    rw [hchar]
    rfl

theorem isCapital_lowerChar (c : Char) : ∀ e ∈ lowerChar c, isCapital e = false := by
  have hsequences : ∀ p ∈ lowerSequences, ∀ n ∈ p.2, isCapital (Char.ofNat n) = false := by
    decide +kernel
  have hruns : ∀ r ∈ lowerRuns, 0x80 ≤ r.last → 0x5A < r.first + r.shift := by decide +kernel
  intro e he
  by_cases hc : c.toNat < 0x80
  · rw [lowerChar_of_lt hc, List.mem_singleton] at he
    rw [he]
    exact isCapital_toLower hc
  · have hlower : lowerChar c = caseImage lowerRuns lowerSequences c := if_neg hc
    rw [hlower, caseImage] at he
    split at he
    · next image himage =>
      obtain ⟨n, hn, rfl⟩ := List.mem_map.1 he
      obtain ⟨front, back, hsplit, -⟩ := List.lookup_eq_some_iff.1 himage
      exact hsequences (c.toNat, image) (by simp [hsplit]) n hn
    · split at he
      · next run hrun =>
        have hcovers := List.find?_some hrun
        simp only [CaseRun.covers, Bool.and_eq_true, decide_eq_true_eq] at hcovers
        have hshift := hruns run (List.mem_of_find?_eq_some hrun) (by omega)
        rw [List.mem_singleton.1 he]
        exact isCapital_ofNat (by omega)
      · rw [List.mem_singleton.1 he, isCapital,
          decide_eq_false (by omega : ¬c.toNat ≤ 0x5A), Bool.and_false]

theorem isCapital_lowerFrom (before cs : List Char) :
    ∀ e ∈ lowerFrom before cs, isCapital e = false := by
  induction cs generalizing before with
  | nil => exact fun e he => absurd he List.not_mem_nil
  | cons c cs ih =>
    intro e he
    rw [lowerFrom] at he
    rcases List.mem_append.1 he with he | he
    · split at he
      · split at he <;> rw [List.mem_singleton.1 he] <;> decide
      · exact isCapital_lowerChar c e he
    · exact ih _ e he

/-- A lower case has no plain capitals. -/
theorem isCapital_lower (s : String) : ∀ e ∈ (lower s).toList, isCapital e = false := by
  rw [lower, String.toList_ofList]
  exact isCapital_lowerFrom [] s.toList

theorem toLower_toUpper {c : Char} (h : c.toNat < 0x80) (hc : isCapital c = false) :
    c.toUpper.toLower = c :=
  of_forall_lt (fun c => isCapital c = false → c.toUpper.toLower = c) (by decide) h hc

/-- A plain text without capitals comes back from its upper case. -/
theorem lower_upper {s : String} (h : isAscii s = true)
    (hc : ∀ c ∈ s.toList, isCapital c = false) : lower (upper s) = s := by
  apply String.toList_inj.1
  have hsame : ∀ c ∈ s.toList, (Char.toLower ∘ Char.toUpper) c = id c := fun c hmem =>
    toLower_toUpper (lt_of_isAscii h c hmem) (hc c hmem)
  rw [toList_lower (isAscii_upper h), toList_upper h, List.map_map, List.map_congr_left hsame,
    List.map_id]

end RegisterMap.Text
