import RegisterMap.Proofs.Text.Clean
import RegisterMap.Proofs.Text.Position

/-!
# Texts with another name in them

Texts that are the same but for a name, which stands in each of them in its own form. Names of
letters change nothing else about a text: its lines, and the halves in it that have no bytes, are as
many and the same.
-/

namespace RegisterMap.Text

/-- Characters that are the same but for names, `n` in the one text and `n'` in the other. A name
stands behind a character that is no mark for a half. -/
inductive Renames (n n' : List Char) : List Char → List Char → Prop where
  | nil : Renames n n' [] []
  | char (c : Char) {cs ds : List Char} (h : Renames n n' cs ds) : Renames n n' (c :: cs) (c :: ds)
  | name {c : Char} (hc : c ≠ halfMark) {cs ds : List Char} (h : Renames n n' cs ds) :
    Renames n n' (c :: (n ++ cs)) (c :: (n' ++ ds))

namespace Renames

variable {n n' cs ds : List Char}

theorem refl (cs : List Char) : Renames n n' cs cs := by
  induction cs with
  | nil => exact .nil
  | cons c cs ih => exact .char c ih

theorem append (h : Renames n n' cs ds) {cs' ds' : List Char} (h' : Renames n n' cs' ds') :
    Renames n n' (cs ++ cs') (ds ++ ds') := by
  induction h with
  | nil => exact h'
  | char c _ ih => exact .char c ih
  | name hc _ ih =>
    rw [List.cons_append, List.cons_append, List.append_assoc, List.append_assoc]
    exact .name hc ih

theorem eq_nil_iff (h : Renames n n' cs ds) : cs = [] ↔ ds = [] := by
  cases h <;> simp

/-- A character that the names do not have stands in both texts as often. -/
theorem count_eq (h : Renames n n' cs ds) {d : Char} (hn : d ∉ n) (hn' : d ∉ n') :
    cs.count d = ds.count d := by
  induction h with
  | nil => rfl
  | char c _ ih => rw [List.count_cons, List.count_cons, ih]
  | name _ _ ih =>
    rw [List.count_cons, List.count_cons, List.count_append, List.count_append,
      List.count_eq_zero_of_not_mem hn, List.count_eq_zero_of_not_mem hn', ih]

end Renames

/-- Code points that start with as many halves and have the same first fault, but for its place. -/
structure SameFaults (ps qs : List Point) : Prop where
  halves : (ps.takeWhile Point.isHalf).length = (qs.takeWhile Point.isHalf).length
  fault : ∀ i j, (Utf8.firstFault Point.isHalf i ps).map (fun f => (f.half, f.count)) =
    (Utf8.firstFault Point.isHalf j qs).map fun f => (f.half, f.count)

namespace SameFaults

theorem refl (ps : List Point) : SameFaults ps ps where
  halves := rfl
  fault := by
    induction ps with
    | nil => exact fun _ _ => rfl
    | cons p ps ih =>
      intro i j
      rw [Utf8.firstFault, Utf8.firstFault]
      split
      · rfl
      · exact ih _ _

variable {ps qs : List Point} (h : SameFaults ps qs)
include h

theorem cons (p : Point) : SameFaults (p :: ps) (p :: qs) where
  halves := by
    rw [List.takeWhile_cons, List.takeWhile_cons]
    split
    · rw [List.length_cons, List.length_cons, h.halves]
    · rfl
  fault := by
    intro i j
    rw [Utf8.firstFault, Utf8.firstFault]
    split
    · rw [Option.map_some, Option.map_some, h.halves]
    · exact h.fault _ _

/-- Characters in front take part in no fault. -/
theorem behind {cs ds : List Char} (hcs : cs ≠ []) (hds : ds ≠ []) :
    SameFaults (cs.map .char ++ ps) (ds.map .char ++ qs) where
  halves := by
    obtain ⟨c, cs, rfl⟩ := List.exists_cons_of_ne_nil hcs
    obtain ⟨d, ds, rfl⟩ := List.exists_cons_of_ne_nil hds
    rfl
  fault := by
    have hskip : ∀ (cs : List Char) (ps : List Point) (i : Nat), ∃ j,
        Utf8.firstFault Point.isHalf i (cs.map .char ++ ps) =
          Utf8.firstFault Point.isHalf j ps := by
      intro cs ps
      induction cs with
      | nil => exact fun i => ⟨i, rfl⟩
      | cons c cs ih => exact fun i => ih (i + 1)
    intro i j
    obtain ⟨i', hi⟩ := hskip cs ps i
    obtain ⟨j', hj⟩ := hskip ds qs j
    rw [hi, hj]
    exact h.fault i' j'

end SameFaults

namespace Renames

variable {n n' cs ds : List Char}

/-- Other names in a text change no fault of it but its place. -/
theorem sameFaults (h : Renames n n' cs ds) (hn : n ≠ [] ∧ halfMark ∉ n)
    (hn' : n' ≠ [] ∧ halfMark ∉ n') : SameFaults (points cs) (points ds) := by
  have hchars : ∀ {m : List Char}, halfMark ∉ m → points m = m.map .char :=
    fun hm => points_of_all_ne fun _ hc he => hm (he ▸ hc)
  -- the texts are read from a character on, and from one that stands behind a mark
  suffices hboth : SameFaults (points cs) (points ds) ∧
      SameFaults (points (halfMark :: cs)) (points (halfMark :: ds)) from hboth.1
  induction h with
  | nil => exact ⟨.refl _, .refl _⟩
  | char c _ ih =>
    rw [points_mark, points_mark]
    refine ⟨?_, ih.1.cons _⟩
    by_cases hc : c = halfMark
    · exact hc ▸ ih.2
    · rw [points_cons hc, points_cons hc]
      exact ih.1.cons _
  | name hc _ ih =>
    have hnames := ih.1.behind hn.1 hn'.1
    rw [← hchars hn.2, ← hchars hn'.2, ← points_append hn.2, ← points_append hn'.2] at hnames
    rw [points_mark, points_mark, points_cons hc, points_cons hc]
    exact ⟨hnames.cons _, hnames.cons _⟩

end Renames

/-- Texts that are the same but for names, `n` in the one and `n'` in the other. -/
def Renamed (n n' s t : String) : Prop :=
  Renames n.toList n'.toList s.toList t.toList

namespace Renamed

variable {n n' s t : String}

theorem refl (s : String) : Renamed n n' s s :=
  Renames.refl _

theorem append (h : Renamed n n' s t) {s' t' : String} (h' : Renamed n n' s' t') :
    Renamed n n' (s ++ s') (t ++ t') := by
  unfold Renamed
  rw [String.toList_append, String.toList_append]
  exact Renames.append h h'

/-- The names themselves, behind a text that ends in a plain character. -/
theorem behind {front : String} {c : Char} (hlast : front.toList.getLast? = some c)
    (hc : c ≠ halfMark) : Renamed n n' (front ++ n) (front ++ n') := by
  obtain ⟨cs, hcs⟩ := List.getLast?_eq_some_iff.1 hlast
  have hname : Renames n.toList n'.toList (c :: (n.toList ++ [])) (c :: (n'.toList ++ [])) :=
    .name hc .nil
  unfold Renamed
  rw [String.toList_append, String.toList_append, hcs, List.append_assoc, List.append_assoc]
  simpa using (Renames.refl cs).append hname

theorem eq_empty_iff (h : Renamed n n' s t) : s = "" ↔ t = "" := by
  rw [← String.toList_eq_nil_iff, ← String.toList_eq_nil_iff]
  exact Renames.eq_nil_iff h

theorem intercalate (separator : String) {ss ts : List String}
    (h : List.Forall₂ (Renamed n n') ss ts) :
    Renamed n n' (separator.intercalate ss) (separator.intercalate ts) := by
  induction h with
  | nil => exact .refl _
  | cons hs hss ih =>
    cases hss with
    | nil => simpa using hs
    | cons _ _ =>
      rw [String.intercalate_cons_cons, String.intercalate_cons_cons]
      exact (hs.append (.refl _)).append ih

section Identifiers

variable (h : Renamed n n' s t) (hn : isIdentifier n = true) (hn' : isIdentifier n' = true)
include h hn hn'

/-- A character that is no letter of identifiers stands in both texts as often. -/
theorem count_eq {d : Char} (hstart : isNameStart d = false) (hpart : isNamePart d = false) :
    s.toList.count d = t.toList.count d :=
  Renames.count_eq h (not_mem_of_isIdentifier hstart hpart hn)
    (not_mem_of_isIdentifier hstart hpart hn')

/-- Either both texts have bytes, or neither has, for the same halves. -/
theorem encode_cases :
    (∃ bytes bytes', Utf8.encode s = .ok bytes ∧ Utf8.encode t = .ok bytes') ∨
      ∃ f g, Utf8.encode s = .error f ∧ Utf8.encode t = .error g ∧ f.half = g.half ∧
        f.count = g.count := by
  have hplain : ∀ {m : String}, isIdentifier m = true → m.toList ≠ [] ∧ halfMark ∉ m.toList := by
    intro m hm
    refine ⟨fun hnil => ?_, not_mem_of_isIdentifier (by decide +kernel) (by decide +kernel) hm⟩
    simp [isIdentifier, hnil] at hm
  have hfault := (Renames.sameFaults h (hplain hn) (hplain hn')).fault 0 0
  unfold Utf8.encode pointsOf
  cases hs : Utf8.firstFault Point.isHalf 0 (points s.toList) with
  | none =>
    cases ht : Utf8.firstFault Point.isHalf 0 (points t.toList) with
    | none => exact .inl ⟨_, _, rfl, rfl⟩
    | some g =>
      rw [hs, ht] at hfault
      cases hfault
  | some f =>
    cases ht : Utf8.firstFault Point.isHalf 0 (points t.toList) with
    | none =>
      rw [hs, ht] at hfault
      cases hfault
    | some g =>
      rw [hs, ht] at hfault
      obtain ⟨hhalf, hcount⟩ := Prod.mk.inj (Option.some.inj hfault)
      exact .inr ⟨f, g, rfl, rfl, hhalf, hcount⟩

end Identifiers

end Renamed

end RegisterMap.Text
