import RegisterMap.Files.Tree
import RegisterMap.Outcome
import RegisterMap.Proofs.Text.Clean
import RegisterMap.Proofs.Text.Position

/-!
# Where paths lead

A path that leads anywhere leads through the directory that holds what it names, so the path of that
directory leads there too.
-/

namespace RegisterMap

open Text (Point)

namespace Files

namespace Name

/-- A text that may be given for a path. -/
structure IsUsable (s : String) : Prop where
  noFault : fault? s = none
  noNull : (ofText s).contains 0 = false
  short : (ofText s).length ≤ Tree.pathLimit

theorem IsUsable.of_points {s t : String} {rest : List Point} (h : IsUsable t)
    (hpoints : Text.pointsOf t = Text.pointsOf s ++ rest) : IsUsable s where
  noFault := by
    have hall := Text.Utf8.firstFault_eq_none.1 h.noFault
    rw [hpoints] at hall
    exact Text.Utf8.firstFault_eq_none.2 (List.forall_mem_append.1 hall).1
  noNull := by
    have hnull := h.noNull
    rw [ofText, hpoints, List.flatMap_append, List.contains_append, Bool.or_eq_false_iff] at hnull
    exact hnull.1
  short := by
    have hshort := h.short
    rw [ofText, hpoints, List.flatMap_append, List.length_append] at hshort
    exact Nat.le_trans (Nat.le_add_right _ _) hshort

/-- A slash divides a text in two, unless it stands behind a mark, where it keeps what cannot stand
in a name. -/
theorem points_slash {xs ys : List Char}
    (h : ∀ p ∈ Text.points (xs ++ '/' :: ys), isForeign p = false) :
    Text.points (xs ++ '/' :: ys) = Text.points xs ++ .char '/' :: Text.points ys := by
  fun_induction Text.points xs with
  | case1 => exact Text.points_cons (by decide) ys
  | case2 =>
    have hforeign : isForeign (Text.behindMark '/') = true := by decide
    rw [List.cons_append, List.nil_append, Text.points_mark] at h
    rw [h _ List.mem_cons_self] at hforeign
    cases hforeign
  | case3 d ds ih =>
    rw [List.cons_append, List.cons_append, Text.points_mark] at h ⊢
    rw [ih fun p hp => h p (List.mem_cons_of_mem _ hp), List.cons_append]
  | case4 c cs hc ih =>
    rw [List.cons_append, Text.points_cons hc] at h ⊢
    rw [ih fun p hp => h p (List.mem_cons_of_mem _ hp), List.cons_append]

theorem IsUsable.of_slash {s t : String} (h : IsUsable (s ++ "/" ++ t)) : IsUsable s := by
  have hlist : (s ++ "/" ++ t).toList = s.toList ++ '/' :: t.toList := by simp
  have hall := Text.Utf8.firstFault_eq_none.1 h.noFault
  rw [Text.pointsOf, hlist] at hall
  exact h.of_points ((congrArg Text.points hlist).trans (points_slash hall))

end Name

namespace FilePath

theorem text_of_parts_ne_nil {p : FilePath} (h : p.parts ≠ []) :
    p.text = String.ofList (List.replicate p.root '/') ++ "/".intercalate p.parts :=
  if_neg fun hboth => h hboth.2

/-- The path of the directory that holds a file may be given when that of the file may. -/
theorem isUsable_parent {p : FilePath} (h : Name.IsUsable p.text) (hparts : p.parts ≠ []) :
    Name.IsUsable p.parent.text := by
  obtain ⟨root, parts⟩ := p
  obtain ⟨init, last, rfl⟩ : ∃ init last, parts = init ++ [last] :=
    ⟨_, _, (List.dropLast_concat_getLast hparts).symm⟩
  have hparent : (FilePath.mk root (init ++ [last])).parent = ⟨root, init⟩ := by
    simp [parent]
  rw [text_of_parts_ne_nil hparts] at h
  rw [hparent]
  by_cases hinit : init = []
  · subst hinit
    by_cases hroot : root = 0
    · subst hroot
      exact ⟨by decide, by decide, by decide⟩
    · have hmark : Text.halfMark ∉ List.replicate root '/' := fun hmem =>
        absurd (List.eq_of_mem_replicate hmem) (by decide)
      have hpoints : Text.pointsOf
          (String.ofList (List.replicate root '/') ++ "/".intercalate [last]) =
          Text.pointsOf (text ⟨root, []⟩) ++ Text.pointsOf last := by
        simp [text, hroot, Text.pointsOf, Text.points_append hmark]
      exact h.of_points hpoints
  · rw [String.intercalate_append_of_ne_nil hinit (by simp), String.intercalate_singleton,
      ← String.append_assoc, ← String.append_assoc] at h
    rw [text_of_parts_ne_nil hinit]
    exact h.of_slash

end FilePath

namespace Tree

variable {t : Tree} {p : FilePath} {place other : List Name}

theorem locate_eq_ok : t.locate p = .ok place ↔
    Name.IsUsable p.text ∧ t.walk (t.start p) (p.parts.map Name.ofText) = .ok place := by
  rw [locate]
  constructor
  · intro h
    split at h
    · cases h
    · next hfault =>
      split at h
      · cases h
      · next hnull =>
        rw [mapError_eq_ok, follow] at h
        split at h
        · cases h
        · next hlong => exact ⟨⟨hfault, by simpa using hnull, Nat.not_lt.1 hlong⟩, h⟩
  · rintro ⟨⟨hfault, hnull, hshort⟩, hwalk⟩
    simp only [hfault, hnull, follow, if_neg (Nat.not_lt.2 hshort), hwalk]
    rfl

/-- A path with a part behind it leads to a directory. -/
theorem walk_append {parts : List Name} {part : Name}
    (h : t.walk place (parts ++ [part]) = .ok other) :
    ∃ directory, t.walk place parts = .ok directory ∧ t.get? directory = some .directory := by
  induction parts generalizing place with
  | nil =>
    rw [List.nil_append, walk] at h
    split at h
    · cases h
    · cases h
    · next hplace => exact ⟨place, rfl, hplace⟩
  | cons first parts ih =>
    rw [List.cons_append, walk] at h
    rw [walk]
    split at h
    · cases h
    · cases h
    · split at h
      · cases h
      · next hlength =>
        rw [if_neg hlength]
        exact ih h

/-- A path leads to a directory. -/
def HasDirectory (t : Tree) (p : FilePath) : Prop :=
  ∃ place, t.locate p = .ok place ∧ t.get? place = some .directory

theorem hasDirectory_parent (h : t.locate p = .ok place) (hparts : p.parts ≠ []) :
    t.HasDirectory p.parent := by
  obtain ⟨husable, hwalk⟩ := locate_eq_ok.1 h
  have hmap : p.parts.map Name.ofText =
      p.parent.parts.map Name.ofText ++ [Name.ofText (p.parts.getLast hparts)] := by
    rw [FilePath.parent, ← List.map_singleton, ← List.map_append, List.dropLast_concat_getLast]
  rw [hmap] at hwalk
  obtain ⟨directory, hdirectory, hentry⟩ := walk_append hwalk
  exact ⟨directory, locate_eq_ok.2 ⟨FilePath.isUsable_parent husable hparts, hdirectory⟩, hentry⟩

end Tree

end Files

end RegisterMap
