import Mathlib.Tactic.Common
import RegisterMap.Proofs.Files.Paths
import RegisterMap.Proofs.Preservation

/-!
# Writing files

What is written to a file is what is read from it afterwards. Neither writing a file nor making
directories touches another file, and a file that cannot be opened is left as it is.
-/

namespace RegisterMap.Files.Tree

variable {t u v : Tree} {p : FilePath} {place other : List Name} {content bytes : List UInt8}

/-! ### Entries by place -/

theorem lookup_put (entries : List (List Name × Entry)) (place other : List Name) (e : Entry) :
    ((entries.filter (·.1 != place)) ++ [(place, e)]).lookup other =
      if other = place then some e else entries.lookup other := by
  induction entries with
  | nil =>
    by_cases h : other = place
    · simp [h]
    · simp [h, List.lookup_cons, beq_false_of_ne h]
  | cons entry entries ih =>
    obtain ⟨key, value⟩ := entry
    by_cases hkey : key = place
    · rw [List.filter_cons_of_neg (by simp [hkey]), ih]
      by_cases h : other = place
      · simp [h]
      · simp [h, List.lookup_cons, hkey, beq_false_of_ne h]
    · rw [List.filter_cons_of_pos (by simp [hkey]), List.cons_append, List.lookup_cons, ih,
        List.lookup_cons]
      by_cases h : other = key
      · simp [h, hkey]
      · simp [beq_false_of_ne h]

theorem get?_put (hfree : t.get? place ≠ some .directory) (e : Entry) (other : List Name) :
    (t.put place e).get? other = if other = place then some e else t.get? other := by
  have hhere : place.isPrefixOf t.here = false := by
    rw [← Bool.not_eq_true]
    exact fun h => hfree (if_pos h)
  rw [get?, get?, put, lookup_put]
  by_cases h : other = place
  · rw [if_pos h, if_pos h, h, hhere]
    rfl
  · rw [if_neg h, if_neg h]

theorem get?_of_isPrefix (h : place <+: t.here) : t.get? place = some .directory :=
  if_pos (List.isPrefixOf_iff_prefix.2 h)

/-! ### Places of paths -/

/-- All places above this one are directories. -/
def Reaches (t : Tree) (place : List Name) : Prop :=
  ∀ q, q <+: place → q ≠ place → t.get? q = some .directory

theorem start_isPrefix (t : Tree) (p : FilePath) : t.start p <+: t.here := by
  rw [start]
  split
  · exact List.prefix_rfl
  · exact List.nil_prefix

theorem reaches_start (t : Tree) (p : FilePath) : t.Reaches (t.start p) :=
  fun _ hq _ => get?_of_isPrefix (hq.trans (t.start_isPrefix p))

theorem Reaches.advance (h : t.Reaches place) (hplace : t.get? place = some .directory)
    (part : Name) : t.Reaches (advance place part) := by
  have hall : ∀ q, q <+: place → t.get? q = some .directory := by
    intro q hq
    by_cases heq : q = place
    · exact heq ▸ hplace
    · exact h q hq heq
  intro q hq hne
  rw [Tree.advance] at hq hne
  split at hq
  · exact hall q (hq.trans (List.dropLast_prefix place))
  · next hup =>
    rw [if_neg hup] at hne
    exact hall q ((List.prefix_concat_iff.1 hq).resolve_left hne)

theorem Reaches.walk {parts : List Name} (h : t.Reaches place)
    (hwalk : t.walk place parts = .ok other) : t.Reaches other := by
  induction parts generalizing place with
  | nil =>
    cases hwalk
    exact h
  | cons part parts ih =>
    rw [Tree.walk] at hwalk
    split at hwalk
    · cases hwalk
    · cases hwalk
    · next hplace =>
      split at hwalk
      · cases hwalk
      · exact ih (h.advance hplace part) hwalk

/-- What a path leads to lies in a directory, or is one itself. -/
theorem checkDirectory_of_locate (h : t.locate p = .ok place)
    (hfree : t.get? place ≠ some .directory) : t.checkDirectory p place = .ok () := by
  have hreaches := (t.reaches_start p).walk (locate_eq_ok.1 h).2
  have hne : place ≠ [] := by
    rintro rfl
    exact hfree (get?_of_isPrefix List.nil_prefix)
  have hlonger := List.length_pos_iff.2 hne
  have hdirectory : t.get? place.dropLast = some .directory := by
    refine hreaches _ (List.dropLast_prefix place) fun heq => ?_
    have hlength := congrArg List.length heq
    rw [List.length_dropLast] at hlength
    omega
  rw [checkDirectory, hdirectory]

/-! ### Reading and writing -/

theorem read_eq_ok : t.read p = .ok content ↔
    ∃ place, t.locate p = .ok place ∧ t.get? place = some (.file content) := by
  rw [read, bind_eq_ok]
  refine exists_congr fun place => and_congr_right fun _ => ?_
  cases t.get? place with
  | none => simp
  | some e => cases e <;> simp

theorem write_eq_ok : t.write p content = .ok u ↔
    ∃ place, t.locate p = .ok place ∧ t.get? place ≠ some .directory ∧
      u = t.put place (.file content) := by
  rw [write, bind_eq_ok]
  refine exists_congr fun place => and_congr_right fun hlocate => ?_
  by_cases hfree : t.get? place = some .directory
  · simp [hfree]
  · have hcheck := checkDirectory_of_locate hlocate hfree
    rcases hentry : t.get? place with _ | ⟨_ | _⟩
    · simp [hcheck, eq_comm]
    · simp [hcheck, eq_comm]
    · exact absurd hentry hfree

/-- A file that can be read can be written. -/
theorem exists_write_of_read (h : t.read p = .ok content) (bytes : List UInt8) :
    ∃ u, t.write p bytes = .ok u := by
  obtain ⟨place, hlocate, hfile⟩ := read_eq_ok.1 h
  exact ⟨_, write_eq_ok.2 ⟨place, hlocate, by simp [hfile], rfl⟩⟩

/-! ### Trees that extend others -/

/-- A tree with the directories of another one, and with the same files at all places but those that
are `changed`. -/
structure Extends (changed : List (List Name)) (t u : Tree) : Prop where
  here : u.here = t.here
  directory : ∀ place, t.get? place = some .directory → u.get? place = some .directory
  file : ∀ place ∉ changed, ∀ content,
    u.get? place = some (.file content) ↔ t.get? place = some (.file content)

namespace Extends

variable {changed : List (List Name)}

theorem refl (changed : List (List Name)) (t : Tree) : Extends changed t t :=
  ⟨rfl, fun _ => id, fun _ _ _ => Iff.rfl⟩

theorem trans (h : Extends changed t u) (h' : Extends changed u v) : Extends changed t v where
  here := h'.here.trans h.here
  directory place hplace := h'.directory place (h.directory place hplace)
  file place hplace content := (h'.file place hplace content).trans (h.file place hplace content)

theorem weaken (h : Extends [] t u) : Extends changed t u :=
  ⟨h.here, h.directory, fun place _ => h.file place List.not_mem_nil⟩

theorem walk {parts : List Name} (h : Extends changed t u)
    (hwalk : t.walk place parts = .ok other) : u.walk place parts = .ok other := by
  induction parts generalizing place with
  | nil => exact hwalk
  | cons part parts ih =>
    rw [Tree.walk] at hwalk ⊢
    split at hwalk
    · cases hwalk
    · cases hwalk
    · next hplace =>
      rw [h.directory _ hplace]
      dsimp only
      split at hwalk
      · cases hwalk
      · next hlength => rw [if_neg hlength, ih hwalk]

/-- A path leads to the same place. -/
theorem locate (h : Extends changed t u) (hlocate : t.locate p = .ok place) :
    u.locate p = .ok place := by
  obtain ⟨husable, hwalk⟩ := locate_eq_ok.1 hlocate
  have hstart : u.start p = t.start p := by
    rw [start, start, h.here]
  exact locate_eq_ok.2 ⟨husable, hstart ▸ h.walk hwalk⟩

end Extends

theorem put_extends (h : t.get? place ≠ some .directory) (content : List UInt8) :
    Extends [place] t (t.put place (.file content)) where
  here := rfl
  directory other hother := by
    have hne : other ≠ place := fun heq => h (by rw [← heq, hother])
    rw [get?_put h, if_neg hne, hother]
  file other hother content' := by
    rw [get?_put h, if_neg (by simpa using hother)]

theorem put_directory_extends (h : t.get? place = none) :
    Extends [] t (t.put place .directory) where
  here := rfl
  directory other hother := by
    rw [get?_put (by simp [h])]
    split
    · rfl
    · exact hother
  file other _ content := by
    rw [get?_put (by simp [h])]
    split
    · next heq => simp [heq, h]
    · exact Iff.rfl

/-- A tree with the directories and files of another one, and with the same file where a path leads,
if there is one. -/
structure Keeps (p : FilePath) (t u : Tree) : Prop where
  others : Extends [] t u
  read : ∀ content, u.read p = .ok content ↔ t.read p = .ok content

theorem Keeps.refl (p : FilePath) (t : Tree) : Keeps p t t :=
  ⟨.refl _ t, fun _ => Iff.rfl⟩

/-- A tree with some content where a path leads, and with the directories and the other files of
another one. -/
structure Rewrites (p : FilePath) (content : List UInt8) (t u : Tree) : Prop where
  read : u.read p = .ok content
  others : ∃ place, u.locate p = .ok place ∧ Extends [place] t u

namespace Rewrites

theorem of_extends (h : Rewrites p content u v) (hextends : Extends [] t u) :
    Rewrites p content t v := by
  obtain ⟨place, hlocate, hothers⟩ := h.others
  exact ⟨h.read, place, hlocate, hextends.weaken.trans hothers⟩

theorem trans (h : Rewrites p content t u) (h' : Rewrites p bytes u v) : Rewrites p bytes t v := by
  obtain ⟨place, hlocate, hothers⟩ := h.others
  obtain ⟨place', hlocate', hothers'⟩ := h'.others
  obtain rfl : place = place' := Except.ok.inj ((hothers'.locate hlocate).symm.trans hlocate')
  exact ⟨h'.read, place, hlocate', hothers.trans hothers'⟩

end Rewrites

theorem write_rewrites (h : t.write p content = .ok u) : Rewrites p content t u := by
  obtain ⟨place, hlocate, hfree, rfl⟩ := write_eq_ok.1 h
  have hextends := put_extends hfree content
  have hlocate' := hextends.locate hlocate
  refine ⟨read_eq_ok.2 ⟨place, hlocate', ?_⟩, place, hlocate', hextends⟩
  rw [get?_put hfree, if_pos rfl]

/-! ### Directories -/

theorem makeOne_extends (h : t.makeOne p = .ok u) : Extends [] t u := by
  rw [makeOne, bind_eq_ok] at h
  obtain ⟨place, -, h⟩ := h
  split at h
  · cases h
    exact .refl _ _
  · cases h
  · next hnone =>
    rw [bind_eq_ok] at h
    obtain ⟨-, -, h⟩ := h
    cases h
    exact put_directory_extends hnone

theorem run_revise (f : Tree → Except Failure Tree) (t : Tree) :
    (revise f).run t =
      match f t with
      | .ok u => (.ok (), u)
      | .error e => (.error e, t) := by
  rw [revise, Step.run_bind, Step.run_current]
  dsimp only
  rw [Step.run_bind, Step.run_ofOutcome]
  cases f t <;> rfl

theorem revise_keeps {P : Tree → Prop} {f : Tree → Except Failure Tree}
    (h : ∀ t u, P t → f t = .ok u → P u) : (revise f).Keeps P := by
  intro t ht
  rw [run_revise]
  split
  · next u hu => exact h t u ht hu
  · exact ht

theorem revise_keepsIfFails {P : Tree → Prop} (f : Tree → Except Failure Tree) :
    (revise f).KeepsIfFails P := by
  intro t e u ht hrun
  rw [run_revise] at hrun
  split at hrun
  · cases hrun
  · cases hrun
    exact ht

theorem makeUpTo_keeps (levels : Nat) (p : FilePath) :
    (makeUpTo levels p).Keeps (Extends [] t) := by
  have hone : ∀ p : FilePath, (revise (·.makeOne p)).Keeps (Extends [] t) := fun p =>
    revise_keeps fun _ _ hu hmade => hu.trans (makeOne_extends hmade)
  induction levels generalizing p with
  | zero => exact hone p
  | succ levels ih =>
    refine Step.keeps_current_bind fun u hu => ?_
    split
    · split
      · exact hu
      · exact (ih p.parent).bind (fun _ => hone p) u hu
    · next hother =>
      exact Step.keeps_outcome_bind hu fun v hv => hu.trans (makeOne_extends hv)

/-- Making directories keeps all files, also when it fails. -/
theorem makeDirectories_keeps (p : FilePath) : (makeDirectories p).Keeps (Extends [] t) :=
  makeUpTo_keeps _ p

theorem HasDirectory.makeOne (h : t.HasDirectory p) : t.makeOne p = .ok t := by
  obtain ⟨place, hlocate, hentry⟩ := h
  rw [Tree.makeOne, hlocate, ok_bind, hentry]

theorem HasDirectory.run_makeUpTo (h : t.HasDirectory p) (levels : Nat) :
    (makeUpTo levels p).run t = (.ok (), t) := by
  cases levels with
  | zero => rw [makeUpTo, run_revise, h.makeOne]
  | succ levels =>
    rw [makeUpTo, Step.run_bind, Step.run_current]
    dsimp only
    rw [h.makeOne]
    exact run_revise _ t

/-- A directory that cannot be made is missing in the end. -/
theorem not_hasDirectory_of_makeUpTo {levels : Nat} {e : Failure}
    (h : (makeUpTo levels p).run t = (.error e, u)) : ¬ u.HasDirectory p := by
  have hone : ∀ (p : FilePath) f v, f v = v.makeOne p → (revise f).run v = (.error e, u) →
      ¬ u.HasDirectory p := by
    intro p f v hf hrun hu
    rw [run_revise, hf] at hrun
    split at hrun
    · cases hrun
    · next hfails =>
      cases hrun
      cases hu.makeOne.symm.trans hfails
  induction levels generalizing p with
  | zero => exact hone p _ t rfl h
  | succ levels ih =>
    rw [makeUpTo, Step.run_bind, Step.run_current] at h
    dsimp only at h
    split at h
    · next hfails =>
      split at h
      · cases h
        intro hu
        cases hu.makeOne.symm.trans hfails
      · next hparts =>
        obtain habove | ⟨_, v, -, hlast⟩ := Step.run_bind_eq_error.1 h
        · rintro ⟨place, hlocate, -⟩
          exact ih habove (hasDirectory_parent hlocate hparts)
        · exact hone p _ v rfl hlast
    · exact hone p _ t rfl h

theorem hasDirectory_of_read (h : t.read p = .ok content) : t.HasDirectory p.parent := by
  obtain ⟨place, hlocate, hfile⟩ := read_eq_ok.1 h
  refine hasDirectory_parent hlocate fun hparts => ?_
  have hstart := (locate_eq_ok.1 hlocate).2
  rw [hparts] at hstart
  cases hstart
  cases hfile.symm.trans (get?_of_isPrefix (t.start_isPrefix p))

/-- A file that can be read can be opened. -/
theorem openAnew_of_read (h : t.read p = .ok content) :
    ∃ u, (openAnew p).run t = (.ok (), u) := by
  obtain ⟨u, hwrite⟩ := exists_write_of_read h []
  refine ⟨u, (Step.run_bind_of_ok ((hasDirectory_of_read h).run_makeUpTo _)).trans ?_⟩
  rw [run_revise, hwrite]

/-- A file that cannot be opened cannot be read in the end. -/
theorem not_read_of_openAnew {e : Failure} (h : (openAnew p).run t = (.error e, u)) :
    u.read p ≠ .ok content := by
  intro hread
  obtain hmade | ⟨_, v, -, hwrite⟩ := Step.run_bind_eq_error.1 h
  · exact not_hasDirectory_of_makeUpTo hmade (hasDirectory_of_read hread)
  · rw [run_revise] at hwrite
    split at hwrite
    · cases hwrite
    · next hfails =>
      cases hwrite
      obtain ⟨v, hok⟩ := exists_write_of_read hread []
      cases hok.symm.trans hfails

/-- A file that is opened is empty then, and one that cannot be opened is as it was. -/
theorem run_openAnew (t : Tree) (p : FilePath) :
    (∃ e u, (openAnew p).run t = (.error e, u) ∧ Keeps p t u) ∨
      ∃ u, (openAnew p).run t = (.ok (), u) ∧ Rewrites p [] t u := by
  rcases hrun : (openAnew p).run t with ⟨e | ⟨⟩, u⟩
  · have hkept := (makeDirectories_keeps p.parent).bind_keepsIfFails
      (fun _ => revise_keepsIfFails (·.write p [])) t e u (.refl _ t) hrun
    refine .inl ⟨e, u, rfl, hkept, fun content => ⟨fun h => ?_, fun h => ?_⟩⟩
    · exact absurd h (not_read_of_openAnew hrun)
    · obtain ⟨v, hok⟩ := openAnew_of_read h
      cases hok.symm.trans hrun
  · obtain ⟨⟨⟩, v, hmade, hwrite⟩ := Step.run_bind_eq_ok.1 hrun
    have hkept := makeDirectories_keeps p.parent t (.refl _ t)
    rw [hmade] at hkept
    rw [run_revise] at hwrite
    split at hwrite
    · next hwritten =>
      cases hwrite
      exact .inr ⟨u, rfl, (write_rewrites hwritten).of_extends hkept⟩
    · cases hwrite

end RegisterMap.Files.Tree
