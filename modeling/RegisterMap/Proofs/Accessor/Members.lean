import Mathlib.Data.List.Nodup
import RegisterMap.Accessor.Load
import RegisterMap.Accessor.Name
import RegisterMap.Proofs.Text.Ascii

/-!
# Members by name

What a name finds among members that were bound in order, and which names the accessors of fields
have: they differ for fields of different names, and none of them is private.
-/

namespace RegisterMap

namespace AccessorClass

section Binding

variable {α γ : Type}

/-- Binding a name changes what this name finds and nothing else. -/
theorem lookup_bind (members : List (String × α)) (name n : String) (value : α) :
    (bind members name value).lookup n = if n = name then some value else members.lookup n := by
  rw [bind, List.lookup_append]
  by_cases h : n = name
  · have hnone : (members.filter (·.1 != name)).lookup n = none := by
      rw [List.lookup_eq_none_iff]
      intro m hm
      have hne : m.1 ≠ name := by simpa using (List.mem_filter.1 hm).2
      exact bne_iff_ne.2 (h ▸ hne.symm)
    rw [hnone, if_pos h, Option.none_or, h, List.lookup_cons_self]
  · have hsame : (members.filter (·.1 != name)).lookup n = members.lookup n := by
      induction members with
      | nil => rfl
      | cons m members ih =>
        by_cases hm : m.1 = name
        · have hne : (n == m.1) = false := by simpa [hm] using h
          rw [List.filter_cons_of_neg (by simpa using hm), ih, List.lookup_cons, hne]
        · rw [List.filter_cons_of_pos (by simpa using hm), List.lookup_cons, List.lookup_cons, ih]
    have hsingle : [(name, value)].lookup n = none := by simp [h]
    rw [hsame, if_neg h, hsingle, Option.or_none]

variable (key : γ → String) (value : γ → α)

/-- A name finds the last member that was bound to it. -/
theorem lookup_foldl_bind (xs : List γ) (known : List (String × α)) (n : String) :
    (xs.foldl (fun known x => bind known (key x) (value x)) known).lookup n =
      ((xs.reverse.find? (key · == n)).map value).or (known.lookup n) := by
  induction xs generalizing known with
  | nil => rfl
  | cons x xs ih =>
    rw [List.foldl_cons, ih, lookup_bind, List.reverse_cons, List.find?_append]
    cases xs.reverse.find? (key · == n) with
    | some y => rfl
    | none =>
      by_cases h : n = key x
      · simp [h]
      · have hne : (key x == n) = false := by simpa using Ne.symm h
        simp [h, hne]

/-- The name of a member finds some member of this name. -/
theorem exists_lookup_foldl_bind {xs : List γ} {x : γ} (hx : x ∈ xs) (known : List (String × α)) :
    ∃ y ∈ xs, key y = key x ∧
      (xs.foldl (fun known x => bind known (key x) (value x)) known).lookup (key x) =
        some (value y) := by
  obtain ⟨y, hy⟩ : ∃ y, xs.reverse.find? (key · == key x) = some y := by
    rw [← Option.isSome_iff_exists, List.find?_isSome]
    exact ⟨x, by simpa using hx, by simp⟩
  refine ⟨y, by simpa using List.mem_of_find?_eq_some hy, by simpa using List.find?_some hy, ?_⟩
  rw [lookup_foldl_bind, hy]
  rfl

/-- Members with names of their own are found by them, whatever was bound before. -/
theorem lookup_foldl_bind_of_nodup {xs : List γ} (h : (xs.map key).Nodup) {x : γ} (hx : x ∈ xs)
    (known : List (String × α)) :
    (xs.foldl (fun known x => bind known (key x) (value x)) known).lookup (key x) =
      some (value x) := by
  obtain ⟨y, hy, hkey, hfound⟩ := exists_lookup_foldl_bind key value hx known
  rw [hfound, List.inj_on_of_nodup_map h hy hx hkey]

/-- Members with names of their own stand in their order behind what was bound before. -/
theorem foldl_bind_of_nodup {xs : List γ} (h : (xs.map key).Nodup) (known : List (String × α))
    (hknown : ∀ x ∈ xs, key x ∉ known.map (·.1)) :
    xs.foldl (fun known x => bind known (key x) (value x)) known =
      known ++ xs.map fun x => (key x, value x) := by
  induction xs generalizing known with
  | nil => rw [List.foldl_nil, List.map_nil, List.append_nil]
  | cons x xs ih =>
    obtain ⟨hx, hxs⟩ := List.nodup_cons.1 h
    obtain ⟨hnew, hknown⟩ := List.forall_mem_cons.1 hknown
    have hbind : bind known (key x) (value x) = known ++ [(key x, value x)] := by
      rw [bind, List.filter_eq_self.2]
      intro m hm
      exact bne_iff_ne.2 fun he => hnew (he ▸ List.mem_map_of_mem hm)
    rw [List.foldl_cons, hbind, ih hxs, List.append_assoc]
    · rfl
    · intro y hy hmem
      rw [List.map_append, List.mem_append, List.map_singleton, List.mem_singleton] at hmem
      obtain hmem | hmem := hmem
      · exact hknown y hy hmem
      · have hkey : key y = key x := hmem
        exact hx (hkey ▸ List.mem_map_of_mem hy)

theorem lookup_foldl_bind_eq_none {xs : List γ} {n : String} :
    (xs.foldl (fun known x => bind known (key x) (value x)) []).lookup n = none ↔
      ∀ x ∈ xs, key x ≠ n := by
  rw [lookup_foldl_bind]
  simp

end Binding

theorem isPrivate_of_head? {name : String} {c : Char} (h : name.toList.head? = some c)
    (hc : c ≠ '_') : isPrivate name = false := by
  have hlist : "__".toList = ['_', '_'] := rfl
  obtain ⟨cs, hcs⟩ := List.head?_eq_some_iff.1 h
  have hne : ('_' == c) = false := beq_false_of_ne hc.symm
  rw [isPrivate, hlist, hcs, List.isPrefixOf, hne]
  rfl

theorem keptName_of_not_isPrivate {className name : String} (h : isPrivate name = false) :
    keptName className name = name := by
  rw [keptName, h]
  rfl

end AccessorClass

namespace Field

theorem head?_append {front : String} {c : Char} (h : front.toList.head? = some c)
    (rest : String) : (front ++ rest).toList.head? = some c := by
  rw [String.toList_append, List.head?_append, h]
  rfl

theorem head?_getterName (f : Field) :
    f.getterName.toList.head? = some 'g' ∨ f.getterName.toList.head? = some 'i' := by
  unfold getterName
  split
  · exact .inr (head?_append (head?_append rfl _) _)
  · exact .inr (head?_append (head?_append rfl _) _)
  · exact .inl (head?_append rfl _)

theorem head?_setterName (f : Field) : f.setterName.toList.head? = some 'c' ∨
    f.setterName.toList.head? = some 'a' ∨ f.setterName.toList.head? = some 's' := by
  unfold setterName
  split
  · exact .inl (head?_append rfl _)
  · exact .inr (.inl (head?_append rfl _))
  · exact .inr (.inr (head?_append rfl _))

theorem isPrivate_getterName (f : Field) : AccessorClass.isPrivate f.getterName = false := by
  rcases f.head?_getterName with h | h <;> exact AccessorClass.isPrivate_of_head? h (by decide)

theorem isPrivate_setterName (f : Field) : AccessorClass.isPrivate f.setterName = false := by
  rcases f.head?_setterName with h | h | h <;> exact AccessorClass.isPrivate_of_head? h (by decide)

theorem getterName_ne_setterName (f g : Field) : f.getterName ≠ g.setterName := by
  intro h
  rcases f.head?_getterName with hf | hf <;> rcases g.head?_setterName with hg | hg | hg <;>
    rw [h, hg] at hf <;> exact absurd hf (by decide)

theorem ne_of_head? {s t : String} {c e : Char} (hs : s.toList.head? = some c)
    (ht : t.toList.head? = some e) (hne : c ≠ e) : s ≠ t := by
  rintro rfl
  exact hne (Option.some.inj (hs.symm.trans ht))

theorem ne_of_getLast? {front rest front' rest' : String} {c e : Char}
    (h : rest.toList.getLast? = some c) (h' : rest'.toList.getLast? = some e) (hne : c ≠ e) :
    front ++ rest ≠ front' ++ rest' := by
  intro heq
  have hlist := congrArg (fun s : String => s.toList.getLast?) heq
  simp only [String.toList_append, List.getLast?_append, h, h', Option.some_or] at hlist
  exact hne (Option.some.inj hlist)

theorem name_eq_of_getterName_eq {f g : Field} (h : f.getterName = g.getterName) :
    f.name = g.name := by
  -- the policies of the two fields, and names of different shapes when they differ
  unfold getterName at h
  split at h <;> split at h
  · exact (String.append_right_inj _).1 ((String.append_left_inj _).1 h)
  · exact absurd h (ne_of_getLast? (c := 'e') (e := 'g') rfl rfl (by decide))
  · exact absurd h (ne_of_head? (head?_append (head?_append (c := 'i') rfl _) _)
      (head?_append (c := 'g') rfl _) (by decide))
  · exact absurd h (ne_of_getLast? (c := 'g') (e := 'e') rfl rfl (by decide))
  · exact (String.append_right_inj _).1 ((String.append_left_inj _).1 h)
  · exact absurd h (ne_of_head? (head?_append (head?_append (c := 'i') rfl _) _)
      (head?_append (c := 'g') rfl _) (by decide))
  · exact absurd h (ne_of_head? (head?_append (c := 'g') rfl _)
      (head?_append (head?_append (c := 'i') rfl _) _) (by decide))
  · exact absurd h (ne_of_head? (head?_append (c := 'g') rfl _)
      (head?_append (head?_append (c := 'i') rfl _) _) (by decide))
  · exact (String.append_right_inj _).1 h

theorem name_eq_of_setterName_eq {f g : Field} (h : f.setterName = g.setterName) :
    f.name = g.name := by
  have hclear : ∀ name, ("clear_" ++ name).toList.head? = some 'c' := head?_append rfl
  have hactivate : ∀ name, ("activate_" ++ name).toList.head? = some 'a' := head?_append rfl
  have hset : ∀ name, ("set_" ++ name).toList.head? = some 's' := head?_append rfl
  unfold setterName at h
  split at h <;> split at h
  · exact (String.append_right_inj _).1 h
  · exact absurd h (ne_of_head? (hclear _) (hactivate _) (by decide))
  · exact absurd h (ne_of_head? (hclear _) (hset _) (by decide))
  · exact absurd h (ne_of_head? (hactivate _) (hclear _) (by decide))
  · exact (String.append_right_inj _).1 h
  · exact absurd h (ne_of_head? (hactivate _) (hset _) (by decide))
  · exact absurd h (ne_of_head? (hset _) (hclear _) (by decide))
  · exact absurd h (ne_of_head? (hset _) (hactivate _) (by decide))
  · exact (String.append_right_inj _).1 h

theorem eq_of_mem_accessorNames {f : Field} {name : String} (h : name ∈ f.accessorNames) :
    name = f.getterName ∨ name = f.setterName := by
  rcases List.mem_append.1 h with h | h
  · exact .inl (by split at h <;> simp_all)
  · exact .inr (by split at h <;> simp_all)

/-- The letters that accessors start with. -/
theorem exists_head?_accessor {f : Field} {name : String} (h : name ∈ f.accessorNames) :
    ∃ c ∈ ['g', 'i', 'c', 'a', 's'], name.toList.head? = some c := by
  rcases eq_of_mem_accessorNames h with rfl | rfl
  · rcases f.head?_getterName with hf | hf <;> exact ⟨_, by decide, hf⟩
  · rcases f.head?_setterName with hf | hf | hf <;> exact ⟨_, by decide, hf⟩

/-- A name without small letters is no accessor. -/
theorem ne_of_hasNoSmall {n : String} (hn : Text.hasNoSmall n = true) {f : Field} {name : String}
    (h : name ∈ f.accessorNames) : n ≠ name := by
  have hsmall : ['g', 'i', 'c', 'a', 's'].all Char.isLower = true := by decide
  obtain ⟨c, hc, hhead⟩ := exists_head?_accessor h
  rintro rfl
  have hlower := Text.hasNoSmall_iff.1 hn c (List.mem_of_mem_head? hhead)
  rw [List.all_eq_true.1 hsmall c hc] at hlower
  cases hlower

theorem accessorNames_nodup {fields : List Field} (h : (fields.map (·.name)).Nodup) :
    (fields.flatMap accessorNames).Nodup := by
  rw [List.nodup_flatMap]
  constructor
  · intro f _
    have hne := getterName_ne_setterName f f
    unfold accessorNames
    split <;> split <;> simp [hne]
  · refine (List.pairwise_map.1 h).imp fun {f g} hne => ?_
    intro name hf hg
    rcases eq_of_mem_accessorNames hf with rfl | rfl <;>
      rcases eq_of_mem_accessorNames hg with he | he
    · exact hne (name_eq_of_getterName_eq he)
    · exact getterName_ne_setterName f g he
    · exact getterName_ne_setterName g f he.symm
    · exact hne (name_eq_of_setterName_eq he)

theorem isAscii_getterName {f : Field} (h : Text.isAscii f.name = true) :
    Text.isAscii f.getterName = true := by
  unfold getterName
  split <;> simp only [Text.isAscii_append, h] <;> rfl

theorem isAscii_setterName {f : Field} (h : Text.isAscii f.name = true) :
    Text.isAscii f.setterName = true := by
  unfold setterName
  split <;> simp only [Text.isAscii_append, h] <;> rfl

theorem isAscii_of_mem_accessorNames {f : Field} (h : Text.isAscii f.name = true) {name : String}
    (hn : name ∈ f.accessorNames) : Text.isAscii name = true ∧
      AccessorClass.isPrivate name = false := by
  rcases eq_of_mem_accessorNames hn with rfl | rfl
  · exact ⟨isAscii_getterName h, isPrivate_getterName f⟩
  · exact ⟨isAscii_setterName h, isPrivate_setterName f⟩

end Field

end RegisterMap
