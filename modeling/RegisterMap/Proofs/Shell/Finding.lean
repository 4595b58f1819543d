import RegisterMap.Proofs.Accessor.Safe

/-!
# What a shell finds on a device

A shell looks registers up on the device by their names, from outside the class. Where no name
starts with two underscores, all names are kept as they are, so that each register is found under
its own name; the accessors find what they call when the class takes the name of no import.
-/

namespace RegisterMap

theorem AccessorClass.keptName_of_public {name : String} (h : ¬"__".toList <+: name.toList)
    (className : String) : keptName className name = name := by
  apply keptName_of_not_isPrivate
  rw [isPrivate, Bool.and_eq_false_iff]
  exact .inl (Bool.not_eq_true _ ▸ fun hstarts => h (List.isPrefixOf_iff_prefix.1 hstarts))

variable [Machine]

omit [Machine] in
theorem AccessorClass.memberName_of_public {name : String} (hascii : Text.isAscii name = true)
    (h : ¬"__".toList <+: name.toList) (className : String) : memberName className name = name := by
  rw [memberName, Text.canonical_of_isAscii hascii]
  exact keptName_of_public h className

namespace Device

variable {decl : Description} {o : Options} {external : External} {m : Model} {d : Device}
  (hd : d.Made decl o external m)
include hd

section Unmarked

variable (hascii : ∀ r ∈ m.registers, Text.isAscii r.name = true)
  (hu : ∀ r ∈ m.registers, ¬"__".toList <+: r.name.toList)
include hascii hu

theorem Made.lookup_of_unmarked {r : Register} (hr : r ∈ m.registers) :
    d.handles.lookup r.name = some ⟨r.capability, d.base + r.offset, r.offset, m.word⟩ := by
  obtain ⟨_, hm⟩ := hd.wellFormed
  have hclass : d.kind.code.className = o.className := by rw [hd.code_eq]; rfl
  obtain ⟨s, hs, hname, hh⟩ := hd.exists_ownHandle hr
  rw [AccessorClass.memberName_of_public (hascii r hr) (hu r hr),
    AccessorClass.memberName_of_public (hascii s hs) (hu s hs)] at hname
  cases List.inj_on_of_nodup_map hm.registerNames_nodup hs hr hname
  rw [ownHandle, hclass, AccessorClass.memberName_of_public (hascii r hr) (hu r hr)] at hh
  split at hh
  · next h hlookup =>
    cases hh
    exact hlookup
  · cases hh

/-- No register has the name of the look-up itself. -/
theorem Made.claims_of_unmarked : d.kind.claims "__getattribute__" = false := by
  rw [← hd.lookup_handles_of_isAscii hascii]
  by_contra hclaims
  rw [hd.lookup_handles_of_isAscii hascii, Bool.not_eq_false, AccessorClass.claims,
    List.contains_iff_mem, hd.slots_eq, hd.code_eq] at hclaims
  obtain ⟨s, hs, hname⟩ := List.mem_map.1 hclaims
  obtain ⟨r, hr, rfl⟩ := List.mem_map.1 hs
  rw [AccessorClass.keptName_of_public (hu r hr)] at hname
  exact hu r hr (hname ▸ by decide)

theorem Made.handle_of_unmarked {r : Register} (hr : r ∈ m.registers) :
    d.handle r.name = .ok ⟨r.capability, d.base + r.offset, r.offset, m.word⟩ := by
  have hnone := (hd.lookup_handles_of_isAscii hascii).2 (hd.claims_of_unmarked hascii hu)
  rw [handle, member, hnone, hd.lookup_of_unmarked hascii hu hr]
  rfl

end Unmarked

variable (hp : decl.isPlain = true) (hu : ∀ r ∈ m.registers, ¬"__".toList <+: r.name.toList)
include hp hu

theorem Made.handle_of_public {r : Register} (hr : r ∈ m.registers) :
    d.handle r.name = .ok ⟨r.capability, d.base + r.offset, r.offset, m.word⟩ :=
  hd.handle_of_unmarked (fun _ hr => hd.isAscii_register hp hr) hu hr

/-- The accessors find what they call. -/
theorem Made.able_of_public (hc : Text.canonical o.className ∉ d.kind.imported) : d.Able m where
  lookup := hd.claims_of_unmarked (fun _ hr => hd.isAscii_register hp hr) hu
  word := hd.hides_eq_false hc _
  primitives _ _ := hd.hides_eq_false hc _
  guard _ := hd.hides_eq_false hc _
  handles r hr := by
    have hascii : ∀ r ∈ m.registers, Text.isAscii r.name = true := fun _ hr =>
      hd.isAscii_register hp hr
    have hclass : d.kind.code.className = o.className := by rw [hd.code_eq]; rfl
    refine ⟨⟨r.capability, d.base + r.offset, r.offset, m.word⟩, ?_, id, id⟩
    rw [ownHandle, hclass, AccessorClass.memberName_of_public (hascii r hr) (hu r hr),
      hd.lookup_of_unmarked hascii hu hr]

end Device

end RegisterMap
