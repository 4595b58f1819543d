import RegisterMap.Accessor.Device
import RegisterMap.Compile
import RegisterMap.Proofs.Accessor.Construction
import RegisterMap.Proofs.Analysis.WellFormed

/-!
# Devices made from descriptions

A description is analyzed, its code generated and loaded, and a device of the loaded class built.
What the class and the device then hold is said here once: a method for each accessor, the slots
and preserved bits of the registers, and the handles that the names of registers find.
-/

namespace RegisterMap

/-- Whether the names of a description's fields and registers are of plain letters. -/
def Description.isPlain (d : Description) : Bool :=
  d.fields.all fun f => Text.isAscii f.name && Text.isAscii f.path.last

/-- A model whose fields and registers have names of plain letters. -/
def Model.HasPlainNames (m : Model) : Prop :=
  ∀ f ∈ m.fields, Text.isAscii f.name = true ∧ Text.isAscii f.register = true

/-- A device that is made from a description, with the model that lies between them. -/
structure Device.Made [Machine] (decl : Description) (o : Options) (external : External) (m : Model)
    (d : Device) : Prop where
  analyzed : ∃ ns ns', (Analysis.analyze decl o.wordBits external).run ns = (.ok m, ns')
  compiled : Compile.code m o = .ok d.kind.code
  loaded : ∃ file, AccessorClass.load file d.kind.code = .ok d.kind
  constructed : ∃ checks, d.kind.construct checks d.base = .ok d

namespace AccessorClass

/-- What code is checked for before it becomes a class, and what the class consists of. -/
theorem load_eq_ok {file : String} {c : AccessorCode} {k : AccessorClass}
    (h : load file c = .ok k) : isValid c = true ∧
      k = ⟨c, constantsOf c, c.slots.map fun s => keptName c.className s.register, methodsOf c⟩ ∧
      ∀ name ∈ k.slots, name ∉ standardMembers ∧ k.constant? name = none ∧
        k.method? name = none := by
  unfold load at h
  split at h
  · cases h
  · split at h
    · cases h
    · split at h
      · cases h
      · split at h
        · cases h
        · next hv =>
          simp only at h
          split at h
          · cases h
          · next hs =>
            cases h
            refine ⟨by simpa using hv, rfl, fun name hn => ?_⟩
            have hfree := List.find?_eq_none.1 hs name hn
            simp only [List.contains_iff_mem, List.mem_append, not_or] at hfree
            simp only [constant?, method?]
            exact ⟨hfree.1.1, lookup_eq_none_of_not_mem hfree.1.2,
              lookup_eq_none_of_not_mem hfree.2⟩

end AccessorClass

namespace Compile

theorem code_eq_ok {m : Model} {o : Options} {c : AccessorCode} (h : code m o = .ok c) :
    o.wordBits = m.word.bits ∧ AccessorCode.checkMembers m = .ok () ∧
      c = AccessorCode.ofModel m o.className o.sourceName := by
  unfold code at h
  split at h
  · cases h
  · next hw =>
    split at h
    · cases h
    · next hc =>
      cases h
      exact ⟨by omega, hc, rfl⟩

end Compile

namespace AccessorCode

theorem map_name_methodsOf (m : Model) (f : Field) :
    (methodsOf m f).map (·.name) = f.accessorNames := by
  unfold methodsOf Field.accessorNames
  cases f.policy.readable <;> cases f.policy.writable <;> rfl

theorem map_name_methods (m : Model) :
    (m.fields.flatMap (methodsOf m)).map (·.name) = m.fields.flatMap Field.accessorNames := by
  rw [List.map_flatMap]
  exact List.flatMap_congr fun f _ => map_name_methodsOf m f

/-- The methods of plain names are kept as they are named. -/
theorem memberName_method {m : Model} (hp : m.HasPlainNames) (className : String) :
    ∀ b ∈ m.fields.flatMap (methodsOf m), AccessorClass.memberName className b.name = b.name := by
  intro b hb
  obtain ⟨f, hf, hbf⟩ := List.mem_flatMap.1 hb
  have hname : b.name ∈ f.accessorNames := by
    rw [← map_name_methodsOf m f]
    exact List.mem_map_of_mem hbf
  obtain ⟨hplain, hprivate⟩ := Field.isAscii_of_mem_accessorNames (hp f hf).1 hname
  rw [AccessorClass.memberName, Text.canonical_of_isAscii hplain,
    AccessorClass.keptName_of_not_isPrivate hprivate]

/-- No two methods of plain names are kept under one name. -/
theorem nodup_memberName_methods {m : Model} {t : ConstantTable} {decl : Description}
    (hm : m.WellFormed t decl) (hp : m.HasPlainNames) (className : String) :
    ((m.fields.flatMap (methodsOf m)).map
      fun b => AccessorClass.memberName className b.name).Nodup := by
  rw [List.map_congr_left (memberName_method hp className), map_name_methods]
  exact Field.accessorNames_nodup (Analysis.names_nodup hm.apart)

theorem getter_mem_methodsOf (m : Model) {f : Field} (h : f.policy.readable = true) :
    getter f ∈ methodsOf m f := by
  simp [methodsOf, h]

theorem setter_mem_methodsOf (m : Model) {f : Field} (h : f.policy.writable = true) :
    setter (capabilityFor m f) f ∈ methodsOf m f := by
  simp [methodsOf, h]

end AccessorCode

namespace Description

variable {decl : Description}

theorem isAscii_of_isPlain (hp : decl.isPlain = true) {t : ConstantTable} {m : Model}
    (hm : m.WellFormed t decl) : m.HasPlainNames := by
  intro f hf
  obtain ⟨e, he, hfe⟩ := exists_of_forall₂ hm.follows hf
  have hplain := List.all_eq_true.1 hp e he
  rw [Bool.and_eq_true] at hplain
  rw [hfe.name, hfe.register]
  exact ⟨hplain.1, Text.isAscii_lower hplain.2⟩

end Description

namespace Device.Made

variable [Machine] {decl : Description} {o : Options} {external : External} {m : Model} {d : Device}
  (hd : d.Made decl o external m)
include hd

theorem wellFormed : ∃ t, m.WellFormed t decl := by
  obtain ⟨_, _, h⟩ := hd.analyzed
  obtain ⟨t, _, -, -, hm⟩ := Analysis.wellFormed_of_analyze h
  exact ⟨t, hm⟩

theorem code_eq : d.kind.code = AccessorCode.ofModel m o.className o.sourceName :=
  (Compile.code_eq_ok hd.compiled).2.2

theorem methods_eq : d.kind.methods = AccessorClass.methodsOf d.kind.code := by
  obtain ⟨_, h⟩ := hd.loaded
  rw [(AccessorClass.load_eq_ok h).2.1]

theorem constants_eq : d.kind.constants = AccessorClass.constantsOf d.kind.code := by
  obtain ⟨_, h⟩ := hd.loaded
  rw [(AccessorClass.load_eq_ok h).2.1]

theorem slots_eq : d.kind.slots =
    d.kind.code.slots.map fun s => AccessorClass.keptName d.kind.code.className s.register := by
  obtain ⟨_, h⟩ := hd.loaded
  rw [(AccessorClass.load_eq_ok h).2.1]

theorem word_eq : d.kind.code.word = m.word := by
  rw [hd.code_eq]
  rfl

/-- Registers have no negative offsets, as those could not be loaded. -/
theorem offset_nonneg {r : Register} (hr : r ∈ m.registers) : 0 ≤ r.offset := by
  obtain ⟨_, h⟩ := hd.loaded
  have hv := (AccessorClass.load_eq_ok h).1
  simp only [AccessorClass.isValid, Bool.and_eq_true, List.all_eq_true] at hv
  have hl := hv.2 (.hex 4 r.offset) (by
    rw [AccessorClass.literals, hd.code_eq]
    simp only [AccessorCode.ofModel, List.map_map, List.mem_append, List.mem_map,
      Function.comp_apply]
    exact .inl (.inr ⟨r, hr, rfl⟩))
  simpa [Literal.isLoadable] using hl

theorem slot_mem {r : Register} (hr : r ∈ m.registers) :
    ⟨r.name, r.capability, .hex 4 r.offset⟩ ∈ d.kind.code.slots := by
  rw [hd.code_eq]
  exact List.mem_map_of_mem hr

theorem handles_eq : d.handles = d.kind.handles d.base d.kind.code.slots [] := by
  obtain ⟨_, h⟩ := hd.constructed
  exact congrArg Device.handles (AccessorClass.construct_eq_ok.1 h).2.2.2

/-- The name of a register finds the handle of some register that is kept under the same name. -/
theorem exists_ownHandle {r : Register} (hr : r ∈ m.registers) : ∃ s ∈ m.registers,
    AccessorClass.memberName o.className s.name = AccessorClass.memberName o.className r.name ∧
      d.ownHandle r.name = .ok ⟨s.capability, d.base + s.offset, s.offset, m.word⟩ := by
  have hclass : d.kind.code.className = o.className := by rw [hd.code_eq]; rfl
  obtain ⟨slot, hslot, hkey, hfound⟩ := AccessorClass.exists_lookup_foldl_bind
    d.kind.slotName (d.kind.handleOf d.base) (hd.slot_mem hr) []
  have hslots : d.kind.code.slots =
      m.registers.map fun r => ⟨r.name, r.capability, .hex 4 r.offset⟩ := by
    rw [hd.code_eq]
    rfl
  obtain ⟨s, hs, rfl⟩ := List.mem_map.1 (hslots ▸ hslot)
  refine ⟨s, hs, by simpa [AccessorClass.slotName, hclass] using hkey, ?_⟩
  have hlookup : d.handles.lookup (AccessorClass.memberName d.kind.code.className r.name) =
      some ⟨s.capability, d.base + s.offset, s.offset, m.word⟩ := by
    rw [hd.handles_eq, ← hd.word_eq]
    exact hfound
  rw [Device.ownHandle, hlookup]

theorem payload_eq {r : Register} (hr : r ∈ m.registers) {h : Handle}
    (hh : d.ownHandle r.name = .ok h) : h.payload = m.word := by
  obtain ⟨s, -, -, hs⟩ := hd.exists_ownHandle hr
  cases hs.symm.trans hh
  rfl

/-- The preserved bits of a register are those of some register whose constant is kept under the
same name. -/
theorem exists_preserved {r : Register} (hr : r ∈ m.registers) : ∃ s ∈ m.registers,
    AccessorClass.memberName o.className s.maskConstant =
      AccessorClass.memberName o.className r.maskConstant ∧
      d.preserved r.name = .ok (s.preserve : Int) := by
  have hclass : d.kind.code.className = o.className := by rw [hd.code_eq]; rfl
  have hmask : (r.maskConstant, ConstantValue.number r.preserve) ∈
      d.kind.code.maskConstants.map fun c => (c.1, ConstantValue.number c.2.value) := by
    rw [hd.code_eq]
    simp only [AccessorCode.ofModel, List.map_map]
    exact List.mem_map_of_mem hr
  obtain ⟨c, hc, hkey, hfound⟩ := AccessorClass.exists_lookup_foldl_bind
    (fun c : String × ConstantValue => AccessorClass.memberName d.kind.code.className c.1)
    (fun c : String × ConstantValue => c.2) hmask
      ((([(AccessorClass.portsName, ConstantValue.ports (d.kind.code.ports.map (·.value))),
        (AccessorClass.offsetsName, .offsets (d.kind.code.offsets.map fun o => (o.1, o.2.value)))] :
        List (String × ConstantValue)) ++
        d.kind.code.fieldConstants.map fun c => (c.1, ConstantValue.number c.2.value)).foldl
        (fun known c => AccessorClass.bind known
          (AccessorClass.memberName d.kind.code.className c.1) c.2) [])
  have hmasks : (d.kind.code.maskConstants.map fun c => (c.1, ConstantValue.number c.2.value)) =
      m.registers.map fun r => (r.maskConstant, ConstantValue.number r.preserve) := by
    rw [hd.code_eq]
    simp only [AccessorCode.ofModel, List.map_map]
    rfl
  obtain ⟨s, hs, rfl⟩ := List.mem_map.1 (hmasks ▸ hc)
  refine ⟨s, hs, by simpa only [hclass] using hkey, ?_⟩
  have hlookup : d.kind.constant?
      (AccessorClass.memberName d.kind.code.className (maskConstantOf r.name)) =
      some (.number s.preserve) := by
    rw [AccessorClass.constant?, hd.constants_eq, AccessorClass.constantsOf, AccessorClass.bindAll,
      List.map_append, ← List.append_assoc, List.foldl_append]
    exact hfound
  rw [Device.preserved, hlookup]

/-- A name finds a handle exactly when the class has a slot for it. -/
theorem lookup_handles_of_isAscii (hascii : ∀ r ∈ m.registers, Text.isAscii r.name = true)
    {n : String} : d.handles.lookup n = none ↔ d.kind.claims n = false := by
  have hslots : ∀ s ∈ d.kind.code.slots, Text.isAscii s.register = true := by
    intro s hs
    rw [hd.code_eq] at hs
    obtain ⟨r, hr, rfl⟩ := List.mem_map.1 hs
    exact hascii r hr
  rw [hd.handles_eq, AccessorClass.handles, AccessorClass.lookup_foldl_bind_eq_none,
    AccessorClass.claims, hd.slots_eq, ← Bool.not_eq_true, List.contains_iff_mem, List.mem_map]
  constructor
  · rintro h ⟨s, hs, hn⟩
    refine h s hs ?_
    rw [AccessorClass.slotName, AccessorClass.memberName, Text.canonical_of_isAscii (hslots s hs)]
    exact hn
  · intro h s hs hn
    refine h ⟨s, hs, ?_⟩
    rwa [AccessorClass.slotName, AccessorClass.memberName,
      Text.canonical_of_isAscii (hslots s hs)] at hn

section Plain

variable (hp : decl.isPlain = true)
include hp

theorem method?_eq {f : Field} (hf : f ∈ m.fields) {a : Method}
    (ha : a ∈ AccessorCode.methodsOf m f) : d.kind.method? a.name = some a := by
  obtain ⟨t, hm⟩ := hd.wellFormed
  have hplain := Description.isAscii_of_isPlain hp hm
  have hmem : a ∈ m.fields.flatMap (AccessorCode.methodsOf m) := List.mem_flatMap.2 ⟨f, hf, ha⟩
  have hfound := AccessorClass.lookup_foldl_bind_of_nodup _ id
    (AccessorCode.nodup_memberName_methods hm hplain o.className) hmem []
  rw [AccessorCode.memberName_method hplain o.className a hmem] at hfound
  rw [AccessorClass.method?, hd.methods_eq, hd.code_eq, AccessorClass.methodsOf,
    AccessorClass.bindAll, List.foldl_map]
  exact hfound

theorem isAscii_register {r : Register} (hr : r ∈ m.registers) : Text.isAscii r.name = true := by
  obtain ⟨t, hm⟩ := hd.wellFormed
  obtain ⟨f, hf, hreg⟩ := (hm.gathers r hr).inhabited
  exact hreg ▸ (Description.isAscii_of_isPlain hp hm f hf).2

theorem lookup_handles_eq_none {n : String} :
    d.handles.lookup n = none ↔ d.kind.claims n = false :=
  hd.lookup_handles_of_isAscii fun _ hr => hd.isAscii_register hp hr

/-- An accessor is found on the device, unless a register has taken the name of the lookup. -/
theorem member_eq (hc : d.kind.claims "__getattribute__" = false) {f : Field} (hf : f ∈ m.fields)
    {a : Method} (ha : a ∈ AccessorCode.methodsOf m f) : d.member a.name = .ok (.method a) := by
  have hmethod := hd.method?_eq hp hf ha
  have hfree : d.handles.lookup a.name = none := by
    rw [hd.lookup_handles_eq_none hp, AccessorClass.claims, ← Bool.not_eq_true,
      List.contains_iff_mem]
    intro hmem
    obtain ⟨_, h⟩ := hd.loaded
    rw [((AccessorClass.load_eq_ok h).2.2 _ hmem).2.2] at hmethod
    cases hmethod
  rw [Device.member, (hd.lookup_handles_eq_none hp).2 hc, hfree, hmethod]

theorem member_eq_error (hc : d.kind.claims "__getattribute__" = true) (n : String) :
    ∃ e, d.member n = .error e := by
  obtain ⟨h, hh⟩ : ∃ h, d.handles.lookup "__getattribute__" = some h := by
    rw [← Option.ne_none_iff_exists']
    intro hnone
    rw [hd.lookup_handles_eq_none hp, hc] at hnone
    cases hnone
  rw [Device.member, hh]
  exact ⟨_, rfl⟩

end Plain

end Device.Made

end RegisterMap
