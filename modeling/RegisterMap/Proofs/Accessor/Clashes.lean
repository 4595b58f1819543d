import RegisterMap.Proofs.Accessor.Exact
import RegisterMap.Proofs.Text.Endings
import RegisterMap.Proofs.Text.Strip

/-!
# Names that clash

A class keeps a slot and a mask for each register, beside the names that every class has and those
of its constants and accessors. Which of these names can clash is told here for names of all
scripts: a kept constant ends in a plain capital and a kept slot does not, so that slots and
constants never clash, and most constants differ in their last letter. What is left are the names
with a meaning of their own, names that are one when they are kept, and the few constants and
accessors that a mask may be taken for.
-/

namespace RegisterMap

namespace AccessorClass

/-- The name of a class without the underscores in front. -/
def owner (className : String) : List Char :=
  (Text.canonical className).toList.dropWhile (· == '_')

/-- A name is kept as it is, or it is private and kept with its owner in front. -/
theorem keptName_eq_or (className name : String) : keptName className name = name ∨
    isPrivate name = true ∧ owner className ≠ [] ∧
      keptName className name = String.ofList ('_' :: owner className) ++ name := by
  unfold keptName
  dsimp only
  split
  · next h =>
    rw [Bool.and_eq_true, Bool.not_eq_true', List.isEmpty_eq_false_iff] at h
    exact .inr ⟨h.1, h.2, rfl⟩
  · exact .inl rfl

/-- A name is kept with nothing behind it. -/
theorem exists_keptName_eq (className name : String) :
    ∃ front, keptName className name = front ++ name := by
  rcases keptName_eq_or className name with h | ⟨-, -, h⟩
  · exact ⟨"", h.trans String.empty_append.symm⟩
  · exact ⟨_, h⟩

theorem getLast?_keptName {className name : String} {c : Char}
    (h : name.toList.getLast? = some c) :
    (keptName className name).toList.getLast? = some c := by
  obtain ⟨front, hfront⟩ := exists_keptName_eq className name
  rw [hfront, String.toList_append, List.getLast?_append, h]
  rfl

/-- A plain ending stays what it is when a name is kept. -/
theorem getLast?_memberName {ending : String} (h : Text.isAscii ending = true) {c : Char}
    (hc : ending.toList.getLast? = some c) (className front : String) :
    (memberName className (front ++ ending)).toList.getLast? = some c := by
  refine getLast?_keptName ?_
  rw [Text.canonical_append h, String.toList_append, List.getLast?_append, hc]
  rfl

theorem ne_of_getLast? {s t : String} {c e : Char} (hs : s.toList.getLast? = some c)
    (ht : t.toList.getLast? = some e) (hne : c ≠ e) : s ≠ t := by
  rintro rfl
  exact hne (Option.some.inj (hs.symm.trans ht))

/-- A private name is kept with another character than an underscore in its second place. -/
theorem keptName_cases (className name : String) : keptName className name = name ∨
    isPrivate name = true ∧
      ∃ c cs, c ≠ '_' ∧ (keptName className name).toList = '_' :: c :: cs := by
  rcases keptName_eq_or className name with h | ⟨hprivate, howner, h⟩
  · exact .inl h
  · obtain ⟨c, cs, hcs⟩ := List.exists_cons_of_ne_nil howner
    have hc := Text.head_dropWhile (p := (· == '_')) (Text.canonical className).toList c
      (by rw [owner] at hcs; rw [hcs]; rfl)
    refine .inr ⟨hprivate, c, cs ++ name.toList, by simpa using hc, ?_⟩
    rw [h, hcs, String.toList_append, String.toList_ofList]
    rfl

/-- A name that is not private and does not look like a kept one is kept for itself alone. -/
theorem keptName_eq_iff (className name : String) {n : String} (hn : isPrivate n = false)
    (hsecond : ∀ c cs, n.toList = '_' :: c :: cs → c = '_') :
    keptName className name = n ↔ name = n := by
  rcases keptName_cases className name with h | ⟨hp, c, cs, hc, h⟩
  · rw [h]
  · constructor
    · rintro rfl
      exact absurd (hsecond c cs h) hc
    · rintro rfl
      rw [hn] at hp
      cases hp

end AccessorClass

namespace Text

/-- A name of plain letters that does not start with an underscore. -/
def isPublic (s : String) : Bool :=
  isAscii s && s.toList.head? != some '_'

theorem isPublic_iff {s : String} :
    isPublic s = true ↔ isAscii s = true ∧ s.toList.head? ≠ some '_' := by
  simp [isPublic]

theorem ne_of_isPublic {s n : String} (hs : isPublic s = true) (hn : n.toList.head? = some '_') :
    s ≠ n := by
  rintro rfl
  exact (isPublic_iff.1 hs).2 hn

theorem head?_upper_append {s : String} (h : isAscii s = true) {c : Char}
    (hc : s.toList.head? = some c) (t : String) :
    (upper s ++ t).toList.head? = some c.toUpper := by
  rw [String.toList_append, toList_upper h, List.head?_append, List.head?_map, hc]
  rfl

theorem isPublic_upper_append {s t : String} (hs : isPublic s = true) (hne : s.toList ≠ [])
    (ht : isAscii t = true) : isPublic (upper s ++ t) = true := by
  obtain ⟨hascii, hhead⟩ := isPublic_iff.1 hs
  obtain ⟨c, cs, hcs⟩ := List.exists_cons_of_ne_nil hne
  have hc : s.toList.head? = some c := by rw [hcs]; rfl
  have hlt : c.toNat < 0x80 := lt_of_isAscii hascii c (by simp [hcs])
  refine isPublic_iff.2 ⟨?_, ?_⟩
  · rw [isAscii_append, isAscii_upper hascii, ht]
    rfl
  · rw [head?_upper_append hascii hc]
    intro h
    exact toUpper_ne_underscore hlt (fun he => hhead (by rw [hc, he])) (Option.some.inj h)

theorem ne_nil_of_isIdentifier {s : String} (h : isIdentifier s = true) : s.toList ≠ [] := by
  intro hnil
  simp [isIdentifier, hnil] at h

end Text

namespace AccessorClass

theorem keptName_of_isPublic {s : String} (h : Text.isPublic s = true) (className : String) :
    keptName className s = s := by
  obtain ⟨-, hhead⟩ := Text.isPublic_iff.1 h
  cases hs : s.toList with
  | nil =>
    have hempty : s = "" := String.toList_inj.1 hs
    rw [hempty]
    rfl
  | cons c cs =>
    rw [hs] at hhead
    exact keptName_of_not_isPrivate
      (isPrivate_of_head? (by rw [hs]; rfl) (fun hc => hhead (by rw [hc]; rfl)))

theorem memberName_of_isPublic {s : String} (h : Text.isPublic s = true) (className : String) :
    memberName className s = s := by
  rw [memberName, Text.canonical_of_isAscii (Text.isPublic_iff.1 h).1, keptName_of_isPublic h]

end AccessorClass

namespace AccessorCode

open AccessorClass

/-- The names that every class has. -/
def commonNames : List String :=
  standardMembers ++ [portsName, offsetsName]

/-- The names of the slots, as the class keeps them. -/
def keptSlots (c : AccessorCode) : List String :=
  c.slots.map fun s => keptName c.className s.register

/-- The names of the preserved bits, as the class keeps them. -/
def keptMasks (c : AccessorCode) : List String :=
  c.maskConstants.map fun x => memberName c.className x.1

/-- The names of the constants and accessors of fields, as the class keeps them. -/
def keptFieldNames (c : AccessorCode) : List String :=
  c.fieldConstants.map (fun x => memberName c.className x.1)
    ++ c.methods.map fun a => memberName c.className a.name

/-- Code in which the names that registers give clash neither with each other nor with any other
name of the class. -/
structure Distinct (c : AccessorCode) : Prop where
  nodup : (c.keptSlots ++ c.keptMasks).Nodup
  aside : ∀ n ∈ c.keptSlots ++ c.keptMasks, n ∉ commonNames ++ c.keptFieldNames

theorem checkMembers_eq_ok {m : Model} :
    checkMembers m = .ok () ↔ ∀ r ∈ m.registers, r.name ∉ methodNames m := by
  unfold checkMembers
  cases h : m.registers.find? fun r => (methodNames m).contains r.name with
  | none => simpa using h
  | some r =>
    have hr := List.find?_some h
    rw [List.contains_iff_mem] at hr
    exact ⟨nofun, fun hall => absurd hr (hall r (List.mem_of_find?_eq_some h))⟩

end AccessorCode

open AccessorClass

/-- The names with two underscores on both sides that a class gives a meaning of its own. -/
def specialNames : List String :=
  ["__module__", "__doc__", "__slots__", "__init__"]

theorem not_mem_specialNames_of_isPublic {s : String} (h : Text.isPublic s = true) :
    s ∉ specialNames := by
  have hspecial : ∀ n ∈ specialNames, n.toList.head? = some '_' := by decide
  exact fun hs => Text.ne_of_isPublic h (hspecial s hs) rfl

/-- A model whose registers give names that stay apart in a class: none of them is special, no two
are kept as one, and no name of a register is kept as that of an accessor or of the mask of a
range. -/
structure Model.StaysApart (m : Model) (className : String) : Prop where
  special : ∀ r ∈ m.registers, r.name ∉ specialNames
  slots : (m.registers.map fun r => keptName className r.name).Nodup
  masks : (m.registers.map fun r => memberName className r.maskConstant).Nodup
  ranges : ∀ r ∈ m.registers, ∀ f ∈ m.fields, f.single = false →
    memberName className r.maskConstant ≠ memberName className (f.constantPrefix ++ "_MASK")
  accessors : ∀ r ∈ m.registers, ∀ f ∈ m.fields, ∀ n ∈ f.accessorNames,
    keptName className r.name ≠ memberName className n ∧
      memberName className r.maskConstant ≠ memberName className n

section Model

variable {m : Model} {t : ConstantTable} {decl : Description} (hm : m.WellFormed t decl)

section Endings

variable (className : String)

include hm in
theorem Model.WellFormed.exists_register_eq {r : Register} (hr : r ∈ m.registers) :
    ∃ last, r.name = Text.lower last := by
  obtain ⟨f, hf, hreg⟩ := (hm.gathers r hr).inhabited
  obtain ⟨e, he, hfe⟩ := exists_of_forall₂ hm.follows hf
  refine ⟨e.path.last, ?_⟩
  rw [← hreg, hfe.register]
  rfl

include hm in
/-- The name of a register is kept without a plain capital at its end. -/
theorem Model.WellFormed.exists_getLast?_slot {r : Register} (hr : r ∈ m.registers) :
    ∃ c, (keptName className r.name).toList.getLast? = some c ∧ Text.isCapital c = false := by
  obtain ⟨last, hname⟩ := hm.exists_register_eq hr
  have hne := Text.ne_nil_of_isIdentifier (hm.registers_usable r hr).1
  refine ⟨_, getLast?_keptName (List.getLast?_eq_some_getLast hne), ?_⟩
  exact Text.isCapital_lower last _ (hname ▸ List.getLast_mem hne)

theorem Register.getLast?_mask (r : Register) :
    (memberName className r.maskConstant).toList.getLast? = some 'K' :=
  getLast?_memberName rfl rfl className _

theorem Field.getLast?_constant {word : Bits.IntType} {f : Field} {x : String × Literal}
    (hx : x ∈ AccessorCode.constantsOf word f) :
    ∃ c, (memberName className x.1).toList.getLast? = some c ∧ Text.isCapital c = true ∧
      (c = 'K' → f.single = false ∧ x.1 = f.constantPrefix ++ "_MASK") := by
  unfold AccessorCode.constantsOf at hx
  dsimp only at hx
  split at hx
  · rw [List.mem_singleton.1 hx]
    exact ⟨'T', getLast?_memberName rfl rfl _ _, rfl, fun h => absurd h (by decide)⟩
  · next hs =>
    simp only [List.mem_cons, List.not_mem_nil, or_false] at hx
    rcases hx with rfl | rfl | rfl
    · exact ⟨'T', getLast?_memberName rfl rfl _ _, rfl, fun h => absurd h (by decide)⟩
    · exact ⟨'D', getLast?_memberName rfl rfl _ _, rfl, fun h => absurd h (by decide)⟩
    · exact ⟨'K', getLast?_memberName rfl rfl _ _, rfl, fun _ => ⟨by simpa using hs, rfl⟩⟩

end Endings

namespace AccessorCode

variable {className sourceName : String}

theorem keptSlots_ofModel : (ofModel m className sourceName).keptSlots =
    m.registers.map fun r => keptName className r.name := by
  simp only [keptSlots, ofModel, List.map_map, Function.comp_def]

theorem keptMasks_ofModel : (ofModel m className sourceName).keptMasks =
    m.registers.map fun r => memberName className r.maskConstant := by
  simp only [keptMasks, ofModel, List.map_map, Function.comp_def]

theorem mem_keptFieldNames {n : String} :
    n ∈ (ofModel m className sourceName).keptFieldNames ↔
      (∃ f ∈ m.fields, ∃ x ∈ constantsOf m.word f, memberName className x.1 = n) ∨
        ∃ f ∈ m.fields, ∃ a ∈ f.accessorNames, memberName className a = n := by
  have hmethods : ∀ f, (∃ a ∈ methodsOf m f, memberName className a.name = n) ↔
      ∃ a ∈ f.accessorNames, memberName className a = n := by
    intro f
    rw [← map_name_methodsOf m f]
    simp
  simp only [keptFieldNames, ofModel, List.mem_append, List.mem_map, List.mem_flatMap]
  constructor
  · rintro (⟨x, ⟨f, hf, hx⟩, hn⟩ | ⟨a, ⟨f, hf, ha⟩, hn⟩)
    · exact .inl ⟨f, hf, x, hx, hn⟩
    · exact .inr ⟨f, hf, (hmethods f).1 ⟨a, ha, hn⟩⟩
  · rintro (⟨f, hf, x, hx, hn⟩ | ⟨f, hf, h⟩)
    · exact .inl ⟨x, ⟨f, hf, hx⟩, hn⟩
    · obtain ⟨a, ha, hn⟩ := (hmethods f).2 h
      exact .inr ⟨a, ⟨f, hf, ha⟩, hn⟩

/-- A slot has a name that every class has only if its register has a special one. -/
theorem keptName_mem_commonNames (hm : m.WellFormed t decl) (hc : checkMembers m = .ok ())
    {r : Register} (hr : r ∈ m.registers) :
    keptName className r.name ∈ commonNames ↔ r.name ∈ specialNames := by
  have hnew : r.name ≠ "new" := fun h =>
    checkMembers_eq_ok.1 hc r hr (h ▸ List.mem_cons_self)
  obtain ⟨c, hlast, hcapital⟩ := hm.exists_getLast?_slot className hr
  have hconstant : ∀ n : String, n.toList.getLast? = some 'S' → keptName className r.name ≠ n :=
    fun n hn => ne_of_getLast? hlast hn (by rintro rfl; exact absurd hcapital (by decide))
  have hordinary : ∀ n ∈ "new" :: specialNames, isPrivate n = false ∧
      ∀ c cs, n.toList = '_' :: c :: cs → c = '_' := by
    intro n hn
    simp only [specialNames, List.mem_cons, List.not_mem_nil, or_false] at hn
    rcases hn with rfl | rfl | rfl | rfl | rfl <;> refine ⟨rfl, fun c cs h => ?_⟩ <;>
      cases h <;> rfl
  have hkept : ∀ n ∈ "new" :: specialNames, keptName className r.name = n ↔ r.name = n :=
    fun n hn => keptName_eq_iff className r.name (hordinary n hn).1 (hordinary n hn).2
  have hports := hconstant portsName rfl
  have hoffsets := hconstant offsetsName rfl
  simp only [specialNames, List.forall_mem_cons, List.not_mem_nil, false_imp_iff, implies_true,
    and_true] at hkept
  simp only [commonNames, standardMembers, specialNames, List.mem_append, List.mem_cons,
    List.not_mem_nil, or_false, hkept, hports, hoffsets, hnew]

theorem mask_not_mem_commonNames (className : String) (r : Register) :
    memberName className r.maskConstant ∉ commonNames := by
  have hlast := r.getLast?_mask className
  intro hmem
  simp only [commonNames, standardMembers, List.mem_append, List.mem_cons, List.not_mem_nil,
    or_false] at hmem
  rcases hmem with (h | h | h | h | h) | h | h <;> rw [h] at hlast <;>
    exact absurd hlast (by decide)

theorem distinct_of_staysApart (hm : m.WellFormed t decl) (hc : checkMembers m = .ok ())
    (ha : m.StaysApart className) : (ofModel m className sourceName).Distinct := by
  constructor
  · rw [keptSlots_ofModel, keptMasks_ofModel]
    refine List.nodup_append.2 ⟨ha.slots, ha.masks, ?_⟩
    intro n hn n' hn'
    obtain ⟨r, hr, rfl⟩ := List.mem_map.1 hn
    obtain ⟨s, -, rfl⟩ := List.mem_map.1 hn'
    obtain ⟨c, hlast, hcapital⟩ := hm.exists_getLast?_slot className hr
    exact ne_of_getLast? hlast (s.getLast?_mask className)
      (by rintro rfl; exact absurd hcapital (by decide))
  · rw [keptSlots_ofModel, keptMasks_ofModel]
    intro n hn hmem
    rcases List.mem_append.1 hn with hn | hn <;> obtain ⟨r, hr, rfl⟩ := List.mem_map.1 hn <;>
      rcases List.mem_append.1 hmem with hmem | hmem
    · exact ha.special r hr ((keptName_mem_commonNames hm hc hr).1 hmem)
    · rcases mem_keptFieldNames.1 hmem with ⟨f, hf, x, hx, hn⟩ | ⟨f, hf, a, hacc, hn⟩
      · obtain ⟨c, hlast, hcapital⟩ := hm.exists_getLast?_slot className hr
        obtain ⟨e, hlast', hcapital', -⟩ := Field.getLast?_constant className hx
        rw [hn, hlast] at hlast'
        cases hlast'
        rw [hcapital] at hcapital'
        cases hcapital'
      · exact (ha.accessors r hr f hf a hacc).1 hn.symm
    · exact mask_not_mem_commonNames className r hmem
    · rcases mem_keptFieldNames.1 hmem with ⟨f, hf, x, hx, hn⟩ | ⟨f, hf, a, hacc, hn⟩
      · obtain ⟨e, hlast, -, hmask⟩ := Field.getLast?_constant className hx
        rw [hn, r.getLast?_mask className] at hlast
        cases hlast
        obtain ⟨hs, hx⟩ := hmask rfl
        exact ha.ranges r hr f hf hs (hx ▸ hn.symm)
      · exact (ha.accessors r hr f hf a hacc).2 hn.symm

theorem staysApart_of_distinct (hm : m.WellFormed t decl) (hc : checkMembers m = .ok ())
    (hd : (ofModel m className sourceName).Distinct) : m.StaysApart className := by
  obtain ⟨hnodup, haside⟩ := hd
  rw [keptSlots_ofModel, keptMasks_ofModel] at hnodup haside
  have hslot : ∀ r ∈ m.registers, keptName className r.name ∉
      commonNames ++ (ofModel m className sourceName).keptFieldNames := fun r hr =>
    haside _ (List.mem_append_left _ (List.mem_map_of_mem hr))
  have hmask : ∀ r ∈ m.registers, memberName className r.maskConstant ∉
      commonNames ++ (ofModel m className sourceName).keptFieldNames := fun r hr =>
    haside _ (List.mem_append_right _ (List.mem_map_of_mem (f := fun r : Register =>
      memberName className r.maskConstant) hr))
  refine ⟨?_, (List.nodup_append.1 hnodup).1, (List.nodup_append.1 hnodup).2.1, ?_, ?_⟩
  · intro r hr hspecial
    exact hslot r hr (List.mem_append_left _
      ((keptName_mem_commonNames hm hc hr).2 hspecial))
  · intro r hr f hf hs he
    refine hmask r hr (List.mem_append_right _ (mem_keptFieldNames.2 (.inl
      ⟨f, hf, (f.constantPrefix ++ "_MASK", wordLiteral m.word f.mask), ?_, he.symm⟩)))
    simp [constantsOf, hs]
  · intro r hr f hf n hn
    constructor
    · intro he
      exact hslot r hr (List.mem_append_right _ (mem_keptFieldNames.2 (.inr
        ⟨f, hf, n, hn, he.symm⟩)))
    · intro he
      exact hmask r hr (List.mem_append_right _ (mem_keptFieldNames.2 (.inr
        ⟨f, hf, n, hn, he.symm⟩)))

end AccessorCode

section Plain

variable (hp : m.HasPlainNames)
include hm hp

theorem Model.WellFormed.isAscii_register {r : Register} (hr : r ∈ m.registers) :
    Text.isAscii r.name = true := by
  obtain ⟨f, hf, hreg⟩ := (hm.gathers r hr).inhabited
  exact hreg ▸ (hp f hf).2

/-- The name of a register has no capitals, so it comes back from that of its mask. -/
theorem Model.WellFormed.lower_upper_register {r : Register} (hr : r ∈ m.registers) :
    Text.lower (Text.upper r.name) = r.name := by
  obtain ⟨last, hname⟩ := hm.exists_register_eq hr
  refine Text.lower_upper (hm.isAscii_register hp hr) ?_
  rw [hname]
  exact Text.isCapital_lower last

theorem Model.WellFormed.maskConstants_nodup : (m.registers.map Register.maskConstant).Nodup := by
  refine List.Nodup.map_on ?_ (hm.registerNames_nodup.of_map _)
  intro r hr s hs he
  have hupper : Text.upper r.name = Text.upper s.name := (String.append_left_inj _).1 he
  refine List.inj_on_of_nodup_map hm.registerNames_nodup hr hs ?_
  rw [← hm.lower_upper_register hp hr, hupper, hm.lower_upper_register hp hs]

end Plain

/-- A model whose fields and registers have public names. -/
def Model.HasPublicNames (m : Model) : Prop :=
  ∀ f ∈ m.fields, Text.isPublic f.name = true ∧ Text.isPublic f.register = true

instance : Decidable m.HasPublicNames :=
  inferInstanceAs (Decidable (∀ f ∈ m.fields, _))

section Public

variable (hu : m.HasPublicNames)
include hm hu

theorem Model.WellFormed.isPublic_register {r : Register} (hr : r ∈ m.registers) :
    Text.isPublic r.name = true := by
  obtain ⟨f, hf, hreg⟩ := (hm.gathers r hr).inhabited
  exact hreg ▸ (hu f hf).2

theorem Model.WellFormed.isPublic_mask {r : Register} (hr : r ∈ m.registers) :
    Text.isPublic r.maskConstant = true :=
  Text.isPublic_upper_append (hm.isPublic_register hu hr)
    (Text.ne_nil_of_isIdentifier (hm.registers_usable r hr).1) rfl

theorem Model.WellFormed.isPublic_constant {f : Field} (hf : f ∈ m.fields) {ending : String}
    (he : Text.isAscii ending = true) : Text.isPublic (f.constantPrefix ++ ending) = true :=
  Text.isPublic_upper_append (hu f hf).1 (Text.ne_nil_of_isIdentifier (hm.usable f hf).1) he

omit hm in
theorem Model.HasPublicNames.hasPlainNames : m.HasPlainNames := fun f hf =>
  ⟨(Text.isPublic_iff.1 (hu f hf).1).1, (Text.isPublic_iff.1 (hu f hf).2).1⟩

omit hm in
theorem Model.HasPublicNames.isPublic_accessor {f : Field} (hf : f ∈ m.fields) {n : String}
    (hn : n ∈ f.accessorNames) : Text.isPublic n = true := by
  have hascii := Field.isAscii_of_mem_accessorNames (Text.isPublic_iff.1 (hu f hf).1).1 hn
  refine Text.isPublic_iff.2 ⟨hascii.1, ?_⟩
  rcases Field.eq_of_mem_accessorNames hn with rfl | rfl
  · rcases f.head?_getterName with h | h <;> rw [h] <;> decide
  · rcases f.head?_setterName with h | h | h <;> rw [h] <;> decide

/-- Public names stay apart. -/
theorem Model.WellFormed.staysApart (hc : AccessorCode.checkMembers m = .ok ())
    (className : String) : m.StaysApart className := by
  have hslot : ∀ r ∈ m.registers, keptName className r.name = r.name := fun r hr =>
    keptName_of_isPublic (hm.isPublic_register hu hr) className
  have hmask : ∀ r ∈ m.registers, memberName className r.maskConstant = r.maskConstant :=
    fun r hr => memberName_of_isPublic (hm.isPublic_mask hu hr) className
  refine ⟨?_, ?_, ?_, ?_, ?_⟩
  · exact fun r hr => not_mem_specialNames_of_isPublic (hm.isPublic_register hu hr)
  · rw [List.map_congr_left hslot]
    exact hm.registerNames_nodup
  · rw [List.map_congr_left hmask]
    exact hm.maskConstants_nodup hu.hasPlainNames
  · intro r hr f hf hs he
    rw [hmask r hr, memberName_of_isPublic (hm.isPublic_constant hu hf rfl)] at he
    exact (hm.registers_usable r hr).2.2 f hf hs he.symm
  · intro r hr f hf n hn
    rw [hslot r hr, hmask r hr, memberName_of_isPublic (hu.isPublic_accessor hf hn)]
    have hsmall : Text.hasNoSmall r.maskConstant = true :=
      Text.hasNoSmall_upper_append (hm.isAscii_register hu.hasPlainNames hr) rfl
    refine ⟨?_, Field.ne_of_hasNoSmall hsmall hn⟩
    rintro rfl
    exact AccessorCode.checkMembers_eq_ok.1 hc r hr
      (List.mem_cons_of_mem _ (List.mem_flatMap.2 ⟨f, hf, hn⟩))

end Public

end Model

section

variable [Machine]

/-- In code whose names are distinct a register finds its own preserved bits. -/
theorem Device.Made.preserved_eq {decl : Description} {o : Options} {external : External}
    {m : Model} {d : Device} (hd : d.Made decl o external m) (hdistinct : d.kind.code.Distinct)
    {r : Register} (hr : r ∈ m.registers) : d.preserved r.name = .ok (r.preserve : Int) := by
  have hmasks := (List.nodup_append.1 hdistinct.nodup).2.1
  rw [hd.code_eq, AccessorCode.keptMasks_ofModel] at hmasks
  obtain ⟨s, hs, hname, hk⟩ := hd.exists_preserved hr
  cases List.inj_on_of_nodup_map hmasks hs hr hname
  exact hk

namespace Compile

/-- Code is compiled for the model that the description is analyzed to. -/
theorem exists_compile_eq_ok {decl : Description} {o : Options} {external : External} {m : Model}
    {c : AccessorCode} {ns : List Notice} :
    (∃ ns', (compile decl o external).run ns = (.ok (m, c), ns')) ↔
      (∃ ns₁, (Analysis.analyze decl o.wordBits external).run ns = (.ok m, ns₁)) ∧
        code m o = .ok c := by
  constructor
  · rintro ⟨_, h⟩
    obtain ⟨_, ns₁, hm, h⟩ := Step.run_bind_eq_ok.1 h
    obtain ⟨_, _, hg, h⟩ := Step.run_bind_eq_ok.1 h
    cases h
    obtain ⟨_, _, hc, h⟩ := Step.run_bind_eq_ok.1 hg
    obtain ⟨_, _, -, h⟩ := Step.run_bind_eq_ok.1 h
    cases h
    exact ⟨⟨ns₁, hm⟩, (Step.run_ofOutcome_eq_ok.1 hc).1⟩
  · rintro ⟨⟨ns₁, hm⟩, hc⟩
    have hg : ∃ ns', (generate m o).run ns₁ = (.ok c, ns') := by
      unfold generate
      rw [hc]
      exact ⟨_, rfl⟩
    obtain ⟨ns', hg⟩ := hg
    exact ⟨ns', Step.run_bind_eq_ok.2 ⟨m, ns₁, hm,
      Step.run_bind_eq_ok.2 ⟨c, ns', hg, Step.run_pure _ _⟩⟩⟩

/-- The names that registers give clash with nothing in a class exactly when they stay apart, as
public names always do. Then each register finds its own preserved bits. -/
theorem distinct_iff_staysApart {decl : Description} {o : Options} {external : External}
    {m : Model} {c : AccessorCode} {ns ns' : List Notice}
    (h : (compile decl o external).run ns = (.ok (m, c), ns')) :
    (c.Distinct ↔ m.StaysApart o.className) ∧ (m.HasPublicNames → c.Distinct) ∧
      (c.Distinct → ∀ d : Device, d.Made decl o external m → ∀ r ∈ m.registers,
        d.preserved r.name = .ok (r.preserve : Int)) := by
  obtain ⟨⟨_, ha⟩, hcode⟩ := exists_compile_eq_ok.1 ⟨ns', h⟩
  obtain ⟨_, hc, rfl⟩ := code_eq_ok hcode
  obtain ⟨t, _, -, -, hm⟩ := Analysis.wellFormed_of_analyze ha
  refine ⟨⟨AccessorCode.staysApart_of_distinct hm hc,
    AccessorCode.distinct_of_staysApart hm hc⟩, ?_, ?_⟩
  · exact fun hu => AccessorCode.distinct_of_staysApart hm hc (hm.staysApart hu hc o.className)
  · intro hdistinct d hd r hr
    refine hd.preserved_eq ?_ hr
    rwa [hd.code_eq]

end Compile

end

namespace Compile

theorem exists_compile_timer : ∃ ns', (compile .timer .timer .none).run [] =
    (.ok (.timer, .ofModel .timer "Timer" "timer"), ns') :=
  exists_compile_eq_ok.2 ⟨⟨_, Analysis.analyze_timer⟩, Device.made_timer.compiled⟩

theorem distinct_timer : (AccessorCode.ofModel .timer "Timer" "timer").Distinct ∧
    ∀ r ∈ Model.timer.registers, Device.timer.preserved r.name = .ok (r.preserve : Int) := by
  obtain ⟨_, hcompile⟩ := exists_compile_timer
  obtain ⟨-, hpublic, hpreserved⟩ := distinct_iff_staysApart hcompile
  have hdistinct := hpublic (by decide)
  exact ⟨hdistinct, hpreserved hdistinct .timer Device.made_timer⟩

end Compile

end RegisterMap
