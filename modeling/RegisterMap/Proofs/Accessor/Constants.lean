import Mathlib.Data.List.Perm.Subperm
import RegisterMap.Proofs.Accessor.Emission

/-!
# Constants and accessors of a class

A class has one member for each name that its constants and accessors are kept with. The names of
plain models differ from each other and stay aside of all other names, and its accessors are kept as
they are named. A constant that starts with two underscores is kept with the name of the class in
front, and so may take the place of another constant. Main statement: the class has as many
constants and accessors as the model calls for, each found under its name, exactly when no constant
is kept under the name of another. Names with no underscore in front see to that, and so does a
small letter in the name of the class.
-/

namespace RegisterMap

namespace AccessorClass

section Binding

variable {α : Type}

theorem bind_of_not_mem {members : List (String × α)} {name : String}
    (h : name ∉ members.map (·.1)) (value : α) :
    bind members name value = members ++ [(name, value)] := by
  have hall : members.filter (·.1 != name) = members := by
    refine List.filter_eq_self.2 fun x hx => bne_iff_ne.2 ?_
    rintro rfl
    exact h (List.mem_map_of_mem hx)
  rw [bind, hall]

theorem nodup_bind {members : List (String × α)} (h : (members.map (·.1)).Nodup) (name : String)
    (value : α) : ((bind members name value).map (·.1)).Nodup := by
  rw [bind, List.map_append, List.map_singleton]
  refine (h.sublist (List.filter_sublist.map _)).append (List.nodup_singleton _) ?_
  rw [List.disjoint_singleton]
  intro hmem
  obtain ⟨x, hx, rfl⟩ := List.mem_map.1 hmem
  exact absurd rfl (bne_iff_ne.1 (List.mem_filter.1 hx).2)

/-- No two members of a class have one name. -/
theorem nodup_bindAll (className : String) (members : List (String × α)) :
    ((bindAll className members).map (·.1)).Nodup := by
  have hfold : ∀ known : List (String × α), (known.map (·.1)).Nodup →
      ((members.foldl (fun known x => bind known (memberName className x.1) x.2) known).map
        (·.1)).Nodup := by
    induction members with
    | nil => exact fun known h => h
    | cons x members ih => exact fun known h => ih _ (nodup_bind h _ _)
  exact hfold [] List.nodup_nil

/-- Members that are kept under different names are all kept. -/
theorem bindAll_of_nodup {className : String} {members : List (String × α)}
    (h : (members.map fun x => memberName className x.1).Nodup) :
    bindAll className members = members.map fun x => (memberName className x.1, x.2) := by
  have hfold : ∀ known : List (String × α),
      (known.map (·.1) ++ members.map fun x => memberName className x.1).Nodup →
      members.foldl (fun known x => bind known (memberName className x.1) x.2) known =
        known ++ members.map fun x => (memberName className x.1, x.2) := by
    clear h
    induction members with
    | nil => simp
    | cons x members ih =>
      intro known h
      have hx : memberName className x.1 ∉ known.map (·.1) := fun hmem =>
        (List.nodup_append.1 h).2.2 _ hmem _ List.mem_cons_self rfl
      rw [List.foldl_cons, bind_of_not_mem hx, ih]
      · simp
      · simpa using h
  exact hfold [] h

/-- A class has as many members as it is given exactly when no two are kept under one name. -/
theorem length_bindAll_eq_iff {className : String} {members : List (String × α)} :
    (bindAll className members).length = members.length ↔
      (members.map fun x => memberName className x.1).Nodup := by
  constructor
  · intro h
    have hsub : (bindAll className members).map (·.1) ⊆
        members.map fun x => memberName className x.1 := fun n =>
      (mem_map_bindAll className members n).1
    have hperm := (List.subperm_of_subset (nodup_bindAll className members) hsub).perm_of_length_le
      (by rw [List.length_map, List.length_map, h])
    exact hperm.nodup_iff.1 (nodup_bindAll className members)
  · intro h
    rw [bindAll_of_nodup h, List.length_map]

end Binding

/-- The name that a member is kept with is not private any more. -/
theorem keptName_keptName (className name : String) :
    keptName className (keptName className name) = keptName className name := by
  rcases keptName_cases className name with h | ⟨-, c, cs, hc, h⟩
  · rw [h, h]
  · refine keptName_of_not_isPrivate ?_
    have hlist : "__".toList = ['_', '_'] := rfl
    have hne : ('_' == c) = false := beq_false_of_ne hc.symm
    rw [isPrivate, hlist, h, List.isPrefixOf, List.isPrefixOf, hne]
    rfl

/-- Names that differ are kept under different names exactly when none is kept under another. -/
theorem nodup_keptName_iff {className : String} {names : List String} (h : names.Nodup) :
    (names.map (keptName className)).Nodup ↔
      ∀ a ∈ names, ∀ b ∈ names, keptName className a = b → a = b := by
  rw [List.nodup_map_iff_inj_on h]
  constructor
  · intro hinj a ha b hb hab
    refine hinj a ha b hb ?_
    rw [← hab, keptName_keptName]
  · intro hapart a ha b hb hab
    rcases keptName_eq_or className b with hb' | ⟨-, -, hb'⟩
    · exact hapart a ha b hb (hab.trans hb')
    · rcases keptName_eq_or className a with ha' | ⟨-, -, ha'⟩
      · exact (hapart b hb a ha (hab.symm.trans ha')).symm
      · rw [ha', hb'] at hab
        exact (String.append_right_inj _).1 hab

section Load

variable {file : String} {c : AccessorCode} {k : AccessorClass} (hk : load file c = .ok k)
include hk

theorem code_of_load : k.code = c := by
  rw [(load_eq_ok hk).2.1]

theorem constants_of_load : k.constants = bindAll c.className c.constantList := by
  rw [(load_eq_ok hk).2.1]
  dsimp only
  exact AccessorCode.constantsOf_eq c

theorem methods_of_load :
    k.methods = bindAll c.className (c.methods.map fun a => (a.name, a)) := by
  rw [(load_eq_ok hk).2.1]
  dsimp only
  exact AccessorCode.methodsOf_eq c

end Load

end AccessorClass

open AccessorClass

namespace AccessorCode

/-- The number of constants that the fields and registers of a model call for. -/
def constantCount (m : Model) : Nat :=
  2 + (m.fields.map fun f => if f.single then 1 else 3).sum + m.registers.length

theorem length_constantNames (m : Model) : (constantNames m).length = constantCount m := by
  have hfield : ∀ f, (constantsOf m.word f).length = if f.single then 1 else 3 := by
    intro f
    unfold constantsOf
    dsimp only
    split <;> rfl
  simp only [constantNames, constantCount, List.length_append, List.length_map,
    List.length_flatMap, hfield, List.length_cons, List.length_nil]
  omega

end AccessorCode

open AccessorCode

/-- A model whose names differ: those of its accessors and the two functions of every class, and
those of its constants, of which none is that of an accessor, a function or a register. -/
structure Model.NamesApart (m : Model) : Prop where
  functions : ("__init__" :: methodNames m).Nodup
  constants : (constantNames m).Nodup
  aside : ∀ n ∈ constantNames m, n ∉ "__init__" :: methodNames m ∧ n ∉ m.registers.map (·.name)

/-- A model none of whose constants a class keeps under the name of another. -/
def Model.ConstantsApart (m : Model) (className : String) : Prop :=
  ∀ a ∈ constantNames m, ∀ b ∈ constantNames m, keptName className a = b → a = b

instance (m : Model) (className : String) : Decidable (m.ConstantsApart className) :=
  inferInstanceAs (Decidable (∀ a ∈ constantNames m, ∀ b ∈ constantNames m, _))

/-- A class with all constants of its code, and with no more and no fewer constants and accessors
than a model calls for. -/
structure AccessorClass.Complete (k : AccessorClass) (m : Model) : Prop where
  found : ∀ x ∈ k.code.constantList,
    k.constant? (memberName k.code.className x.1) = some x.2
  count : k.constants.length + k.methods.length = constantCount m + accessorCount m

section Model

variable {m : Model} {t : ConstantTable} {decl : Description} (hm : m.WellFormed t decl)
  (hp : m.HasPlainNames)

namespace AccessorCode

/-- Constants end in a capital, as no register does. -/
theorem exists_getLast?_constant {n : String} (h : n ∈ constantNames m) :
    ∃ c, n.toList.getLast? = some c ∧ Text.isCapital c = true := by
  have hendings : ∀ s ∈ portsName :: offsetsName :: "_SET_MASK" :: constantEndings,
      ∃ c, s.toList.getLast? = some c ∧ Text.isCapital c = true := by
    intro s hs
    simp only [constantEndings, List.mem_cons, List.not_mem_nil, or_false] at hs
    rcases hs with rfl | rfl | rfl | rfl | rfl | rfl | rfl <;> exact ⟨_, rfl, rfl⟩
  rcases mem_constantNames h with h | ⟨name, -, s, hs, rfl⟩
  · exact hendings n (List.mem_append_left _ h)
  · obtain ⟨c, hc, hcapital⟩ := hendings s (List.mem_append_right [_, _] hs)
    refine ⟨c, ?_, hcapital⟩
    rw [String.toList_append, List.getLast?_append, hc]
    rfl

section Plain

include hm hp

theorem isAscii_of_mem_names {name : String}
    (h : name ∈ m.fields.map (·.name) ++ m.registers.map (·.name)) : Text.isAscii name = true := by
  rcases List.mem_append.1 h with h | h
  · obtain ⟨f, hf, rfl⟩ := List.mem_map.1 h
    exact (hp f hf).1
  · obtain ⟨r, hr, rfl⟩ := List.mem_map.1 h
    exact hm.isAscii_register hp hr

/-- Constants of plain names have plain characters, and no small letters. -/
theorem plain_of_mem_constantNames {n : String} (h : n ∈ constantNames m) :
    Text.isAscii n = true ∧ Text.hasNoSmall n = true := by
  have hendings : ∀ s ∈ portsName :: offsetsName :: "_SET_MASK" :: constantEndings,
      Text.isAscii s = true ∧ Text.hasNoSmall s = true := by decide
  rcases mem_constantNames h with h | ⟨name, hname, s, hs, rfl⟩
  · exact hendings n (List.mem_append_left _ h)
  · obtain ⟨hs, hsmall⟩ := hendings s (List.mem_append_right [_, _] hs)
    have hascii := isAscii_of_mem_names hm hp hname
    refine ⟨?_, Text.hasNoSmall_upper_append hascii hsmall⟩
    rw [Text.isAscii_append, Text.isAscii_upper hascii, hs]
    rfl

end Plain

/-- A name that ends in a capital and is no accessor is none of the functions of a class. -/
theorem not_mem_functions {n : String} {c : Char} (hlast : n.toList.getLast? = some c)
    (hcapital : Text.isCapital c = true) (hne : ∀ f ∈ m.fields, n ∉ f.accessorNames) :
    n ∉ "__init__" :: methodNames m := by
  intro hmem
  rcases List.mem_cons.1 hmem with rfl | hmem
  · cases hlast
    cases hcapital
  · rcases List.mem_cons.1 hmem with rfl | hmem
    · cases hlast
      cases hcapital
    · obtain ⟨f, hf, ha⟩ := List.mem_flatMap.1 hmem
      exact hne f hf ha

end AccessorCode

section Plain

include hm hp

theorem Model.WellFormed.namesApart : m.NamesApart := by
  have hcommon : ∀ n ∈ ["__init__", "new"], n ∉ m.fields.flatMap Field.accessorNames := by
    have hhead : ∀ n ∈ ["__init__", "new"],
        n.toList.head? ∉ ['g', 'i', 'c', 'a', 's'].map some := by decide
    intro n hn hmem
    obtain ⟨f, -, ha⟩ := List.mem_flatMap.1 hmem
    obtain ⟨c, hc, hname⟩ := Field.exists_head?_accessor ha
    exact hhead n hn (hname ▸ List.mem_map_of_mem hc)
  refine ⟨?_, constantNames_nodup hm hp, fun n hn => ?_⟩
  · refine List.nodup_cons.2 ⟨?_, List.nodup_cons.2 ⟨hcommon _ (by simp),
      Field.accessorNames_nodup (Analysis.names_nodup hm.apart)⟩⟩
    exact fun hmem => (List.mem_cons.1 hmem).elim (by decide) (hcommon _ (by simp))
  · obtain ⟨c, hlast, hcapital⟩ := exists_getLast?_constant hn
    refine ⟨not_mem_functions hlast hcapital fun f _ ha =>
      Field.ne_of_hasNoSmall (plain_of_mem_constantNames hm hp hn).2 ha rfl, fun hmem => ?_⟩
    obtain ⟨r, hr, rfl⟩ := List.mem_map.1 hmem
    obtain ⟨last, hname⟩ := hm.exists_register_eq hr
    rw [Text.isCapital_lower last c (hname ▸ List.mem_of_getLast? hlast)] at hcapital
    cases hcapital

theorem memberName_constant (className : String) {n : String} (hn : n ∈ constantNames m) :
    memberName className n = keptName className n := by
  rw [memberName, Text.canonical_of_isAscii (plain_of_mem_constantNames hm hp hn).1]

/-- No two constants are kept under one name exactly when they are kept apart. -/
theorem nodup_memberName_iff (className sourceName : String) :
    ((ofModel m className sourceName).constantList.map fun x => memberName className x.1).Nodup ↔
      m.ConstantsApart className := by
  have hnames : (constantNames m).map (keptName className) =
      ((ofModel m className sourceName).constantList.map (·.1)).map (keptName className) := by
    rw [map_constantList_ofModel]
  have hkept : ((ofModel m className sourceName).constantList.map
      fun x => memberName className x.1) = (constantNames m).map (keptName className) := by
    rw [hnames, List.map_map]
    exact List.map_congr_left fun x hx =>
      memberName_constant hm hp className (mem_constantNames_of_mem hx)
  rw [hkept]
  exact nodup_keptName_iff (constantNames_nodup hm hp)

end Plain

namespace AccessorClass

variable {className sourceName file : String} {k : AccessorClass}
  (hk : load file (.ofModel m className sourceName) = .ok k)
include hm hp hk

/-- Accessors are kept as they are named, each of them. -/
theorem methods_eq : k.methods =
    (m.fields.flatMap (AccessorCode.methodsOf m)).map fun a => (a.name, a) := by
  have hnodup : (((m.fields.flatMap (AccessorCode.methodsOf m)).map fun a => (a.name, a)).map
      fun x => memberName className x.1).Nodup := by
    simpa only [List.map_map, Function.comp_def] using nodup_memberName_methods hm hp className
  have hkept : ∀ a ∈ m.fields.flatMap (AccessorCode.methodsOf m),
      (memberName className a.name, a) = (a.name, a) := fun a ha => by
    rw [memberName_method hp className a ha]
  rw [methods_of_load hk]
  dsimp only [ofModel]
  rw [bindAll_of_nodup hnodup, List.map_map]
  exact List.map_congr_left hkept

/-- A constant of the class is none of its other members. -/
theorem constants_aside :
    ∀ n ∈ k.constants.map (·.1), n ∉ "__init__" :: methodNames m ∧ n ∉ k.slots := by
  intro n hn
  constructor
  · rw [constants_of_load hk] at hn
    obtain ⟨x, hx, rfl⟩ := List.mem_map.1 ((mem_map_bindAll _ _ n).1 hn)
    have hname := mem_constantNames_of_mem hx
    obtain ⟨c, hlast, hcapital⟩ := exists_getLast?_constant hname
    have hmember : memberName (ofModel m className sourceName).className x.1 =
        keptName className x.1 := memberName_constant hm hp className hname
    rw [hmember]
    refine not_mem_functions (getLast?_keptName hlast) hcapital fun f _ ha => ?_
    rcases keptName_cases className x.1 with h | ⟨-, e, cs, -, h⟩
    · rw [h] at ha
      exact Field.ne_of_hasNoSmall (plain_of_mem_constantNames hm hp hname).2 ha rfl
    · obtain ⟨l, hl, hhead⟩ := Field.exists_head?_accessor ha
      rw [h] at hhead
      cases hhead
      exact absurd hl (by decide)
  · intro hslot
    obtain ⟨x, hx, rfl⟩ := List.mem_map.1 hn
    have hnone := ((load_eq_ok hk).2.2 x.1 hslot).2.1
    exact absurd rfl (bne_iff_ne.1 (List.lookup_eq_none_iff.1 hnone x hx))

theorem complete_iff : k.Complete m ↔ m.ConstantsApart className := by
  have hlength : (ofModel m className sourceName).constantList.length = constantCount m := by
    rw [← length_constantNames, ← map_constantList_ofModel, List.length_map]
  have hmethods : k.methods.length = accessorCount m := by
    rw [methods_eq hm hp hk, List.length_map, accessorCount, ← map_name_methods,
      List.length_map]
  rw [← nodup_memberName_iff hm hp className sourceName]
  constructor
  · rintro ⟨-, hcount⟩
    rw [hmethods, constants_of_load hk, ← hlength] at hcount
    exact length_bindAll_eq_iff.1 (Nat.add_right_cancel hcount)
  · intro hnodup
    constructor
    · rw [code_of_load hk]
      intro x hx
      rw [constant?, constants_of_load hk]
      exact lookup_foldl_bind_of_nodup (fun y : String × ConstantValue =>
        memberName className y.1) (·.2) hnodup hx []
    · rw [hmethods, constants_of_load hk, ← hlength]
      exact congrArg (· + accessorCount m) (length_bindAll_eq_iff.2 hnodup)

end AccessorClass

include hm hp in
/-- A small letter in the name of a class keeps the constants apart: no constant has one. -/
theorem Model.WellFormed.constantsApart_of_isLower {className : String} {c : Char}
    (hc : c ∈ (Text.canonical className).toList) (hlower : c.isLower = true) :
    m.ConstantsApart className := by
  intro a _ b hb hab
  rcases keptName_eq_or className a with h | ⟨-, -, h⟩
  · exact h.symm.trans hab
  · have howner : c ∈ owner className := by
      have hsplit : c ∈ (Text.canonical className).toList.takeWhile (· == '_') ++
          owner className := by
        rwa [owner, List.takeWhile_append_dropWhile]
      refine (List.mem_append.1 hsplit).resolve_left fun hmem => ?_
      have hunderscore := List.mem_takeWhile_imp hmem
      rw [beq_iff_eq.1 hunderscore] at hlower
      cases hlower
    have hmem : c ∈ b.toList := by
      rw [← hab, h, String.toList_append, String.toList_ofList]
      exact List.mem_append_left _ (List.mem_cons_of_mem _ howner)
    rw [Text.hasNoSmall_iff.1 (plain_of_mem_constantNames hm hp hb).2 c hmem] at hlower
    cases hlower

include hm in
/-- Public names keep the constants apart. -/
theorem Model.HasPublicNames.constantsApart (hu : m.HasPublicNames) (className : String) :
    m.ConstantsApart className := by
  intro a ha b _ hab
  rw [← hab, keptName_of_isPublic (isPublic_constant hm hu ha)]

end Model

namespace Analysis

/-- The names that a plain description calls for differ, and a class has a constant and an accessor
for each of them exactly when it keeps no constant under the name of another. Public names see to
that, and so does a small letter in the name of the class. -/
theorem complete_iff_constantsApart [Machine] {decl : Description} {wordBits : Int}
    {external : External} {m : Model} {ns ns' : List Notice}
    (h : (analyze decl wordBits external).run ns = (.ok m, ns'))
    (hp : decl.isPlain = true) :
    m.NamesApart ∧
      (∀ (className sourceName file : String) (k : AccessorClass),
        load file (.ofModel m className sourceName) = .ok k →
          (k.Complete m ↔ m.ConstantsApart className) ∧
            k.methods = (m.fields.flatMap (AccessorCode.methodsOf m)).map (fun a => (a.name, a)) ∧
            ∀ n ∈ k.constants.map (·.1), n ∉ "__init__" :: methodNames m ∧ n ∉ k.slots) ∧
      ∀ className : String,
        m.HasPublicNames ∨ (∃ c ∈ (Text.canonical className).toList, c.isLower = true) →
          m.ConstantsApart className := by
  obtain ⟨t, _, -, -, hm⟩ := wellFormed_of_analyze h
  have hplain := Description.isAscii_of_isPlain hp hm
  refine ⟨hm.namesApart hplain, fun className sourceName file k hk => ?_, fun className => ?_⟩
  · exact ⟨complete_iff hm hplain hk, methods_eq hm hplain hk, constants_aside hm hplain hk⟩
  · rintro (hu | ⟨c, hc, hlower⟩)
    · exact hu.constantsApart hm className
    · exact hm.constantsApart_of_isLower hplain hc hlower

end Analysis

/-- A description whose names look like constants, accessors and kept names. -/
def Description.tangled : Description :=
  ⟨[], [⟨"_dev__x", .single 1, .readWrite, .inModules [] "CTRL", [], 1⟩,
     ⟨"__x", .single 0, .writeOneClears, .inModules [] "CTRL", [], 2⟩,
     ⟨"x_bit", .range (some ⟨4, true⟩) (some ⟨8, false⟩), .readWrite, .inModules [] "CTRL", [], 3⟩,
     ⟨"is_x_bit_active", .single 2, .readOnly, .inModules [] "CTRL", [], 4⟩],
    [⟨.inModules [] "CTRL", 0, [], 1⟩], "dev"⟩

def Model.tangled : Model :=
  ⟨[],
    [⟨"ctrl", .inModules [] "CTRL", 0, .readWrite, 0xFFFE,
      ["_dev__x", "__x", "x_bit", "is_x_bit_active"]⟩],
    [⟨"_dev__x", .readWrite, "ctrl", 1, 1, true, 2, none, []⟩,
     ⟨"__x", .writeOneClears, "ctrl", 0, 0, true, 1, none, []⟩,
     ⟨"x_bit", .readWrite, "ctrl", 4, 7, false, 0xF0, some (Bits.unsigned 8), []⟩,
     ⟨"is_x_bit_active", .readOnly, "ctrl", 2, 2, true, 4, none, []⟩],
    Bits.unsigned 16, "dev"⟩

namespace Analysis

theorem analyze_tangled : (analyze .tangled 16 .none).run [] =
    (.ok .tangled, [.noPorts "dev", .analyzed "dev" 4 1]) :=
  rfl

theorem exists_load_tangled (className : String) (hclean : Text.isClean className = true)
    (hvalid : isValid (.ofModel .tangled className "dev") = true)
    (hslots : keptName className "ctrl" ∉ standardMembers ++
      (AccessorClass.constantsOf (.ofModel .tangled className "dev")).map (·.1) ++
        (AccessorClass.methodsOf (.ofModel .tangled className "dev")).map (·.1)) :
    ∃ k, load "dev.py" (.ofModel .tangled className "dev") = .ok k := by
  obtain ⟨t, -, -, -, hm⟩ := wellFormed_of_analyze analyze_tangled
  have hsource : Text.isClean "dev" = true := rfl
  have hcode := AccessorCode.isClean_ofModel hm rfl hclean hsource (by decide)
  exact ⟨_, load_of_isClean rfl hcode hvalid (List.forall_mem_singleton.2 hslots)⟩

/-- The same names are all kept in a class called `Dev`, and one constant is lost in `DEV`. -/
theorem complete_tangled : Model.tangled.NamesApart ∧
    (∃ k, load "dev.py" (.ofModel .tangled "Dev" "dev") = .ok k ∧ k.Complete .tangled) ∧
      ∃ k, load "dev.py" (.ofModel .tangled "DEV" "dev") = .ok k ∧ ¬k.Complete .tangled := by
  obtain ⟨hnames, hclass, hsmall⟩ := complete_iff_constantsApart analyze_tangled rfl
  refine ⟨hnames, ?_, ?_⟩
  · obtain ⟨k, hk⟩ := exists_load_tangled "Dev" rfl rfl (by decide)
    have hapart := hsmall "Dev" (.inr ⟨'e', by decide, rfl⟩)
    exact ⟨k, hk, (hclass "Dev" "dev" "dev.py" k hk).1.2 hapart⟩
  · obtain ⟨k, hk⟩ := exists_load_tangled "DEV" rfl rfl (by decide)
    refine ⟨k, hk, fun h => ?_⟩
    exact absurd ((hclass "DEV" "dev" "dev.py" k hk).1.1 h) (by decide)

end Analysis

end RegisterMap
