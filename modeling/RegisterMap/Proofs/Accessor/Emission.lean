import RegisterMap.Proofs.Accessor.Clashes
import RegisterMap.Proofs.Number.Prefixed

/-!
# What survives in the text of accessor code

The numbers of a model are written in decimal and, with some digits at least, in hexadecimal. They
are read back from there as what they were, save negative ones, which have no literal with a prefix.
Public names are kept as they are, and no two constants have one name. So the class has all numbers
of the model in their places, and its code can be loaded when no address and no offset is negative.
-/

namespace RegisterMap

open AccessorClass

theorem Literal.read_text {l : Literal} (hl : ∀ n, l = .decimal n → Number.isShort n = true) :
    Number.read .prefixed l.text = .ok l.value ↔ l.isLoadable = true := by
  cases l with
  | decimal n => exact ⟨fun _ => rfl, fun _ => Number.read_toString (hl n rfl)⟩
  | hex digits n =>
    unfold Literal.text Literal.value Literal.isLoadable
    dsimp only
    rw [Number.read_prefixedHex, decide_eq_true_iff]
    constructor
    · intro h
      by_contra hn
      rw [if_neg hn] at h
      cases h
    · exact fun hn => if_pos hn

namespace AccessorClass

/-- A name is bound when a member is kept under it. -/
theorem mem_map_bindAll {α : Type} (className : String) (members : List (String × α))
    (n : String) : n ∈ (bindAll className members).map (·.1) ↔
      n ∈ members.map fun x => memberName className x.1 := by
  have hnone : (bindAll className members).lookup n = none ↔
      ∀ x ∈ members, memberName className x.1 ≠ n :=
    lookup_foldl_bind_eq_none (fun x : String × α => memberName className x.1) (·.2)
  constructor
  · intro hmem
    by_contra hn
    have hlookup := hnone.2 fun x hx he => hn (List.mem_map.2 ⟨x, hx, he⟩)
    rw [List.lookup_eq_none_iff] at hlookup
    obtain ⟨x, hx, rfl⟩ := List.mem_map.1 hmem
    exact absurd rfl (bne_iff_ne.1 (hlookup x hx))
  · intro hmem
    obtain ⟨x, hx, rfl⟩ := List.mem_map.1 hmem
    by_contra hn
    exact hnone.1 (lookup_eq_none_of_not_mem hn) x hx rfl

end AccessorClass

namespace AccessorCode

/-- All constants of the class in the order in which they are bound. -/
def constantList (c : AccessorCode) : List (String × ConstantValue) :=
  [(portsName, .ports (c.ports.map (·.value))),
   (offsetsName, .offsets (c.offsets.map fun o => (o.1, o.2.value)))]
    ++ (c.fieldConstants ++ c.maskConstants).map fun x => (x.1, .number x.2.value)

theorem constantsOf_eq (c : AccessorCode) :
    AccessorClass.constantsOf c = bindAll c.className c.constantList :=
  rfl

theorem methodsOf_eq (c : AccessorCode) :
    AccessorClass.methodsOf c = bindAll c.className (c.methods.map fun a => (a.name, a)) :=
  rfl

/-- The names of all constants of a model. -/
def constantNames (m : Model) : List String :=
  [portsName, offsetsName] ++ ((m.fields.flatMap (constantsOf m.word)).map (·.1)
    ++ m.registers.map Register.maskConstant)

theorem number_mem_constantList {c : AccessorCode} {x : String × Literal}
    (h : x ∈ c.fieldConstants ++ c.maskConstants) :
    (x.1, ConstantValue.number x.2.value) ∈ c.constantList :=
  List.mem_append_right _ (List.mem_map.2 ⟨x, h, rfl⟩)

/-- How the names of the constants of fields end. -/
def constantEndings : List String :=
  ["_BIT", "_BIT_START", "_BIT_END", "_MASK"]

/-- Names that end in four letters or more have their last four letters from there. -/
theorem take_reverse_eq_of_append_eq {p q s t : String} (hs : 4 ≤ s.toList.length)
    (ht : 4 ≤ t.toList.length) (h : p ++ s = q ++ t) :
    s.toList.reverse.take 4 = t.toList.reverse.take 4 := by
  have hlist := congrArg (fun u : String => u.toList.reverse.take 4) h
  simpa [String.toList_append, List.take_append_of_le_length, hs, ht] using hlist

theorem append_ending_inj {p q s t : String} (hs : s ∈ constantEndings) (ht : t ∈ constantEndings)
    (h : p ++ s = q ++ t) : p = q ∧ s = t := by
  have hlength : ∀ s ∈ constantEndings, 4 ≤ s.toList.length := by decide
  have hlast : ∀ s ∈ constantEndings, ∀ t ∈ constantEndings,
      s.toList.reverse.take 4 = t.toList.reverse.take 4 → s = t := by decide
  obtain rfl := hlast s hs t ht (take_reverse_eq_of_append_eq (hlength s hs) (hlength t ht) h)
  exact ⟨(String.append_left_inj s).1 h, rfl⟩

theorem exists_ending {word : Bits.IntType} {f : Field} {n : String}
    (h : n ∈ (constantsOf word f).map (·.1)) :
    ∃ s ∈ constantEndings, n = f.constantPrefix ++ s ∧ (s = "_MASK" → f.single = false) := by
  unfold constantsOf at h
  dsimp only at h
  split at h
  · rw [List.map_singleton, List.mem_singleton] at h
    exact ⟨"_BIT", by decide, h, fun he => absurd he (by decide)⟩
  · next hs =>
    simp only [List.map_cons, List.map_nil, List.mem_cons, List.not_mem_nil, or_false] at h
    rcases h with rfl | rfl | rfl
    · exact ⟨"_BIT_START", by decide, rfl, fun he => absurd he (by decide)⟩
    · exact ⟨"_BIT_END", by decide, rfl, fun he => absurd he (by decide)⟩
    · exact ⟨"_MASK", by decide, rfl, fun _ => by simpa using hs⟩

theorem fieldConstants_nodup {word : Bits.IntType} {fields : List Field}
    (h : (fields.map fun f => Text.upper f.name).Nodup) :
    ((fields.flatMap (constantsOf word)).map (·.1)).Nodup := by
  rw [List.map_flatMap, List.nodup_flatMap]
  constructor
  · intro f _
    unfold constantsOf
    dsimp only
    split
    · exact List.nodup_singleton _
    · have hne : ∀ s ∈ constantEndings, ∀ t ∈ constantEndings, s ≠ t →
          f.constantPrefix ++ s ≠ f.constantPrefix ++ t := fun s hs t ht hst he =>
        hst (append_ending_inj hs ht he).2
      simp [hne "_BIT_START" (by decide) "_BIT_END" (by decide) (by decide),
        hne "_BIT_START" (by decide) "_MASK" (by decide) (by decide),
        hne "_BIT_END" (by decide) "_MASK" (by decide) (by decide)]
  · refine (List.pairwise_map.1 h).imp fun {f g} hne => ?_
    intro n hf hg
    obtain ⟨s, hs, rfl, -⟩ := exists_ending hf
    obtain ⟨t, ht, he, -⟩ := exists_ending hg
    exact hne (append_ending_inj hs ht he).1

section Public

variable {m : Model} {t : ConstantTable} {decl : Description} (hm : m.WellFormed t decl)
  (hu : m.HasPublicNames) {className sourceName : String}

theorem map_constantList_ofModel :
    ((ofModel m className sourceName).constantList).map (·.1) = constantNames m := by
  simp only [constantList, constantNames, ofModel, List.map_append, List.map_cons, List.map_nil,
    List.map_map, Function.comp_def]

theorem mem_constantNames_of_mem {x : String × ConstantValue}
    (h : x ∈ (ofModel m className sourceName).constantList) : x.1 ∈ constantNames m := by
  rw [← map_constantList_ofModel]
  exact List.mem_map_of_mem h

/-- A constant that not every class has is named for a field or a register. -/
theorem mem_constantNames {n : String} (h : n ∈ constantNames m) : n ∈ [portsName, offsetsName] ∨
    ∃ name ∈ m.fields.map (·.name) ++ m.registers.map (·.name),
      ∃ s ∈ "_SET_MASK" :: constantEndings, n = Text.upper name ++ s := by
  rcases List.mem_append.1 h with h | h
  · exact .inl h
  · rcases List.mem_append.1 h with h | h
    · obtain ⟨x, hx, rfl⟩ := List.mem_map.1 h
      obtain ⟨f, hf, hx⟩ := List.mem_flatMap.1 hx
      obtain ⟨s, hs, hname, -⟩ := exists_ending (List.mem_map_of_mem hx)
      exact .inr ⟨f.name, List.mem_append_left _ (List.mem_map_of_mem hf), s,
        List.mem_cons_of_mem _ hs, hname⟩
    · obtain ⟨r, hr, rfl⟩ := List.mem_map.1 h
      exact .inr ⟨r.name, List.mem_append_right _ (List.mem_map_of_mem hr), "_SET_MASK",
        List.mem_cons_self, rfl⟩

include hm

/-- No two constants have one name. -/
theorem constantNames_nodup (hp : m.HasPlainNames) : (constantNames m).Nodup := by
  -- the common constants end in another letter than those of fields and registers
  have hcommon : ∀ n ∈ [portsName, offsetsName], n.toList.getLast? = some 'S' := by decide
  have hendings : ∀ s ∈ constantEndings, ∃ c, s.toList.getLast? = some c ∧ c ≠ 'S' := by
    intro s hs
    simp only [constantEndings, List.mem_cons, List.not_mem_nil, or_false] at hs
    rcases hs with rfl | rfl | rfl | rfl <;> exact ⟨_, rfl, by decide⟩
  have hmaskEnding : 4 ≤ "_SET_MASK".toList.length := by decide
  have hsame : ∀ s ∈ constantEndings,
      s.toList.reverse.take 4 = "_SET_MASK".toList.reverse.take 4 → s = "_MASK" := by decide
  have hlength : ∀ s ∈ constantEndings, 4 ≤ s.toList.length := by decide
  refine List.nodup_append.2 ⟨by decide, List.nodup_append.2 ⟨fieldConstants_nodup hm.apart,
    hm.maskConstants_nodup hp, ?_⟩, ?_⟩
  · intro n hn n' hn'
    obtain ⟨x, hx, rfl⟩ := List.mem_map.1 hn
    obtain ⟨f, hf, hx⟩ := List.mem_flatMap.1 hx
    obtain ⟨s, hs, hname, hsingle⟩ := exists_ending (List.mem_map_of_mem hx)
    obtain ⟨r, hr, rfl⟩ := List.mem_map.1 hn'
    rintro he
    rw [hname] at he
    obtain rfl := hsame s hs (take_reverse_eq_of_append_eq (hlength s hs) hmaskEnding he)
    exact (hm.registers_usable r hr).2.2 f hf (hsingle rfl) he
  · intro n hn n' hn'
    have hlast := hcommon n hn
    rcases List.mem_append.1 hn' with hn' | hn'
    · obtain ⟨x, hx, rfl⟩ := List.mem_map.1 hn'
      obtain ⟨f, hf, hx⟩ := List.mem_flatMap.1 hx
      obtain ⟨s, hs, hname, -⟩ := exists_ending (List.mem_map_of_mem hx)
      obtain ⟨c, hc, hne⟩ := hendings s hs
      rw [hname]
      refine ne_of_getLast? hlast ?_ hne.symm
      rw [String.toList_append, List.getLast?_append, hc]
      rfl
    · obtain ⟨r, hr, rfl⟩ := List.mem_map.1 hn'
      refine ne_of_getLast? hlast (e := 'K') ?_ (by decide)
      rw [Register.maskConstant, maskConstantOf, String.toList_append, List.getLast?_append]
      rfl

include hu

theorem isPublic_constant {n : String} (h : n ∈ constantNames m) : Text.isPublic n = true := by
  have hcommon : ∀ n ∈ [portsName, offsetsName], Text.isPublic n = true := by decide
  have hendings : ∀ s ∈ "_SET_MASK" :: constantEndings, Text.isAscii s = true := by decide
  rcases mem_constantNames h with h | ⟨name, hname, s, hs, rfl⟩
  · exact hcommon n h
  · rcases List.mem_append.1 hname with hname | hname
    · obtain ⟨f, hf, rfl⟩ := List.mem_map.1 hname
      exact hm.isPublic_constant hu hf (hendings s hs)
    · obtain ⟨r, hr, rfl⟩ := List.mem_map.1 hname
      exact Text.isPublic_upper_append (hm.isPublic_register hu hr)
        (Text.ne_nil_of_isIdentifier (hm.registers_usable r hr).1) (hendings s hs)

/-- A constant is found by its name. -/
theorem lookup_constantsOf {x : String × ConstantValue}
    (hx : x ∈ (ofModel m className sourceName).constantList) :
    (AccessorClass.constantsOf (ofModel m className sourceName)).lookup x.1 = some x.2 := by
  have hkept : ∀ y ∈ (ofModel m className sourceName).constantList,
      memberName className y.1 = y.1 := fun y hy =>
    memberName_of_isPublic (isPublic_constant hm hu (mem_constantNames_of_mem hy)) className
  have hnodup : ((ofModel m className sourceName).constantList.map
      fun y => memberName className y.1).Nodup := by
    rw [List.map_congr_left hkept, map_constantList_ofModel]
    exact constantNames_nodup hm hu.hasPlainNames
  have hfound := lookup_foldl_bind_of_nodup (fun y : String × ConstantValue =>
    memberName className y.1) (·.2) hnodup hx []
  rw [hkept x hx] at hfound
  exact hfound

end Public

end AccessorCode

/-- Code whose text a file can hold: every character can be encoded, and none is null. -/
def AccessorCode.IsStorable (c : AccessorCode) : Prop :=
  (∃ bytes, Text.Utf8.encode c.text = .ok bytes) ∧ hasNull c.text = false

namespace AccessorClass

/-- What it takes to load code. -/
theorem exists_load_eq_ok {file : String} {c : AccessorCode} : (∃ k, load file c = .ok k) ↔
    hasNull file = false ∧ c.IsStorable ∧ isValid c = true ∧
      ∀ n ∈ c.keptSlots,
        n ∉ standardMembers ++ (constantsOf c).map (·.1) ++ (methodsOf c).map (·.1) := by
  have hfree : c.keptSlots.find?
      (standardMembers ++ (constantsOf c).map (·.1) ++ (methodsOf c).map (·.1)).contains = none ↔
      ∀ n ∈ c.keptSlots,
        n ∉ standardMembers ++ (constantsOf c).map (·.1) ++ (methodsOf c).map (·.1) := by
    simp only [List.find?_eq_none, List.contains_iff_mem]
  rw [← hfree]
  unfold load AccessorCode.IsStorable AccessorCode.keptSlots
  -- each thing that is looked at in turn
  cases hasNull file with
  | true => simp
  | false =>
    cases Text.Utf8.encode c.text with
    | error e => simp
    | ok bytes =>
      cases hasNull c.text with
      | true => simp
      | false =>
        cases isValid c with
        | false => simp
        | true =>
          dsimp only
          cases (c.slots.map fun s => keptName c.className s.register).find?
              (standardMembers ++ (constantsOf c).map (·.1) ++
                (methodsOf c).map (·.1)).contains with
          | none => simp
          | some n => simp

/-- Slots of distinct code are taken by nothing else. -/
theorem not_taken_of_distinct {c : AccessorCode} (hd : c.Distinct) : ∀ n ∈ c.keptSlots,
    n ∉ standardMembers ++ (constantsOf c).map (·.1) ++ (methodsOf c).map (·.1) := by
  intro n hn hmem
  have haside := hd.aside n (List.mem_append_left _ hn)
  have happart := (List.nodup_append.1 hd.nodup).2.2 n hn
  have hcommon : n ∉ AccessorCode.commonNames := fun h => haside (List.mem_append_left _ h)
  have hfields : n ∉ c.keptFieldNames := fun h => haside (List.mem_append_right _ h)
  rcases List.mem_append.1 hmem with hmem | hmem
  · rcases List.mem_append.1 hmem with hmem | hmem
    · exact hcommon (List.mem_append_left _ hmem)
    · have hbound := (mem_map_bindAll c.className c.constantList n).1 hmem
      obtain ⟨x, hx, rfl⟩ := List.mem_map.1 hbound
      rcases List.mem_append.1 hx with hx | hx
      · have hname : x.1 ∈ [portsName, offsetsName] := by
          simp only [List.mem_cons, List.not_mem_nil, or_false] at hx
          rcases hx with rfl | rfl <;> simp
        have hpublic : ∀ n ∈ [portsName, offsetsName], Text.isPublic n = true := by decide
        rw [memberName_of_isPublic (hpublic _ hname)] at hcommon
        exact hcommon (List.mem_append_right _ hname)
      · obtain ⟨y, hy, rfl⟩ := List.mem_map.1 hx
        rcases List.mem_append.1 hy with hy | hy
        · exact hfields (List.mem_append_left _ (List.mem_map.2 ⟨y, hy, rfl⟩))
        · exact happart _ (List.mem_map.2 ⟨y, hy, rfl⟩) rfl
  · have hbound := (mem_map_bindAll c.className _ n).1 hmem
    rw [List.map_map] at hbound
    exact hfields (List.mem_append_right _ hbound)

end AccessorClass

/-- A class that has the numbers of a model in their places. -/
structure AccessorClass.Carries (k : AccessorClass) (m : Model) : Prop where
  ports : k.constant? portsName = some (.ports m.ports)
  offsets : k.constant? offsetsName = some (.offsets (m.registers.map fun r => (r.name, r.offset)))
  bit : ∀ f ∈ m.fields, f.single = true →
    k.constant? (f.constantPrefix ++ "_BIT") = some (.number f.start)
  range : ∀ f ∈ m.fields, f.single = false →
    k.constant? (f.constantPrefix ++ "_BIT_START") = some (.number f.start) ∧
      k.constant? (f.constantPrefix ++ "_BIT_END") = some (.number f.stop) ∧
      k.constant? (f.constantPrefix ++ "_MASK") = some (.number f.mask)
  masks : ∀ r ∈ m.registers, k.constant? r.maskConstant = some (.number r.preserve)

/-- Code of registers with public names is valid if its class name is and no number is negative. -/
theorem AccessorClass.isValid_ofModel_iff {m : Model} {className sourceName : String}
    (hu : ∀ r ∈ m.registers, Text.isPublic r.name = true) :
    isValid (.ofModel m className sourceName) = true ↔ isClassName className = true ∧
      (∀ p ∈ m.ports, 0 ≤ p) ∧ ∀ r ∈ m.registers, 0 ≤ r.offset := by
  have hslots : ∀ r ∈ m.registers, Text.canonical r.name ≠ fixedName := by
    intro r hr he
    obtain ⟨hascii, hhead⟩ := Text.isPublic_iff.1 (hu r hr)
    rw [Text.canonical_of_isAscii hascii] at he
    exact hhead (by rw [he]; rfl)
  have hwords : ∀ n : Nat, (AccessorCode.wordLiteral m.word n).isLoadable = true := fun n =>
    decide_eq_true (Int.natCast_nonneg n)
  have hconstants : ∀ f ∈ m.fields, ∀ x ∈ AccessorCode.constantsOf m.word f,
      x.2.isLoadable = true := by
    intro f _ x hx
    unfold AccessorCode.constantsOf at hx
    dsimp only at hx
    split at hx
    · rw [List.mem_singleton.1 hx]
      rfl
    · simp only [List.mem_cons, List.not_mem_nil, or_false] at hx
      rcases hx with rfl | rfl | rfl
      · rfl
      · rfl
      · exact hwords f.mask
  simp only [isValid, literals, AccessorCode.ofModel, List.all_append, List.all_map,
    Bool.and_eq_true, List.all_eq_true, Function.comp_apply, bne_iff_ne, List.mem_flatMap,
    Literal.isLoadable, decide_eq_true_eq]
  constructor
  · rintro ⟨⟨hc, -⟩, ⟨⟨hports, hoffsets⟩, -⟩, -⟩
    exact ⟨hc, hports, hoffsets⟩
  · rintro ⟨hc, hports, hoffsets⟩
    refine ⟨⟨hc, hslots⟩, ⟨⟨hports, hoffsets⟩, hoffsets⟩, ?_, ?_⟩
    · rintro x ⟨f, hf, hx⟩
      exact hconstants f hf x hx
    · exact fun r _ => hwords r.preserve

section Public

variable {m : Model} {t : ConstantTable} {decl : Description} (hm : m.WellFormed t decl)
  (hu : m.HasPublicNames) {className sourceName : String}
include hm hu

theorem Model.WellFormed.isValid_iff (hc : isClassName className = true) :
    isValid (.ofModel m className sourceName) = true ↔
      (∀ p ∈ m.ports, 0 ≤ p) ∧ ∀ r ∈ m.registers, 0 ≤ r.offset := by
  rw [isValid_ofModel_iff fun r hr => hm.isPublic_register hu hr]
  exact and_iff_right hc

theorem Model.WellFormed.carries {file : String} {k : AccessorClass}
    (hk : load file (.ofModel m className sourceName) = .ok k) : k.Carries m := by
  have hfound : ∀ x ∈ (AccessorCode.ofModel m className sourceName).constantList,
      k.constant? x.1 = some x.2 := by
    intro x hx
    have hconstants : k.constants = constantsOf (.ofModel m className sourceName) := by
      rw [(load_eq_ok hk).2.1]
    rw [constant?, hconstants]
    exact AccessorCode.lookup_constantsOf hm hu hx
  have hnumber : ∀ f ∈ m.fields, ∀ x ∈ AccessorCode.constantsOf m.word f,
      k.constant? x.1 = some (.number x.2.value) := by
    intro f hf x hx
    have hmem : x ∈ (AccessorCode.ofModel m className sourceName).fieldConstants :=
      List.mem_flatMap.2 ⟨f, hf, hx⟩
    exact hfound _ (AccessorCode.number_mem_constantList (List.mem_append_left _ hmem))
  constructor
  · have h := hfound _ List.mem_cons_self
    simpa [AccessorCode.ofModel, Function.comp_def, Literal.value] using h
  · have h := hfound _ (List.mem_cons_of_mem _ List.mem_cons_self)
    simpa [AccessorCode.ofModel, Function.comp_def, Literal.value] using h
  · intro f hf hs
    refine hnumber f hf (f.constantPrefix ++ "_BIT", .decimal f.start) ?_
    simp [AccessorCode.constantsOf, hs]
  · intro f hf hs
    refine ⟨hnumber f hf (f.constantPrefix ++ "_BIT_START", .decimal f.start) ?_,
      hnumber f hf (f.constantPrefix ++ "_BIT_END", .decimal f.stop) ?_,
      hnumber f hf (f.constantPrefix ++ "_MASK", AccessorCode.wordLiteral m.word f.mask) ?_⟩ <;>
      simp [AccessorCode.constantsOf, hs]
  · intro r hr
    have hmem : (r.maskConstant, AccessorCode.wordLiteral m.word r.preserve) ∈
        (AccessorCode.ofModel m className sourceName).maskConstants :=
      List.mem_map.2 ⟨r, hr, rfl⟩
    exact hfound _ (AccessorCode.number_mem_constantList (List.mem_append_right _ hmem))

omit hu in
/-- The decimal numbers of the code are places of bits, which are short. -/
theorem Model.WellFormed.isShort_of_mem_literals {n : Nat}
    (h : .decimal n ∈ literals (.ofModel m className sourceName)) :
    Number.isShort n = true := by
  obtain ⟨w, hw, hword⟩ := hm.word_mem
  have hwords : ∀ w ∈ wordSizes, w ≤ 64 := by decide
  have hlimit : ∀ n < 64, Number.isShort (n : Nat) = true := by decide +kernel
  simp only [literals, AccessorCode.ofModel, List.mem_append, List.mem_map, List.mem_flatMap,
    AccessorCode.wordLiteral] at h
  rcases h with (((⟨_, -, hn⟩ | ⟨_, ⟨_, -, rfl⟩, hn⟩) | ⟨_, ⟨_, -, rfl⟩, hn⟩) | hconstant)
  · cases hn
  · cases hn
  · cases hn
  · obtain ⟨x, ⟨f, hf, hx⟩ | ⟨_, -, rfl⟩, hn⟩ := hconstant
    · have hfits := hm.fits f hf
      have hstop : f.stop < 64 := by
        have hinside := hfits.inside
        rw [hword] at hinside
        exact hinside.trans_le (hwords w hw)
      have hstart : f.start < 64 := hfits.ordered.trans_lt hstop
      unfold AccessorCode.constantsOf at hx
      dsimp only at hx
      split at hx
      · rw [List.mem_singleton.1 hx] at hn
        cases hn
        exact hlimit f.start hstart
      · simp only [List.mem_cons, List.not_mem_nil, or_false] at hx
        rcases hx with rfl | rfl | rfl
        · cases hn
          exact hlimit f.start hstart
        · cases hn
          exact hlimit f.stop hstop
        · cases hn
    · cases hn

end Public

namespace Compile

/-- Code of public names and a name that a class can have is loaded exactly when a file can hold it
and no address and no offset is negative; those numbers alone are not read back from their text as
they were. The class then has all numbers of the model in their places. -/
theorem loads_iff_nonneg [Machine] {decl : Description} {o : Options}
    {external : External} {m : Model} {c : AccessorCode} {ns ns' : List Notice}
    (h : (compile decl o external).run ns = (.ok (m, c), ns')) (hu : m.HasPublicNames)
    (hc : isClassName o.className = true) (file : String) :
    ((∃ k, load file c = .ok k) ↔ hasNull file = false ∧ c.IsStorable ∧
      (∀ p ∈ m.ports, 0 ≤ p) ∧ ∀ r ∈ m.registers, 0 ≤ r.offset) ∧
      (∀ l ∈ literals c,
        Number.read .prefixed l.text = .ok l.value ↔ l.isLoadable = true) ∧
      ∀ k, load file c = .ok k → k.Carries m := by
  obtain ⟨⟨_, ha⟩, hcode⟩ := exists_compile_eq_ok.1 ⟨ns', h⟩
  obtain ⟨_, hmembers, rfl⟩ := code_eq_ok hcode
  obtain ⟨t, _, -, -, hm⟩ := Analysis.wellFormed_of_analyze ha
  have hdistinct : (AccessorCode.ofModel m o.className o.sourceName).Distinct :=
    AccessorCode.distinct_of_staysApart hm hmembers (hm.staysApart hu hmembers o.className)
  refine ⟨?_, ?_, fun k => hm.carries hu⟩
  · rw [exists_load_eq_ok, hm.isValid_iff hu hc]
    constructor
    · rintro ⟨hfile, hstorable, hvalid, -⟩
      exact ⟨hfile, hstorable, hvalid⟩
    · rintro ⟨hfile, hstorable, hvalid⟩
      exact ⟨hfile, hstorable, hvalid, not_taken_of_distinct hdistinct⟩
  · rintro l hl
    refine Literal.read_text fun n hn => ?_
    subst hn
    exact hm.isShort_of_mem_literals hl

theorem loads_timer : (∃ k, load "timer.py" (.ofModel .timer "Timer" "timer") = .ok k) ∧
    AccessorClass.timer.Carries .timer := by
  obtain ⟨_, hcompile⟩ := exists_compile_timer
  obtain ⟨-, -, hcarries⟩ := loads_iff_nonneg hcompile (by decide) (by decide) "timer.py"
  exact ⟨⟨_, load_timer⟩, hcarries _ load_timer⟩

end Compile

end RegisterMap
