import RegisterMap.Proofs.Accessor.Checks
import RegisterMap.Proofs.Accessor.Emission
import RegisterMap.Proofs.Accessor.Refusal

/-!
# What becomes of a device that is built

Where registers have public names and the class hides nothing that its constructor needs, a device
is had exactly at the addresses of the model, when they are checked, and where no register lies at
zero; it then has one handle for each register. A class that takes the name of an import is had as
well, but may hide what the constructor calls.
-/

namespace RegisterMap

open AccessorClass AccessorCode

/-- The handle of a register of a device at a base address. -/
def Register.handleAt (r : Register) (word : Bits.IntType) (base : Int) : Handle :=
  ⟨r.capability, base + r.offset, r.offset, word⟩

/-- Whether a device may have a base address. -/
def Model.Allows (m : Model) (checks : Bool) (base : Int) : Prop :=
  checks = false ∨ m.ports = [] ∨ base ∈ m.ports

instance (m : Model) (checks : Bool) (base : Int) : Decidable (m.Allows checks base) :=
  inferInstanceAs (Decidable (_ ∨ _ ∨ _))

/-- Whether a register of a device at a base address lies at zero. -/
def Model.HasNull (m : Model) (base : Int) : Prop :=
  ∃ r ∈ m.registers, base + r.offset = 0

/-- A device at a base address that has exactly one handle for each register of a model: the handle
is found by the name of the register, and it has its kind, its address and the word type. -/
structure Device.HasHandles (d : Device) (m : Model) (base : Int) : Prop where
  base_eq : d.base = base
  handles_eq : d.handles = m.registers.map fun r => (r.name, r.handleAt m.word base)
  names_nodup : (m.registers.map (·.name)).Nodup
  found : ∀ r ∈ m.registers, d.handle r.name = .ok (r.handleAt m.word base)
  shown : ∀ r ∈ m.registers, d.handleText (r.handleAt m.word base) =
    r.capability.handleName ++ "(" ++ Number.prefixedHex 8 (base + r.offset) ++ ", "
      ++ m.word.capitalName ++ ")"

/-- A class whose devices are built as its model says. -/
structure AccessorClass.Builds (k : AccessorClass) (m : Model) : Prop where
  succeeds : ∀ checks base, (∃ d, k.construct checks base = .ok d) ↔
    m.Allows checks base ∧ ¬m.HasNull base
  wrongPort : ∀ checks base, ¬m.Allows checks base →
    ∃ e, k.construct checks base = .error e ∧ e.category = .assertion
  null : ∀ checks base, m.Allows checks base → m.HasNull base →
    ∃ e, k.construct checks base = .error e ∧ e.category = .nullPointer
  holds : ∀ checks base d, k.construct checks base = .ok d → d.HasHandles m base

/-- A class that does not hide what the constructor of its devices needs. -/
structure AccessorClass.Unhidden (k : AccessorClass) (m : Model) : Prop where
  guard : m.ports ≠ [] → k.hides guardName = false
  handles : ∀ r ∈ m.registers, k.hides r.capability.handleName = false
  word : k.hidesWord = false

/-! ### Loading the class -/

section Loading

variable {m : Model} {className sourceName : String}

theorem mem_methodsOf_ofModel {n : String} :
    n ∈ (AccessorClass.methodsOf (.ofModel m className sourceName)).map (·.1) ↔
      ∃ f ∈ m.fields, ∃ a ∈ f.accessorNames, memberName className a = n := by
  rw [methodsOf_eq, mem_map_bindAll, List.map_map]
  simp only [ofModel, List.mem_map, List.mem_flatMap, Function.comp_apply]
  constructor
  · rintro ⟨a, ⟨f, hf, ha⟩, hn⟩
    refine ⟨f, hf, a.name, ?_, hn⟩
    rw [← map_name_methodsOf m f]
    exact List.mem_map_of_mem ha
  · rintro ⟨f, hf, n, hn, rfl⟩
    rw [← map_name_methodsOf m f] at hn
    obtain ⟨a, ha, rfl⟩ := List.mem_map.1 hn
    exact ⟨a, ⟨f, hf, ha⟩, rfl⟩

variable {t : ConstantTable} {decl : Description} (hm : m.WellFormed t decl)
  (hu : ∀ r ∈ m.registers, Text.isPublic r.name = true)
include hm hu

theorem Model.WellFormed.not_mem_commonNames (hc : checkMembers m = .ok ()) {r : Register}
    (hr : r ∈ m.registers) : r.name ∉ commonNames := by
  have hkept : keptName "" r.name = r.name := keptName_of_isPublic (hu r hr) ""
  rw [← hkept, keptName_mem_commonNames hm hc hr]
  exact not_mem_specialNames_of_isPublic (hu r hr)

theorem Model.WellFormed.not_mem_constantsOf (hc : checkMembers m = .ok ()) {r : Register}
    (hr : r ∈ m.registers) :
    r.name ∉ (AccessorClass.constantsOf (.ofModel m className sourceName)).map (·.1) := by
  have hkept : keptName className r.name = r.name := keptName_of_isPublic (hu r hr) className
  obtain ⟨c, hlast, hsmall⟩ := hm.exists_getLast?_slot className hr
  rw [hkept] at hlast
  -- the constants of fields and registers end in a capital, as no register does
  have hends : ∀ n : String, ∀ e, n.toList.getLast? = some e → Text.isCapital e = true →
      n ≠ r.name := by
    rintro n e hn he rfl
    cases hn.symm.trans hlast
    rw [hsmall] at he
    cases he
  rw [constantsOf_eq, mem_map_bindAll, List.mem_map]
  rintro ⟨x, hx, hname⟩
  rcases List.mem_append.1 hx with hx | hx
  · refine hm.not_mem_commonNames hu hc hr (hname ▸ List.mem_append_right _ ?_)
    have hcommon : x.1 ∈ [portsName, offsetsName] := List.mem_map_of_mem hx
    have hpublic : ∀ n ∈ [portsName, offsetsName], Text.isPublic n = true := by decide
    rw [memberName_of_isPublic (hpublic _ hcommon)]
    exact hcommon
  · obtain ⟨y, hy, rfl⟩ := List.mem_map.1 hx
    rcases List.mem_append.1 hy with hy | hy
    · obtain ⟨f, hf, hy⟩ := List.mem_flatMap.1 hy
      obtain ⟨e, he, hcapital, -⟩ := Field.getLast?_constant className hy
      exact hends _ e he hcapital hname
    · obtain ⟨s, hs, rfl⟩ := List.mem_map.1 hy
      exact hends _ 'K' (s.getLast?_mask className) rfl hname

/-- A register with a public name has the name of another member only if that is an accessor. -/
theorem Model.WellFormed.taken_iff (hc : checkMembers m = .ok ()) {r : Register}
    (hr : r ∈ m.registers) :
    r.name ∈ standardMembers
        ++ (AccessorClass.constantsOf (.ofModel m className sourceName)).map (·.1)
        ++ (AccessorClass.methodsOf (.ofModel m className sourceName)).map (·.1) ↔
      ∃ f ∈ m.fields, ∃ n ∈ f.accessorNames, memberName className n = r.name := by
  rw [List.mem_append, List.mem_append, mem_methodsOf_ofModel]
  constructor
  · rintro ((h | h) | h)
    · exact absurd (List.mem_append_left _ h) (hm.not_mem_commonNames hu hc hr)
    · exact absurd h (hm.not_mem_constantsOf hu hc hr)
    · exact h
  · exact .inr

/-- Code of registers with public names is loaded exactly when a file can hold it, its class can
have its name, no number is negative, and no register has the name of an accessor. -/
theorem Model.WellFormed.loads_iff (hc : checkMembers m = .ok ()) {file : String} :
    (∃ k, load file (.ofModel m className sourceName) = .ok k) ↔
      hasNull file = false ∧ (AccessorCode.ofModel m className sourceName).IsStorable ∧
        (isClassName className = true ∧ (∀ p ∈ m.ports, 0 ≤ p) ∧ ∀ r ∈ m.registers, 0 ≤ r.offset) ∧
        ∀ r ∈ m.registers, ∀ f ∈ m.fields, ∀ n ∈ f.accessorNames,
          memberName className n ≠ r.name := by
  have hslots : (AccessorCode.ofModel m className sourceName).keptSlots =
      m.registers.map (·.name) := by
    rw [keptSlots_ofModel]
    exact List.map_congr_left fun r hr => keptName_of_isPublic (hu r hr) className
  rw [exists_load_eq_ok, isValid_ofModel_iff hu, hslots, List.forall_mem_map]
  refine and_congr_right fun _ => and_congr_right fun _ => and_congr_right fun _ => ?_
  refine forall₂_congr fun r hr => ?_
  rw [hm.taken_iff hu hc hr]
  simp only [not_exists, not_and, ne_eq]

end Loading

/-! ### Building a device -/

/-- A class that takes the place of the word type shows itself in its place. -/
theorem Device.handleText_ne_of_hidesWord {d : Device} (h : d.kind.hidesWord = true)
    (r : Register) (word : Bits.IntType) (base : Int) :
    d.handleText (r.handleAt word base) ≠ r.capability.handleName ++ "(" ++
      Number.prefixedHex 8 (base + r.offset) ++ ", " ++ word.capitalName ++ ")" := by
  have hclass : ∀ s : String, (", <class 'regforge_" ++ s).toList[2]? = some '<' := by
    intro s
    rw [String.toList_append]
    rfl
  have hword : ∀ s : String, (", " ++ (word.capitalName ++ s)).toList[2]? ≠ some '<' := by
    intro s
    rw [Bits.IntType.capitalName, String.toList_append, String.toList_append, String.toList_append]
    cases word.signed <;> exact fun he => absurd (Option.some.inj he) (by decide)
  unfold Device.handleText Register.handleAt
  rw [h, if_pos rfl]
  simp only [String.append_assoc]
  intro he
  have hend := (String.append_right_inj _).1 ((String.append_right_inj _).1
    ((String.append_right_inj _).1 he))
  exact hword _ (hend ▸ hclass _)

section Construction

variable {m : Model} {className sourceName file : String} {k : AccessorClass}
  (hload : load file (.ofModel m className sourceName) = .ok k)
  (hu : ∀ r ∈ m.registers, Text.isPublic r.name = true)

/-- The slot of a register. -/
def Register.slot (r : Register) : Slot :=
  ⟨r.name, r.capability, .hex 4 r.offset⟩

include hload

theorem code_of_load : k.code = .ofModel m className sourceName := by
  rw [(load_eq_ok hload).2.1]

theorem word_of_load : k.code.word = m.word := by
  rw [code_of_load hload]
  rfl

theorem slots_of_load : k.code.slots = m.registers.map Register.slot := by
  rw [code_of_load hload]
  rfl

include hu

omit hload in
theorem AccessorClass.slotName_eq {r : Register} (hr : r ∈ m.registers) :
    k.slotName r.slot = r.name :=
  memberName_of_isPublic (hu r hr) k.code.className

/-- The class has a slot for each register and for nothing else. -/
theorem AccessorClass.claims_iff {name : String} :
    k.claims name = true ↔ name ∈ m.registers.map (·.name) := by
  have hslots : k.slots = m.registers.map (·.name) := by
    rw [(load_eq_ok hload).2.1]
    exact List.map_map.trans (List.map_congr_left fun r hr => keptName_of_isPublic (hu r hr) _)
  rw [claims, hslots, List.contains_iff_mem]

theorem AccessorClass.claims_underscore {name : String} (h : name.toList.head? = some '_') :
    k.claims name = false := by
  rw [← Bool.not_eq_true, claims_iff hload hu, List.mem_map]
  rintro ⟨r, hr, hname⟩
  exact Text.ne_of_isPublic (hu r hr) h hname

theorem AccessorClass.takes_iff {r : Register} (hr : r ∈ m.registers) :
    k.Takes r.slot ↔ k.hides r.capability.handleName = false := by
  have hname : k.slotName r.slot = r.name := slotName_eq hu hr
  refine ⟨fun h => h.visible, fun h => ⟨h, claims_underscore hload hu rfl, .inl ?_, ?_, ?_⟩⟩
  · rw [hname, ← List.contains_iff_mem]
    exact (claims_iff hload hu).2 (List.mem_map_of_mem hr)
  · rw [hname]
    exact Text.ne_of_isPublic (hu r hr) rfl
  · rw [hname]
    exact Text.ne_of_isPublic (hu r hr) rfl

theorem AccessorClass.construct_of_load_eq_ok {checks : Bool} {base : Int} {d : Device} :
    k.construct checks base = .ok d ↔ k.checkBase checks base = .ok () ∧
      (∀ r ∈ m.registers, k.hides r.capability.handleName = false ∧ base + r.offset ≠ 0) ∧
      d = ⟨k, base, k.handles base k.code.slots []⟩ := by
  rw [construct_eq_ok, slots_of_load hload, List.forall_mem_map]
  refine (and_iff_right (claims_underscore hload hu rfl)).trans (and_congr_right fun _ => ?_)
  refine and_congr_left fun _ => forall₂_congr fun r hr => ?_
  rw [takes_iff hload hu hr]
  rfl

/-- Where the class does not hide the check of addresses, it passes those that are allowed. -/
theorem AccessorClass.checkBase_eq (hg : m.ports ≠ [] → k.hides guardName = false) (checks : Bool)
    (base : Int) : (m.Allows checks base → k.checkBase checks base = .ok ()) ∧
      (¬m.Allows checks base → k.checkBase checks base = .error (.notAPort base className)) := by
  have hports : k.code.ports.map (·.value) = m.ports := by
    rw [code_of_load hload]
    exact List.map_map.trans (List.map_id _)
  have hempty : k.code.ports.isEmpty = true ↔ m.ports = [] := by
    rw [← hports, List.map_eq_nil_iff, List.isEmpty_iff]
  have hname : k.code.className = className := by
    rw [code_of_load hload]
    rfl
  unfold checkBase Model.Allows
  rw [claims_underscore hload hu rfl, hports, hname]
  by_cases hnone : m.ports = []
  · simp [hempty.2 hnone, hnone]
  · have hsome : k.code.ports.isEmpty = false := by
      rw [← Bool.not_eq_true, hempty]
      exact hnone
    rw [hsome, hg hnone]
    cases checks <;> by_cases hbase : base ∈ m.ports <;> simp [hnone, hbase]

section Handles

variable (hnodup : (m.registers.map (·.name)).Nodup)
include hnodup

omit hload in
theorem AccessorClass.nodup_slotNames : ((m.registers.map Register.slot).map k.slotName).Nodup := by
  have hnames : (m.registers.map Register.slot).map k.slotName = m.registers.map (·.name) :=
    List.map_map.trans (List.map_congr_left fun r hr => slotName_eq hu hr)
  rw [hnames]
  exact hnodup

theorem AccessorClass.handles_of_load (base : Int) : k.handles base k.code.slots [] =
    m.registers.map fun r => (r.name, r.handleAt m.word base) := by
  rw [slots_of_load hload, handles, foldl_bind_of_nodup k.slotName (k.handleOf base)
    (nodup_slotNames hu hnodup) [] (fun _ _ => List.not_mem_nil), List.nil_append, List.map_map]
  refine List.map_congr_left fun r hr => ?_
  rw [Function.comp_apply, slotName_eq hu hr, handleOf, word_of_load hload]
  rfl

/-- A device that is had has the handles of its registers, if the class does not hide the word
type. -/
theorem AccessorClass.hasHandles (hword : k.hidesWord = false) {checks : Bool} {base : Int}
    {d : Device} (h : k.construct checks base = .ok d) : d.HasHandles m base := by
  obtain ⟨-, -, rfl⟩ := (construct_of_load_eq_ok hload hu).1 h
  have hlookup : ∀ r ∈ m.registers, (k.handles base k.code.slots []).lookup r.name =
      some (r.handleAt m.word base) := by
    intro r hr
    have hfound := lookup_foldl_bind_of_nodup k.slotName (k.handleOf base)
      (nodup_slotNames hu hnodup) (List.mem_map_of_mem (f := Register.slot) hr) []
    rw [slotName_eq hu hr, handleOf, word_of_load hload] at hfound
    rw [slots_of_load hload]
    exact hfound
  have hlast : (k.handles base k.code.slots []).lookup "__getattribute__" = none := by
    rw [slots_of_load hload, handles, lookup_foldl_bind_eq_none, List.forall_mem_map]
    intro r hr
    rw [slotName_eq hu hr]
    exact Text.ne_of_isPublic (hu r hr) rfl
  refine ⟨rfl, handles_of_load hload hu hnodup base, hnodup, fun r hr => ?_, fun r hr => ?_⟩
  · unfold Device.handle Device.member
    rw [hlast, hlookup r hr]
    rfl
  · rw [Device.handleText, hword]
    rfl

/-- A class that hides nothing that is needed has devices as its model says. -/
theorem AccessorClass.builds_of_unhidden (h : k.Unhidden m) : k.Builds m := by
  have hnull : ∀ base, (∀ r ∈ m.registers, k.hides r.capability.handleName = false ∧
      base + r.offset ≠ 0) ↔ ¬m.HasNull base := by
    intro base
    unfold Model.HasNull
    push Not
    exact forall₂_congr fun r hr => and_iff_right (h.handles r hr)
  refine ⟨?succeeds, ?wrongPort, ?null, fun checks base d => hasHandles hload hu hnodup h.word⟩
  case succeeds =>
    intro checks base
    obtain ⟨hallowed, hrefused⟩ := checkBase_eq hload hu h.guard checks base
    simp only [construct_of_load_eq_ok hload hu, hnull, exists_and_left, exists_eq, and_true]
    refine and_congr_left fun _ => ⟨fun hok => ?_, hallowed⟩
    by_contra hbase
    rw [hrefused hbase] at hok
    cases hok
  case wrongPort =>
    intro checks base hbase
    refine ⟨.notAPort base className, ?_, rfl⟩
    rw [construct, claims_underscore hload hu rfl, if_neg Bool.false_ne_true,
      (checkBase_eq hload hu h.guard checks base).2 hbase, error_bind]
  case null =>
    intro checks base hbase hzero
    cases hcon : k.construct checks base with
    | ok d =>
      obtain ⟨-, hall, -⟩ := (construct_of_load_eq_ok hload hu).1 hcon
      exact absurd hzero ((hnull base).1 hall)
    | error e =>
      refine ⟨e, rfl, ?_⟩
      rw [construct, claims_underscore hload hu rfl, if_neg Bool.false_ne_true,
        (checkBase_eq hload hu h.guard checks base).1 hbase, ok_bind] at hcon
      cases hfill : k.fill base [] k.code.slots with
      | ok handles =>
        rw [hfill] at hcon
        cases hcon
      | error e' =>
        rw [hfill] at hcon
        cases hcon
        -- no handle is hidden, so the one that fails lies at zero
        have htakes : ∀ s ∈ k.code.slots, k.Takes s := by
          rw [slots_of_load hload, List.forall_mem_map]
          exact fun r hr => (takes_iff hload hu hr).2 (h.handles r hr)
        obtain ⟨_, _, rfl⟩ := fill_eq_error htakes hfill
        rfl

omit hnodup in
/-- At the address one a device has to be had, as no register lies at zero then. -/
theorem AccessorClass.not_hasNull_one : ¬m.HasNull 1 := by
  obtain ⟨-, -, hoffsets⟩ := (isValid_ofModel_iff hu).1 (load_eq_ok hload).1
  rintro ⟨r, hr, hzero⟩
  have hoffset := hoffsets r hr
  omega

omit hnodup in
/-- A class whose devices are as its model says hides nothing that is needed. -/
theorem AccessorClass.unhidden_of_builds (hne : m.registers ≠ []) (h : k.Builds m) :
    k.Unhidden m := by
  -- a device without checks, where nothing but a hidden name can fail
  obtain ⟨d, hd⟩ := (h.succeeds false 1).2 ⟨.inl rfl, not_hasNull_one hload hu⟩
  obtain ⟨hbase, hall, -⟩ := (construct_of_load_eq_ok hload hu).1 hd
  refine ⟨?guard, fun r hr => (hall r hr).1, ?word⟩
  case guard =>
    intro hports
    have hsome : k.code.ports.isEmpty = false := by
      rw [code_of_load hload]
      simpa [ofModel] using hports
    rw [checkBase, hsome, claims_underscore hload hu rfl] at hbase
    cases hhides : k.hides guardName with
    | false => rfl
    | true =>
      rw [hhides] at hbase
      cases hbase
  case word =>
    obtain ⟨r, hr⟩ := List.exists_mem_of_ne_nil _ hne
    have hshown := (h.holds false 1 d hd).shown r hr
    cases hhides : k.hidesWord with
    | false => rfl
    | true =>
      have hkind : d.kind = k := by
        obtain ⟨-, -, rfl⟩ := (construct_of_load_eq_ok hload hu).1 hd
        rfl
      exact absurd hshown (Device.handleText_ne_of_hidesWord (hkind ▸ hhides) r m.word 1)

end Handles

end Construction

/-- A class that takes the name of no import hides nothing. -/
theorem AccessorClass.unhidden_of_not_mem {k : AccessorClass} (m : Model)
    (h : Text.canonical k.code.className ∉ k.imported) : k.Unhidden m := by
  have hhides : ∀ name, k.hides name = false := by
    intro name
    rw [hides, ← Bool.not_eq_true, Bool.and_eq_true, List.contains_iff_mem]
    rintro ⟨hname, hmem⟩
    exact h (eq_of_beq hname ▸ hmem)
  exact ⟨fun _ => hhides _, fun _ _ => hhides _, hhides _⟩

namespace Compile

/-- For registers with public names and numbers that are not negative, code is loaded exactly when a
file can hold it, its class can have its name and no accessor takes the name of a register.
A class then has devices as its model says exactly when it hides nothing that is needed, and so it
does when it takes the name of no import. Building a device accesses no memory. -/
theorem builds_iff_unhidden [Machine] {decl : Description} {o : Options}
    {external : External} {m : Model} {c : AccessorCode} {ns ns' : List Notice}
    (h : (compile decl o external).run ns = (.ok (m, c), ns'))
    (hu : ∀ r ∈ m.registers, Text.isPublic r.name = true) (hports : ∀ p ∈ m.ports, 0 ≤ p)
    (hoffsets : ∀ r ∈ m.registers, 0 ≤ r.offset) (file : String) :
    ((∃ k, load file c = .ok k) ↔ hasNull file = false ∧ c.IsStorable ∧
      isClassName o.className = true ∧ ∀ r ∈ m.registers, ∀ f ∈ m.fields,
        ∀ n ∈ f.accessorNames, memberName o.className n ≠ r.name) ∧
    ∀ k, load file c = .ok k → (k.Builds m ↔ k.Unhidden m) ∧
      (Text.canonical o.className ∉ k.imported → k.Builds m) ∧
      ∀ (σ : Type) (store : Store σ) (checks : Bool) (base : Int) (s : Session σ),
        (Session.event checks k store (.make base) s).1.accesses = [] ∧
          (Session.event checks k store (.make base) s).1.memory = s.memory := by
  obtain ⟨⟨_, ha⟩, hcode⟩ := exists_compile_eq_ok.1 ⟨ns', h⟩
  obtain ⟨_, hmembers, rfl⟩ := code_eq_ok hcode
  obtain ⟨t, _, -, -, hm⟩ := Analysis.wellFormed_of_analyze ha
  have hne : m.registers ≠ [] := by
    obtain ⟨f, hf⟩ := List.exists_mem_of_ne_nil _ hm.inhabited
    obtain ⟨r, hr, -⟩ := hm.home f hf
    exact List.ne_nil_of_mem hr
  refine ⟨?_, fun k hload => ?_⟩
  · rw [hm.loads_iff hu hmembers]
    simp only [and_iff_left (And.intro hports hoffsets)]
  · have hbuilds := builds_of_unhidden hload hu hm.registerNames_nodup
    refine ⟨⟨unhidden_of_builds hload hu hne, hbuilds⟩, fun hname => hbuilds ?_, ?_⟩
    · refine unhidden_of_not_mem m ?_
      rw [code_of_load hload]
      exact hname
    · intro σ store checks base s
      dsimp only [Session.event, Session.move]
      cases k.construct checks base <;> exact ⟨rfl, rfl⟩

/-- The timer is had at its address. At another address the check fails first, also where a register
lies at zero, which is what fails without the check. -/
theorem builds_timer : AccessorClass.timer.Builds .timer ∧ Device.timer.HasHandles .timer 4096 ∧
    (∃ e, AccessorClass.timer.construct true (-8) = .error e ∧ e.category = .assertion) ∧
    ∃ e, AccessorClass.timer.construct false (-8) = .error e ∧ e.category = .nullPointer := by
  obtain ⟨_, hcompile⟩ := exists_compile_timer
  obtain ⟨-, hloaded⟩ :=
    builds_iff_unhidden hcompile (by decide) (by decide) (by decide) "timer.py"
  have hbuilds := (hloaded _ load_timer).2.1 (by decide)
  have hnull : Model.timer.HasNull (-8) := ⟨_, List.mem_cons_self, rfl⟩
  exact ⟨hbuilds, hbuilds.holds true 4096 _ rfl, hbuilds.wrongPort true (-8) (by decide),
    hbuilds.null false (-8) (.inl rfl) hnull⟩

end Compile

end RegisterMap
