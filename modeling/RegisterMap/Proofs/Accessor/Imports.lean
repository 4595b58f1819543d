import RegisterMap.Compile
import RegisterMap.Proofs.Accessor.Exact
import RegisterMap.Proofs.Accessor.LineCalls
import RegisterMap.Proofs.Text.Renaming

/-!
# What accessor code imports

The emitted code read as a reader of code does: the functions it defines are those that build a
device and the accessors, and it imports just the primitives and the handles that these call, with
the type of the words that is handed to each of them.
-/

namespace RegisterMap

namespace Text

theorem toNat_charOfNat_cases (n : Nat) : (Char.ofNat n).toNat = n ∨ (Char.ofNat n).toNat = 0 := by
  unfold Char.ofNat
  by_cases h : n.isValidChar
  · rw [dif_pos h]
    exact .inl rfl
  · rw [dif_neg h]
    exact .inr rfl

/-- A character below the letters stands in the capitals of a text only if it stands in the text. -/
theorem not_mem_upper {s : String} {d : Char} (hpos : 0 < d.toNat) (hd : d.toNat < 0x41)
    (h : d ∉ s.toList) : d ∉ (upper s).toList := by
  have hruns : ∀ run ∈ upperRuns, (0x41 : Int) ≤ run.first + run.shift := by decide +kernel
  have hsequences : ∀ x ∈ upperSequences, ∀ n ∈ x.2, 0x41 ≤ n := by decide +kernel
  have himage : ∀ n, 0x41 ≤ n → Char.ofNat n ≠ d := by
    rintro n hn rfl
    rcases toNat_charOfNat_cases n with h | h <;> omega
  have hself : ∀ c ∈ s.toList, c ≠ d := fun c hc he => h (he ▸ hc)
  rw [upper, String.toList_ofList, List.mem_flatMap]
  rintro ⟨c, hc, hmem⟩
  unfold upperChar at hmem
  split at hmem
  · next hlow =>
    have hsmall : c.toUpper.toNat < 0x41 → c.toUpper = c :=
      of_forall_lt (fun c => c.toUpper.toNat < 0x41 → c.toUpper = c) (by decide) hlow
    rw [List.mem_singleton] at hmem
    subst hmem
    exact hself c hc (hsmall hd).symm
  · unfold caseImage at hmem
    split at hmem
    · next image hlookup =>
      obtain ⟨n, hn, hmap⟩ := List.mem_map.1 hmem
      obtain ⟨front, back, happend, -⟩ := List.lookup_eq_some_iff.1 hlookup
      exact himage n (hsequences (c.toNat, image) (by simp [happend]) n hn) hmap
    · split at hmem
      · next run hfind =>
        have hcovers := List.find?_some hfind
        have hrun := hruns run (List.mem_of_find?_eq_some hfind)
        simp only [CaseRun.covers, Bool.and_eq_true, decide_eq_true_eq] at hcovers
        exact himage _ (by omega) (List.mem_singleton.1 hmem).symm
      · exact hself c hc (List.mem_singleton.1 hmem).symm

end Text

namespace AccessorCode

open Code

/-! ### The functions and imports of a module -/

theorem functionsIn_methodLines (word : Bits.IntType) {m : Method} (h : '(' ∉ m.name.toList) :
    functionsOf (methodLines word m) =
      [⟨m.name, linesOf (actionLines word m.register m.action)⟩] := by
  obtain ⟨rest, hrest⟩ : ∃ rest, signature m.action = "(" ++ rest := by
    cases m.action
    · exact ⟨"self) -> bool:", rfl⟩
    · exact ⟨"self) -> int:", rfl⟩
    · exact ⟨"self) -> None:", rfl⟩
    · exact ⟨"self, flag: bool) -> None:", rfl⟩
    · exact ⟨"self, bits: int) -> None:", rfl⟩
  simp [methodLines, functionsOf, functionsIn, hrest, functionName?_append h, linesOf, linesIn]

theorem functionsOf_construction (c : AccessorCode) :
    functionsOf (construction c) =
      [⟨"__init__", linesOf (buildingLines c)⟩, ⟨"new", ["return cls(base_address, memory)"]⟩] := by
  have hinit : functionName? "def __init__(self, base_address: int, memory: Memory) -> None:" =
      some "__init__" := by
    have hheader : "def __init__(self, base_address: int, memory: Memory) -> None:" = "def " ++
        "__init__" ++ ("(" ++ "self, base_address: int, memory: Memory) -> None:") := by
      rfl
    rw [hheader]
    exact functionName?_append (by decide)
  have hnew : functionName? ("def new(cls, base_address: int, memory: Memory) -> " ++
      inQuotes c.className ++ ":") = some "new" := by
    have hheader : "def new(cls, base_address: int, memory: Memory) -> " ++
        inQuotes c.className ++ ":" = "def " ++ "new" ++
          ("(" ++ ("cls, base_address: int, memory: Memory) -> " ++ inQuotes c.className ++
            ":")) := by
      rw [← String.toList_inj]
      simp
    rw [hheader]
    exact functionName?_append (by decide)
  simp [construction, functionsOf, functionsIn, hinit, hnew, linesOf, linesIn, buildingLines]

/-- The functions of a module: the two that build a device, and the methods. -/
theorem functionsOf_lines {c : AccessorCode} (h : ∀ m ∈ c.methods, '(' ∉ m.name.toList) :
    functionsOf (lines c) = ⟨"__init__", linesOf (buildingLines c)⟩ ::
      ⟨"new", ["return cls(base_address, memory)"]⟩ ::
        c.methods.map fun m => ⟨m.name, linesOf (actionLines c.word m.register m.action)⟩ := by
  have hmethods : ∀ ms : List Method, (∀ m ∈ ms, '(' ∉ m.name.toList) →
      functionsOf (ms.flatMap (methodLines c.word)) =
        ms.map fun m => ⟨m.name, linesOf (actionLines c.word m.register m.action)⟩ := by
    intro ms h
    induction ms with
    | nil => rfl
    | cons m ms ih =>
      obtain ⟨hm, hms⟩ := List.forall_mem_cons.1 h
      rw [List.flatMap_cons, functionsOf_append, functionsIn_methodLines c.word hm, ih hms]
      rfl
  have hpreamble : functionsOf (preamble c) = [] :=
    functionsOf_eq_nil (by simp [preamble, functionsIn])
  have hconstants : functionsOf (constants c) = [] := by
    refine functionsOf_eq_nil fun x hx => ?_
    simp only [constants, binding, List.mem_append, List.mem_map, List.mem_cons, List.not_mem_nil,
      or_false] at hx
    rcases hx with ((((hx | ⟨_, -, rfl⟩) | hx) | ⟨_, -, rfl⟩) | rfl) | ⟨_, -, rfl⟩ <;>
      first
      | rfl
      | (rcases hx with rfl | rfl | rfl <;> rfl)
  have hclass : functionName? ("class " ++ c.className ++ ":") = none := by
    rw [functionName?, behind?, String.toList_append, String.toList_append, if_neg]
    · rfl
    · exact Bool.false_ne_true
  rw [lines, functionsOf_append, hpreamble, List.nil_append]
  simp only [functionsOf, functionsIn, classLines, hclass, List.nil_append, List.append_nil]
  rw [functionsOf_append, functionsOf_append, functionsOf_append, functionsOf_append, hconstants,
    functionsOf_construction, hmethods c.methods h]
  rfl

/-- The lines of a module that a reader of imports stops at. -/
theorem flatMap_lines {α : Type} (c : AccessorCode) {f : Writing → List α}
    (hdocs : ∀ docs, f (.docs docs) = []) (hblock : ∀ header body, f (.block header body) = [])
    (hblank : f (.line "") = [])
    (hall : f (.line ("__all__ = [" ++ inQuotes c.className ++ "]")) = []) :
    (lines c).flatMap f =
      f (.line ("from regforge.runtime.bits import "
        ++ commas (c.types.map (·.capitalName) ++ c.primitives.map (·.name)))) ++
      f (.line ("from regforge.runtime.checks import " ++ guardName)) ++
      f (.line ("from regforge.runtime.handles import "
        ++ commas (c.handles.map (·.handleName)))) ++
      f (.line ("from regforge.runtime.memory import " ++ memoryName)) := by
  simp [lines, preamble, classLines, hdocs, hblock, hblank, hall]

/-- What a module imports from a source, by the four lines that import. -/
theorem imports_lines (c : AccessorCode) {source : String} (hs : ' ' ∉ source.toList) :
    imports source (lines c) =
      (if bitsSource = source then
        listed (commas (c.types.map (·.capitalName) ++ c.primitives.map (·.name))) else []) ++
      (if "regforge.runtime.checks" = source then listed guardName else []) ++
      (if handlesSource = source then listed (commas (c.handles.map (·.handleName))) else []) ++
      (if "regforge.runtime.memory" = source then listed memoryName else []) := by
  have hbits : "from regforge.runtime.bits import " = "from " ++ bitsSource ++ " import " := by
    rfl
  have hchecks : "from regforge.runtime.checks import " =
      "from " ++ "regforge.runtime.checks" ++ " import " := by rfl
  have hhandles : "from regforge.runtime.handles import " =
      "from " ++ handlesSource ++ " import " := by rfl
  have hmemory : "from regforge.runtime.memory import " =
      "from " ++ "regforge.runtime.memory" ++ " import " := by rfl
  have hall : importsIn source (.line ("__all__ = [" ++ inQuotes c.className ++ "]")) = [] := by
    refine importsIn_other fun hprefix => ?_
    simp at hprefix
  rw [imports, flatMap_lines c (fun _ => rfl) (fun _ _ => rfl) (importsIn_other (by decide)) hall,
    hbits, hchecks, hhandles, hmemory, importsIn_line hs (by decide), importsIn_line hs (by decide),
    importsIn_line hs (by decide), importsIn_line hs (by decide)]

/-- What is called that a module imports: a primitive, or the maker of a handle. -/
def IsImported (call : Call) : Prop :=
  (∃ p : Primitive, call.callee = p.name) ∨ ∃ k : Capability, call.callee = makerName k

theorem IsOwn.not_isImported {call : Call} (h : IsOwn call) : ¬IsImported call := by
  have hself : ∀ rest : String, (∀ p : Primitive, "self." ++ rest ≠ p.name) ∧
      ∀ k : Capability, "self." ++ rest ≠ makerName k := by
    refine fun rest => ⟨fun p heq => ?_, fun k heq => ?_⟩
    · have hlist := congrArg String.toList heq
      cases p <;> simp [Primitive.name] at hlist
    · have hlist := congrArg String.toList heq
      cases k <;> simp [makerName, Capability.handleName] at hlist
  rintro (⟨p, hp⟩ | ⟨k, hk⟩)
  · rcases h with h | ⟨rest, h⟩
    · rw [h] at hp
      cases p <;> exact absurd hp (by decide)
    · exact (hself rest).1 p (h.symm.trans hp)
  · rcases h with h | ⟨rest, h⟩
    · rw [h] at hk
      cases k <;> exact absurd hk (by decide)
    · exact (hself rest).2 k (h.symm.trans hk)

theorem name_inj {p q : Primitive} (h : p.name = q.name) : p = q := by
  cases p <;> cases q <;> first | rfl | exact absurd h (by decide)

theorem makerName_inj {k l : Capability} (h : makerName k = makerName l) : k = l := by
  cases k <;> cases l <;> first | rfl | exact absurd h (by decide)

theorem name_ne_makerName (p : Primitive) (k : Capability) : p.name ≠ makerName k := by
  cases p <;> cases k <;> decide

theorem name_ne_capitalName (p : Primitive) (t : Bits.IntType) : p.name ≠ t.capitalName := by
  intro heq
  have hlist := congrArg String.toList heq
  cases p <;> cases hs : t.signed <;> simp [Primitive.name, Bits.IntType.capitalName, hs] at hlist

theorem mem_insertType {t u : Bits.IntType} {ts : List Bits.IntType} (h : u ∈ ts) :
    u ∈ insertType t ts := by
  induction ts with
  | nil => cases h
  | cons v ts ih =>
    unfold insertType
    split_ifs with heq hlt
    · exact h
    · exact List.mem_cons_of_mem _ h
    · rcases List.mem_cons.1 h with rfl | h
      · exact List.mem_cons_self
      · exact List.mem_cons_of_mem _ (ih h)

theorem word_mem_typesOf (m : Model) : m.word ∈ typesOf m := by
  have hfold : ∀ (ts us : List Bits.IntType), m.word ∈ us →
      m.word ∈ ts.foldl (fun us t => insertType t us) us := by
    intro ts
    induction ts with
    | nil => exact fun us h => h
    | cons t ts ih => exact fun us h => ih _ (mem_insertType h)
  exact hfold _ _ List.mem_cons_self

theorem mem_handlesOf {m : Model} {k : Capability} :
    k ∈ handlesOf m ↔ ∃ r ∈ m.registers, r.capability = k := by
  have horder : k ∈ handleOrder := by
    cases k <;> decide
  simp [handlesOf, horder]

end AccessorCode

open Code AccessorCode

/-- The code that is emitted for a model. -/
def Model.emitted (m : Model) (o : Options) : List Writing :=
  (ofModel m o.className o.sourceName).lines

namespace Model.WellFormed

variable {t : ConstantTable} {decl : Description} {m : Model} (hm : m.WellFormed t decl)
include hm

theorem mem_primitivesOf {p : Primitive} :
    p ∈ primitivesOf m ↔ ∃ a ∈ m.fields.flatMap (methodsOf m), a.action.primitive = p := by
  constructor
  · intro hp
    obtain ⟨-, hserves⟩ := List.mem_filter.1 hp
    obtain ⟨f, hf, hserves⟩ := List.any_eq_true.1 hserves
    rcases primitive_of_serves (hm.fits f hf) hserves with ⟨hr, rfl⟩ | ⟨hw, hset⟩
    · refine ⟨getter f, List.mem_flatMap.2 ⟨f, hf, ?_⟩, rfl⟩
      simp [methodsOf, hr]
    · refine ⟨setter (capabilityFor m f) f, List.mem_flatMap.2 ⟨f, hf, ?_⟩, (hset _).symm⟩
      simp [methodsOf, hw]
  · rintro ⟨a, ha, rfl⟩
    obtain ⟨f, hf, ha⟩ := List.mem_flatMap.1 ha
    rcases List.mem_append.1 ha with ha | ha
    · split at ha
      · next hr =>
        rw [List.mem_singleton.1 ha]
        exact getter_primitive_mem hf hr
      · cases ha
    · split at ha
      · next hw =>
        rw [List.mem_singleton.1 ha]
        exact setter_primitive_mem hf (hm.fits f hf) hw _
      · cases ha

omit hm in
/-- A method of a field belongs to the register of the field, and names at most that field. -/
theorem of_mem_methods {a : Method} (ha : a ∈ m.fields.flatMap (methodsOf m)) :
    ∃ f ∈ m.fields, a.name ∈ f.accessorNames ∧ a.register = f.register ∧
      ∀ field ∈ a.action.guarded?, field = f.name := by
  obtain ⟨f, hf, ha⟩ := List.mem_flatMap.1 ha
  refine ⟨f, hf, ?_, ?_⟩
  · rw [← map_name_methodsOf m f]
    exact List.mem_map_of_mem ha
  · rcases List.mem_append.1 ha with ha | ha
    · split at ha
      · rw [List.mem_singleton.1 ha]
        refine ⟨rfl, fun field hfield => ?_⟩
        cases hs : f.single <;> simp [getter, hs, Action.guarded?] at hfield
      · cases ha
    · split at ha
      · rw [List.mem_singleton.1 ha]
        refine ⟨rfl, fun field hfield => ?_⟩
        cases hc : f.policy.selfClearing <;> cases hs : f.single <;>
          simp [setter, setterAction, hc, hs, Action.guarded?] at hfield
        exact hfield.symm
      · cases ha

theorem callsOnly_method {a : Method} (ha : a ∈ m.fields.flatMap (methodsOf m)) :
    CallsOnly a.action.primitive m.word (actionLines m.word a.register a.action) := by
  obtain ⟨f, hf, -, hregister, hfield⟩ := of_mem_methods ha
  obtain ⟨r, hr, hname, -⟩ := hm.home f hf
  have hidentifier : Text.isIdentifier a.register = true := by
    rw [hregister, ← hname]
    exact (hm.registers_usable r hr).1
  have hmask : (maskConstantOf a.register).toList.all isStill = true := by
    have hnot : ∀ d, Text.isNameStart d = false → Text.isNamePart d = false → 0 < d.toNat →
        d.toNat < 0x41 → d ∉ (Text.upper a.register).toList := fun d hs hp hpos hlt =>
      Text.not_mem_upper hpos hlt (Text.not_mem_of_isIdentifier hs hp hidentifier)
    have hupper : (Text.upper a.register).toList.all isStill = true := by
      refine List.all_eq_true.2 fun c hc => ?_
      have hopen : c ≠ '(' := by
        rintro rfl
        exact hnot '(' (by decide) (by decide) (by decide) (by decide) hc
      have hquote : c ≠ '"' := by
        rintro rfl
        exact hnot '"' (by decide) (by decide) (by decide) (by decide) hc
      simp [isStill, hopen, hquote]
    rw [maskConstantOf, String.toList_append, List.all_append, hupper]
    decide
  refine callsOnly_actionLines (all_isNameChar_of_isIdentifier hidentifier) hmask _ ?_
  intro field hmem
  rw [hfield field hmem]
  exact Text.not_mem_of_isIdentifier (by decide) (by decide) (hm.usable f hf).1

theorem bracket_not_mem_methodName {a : Method} (ha : a ∈ m.fields.flatMap (methodsOf m)) :
    '(' ∉ a.name.toList := by
  obtain ⟨f, hf, hname, -⟩ := of_mem_methods ha
  have hfield : '(' ∉ f.name.toList :=
    Text.not_mem_of_isIdentifier (by decide) (by decide) (hm.usable f hf).1
  have happend : ∀ front back : String, '(' ∉ front.toList → '(' ∉ back.toList →
      '(' ∉ (front ++ f.name ++ back).toList := by
    intro front back hfront hback
    simp only [String.toList_append, List.mem_append, not_or]
    exact ⟨⟨hfront, hfield⟩, hback⟩
  have hplain : ∀ front : String, '(' ∉ front.toList → '(' ∉ (front ++ f.name).toList := by
    intro front hfront
    simp only [String.toList_append, List.mem_append, not_or]
    exact ⟨hfront, hfield⟩
  rcases Field.eq_of_mem_accessorNames hname with h | h
  · rw [h, Field.getterName]
    split
    · exact happend _ _ (by decide) (by decide)
    · exact happend _ _ (by decide) (by decide)
    · exact hplain _ (by decide)
  · rw [h, Field.setterName]
    split <;> exact hplain _ (by decide)

theorem functions_emitted (o : Options) : functionsOf (m.emitted o) =
    ⟨"__init__", linesOf (buildingLines (ofModel m o.className o.sourceName))⟩ ::
      ⟨"new", ["return cls(base_address, memory)"]⟩ ::
        (m.fields.flatMap (methodsOf m)).map fun a =>
          ⟨a.name, linesOf (actionLines m.word a.register a.action)⟩ :=
  functionsOf_lines fun _ ha => hm.bracket_not_mem_methodName ha

theorem calls_building (o : Options) : ∃ front,
    (linesOf (buildingLines (ofModel m o.className o.sourceName))).flatMap calls =
        front ++ m.registers.map (fun r => ⟨makerName r.capability, m.word.capitalName⟩) ∧
      ∀ call ∈ front, IsOwn call := by
  have hclass : '"' ∉ o.className.toList :=
    Text.not_mem_of_isIdentifier (by decide) (by decide) o.isIdentifier_className
  have hslots : ∀ s ∈ (ofModel m o.className o.sourceName).slots,
      s.register.toList.all isNameChar = true :=
    List.forall_mem_map.2 fun r hr => all_isNameChar_of_isIdentifier (hm.registers_usable r hr).1
  obtain ⟨front, hcalls, hfront⟩ := calls_buildingLines hclass hslots
  refine ⟨front, ?_, hfront⟩
  rw [hcalls]
  simp [ofModel, Function.comp_def]

/-- The line that fills the slot of a register. -/
theorem exists_slotLine (o : Options) {r : Register} (hr : r ∈ m.registers) :
    ∃ line ∈ linesOf (buildingLines (ofModel m o.className o.sourceName)),
      (behind? ("self." ++ r.name ++ " = ") line).isSome ∧
        calls line = [⟨makerName r.capability, m.word.capitalName⟩] := by
  have hname := all_isNameChar_of_isIdentifier (hm.registers_usable r hr).1
  have hslot : slotLine m.word ⟨r.name, r.capability, .hex 4 r.offset⟩ ∈
      buildingLines (ofModel m o.className o.sourceName) :=
    List.mem_append_right _ (List.mem_map_of_mem (List.mem_map_of_mem hr))
  have hcalls := @calls_slotLine m.word ⟨r.name, r.capability, .hex 4 r.offset⟩ hname
  obtain ⟨rest, hline⟩ := slotLine_eq m.word ⟨r.name, r.capability, .hex 4 r.offset⟩
  rw [hline] at hslot
  rw [hline, linesIn, List.flatMap_singleton] at hcalls
  refine ⟨_, mem_linesOf hslot (List.mem_singleton_self _), ?_, hcalls⟩
  rw [behind?_append]
  rfl

omit hm in
theorem imports_bits (o : Options) : imports bitsSource (m.emitted o) =
    (typesOf m).map (·.capitalName) ++ (primitivesOf m).map (·.name) := by
  have hne : (typesOf m).map (·.capitalName) ++ (primitivesOf m).map (·.name) ≠ [] :=
    List.append_ne_nil_of_left_ne_nil
      (List.ne_nil_of_mem (List.mem_map_of_mem (word_mem_typesOf m))) _
  have hnames : ∀ s ∈ (typesOf m).map (·.capitalName) ++ (primitivesOf m).map (·.name),
      s.toList.all isNameChar = true :=
    List.forall_mem_append.2 ⟨List.forall_mem_map.2 fun u _ => all_isNameChar_capitalName u,
      List.forall_mem_map.2 fun p _ => all_isNameChar_name p⟩
  rw [Model.emitted, imports_lines _ (by decide), if_pos rfl, if_neg (by decide),
    if_neg (by decide), if_neg (by decide), List.append_nil, List.append_nil, List.append_nil]
  exact listed_commas hne hnames

theorem imports_handles (o : Options) :
    imports handlesSource (m.emitted o) = (handlesOf m).map (·.handleName) := by
  have hne : (handlesOf m).map (·.handleName) ≠ [] := by
    obtain ⟨f, hf⟩ := List.exists_mem_of_ne_nil _ hm.inhabited
    obtain ⟨r, hr, -⟩ := hm.home f hf
    exact List.ne_nil_of_mem (List.mem_map_of_mem (mem_handlesOf.2 ⟨r, hr, rfl⟩))
  have hnames : ∀ s ∈ (handlesOf m).map (·.handleName), s.toList.all isNameChar = true :=
    List.forall_mem_map.2 fun k _ => all_isNameChar_handleName k
  rw [Model.emitted, imports_lines _ (by decide), if_neg (by decide), if_neg (by decide),
    if_pos rfl, if_neg (by decide), List.append_nil, List.nil_append, List.nil_append]
  exact listed_commas hne hnames

/-- What a function of the module calls of what it imports: one that builds the device the makers of
its registers' handles, and an accessor the primitive of its action. -/
theorem calls_function (o : Options) {f : Function} (hf : f ∈ functionsOf (m.emitted o))
    {call : Call} (hcall : call ∈ f.calls) (himported : IsImported call) :
    (f.name = "__init__" ∧ ∃ r ∈ m.registers, call = ⟨makerName r.capability, m.word.capitalName⟩) ∨
      ∃ a ∈ m.fields.flatMap (methodsOf m), f.name = a.name ∧
        call = ⟨a.action.primitive.name, m.word.capitalName⟩ := by
  rw [hm.functions_emitted] at hf
  rcases List.mem_cons.1 hf with rfl | hf
  · obtain ⟨front, hcalls, hfront⟩ := hm.calls_building o
    rw [Function.calls, hcalls] at hcall
    rcases List.mem_append.1 hcall with hcall | hcall
    · exact absurd himported (hfront call hcall).not_isImported
    · obtain ⟨r, hr, rfl⟩ := List.mem_map.1 hcall
      exact .inl ⟨rfl, r, hr, rfl⟩
  rcases List.mem_cons.1 hf with rfl | hf
  · have hcalls : (⟨"new", ["return cls(base_address, memory)"]⟩ : Function).calls =
        [⟨"cls", "memory"⟩] := by decide
    rw [hcalls, List.mem_singleton] at hcall
    rw [hcall] at himported
    rcases himported with ⟨p, hp⟩ | ⟨k, hk⟩
    · cases p <;> exact absurd hp (by decide)
    · cases k <;> exact absurd hk (by decide)
  · obtain ⟨a, ha, rfl⟩ := List.mem_map.1 hf
    obtain ⟨front, back, hcalls, hown⟩ := hm.callsOnly_method ha
    refine .inr ⟨a, ha, rfl, ?_⟩
    rw [Function.calls, hcalls] at hcall
    by_contra hne
    refine (hown call ?_).not_isImported himported
    rcases List.mem_append.1 hcall with hcall | hcall
    · exact List.mem_append_left _ hcall
    · exact List.mem_append_right _ ((List.mem_cons.1 hcall).resolve_left hne)

/-- A primitive is imported exactly when an accessor calls it. -/
theorem primitive_mem_imports_iff (o : Options) (p : Primitive) :
    p.name ∈ imports bitsSource (m.emitted o) ↔
      ∃ f ∈ functionsOf (m.emitted o), f.name ∈ m.fields.flatMap (·.accessorNames) ∧
        ∃ call ∈ f.calls, call.callee = p.name := by
  have himports : p.name ∈ imports bitsSource (m.emitted o) ↔ p ∈ primitivesOf m := by
    rw [imports_bits, List.mem_append, List.mem_map, List.mem_map]
    constructor
    · rintro (⟨u, -, hu⟩ | ⟨q, hq, hname⟩)
      · exact absurd hu.symm (name_ne_capitalName p u)
      · rwa [← name_inj hname]
    · exact fun hp => .inr ⟨p, hp, rfl⟩
  rw [himports, hm.mem_primitivesOf]
  constructor
  · rintro ⟨a, ha, rfl⟩
    obtain ⟨front, back, hcalls, -⟩ := hm.callsOnly_method ha
    refine ⟨⟨a.name, linesOf (actionLines m.word a.register a.action)⟩, ?_, ?_,
      ⟨a.action.primitive.name, m.word.capitalName⟩, ?_, rfl⟩
    · rw [hm.functions_emitted]
      exact List.mem_cons_of_mem _ (List.mem_cons_of_mem _ (List.mem_map_of_mem ha))
    · rw [← map_name_methods]
      exact List.mem_map_of_mem ha
    · rw [Function.calls, hcalls]
      exact List.mem_append_right _ List.mem_cons_self
  · rintro ⟨f, hf, -, call, hcall, hp⟩
    rcases hm.calls_function o hf hcall (.inl ⟨p, hp⟩) with ⟨-, r, -, rfl⟩ | ⟨a, ha, -, rfl⟩
    · exact absurd hp.symm (name_ne_makerName p _)
    · exact ⟨a, ha, name_inj hp⟩

/-- A kind of handle is imported exactly when a device is built with it for a register. -/
theorem handle_mem_imports_iff (o : Options) (k : Capability) :
    k.handleName ∈ imports handlesSource (m.emitted o) ↔
      ∃ f ∈ functionsOf (m.emitted o), f.name = "__init__" ∧
        ∃ r ∈ m.registers, ∃ line ∈ f.body, (behind? ("self." ++ r.name ++ " = ") line).isSome ∧
          ∃ call ∈ calls line, call.callee = k.handleName ++ ".new" := by
  have himports : k.handleName ∈ imports handlesSource (m.emitted o) ↔
      ∃ r ∈ m.registers, r.capability = k := by
    rw [hm.imports_handles, ← mem_handlesOf, List.mem_map]
    refine ⟨?_, fun hk => ⟨k, hk, rfl⟩⟩
    rintro ⟨l, hl, hname⟩
    rwa [← makerName_inj (congrArg (· ++ ".new") hname)]
  rw [himports]
  constructor
  · rintro ⟨r, hr, rfl⟩
    obtain ⟨line, hline, hfilled, hcalls⟩ := hm.exists_slotLine o hr
    refine ⟨⟨"__init__", linesOf (buildingLines (ofModel m o.className o.sourceName))⟩, ?_, rfl,
      r, hr, line, hline, hfilled, ⟨makerName r.capability, m.word.capitalName⟩, ?_, rfl⟩
    · rw [hm.functions_emitted]
      exact List.mem_cons_self
    · rw [hcalls]
      exact List.mem_singleton_self _
  · rintro ⟨f, hf, -, -, -, line, hline, -, call, hcall, hk⟩
    have hcalls : call ∈ f.calls := List.mem_flatMap.2 ⟨line, hline, hcall⟩
    rcases hm.calls_function o hf hcalls (.inr ⟨k, hk⟩) with ⟨-, r, hr, rfl⟩ | ⟨a, -, -, rfl⟩
    · exact ⟨r, hr, makerName_inj hk⟩
    · exact absurd hk (name_ne_makerName _ k)

end Model.WellFormed

namespace Analysis

variable {decl : Description} {wordBits : Int} {external : External} {m : Model}
  {ns ns' : List Notice}

/-- The emitted code imports a primitive exactly when an accessor calls it, and a kind of handle
exactly when a device is built with it for a register; and whatever is called of these gets the type
of the words as its last argument, which the code imports. -/
theorem imports_of_analyze [Machine] (hrun : (analyze decl wordBits external).run ns = (.ok m, ns'))
    (o : Options) :
    (∀ c, Compile.code m o = .ok c → c.text = Page.textOf (m.emitted o)) ∧
    (functionsOf (m.emitted o)).map (·.name) =
      "__init__" :: "new" :: m.fields.flatMap (·.accessorNames) ∧
    (∀ p : Primitive, p.name ∈ imports bitsSource (m.emitted o) ↔
      ∃ f ∈ functionsOf (m.emitted o), f.name ∈ m.fields.flatMap (·.accessorNames) ∧
        ∃ call ∈ f.calls, call.callee = p.name) ∧
    (∀ k : Capability, k.handleName ∈ imports handlesSource (m.emitted o) ↔
      ∃ f ∈ functionsOf (m.emitted o), f.name = "__init__" ∧
        ∃ r ∈ m.registers, ∃ line ∈ f.body, (behind? ("self." ++ r.name ++ " = ") line).isSome ∧
          ∃ call ∈ calls line, call.callee = k.handleName ++ ".new") ∧
    ∀ f ∈ functionsOf (m.emitted o), ∀ call ∈ f.calls,
      (∃ p : Primitive, call.callee = p.name) ∨
        (∃ k : Capability, call.callee = k.handleName ++ ".new") →
      call.last = m.word.capitalName ∧ call.last ∈ imports bitsSource (m.emitted o) := by
  obtain ⟨t, -, -, -, hm⟩ := wellFormed_of_analyze hrun
  have hword : m.word.capitalName ∈ imports bitsSource (m.emitted o) := by
    rw [Model.WellFormed.imports_bits]
    exact List.mem_append_left _ (List.mem_map_of_mem (word_mem_typesOf m))
  refine ⟨fun c hc => ?_, ?_, hm.primitive_mem_imports_iff o, hm.handle_mem_imports_iff o,
    fun f hf call hcall himported => ?_⟩
  · rw [(Compile.code_eq_ok hc).2.2]
    rfl
  · rw [hm.functions_emitted, List.map_cons, List.map_cons, List.map_map, ← map_name_methods]
    rfl
  · rcases hm.calls_function o hf hcall himported with ⟨-, r, -, rfl⟩ | ⟨a, -, -, rfl⟩ <;>
      exact ⟨rfl, hword⟩

/-- The timer imports the primitive that writes ranges, and it has an accessor that calls it. -/
theorem imports_timer : (analyze .timer 16 .none).run [] = (.ok .timer, [.analyzed "timer" 3 2]) ∧
    imports bitsSource (Model.timer.emitted .timer) =
      ["U8", "U16", "get_bit", "get_bit_range", "set_bit", "set_bit_range"] ∧
    ∃ f ∈ functionsOf (Model.timer.emitted .timer),
      f.name ∈ Model.timer.fields.flatMap (·.accessorNames) ∧
        ∃ call ∈ f.calls, call.callee = "set_bit_range" := by
  have himports : imports bitsSource (Model.timer.emitted .timer) =
      ["U8", "U16", "get_bit", "get_bit_range", "set_bit", "set_bit_range"] := by
    rw [Model.WellFormed.imports_bits]
    rfl
  have hmem : Primitive.setRange.name ∈ imports bitsSource (Model.timer.emitted .timer) := by
    rw [himports]
    decide
  have htimer := imports_of_analyze analyze_timer .timer
  exact ⟨analyze_timer, himports, (htimer.2.2.1 .setRange).1 hmem⟩

end Analysis

end RegisterMap
