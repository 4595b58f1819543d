import RegisterMap.Proofs.Accessor.Steady
import RegisterMap.Proofs.Preservation

/-!
# What setters leave alone

Accessors reach the memory through the handle of their register and in no other way: what accesses
to its word keep, each call of them keeps, whether it succeeds or not. So a setter leaves alone
every word that has no byte of its own register. Registers are told apart by their names, and two
of them may well lie on one word; that one is shared.
-/

namespace RegisterMap

section

variable [Machine]

open Memory

namespace Device

open Step

/-- Whether a name finds nothing on a device but this method. -/
def FindsOnly (d : Device) (name : String) (a : Method) : Prop :=
  ∀ found, d.member name = .ok found → found = .method a

section Keeping

variable {σ : Type} {P : σ → Prop} {store : Store σ} {d : Device} {register : String}
  (hread : ∀ h, d.ownHandle register = .ok h →
    (store.read h.address h.payload.size).Keeps P)
  (hwrite : ∀ h, d.ownHandle register = .ok h →
    ∀ value, (store.write h.address h.payload.size value).Keeps P)

omit [Machine] in
theorem failRead_keeps (h : Handle) : (d.failRead store h).Keeps P := by
  unfold failRead
  by_cases hc : d.kind.claims "size" = true
  · rw [if_pos hc]
    refine Keeps.bind keeps_current fun s => ?_
    cases ((store.read h.address 0).run s).1 with
    | error e => exact keeps_fail _
    | ok v => exact keeps_fail _
  · rw [if_neg hc]
    exact keeps_fail _

omit [Machine] in
theorem ownHandle_bind_keeps {α : Type} {f : Handle → Step σ Failure α}
    (hf : ∀ h, d.ownHandle register = .ok h → (f h).Keeps P) :
    (Step.ofOutcome (d.ownHandle register) >>= f).Keeps P := by
  cases hh : d.ownHandle register with
  | error e =>
    rw [Step.ofOutcome_error, Step.fail_bind]
    exact keeps_fail e
  | ok h =>
    rw [Step.ofOutcome_ok, pure_bind]
    exact hf h hh

include hread in
theorem readRegister_keeps {h : Handle} (hh : d.ownHandle register = .ok h) :
    (d.readRegister store h).Keeps P := by
  unfold readRegister
  by_cases hc : (d.kind.hidesWord && h.capability.readable) = true
  · rw [if_pos hc]
    exact failRead_keeps h
  · rw [if_neg hc]
    unfold Handle.read
    by_cases hr : h.capability.readable = true
    · rw [if_pos hr]
      refine Keeps.bind (hread h hh).withFailure fun raw => ?_
      exact keeps_ofOutcome _
    · rw [if_neg hr]
      exact keeps_fail _

include hwrite in
theorem writeRegister_keeps {h : Handle} (hh : d.ownHandle register = .ok h) (value : Int) :
    (d.writeRegister store h value).Keeps P := by
  unfold writeRegister
  by_cases hc : (d.kind.hidesWord && h.capability.writable) = true
  · rw [if_pos hc]
    exact keeps_fail _
  · rw [if_neg hc]
    unfold Handle.write
    by_cases hr : h.capability.writable = true
    · rw [if_pos hr]
      refine Keeps.bind (keeps_ofOutcome _) fun raw => ?_
      exact (hwrite h hh raw).withFailure
    · rw [if_neg hr]
      exact keeps_fail _

include hread

theorem seedWord_keeps (seed : Seed) : (d.seedWord store register seed).Keeps P := by
  cases seed with
  | zero => exact keeps_pure 0
  | preserved =>
    unfold seedWord
    refine ownHandle_bind_keeps fun h hh => ?_
    refine Keeps.bind (readRegister_keeps hread hh) fun value => ?_
    refine Keeps.bind (keeps_ofOutcome _) fun mask => ?_
    exact keeps_pure _

include hwrite

theorem update_keeps (seed : Seed) (p : Primitive) (change : Int → Except Bits.Fault Int) :
    (d.update store register seed p change).Keeps P := by
  unfold update
  refine Keeps.bind (seedWord_keeps hread seed) fun word => ?_
  refine ownHandle_bind_keeps fun h hh => ?_
  refine Keeps.bind (keeps_ofOutcome _) fun _ => ?_
  refine Keeps.bind (keeps_ofOutcome _) fun value => ?_
  refine Keeps.bind (writeRegister_keeps hwrite hh value) fun _ => ?_
  exact keeps_pure _

/-- What accesses to the word of a register keep, the actions on it keep. -/
theorem perform_keeps (checks : Bool) (a : Argument) (action : Action) :
    (d.perform checks store register a action).Keeps P := by
  cases action with
  | readBit bit =>
    refine ownHandle_bind_keeps fun h hh => ?_
    refine Keeps.bind (readRegister_keeps hread hh) fun word => ?_
    refine Keeps.bind (keeps_ofOutcome _) fun _ => ?_
    refine Keeps.bind (keeps_ofOutcome _) fun b => ?_
    exact keeps_pure _
  | readRange start stop =>
    refine ownHandle_bind_keeps fun h hh => ?_
    refine Keeps.bind (readRegister_keeps hread hh) fun word => ?_
    refine Keeps.bind (keeps_ofOutcome _) fun _ => ?_
    refine Keeps.bind (keeps_ofOutcome _) fun n => ?_
    exact keeps_pure _
  | raiseBit seed bit => exact update_keeps hread hwrite seed _ _
  | writeBit seed bit => exact update_keeps hread hwrite seed _ _
  | writeRange seed start stop field width greatest =>
    refine Keeps.bind (keeps_ofOutcome _) fun value => ?_
    refine Keeps.bind (keeps_ofOutcome _) fun _ => ?_
    exact update_keeps hread hwrite seed _ _

theorem callMember_keeps (checks : Bool) {a : Method} (ha : a.register = register)
    (args : List Argument) : (d.callMember checks store (.method a) args).Keeps P := by
  unfold callMember Member.method?
  dsimp only
  rw [Step.ofOutcome_ok, pure_bind, ha]
  refine Keeps.bind (keeps_ofOutcome _) fun argument => ?_
  exact perform_keeps hread hwrite checks argument a.action

/-- What accesses to the word of its register keep, each call that finds a method keeps. -/
theorem call_keeps_of_findsOnly (checks : Bool) {name : String} {a : Method}
    (ha : a.register = register) (hname : d.FindsOnly name a) (args : List Argument) :
    (d.call checks store name args).Keeps P := by
  unfold call
  cases hfound : d.member name with
  | error e =>
    rw [Step.ofOutcome_error, Step.fail_bind]
    exact keeps_fail e
  | ok found =>
    rw [Step.ofOutcome_ok, pure_bind, hname found hfound]
    exact callMember_keeps hread hwrite checks ha args

end Keeping

end Device

omit [Machine] in
theorem AccessorCode.register_of_mem_methodsOf {m : Model} {f : Field} {a : Method}
    (ha : a ∈ methodsOf m f) : a.register = f.register := by
  unfold methodsOf at ha
  rcases List.mem_append.1 ha with h | h
  · by_cases hr : f.policy.readable = true
    · rw [if_pos hr, List.mem_singleton] at h
      rw [h]
      cases hs : f.single <;> simp [getter, hs]
    · simp [hr] at h
  · by_cases hw : f.policy.writable = true
    · rw [if_pos hw, List.mem_singleton] at h
      rw [h]
      rfl
    · simp [hw] at h

/-- A memory with a list of the accesses that were tried on it, the oldest first. -/
def Store.traced {σ : Type} (store : Store σ) : Store (σ × List Access) where
  read address size := fun s =>
    let found := (store.read address size).run s.1
    let value : Nat := match found.1 with
      | .ok value => value
      | .error _ => 0
    (found.1, found.2, s.2 ++ [⟨.load, address, size, value⟩])
  write address size value := fun s =>
    let found := (store.write address size value).run s.1
    (found.1, found.2, s.2 ++ [⟨.store, address, size, value⟩])

namespace Memory

/-- Whether an access has no byte of the word at an address. -/
def Access.IsApart (a : Access) (word : Bits.IntType) (address : Int) : Prop :=
  a.address + a.size ≤ address ∨ address + word.size ≤ a.address

namespace Space

/-- A buffer that holds in a space what another held, but for the bytes of a word. -/
def HoldsBut (ref : Ref) (b : Buffer) (word : Bits.IntType) (address : Int) (s : Space) : Prop :=
  ∃ c, s.buffer? ref = some c ∧ c.base = b.base ∧ c.size = b.size ∧
    ∀ x, ¬(address ≤ x ∧ x < address + word.size) → c.cells x = b.cells x

variable {ref : Ref} {b : Buffer} {word : Bits.IntType} {address : Int}

theorem read_keeps : (read ref address word.size).Keeps (HoldsBut ref b word address) := by
  rintro s ⟨c, hc, hrest⟩
  have hrun : ((read ref address word.size).run s).2 = s := by
    unfold read depth
    rw [Step.run_bind, Step.run_current]
    simp only [readWithin]
    rw [Step.run_bind, Step.run_current]
    simp only [component_of_buffer hc, Step.run_ofOutcome]
  rw [hrun]
  exact ⟨c, hc, hrest⟩

theorem write_keeps (value : Int) :
    (write ref address word.size value).Keeps (HoldsBut ref b word address) := by
  rintro s ⟨c, hc, hbase, hsize, hcells⟩
  have hrun : (write ref address word.size value).run s =
      (Step.ofOutcome (c.write address word.size value) >>= fun c =>
        Step.change (put ref (.buffer c))).run s := by
    unfold write depth
    rw [Step.run_bind, Step.run_current]
    simp only [writeWithin]
    rw [Step.run_bind, Step.run_current]
    simp only [component_of_buffer hc]
  rw [hrun]
  by_cases ha : c.admits address word.size = true
  · rw [Buffer.write_eq ha, Step.ofOutcome_ok, pure_bind, Step.run_change]
    refine ⟨_, buffer?_put hc _, hbase, hsize, ?_⟩
    intro x hx
    unfold Buffer.stored
    dsimp only
    rw [Cells.store_outside hx, hcells x hx]
  · unfold Buffer.write
    rw [if_neg ha, Step.ofOutcome_error, Step.fail_bind, Step.run_fail]
    exact ⟨c, hc, hbase, hsize, hcells⟩

theorem load_of_holdsBut {s : Space} (h : HoldsBut ref b word address s) {other : Int}
    (hapart : address + word.size ≤ other ∨ other + word.size ≤ address) :
    ∃ c, s.buffer? ref = some c ∧ c.base = b.base ∧ c.size = b.size ∧
      c.cells.load other word.size = b.cells.load other word.size := by
  obtain ⟨c, hc, hbase, hsize, hcells⟩ := h
  refine ⟨c, hc, hbase, hsize, ?_⟩
  unfold Cells.load
  rw [Cells.bytes_congr]
  intro x hlow hhigh
  apply hcells
  omega

end Space

end Memory

namespace Device

section Made

variable {decl : Description} {o : Options} {external : External} {m : Model} {d : Device}
  (hd : d.Made decl o external m)
include hd

section Plain

variable (hp : decl.isPlain = true)
include hp

/-- The name of an accessor finds this accessor, where names are of plain letters. -/
theorem Made.findsOnly {f : Field} (hf : f ∈ m.fields) {a : Method}
    (ha : a ∈ AccessorCode.methodsOf m f) : d.FindsOnly a.name a := by
  intro found hfound
  by_cases hl : d.kind.claims "__getattribute__" = true
  · obtain ⟨e, he⟩ := hd.member_eq_error hp hl a.name
    rw [he] at hfound
    cases hfound
  · rw [hd.member_eq hp (by simpa using hl) hf ha] at hfound
    exact (Except.ok.inj hfound).symm

/-- What accesses to the word of its register keep, each call of an accessor keeps. -/
theorem Made.call_keeps {σ : Type} {P : σ → Prop} {store : Store σ} {f : Field} (hf : f ∈ m.fields)
    (hread : ∀ h, d.ownHandle f.register = .ok h → (store.read h.address h.payload.size).Keeps P)
    (hwrite : ∀ h, d.ownHandle f.register = .ok h →
      ∀ value, (store.write h.address h.payload.size value).Keeps P)
    {a : Method} (ha : a ∈ AccessorCode.methodsOf m f) (checks : Bool) (args : List Argument) :
    (d.call checks store a.name args).Keeps P :=
  call_keeps_of_findsOnly hread hwrite checks (AccessorCode.register_of_mem_methodsOf ha)
    (hd.findsOnly hp hf ha) args

end Plain

/-- A call by a name leaves a word alone: no access that it tries has a byte of the word, on
whatever memory, and on a buffer the word is what it was. -/
structure Spares (m : Model) (d : Device) (name : String) (address : Int) : Prop where
  accesses : ∀ (σ : Type) (store : Store σ) (checks : Bool) (args : List Argument) (s : σ),
    ∀ a ∈ ((d.call checks store.traced name args).run (s, [])).2.2, a.IsApart m.word address
  word : ∀ (ref : Ref) (s : Space) (b : Buffer), s.buffer? ref = some b →
    ∀ (checks : Bool) (args : List Argument), ∃ c,
      ((d.call checks (Space.store ref) name args).run s).2.buffer? ref = some c ∧
        c.base = b.base ∧ c.size = b.size ∧
        c.cells.load address m.word.size = b.cells.load address m.word.size

/-- Methods of one register leave the word of another alone, if they lie apart. -/
theorem Made.spares {r : Register} (hr : r ∈ m.registers) {h : Handle}
    (hh : d.ownHandle r.name = .ok h) (haddr : h.address = d.base + r.offset) {address : Int}
    (hapart : d.base + r.offset + m.word.size ≤ address ∨
      address + m.word.size ≤ d.base + r.offset) {name : String} {a : Method}
    (ha : a.register = r.name) (hname : d.FindsOnly name a) : d.Spares m name address := by
  have hpayload := hd.payload_eq hr hh
  have hown : ∀ h', d.ownHandle r.name = .ok h' →
      h'.address = d.base + r.offset ∧ h'.payload = m.word := by
    intro h' hh'
    cases hh.symm.trans hh'
    exact ⟨haddr, hpayload⟩
  constructor
  · intro σ store checks args s
    let P : σ × List Access → Prop := fun s => ∀ a ∈ s.2, a.IsApart m.word address
    have hkeeps : (d.call checks store.traced name args).Keeps P := by
      refine call_keeps_of_findsOnly ?_ ?_ checks ha hname args
      · intro h' hh' s hs a ha
        obtain ⟨haddr', hpayload'⟩ := hown h' hh'
        rcases List.mem_append.1 ha with ha | ha
        · exact hs a ha
        · cases List.mem_singleton.1 ha
          rw [haddr', hpayload']
          exact hapart
      · intro h' hh' value s hs a ha
        obtain ⟨haddr', hpayload'⟩ := hown h' hh'
        rcases List.mem_append.1 ha with ha | ha
        · exact hs a ha
        · cases List.mem_singleton.1 ha
          rw [haddr', hpayload']
          exact hapart
    exact hkeeps (s, []) (by simp [P])
  · intro ref s b hb checks args
    have hkeeps : (d.call checks (Space.store ref) name args).Keeps
        (Space.HoldsBut ref b m.word (d.base + r.offset)) := by
      refine call_keeps_of_findsOnly ?_ ?_ checks ha hname args
      · intro h' hh'
        obtain ⟨haddr', hpayload'⟩ := hown h' hh'
        rw [haddr', hpayload']
        exact Space.read_keeps
      · intro h' hh' value
        obtain ⟨haddr', hpayload'⟩ := hown h' hh'
        rw [haddr', hpayload']
        exact Space.write_keeps value
    have hholds := hkeeps s ⟨b, hb, rfl, rfl, fun _ _ => rfl⟩
    exact Space.load_of_holdsBut hholds hapart

end Made

end Device

/-- There is one register for each name, in the order in which fields first use them. On a device
where a register finds a handle of its own place, a setter of it leaves alone all registers that
lie apart from it, by whatever name it is called; its own name is one, if names are of plain
letters. -/
theorem Analysis.registers_of_analyze {decl : Description} {wordBits : Int} {external : External}
    {m : Model} {ns ns' : List Notice}
    (h : (analyze decl wordBits external).run ns = (.ok m, ns')) :
    m.registers.map (·.name) = (decl.fields.map (·.registerName)).eraseDups ∧
      (m.registers.map (·.name)).Nodup ∧
      ∀ (o : Options) (d : Device), d.Made decl o external m →
        ∀ f ∈ m.fields, f.policy.writable = true → ∀ r ∈ m.registers, r.name = f.register →
          let setter := AccessorCode.setter (AccessorCode.capabilityFor m f) f
          ((∃ h, d.ownHandle r.name = .ok h ∧ h.address = d.base + r.offset) →
            ∀ q ∈ m.registers, (r.offset + m.word.size ≤ q.offset ∨
              q.offset + m.word.size ≤ r.offset) →
              ∀ name, d.FindsOnly name setter → d.Spares m name (d.base + q.offset)) ∧
          (decl.isPlain = true → d.FindsOnly f.setterName setter) := by
  obtain ⟨t, -, -, -, hm⟩ := wellFormed_of_analyze h
  have hnames : m.fields.map (·.register) = decl.fields.map (·.registerName) := by
    rw [← List.forall₂_eq_eq_eq, List.forall₂_map_left_iff, List.forall₂_map_right_iff]
    exact hm.follows.flip.imp fun _ _ hf => hf.register
  refine ⟨hnames ▸ hm.registerNames_eq, hm.registerNames_nodup, ?_⟩
  intro o d hd f hf hwrite r hr hrf
  refine ⟨?_, fun hp => hd.findsOnly hp hf (AccessorCode.setter_mem_methodsOf m hwrite)⟩
  rintro ⟨h, hh, haddr⟩ q hq hapart name hname
  have hwords : d.base + r.offset + m.word.size ≤ d.base + q.offset ∨
      d.base + q.offset + m.word.size ≤ d.base + r.offset := by
    omega
  exact hd.spares hr hh haddr hwords hrf.symm hname

end

theorem Device.spares_timer :
    (Analysis.analyze .timer 16 .none).run [] = (.ok .timer, [.analyzed "timer" 3 2]) ∧
      Model.timer.registers.map (·.name) = ["ctrl", "data"] ∧
      Device.timer.Made .timer .timer .none .timer ∧
      ∀ f ∈ Model.timer.fields, f.register = "ctrl" →
        Device.timer.Spares .timer f.setterName 4108 := by
  obtain ⟨hnames, -, hspares⟩ := Analysis.registers_of_analyze Analysis.analyze_timer
  refine ⟨Analysis.analyze_timer, hnames, made_timer, fun f hf hreg => ?_⟩
  have hwrite : ∀ f ∈ Model.timer.fields, f.policy.writable = true := by decide
  obtain ⟨hapart, hfinds⟩ := hspares .timer .timer made_timer f hf (hwrite f hf) _
    List.mem_cons_self hreg.symm
  refine hapart ?_ _ (List.mem_cons_of_mem _ List.mem_cons_self) (.inl (by decide)) _ (hfinds rfl)
  obtain ⟨h, hh, haddr, -⟩ := (made_timer.clear_of_names rfl (by decide) (by decide)).handles _
    List.mem_cons_self
  exact ⟨h, hh, haddr⟩

/-- Two registers by name on one word: a bit of the one, and a status bit of the other. -/
def Description.shared : Description :=
  ⟨[], [⟨"x", .single 0, .readWrite, .inModules [] "CTRL", [], 4⟩,
     ⟨"y", .single 1, .writeOneClears, .inModules [] "STAT", [], 6⟩],
    [⟨.inModules [] "CTRL", 0, [], 1⟩, ⟨.inModules [] "STAT", 0, [], 2⟩], "shared"⟩

def Model.shared : Model :=
  ⟨[], [⟨"ctrl", .inModules [] "CTRL", 0, .readWrite, 0xFFFFFFFF, ["x"]⟩,
     ⟨"stat", .inModules [] "STAT", 0, .readWrite, 0xFFFFFFFD, ["y"]⟩],
    [⟨"x", .readWrite, "ctrl", 0, 0, true, 1, none, []⟩,
     ⟨"y", .writeOneClears, "stat", 1, 1, true, 2, none, []⟩],
    Bits.unsigned 32, "shared"⟩

def Options.shared : Options :=
  ⟨"Shared", 32, "shared", by decide, by decide⟩

def AccessorClass.shared : AccessorClass :=
  let c := AccessorCode.ofModel .shared "Shared" "shared"
  ⟨c, constantsOf c, ["ctrl", "stat"], methodsOf c⟩

def Device.shared : Device :=
  ⟨.shared, 4096, [("ctrl", ⟨.readWrite, 4096, 0, Bits.unsigned 32⟩),
    ("stat", ⟨.readWrite, 4096, 0, Bits.unsigned 32⟩)]⟩

theorem Analysis.analyze_shared : (analyze .shared 32 .none).run [] =
    (.ok .shared, [.noPorts "shared", .analyzed "shared" 2 2]) :=
  rfl

theorem AccessorClass.load_shared :
    load "shared.py" (AccessorCode.ofModel .shared "Shared" "shared") = .ok .shared := by
  obtain ⟨t, -, -, -, hm⟩ := Analysis.wellFormed_of_analyze Analysis.analyze_shared
  have hclean : (AccessorCode.ofModel .shared "Shared" "shared").IsClean :=
    AccessorCode.isClean_ofModel hm rfl rfl rfl (by decide)
  exact load_of_isClean rfl hclean rfl (by decide)

/-- The registers of an accepted description may share a word, and a setter of the one then writes
a one to a status bit of the other. -/
theorem Device.shared_word :
    (Analysis.analyze .shared 32 .none).run [] =
        (.ok .shared, [.noPorts "shared", .analyzed "shared" 2 2]) ∧
      Device.shared.Made .shared .shared .none .shared ∧
      (∃ r ∈ Model.shared.registers, ∃ q ∈ Model.shared.registers, r ≠ q ∧
        ¬(r.offset + Model.shared.word.size ≤ q.offset ∨
          q.offset + Model.shared.word.size ≤ r.offset)) ∧
      (Device.shared.call true (Store.ledger 2) "set_x" [.truth true]).run [] =
        (.ok .nothing, [(4096, 2), (4096, 3)]) :=
  ⟨Analysis.analyze_shared,
    ⟨⟨[], _, Analysis.analyze_shared⟩, rfl, ⟨_, AccessorClass.load_shared⟩, ⟨true, rfl⟩⟩,
    by decide, rfl⟩

end RegisterMap
