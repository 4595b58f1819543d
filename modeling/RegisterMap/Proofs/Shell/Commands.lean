import RegisterMap.Proofs.Shell.Complaints
import RegisterMap.Proofs.Shell.Finding

/-!
# What commands may do

On a bus of buffers each command keeps the bus one of buffers, fails for a reason that its user can
mend and is told of, and changes no memory and no switch when it fails or answers with a complaint.
A number that a command names has room in its place, as its text has room on the machine.
-/

namespace RegisterMap

open Memory

namespace Shell

theorem isTold_of_misses {e : Memory.Fault} (h : Space.Misses e) : IsTold (.memory e) := by
  rcases h with hkey | rfl
  · exact isTold_of_key hkey
  · exact isTold_longNumber

/-! ### Accessors on a bus of buffers -/

variable [Machine] {decl : Description} {o : Options} {external : External} {t : Target}
  {s u : Space}

namespace Target

theorem load_failsOnly (hs : s.HasBuffers t.bus) (address size : Int) :
    (t.load address size).FailsOnly (fun u => s.Alike u) IsTold :=
  (Space.read_failsOnly hs address size).withFailure fun _ => isTold_of_misses

/-- Whatever word is accessed, a bus of buffers only misses addresses. -/
theorem misses_of_raises {word : Bits.IntType} {fault : Memory.Fault}
    (hs : s.HasBuffers t.bus) (h : (Space.store t.bus).Raises word s fault u) :
    Space.Misses fault := by
  obtain ⟨address, hread | ⟨v, value, hv, hwrite⟩⟩ := h
  · exact (Space.read_failsOnly hs address word.size).fails s fault u (.refl s) hread
  · have hkept : v.HasBuffers t.bus := by
      obtain rfl | ⟨raw, hread⟩ := hv
      · exact hs
      · have hread : (Space.read t.bus address word.size).run s = (.ok raw, v) := hread
        have halike := Space.alike_read s t.bus address word.size
        rw [hread] at halike
        exact hs.of_alike halike
    exact (Space.write_failsOnly t.bus address (Int.natCast_nonneg _) value).fails v fault u hkept
      hwrite

section Accessors

variable (hd : t.device.Made decl o external t.model) (hp : decl.isPlain = true)
  (ha : t.device.Able t.model) {f : Field} (hf : f ∈ t.model.fields)
include hd hp ha hf

theorem getter_failsOnly (hread : f.policy.readable = true) (hs : s.HasBuffers t.bus) :
    (t.device.call t.checks t.store f.getterName []).FailsOnly (fun u => s.Alike u) IsTold := by
  obtain ⟨_, hm⟩ := hd.wellFormed
  obtain ⟨r, hr, hrf, -⟩ := hm.home f hf
  obtain ⟨h, hh, hcan, -⟩ := ha.handles r hr
  have hreadable := hcan ((hm.readable_iff hr).2 ⟨f, hf, hrf.symm, hread⟩)
  have hprim := ha.primitives _ (hd.primitives_eq ▸ AccessorCode.getter_primitive_mem hf hread)
  rw [hd.getter_eq hp ha.lookup ha.word hf (hrf ▸ hh) t.store hread hprim hreadable t.checks,
    Field.getting]
  exact (load_failsOnly hs h.address t.model.word.size).bind fun raw => .pure _

variable (hwrite : f.policy.writable = true)
include hwrite

omit ha in
theorem setter_keeps (args : List Argument) :
    (t.device.call t.checks t.store f.setterName args).Keeps (Space.HasBuffers t.bus) := by
  refine hd.call_keeps hp hf (fun h _ => ?_) (fun h _ value => ?_)
    (AccessorCode.setter_mem_methodsOf t.model hwrite) t.checks args
  · exact fun s hs => hs.of_alike (Space.alike_read s t.bus h.address h.payload.size)
  · exact (Space.write_failsOnly t.bus h.address (Int.natCast_nonneg _) value).keeps

/-- A setter fails for a reason that can be mended, if there is room for its number. -/
theorem setter_failsOnly {args : List Argument} (htakes : f.Takes args)
    (hroom : f.single = false → ∀ a n, args = [a] → a.number? = .ok n →
      n.natAbs.log2 + f.start < Machine.bits) :
    (t.device.call t.checks t.store f.setterName args).FailsOnly (Space.HasBuffers t.bus)
      IsTold := by
  refine ⟨setter_keeps hd hp hf hwrite args, fun s e u hs hrun => ?_⟩
  have hexcuse := (hd.safe_of_able hp ha f hf).setter hwrite args htakes _ _ _ _ _ _ hrun
  obtain ⟨_, hm⟩ := hd.wellFormed
  cases hexcuse with
  | memory hraises => exact isTold_of_misses (misses_of_raises hs hraises)
  | tooWide => exact isTold_tooWide (Text.isClean_of_isIdentifier (hm.usable f hf).1) _ _
  | tooLong hargs hn hrange _ _ hlong =>
    exact absurd hlong (Nat.not_le.2 (hroom hrange _ _ hargs hn))

omit hd hp ha hf hwrite in
theorem setter_keepsIfFails (args : List Argument) (s : Space) :
    (t.device.call t.checks t.store f.setterName args).KeepsIfFails fun u => s.Alike u :=
  Device.call_keepsIfFails
    (fun address size u hu => hu.trans (Space.alike_read u t.bus address size))
    (fun address size value => Space.write_keepsIfFails s t.bus address size value) t.checks _ args

end Accessors

/-! ### The commands -/

/-- There is room for a number that is written in a text for which there is room. -/
theorem lt_bits_of_number {written : String} {v : Int} {start : Nat} (h : number written = .ok v)
    (hstart : start < 64) (hlength : written.length < 2 * Machine.bytes) :
    v.natAbs.log2 + start < Machine.bits := by
  have hlt := Number.natAbs_lt_of_read (mapError_eq_ok.1 h)
  have hroom := Machine.bits_of_bytes
  by_cases hv : v.natAbs = 0
  · rw [hv, Nat.log2_zero]
    omega
  · have hlog : v.natAbs.log2 < 4 * written.length := by
      rw [Nat.log2_lt hv, Nat.pow_mul]
      exact hlt
    omega

omit [Machine] in
theorem start_lt_of_fits {word : Bits.IntType} {f : Field}
    (hword : ∃ w ∈ wordSizes, word = Bits.unsigned w) (hf : f.Fits word) : f.start < 64 := by
  obtain ⟨w, hw, rfl⟩ := hword
  have hall : ∀ w ∈ wordSizes, w ≤ 64 := by decide
  calc f.start ≤ f.stop := hf.ordered
    _ < w := hf.inside
    _ ≤ 64 := hall w hw

variable (hd : t.device.Made decl o external t.model) (hp : decl.isPlain = true)
  (ha : t.device.Able t.model)
include hd hp ha

theorem get_minds (args : List String) : Minds t.bus (t.get args) := by
  unfold get
  split
  · refine .bind_outcome (fun e => isTold_of_field) fun f hfield => ?_
    have hf := mem_of_field hfield
    split
    · next hread =>
      exact .of_reads fun s hs => (getter_failsOnly hd hp ha hf hread hs).bind fun a => .pure _
    · exact .pure _
  · exact .pure _

theorem set_minds {args : List String} (hargs : ∀ a ∈ args, a.length < 2 * Machine.bytes) :
    Minds t.bus (t.set args) := by
  unfold set
  split
  · exact .pure _
  next name values =>
  refine .bind_outcome (fun e => isTold_of_field) fun f hfield => ?_
  have hf := mem_of_field hfield
  obtain ⟨_, hm⟩ := hd.wellFormed
  have hname := (hm.usable f hf).1
  split
  · exact .pure _
  · next hnot =>
    have hwrite : f.policy.writable = true := by simpa using hnot
    have hmethod := AccessorCode.setter_mem_methodsOf t.model hwrite
    have hcall := fun args => hd.call_eq hp ha.lookup hf hmethod t.checks t.store args
    rw [show t.device.member f.setterName = _ from hd.member_eq hp ha.lookup hf hmethod,
      Step.ofOutcome_ok, pure_bind]
    split
    · next hclears =>
      rw [← hcall]
      have htakes : f.Takes [] := hclears
      refine .of_change (setter_failsOnly hd hp ha hf hwrite htakes (by simp))
        (setter_keepsIfFails []) fun _ => ?_
      exact colon_not_mem_append (colon_not_mem_setterName hname) (by decide)
    · next hclears =>
      split
      · next written =>
        refine .bind_outcome (fun e => isTold_of_number) fun value hvalue => ?_
        rw [← hcall]
        have htakes : f.Takes [setterArgument f value] := by
          refine ⟨by simpa using hclears, ?_⟩
          unfold setterArgument
          split <;> exact ⟨_, rfl⟩
        refine .of_change (setter_failsOnly hd hp ha hf hwrite htakes ?_)
          (setter_keepsIfFails _) fun _ => ?_
        · intro hrange a n ha hn
          have hlength := hargs written (by simp)
          rw [setterArgument, hrange, if_neg Bool.false_ne_true] at ha
          cases ha
          cases hn
          exact lt_bits_of_number hvalue (start_lt_of_fits hm.word_mem (hm.fits f hf)) hlength
        · have hplain : ':' ∉ f.name.toList :=
            Text.not_mem_of_isIdentifier (by decide) (by decide) hname
          exact colon_not_mem_append (colon_not_mem_append hplain (by decide))
            (colon_not_mem_prefixedHex _ _)
      · exact .pure _

theorem registers_minds (hu : ∀ r ∈ t.model.registers, ¬"__".toList <+: r.name.toList) :
    Minds t.bus t.registers := by
  obtain ⟨_, hm⟩ := hd.wellFormed
  obtain ⟨w, hmem, hw⟩ := hm.word_mem
  refine .of_reads fun s hs => ?_
  refine Step.FailsOnly.bind (.mapM fun r hr => ?_) fun lines => .pure _
  unfold registerLine
  rw [hd.handle_of_public hp hu hr, Step.ofOutcome_ok, pure_bind]
  dsimp only
  split
  · next hread =>
    refine Step.FailsOnly.bind ?_ fun v => .bind (.pure _) fun value => .pure _
    rw [Device.readRegister, ha.word, Bool.false_and, if_neg Bool.false_ne_true,
      Handle.read_eq t.store (Bits.lt_bits_of_mem hmem) hw hread]
    exact (load_failsOnly hs _ _).bind fun raw => .pure _
  · exact .bind (.pure _) fun value => .pure _

omit hd hp ha

/-! ### Commands that see to memory themselves -/

theorem loadBytes_failsOnly (hs : s.HasBuffers t.bus) (address : Int) (count : Nat) :
    (t.loadBytes address count).FailsOnly (fun u => s.Alike u) IsTold := by
  induction count generalizing address with
  | zero => exact .pure _
  | succ count ih =>
    refine (load_failsOnly hs address 1).bind fun b => ?_
    exact (ih (address + 1)).bind fun bs => .pure _

theorem loadWords_failsOnly (hs : s.HasBuffers t.bus) (stop offset : Int) (count : Nat) :
    (t.loadWords stop offset count).FailsOnly (fun u => s.Alike u) IsTold := by
  induction count generalizing offset with
  | zero => exact .pure _
  | succ count ih =>
    unfold loadWords
    split
    · exact .pure _
    · refine (load_failsOnly hs _ _).bind fun w => ?_
      exact (ih _).bind fun ws => .pure _

theorem checkPlaces_of_lt {places : Int} (hlow : 0 ≤ places) (hhigh : places < 1000) :
    Dump.checkPlaces places = .ok () := by
  have hshort : Number.isShort places = true := by
    have hlt : ∀ k, 3 ≤ k → places.natAbs < Nat.pow 10 k := by
      intro k hk
      calc places.natAbs < 10 ^ 3 := by omega
        _ ≤ 10 ^ k := Nat.pow_le_pow_right (by decide) hk
    exact Number.isShort_iff.2 (hlt Number.digitLimit (by decide))
  have hroom := Machine.addresses_lt
  unfold Dump.checkPlaces Dump.placeLimit
  rw [hshort, if_neg (by simp), if_neg (by omega), if_neg (by omega)]

theorem exists_dump_bytes (base : Int) (data : List UInt8) :
    ∃ text, Dump.bytes base 16 data = .ok text := by
  unfold Dump.bytes
  rw [if_neg (by decide)]
  split
  · exact ⟨_, rfl⟩
  · rw [show Dump.checkPlaces (16 * 3) = .ok () from checkPlaces_of_lt (by decide) (by decide)]
    exact ⟨_, rfl⟩

theorem exists_dump_words (base : Int) {step : Nat} (hstep : step < 500) (ws : List Int) :
    ∃ text, Dump.words base step ws = .ok text := by
  unfold Dump.words
  split
  · exact ⟨_, rfl⟩
  · rw [checkPlaces_of_lt (by omega) (by omega), ok_bind, if_neg (by omega)]
    exact ⟨_, rfl⟩

theorem memory_minds (hsize : t.model.word.size < 500) (args : List String) :
    Minds t.bus (t.memory args) := by
  unfold memory
  split
  · split
    · exact .pure _
    · refine .of_reads fun s hs => (loadWords_failsOnly hs _ _ _).bind fun ws => ?_
      obtain ⟨text, htext⟩ := exists_dump_words t.base hsize ws
      exact .ofOutcome fun e he => nomatch htext.symm.trans he
  · refine .bind_outcome (fun e => isTold_of_number) fun offset _ => ?_
    refine .of_reads fun s hs => (loadBytes_failsOnly hs _ _).bind fun data => ?_
    obtain ⟨text, htext⟩ := exists_dump_bytes (t.base + offset) data
    exact .ofOutcome fun e he => nomatch htext.symm.trans he
  · refine .bind_outcome (fun e => isTold_of_number) fun offset _ => ?_
    refine .bind_outcome (fun e => isTold_of_number) fun count _ => ?_
    refine .of_reads fun s hs => (loadBytes_failsOnly hs _ _).bind fun data => ?_
    obtain ⟨text, htext⟩ := exists_dump_bytes (t.base + offset) data
    exact .ofOutcome fun e he => nomatch htext.symm.trans he
  · exact .pure _

theorem poke_minds (args : List String) : Minds t.bus (t.poke args) := by
  unfold poke
  split
  · next offset written =>
    refine .bind_outcome (fun e => isTold_of_number) fun offset _ => ?_
    refine .bind_outcome (fun e => isTold_of_number) fun value _ => ?_
    have hfails := Space.write_failsOnly t.bus (t.base + offset)
      (Int.natCast_nonneg t.model.word.size) value
    refine .of_change (hfails.withFailure fun e => isTold_of_misses)
      (fun s => (Space.write_keepsIfFails s _ _ _ _).withFailure _) fun _ => ?_
    exact colon_not_mem_append (colon_not_mem_append (colon_not_mem_append (by decide)
      (colon_not_mem_prefixedHex _ _)) (by decide)) (colon_not_mem_prefixedHex _ _)
  · exact .pure _

/-- The switch of a bus can be set whenever there is the bus. -/
theorem switch_failsOnly (ref : Ref) (on : Bool) :
    (Space.changeBus ref fun b => { b with reporting := on }).FailsOnly (Space.HasBuffers ref)
      fun _ => False := by
  have hrun : ∀ s b, s.bus? ref = some b →
      (Space.changeBus ref fun b => { b with reporting := on }).run s =
        (.ok (), s.put ref (.bus { b with reporting := on })) := fun s b hb =>
    Step.run_bind_of_ok (Space.run_theBus_of_some hb)
  constructor
  · rintro s ⟨b, hb, hregions⟩
    rw [hrun s b hb]
    exact Space.HasBuffers.put_bus ⟨b, hb, hregions⟩ hb rfl
  · rintro s e u ⟨b, hb, -⟩ hfails
    cases (hrun s b hb).symm.trans hfails

theorem switch_keepsIfFails (s : Space) (ref : Ref) (on : Bool) :
    (Space.changeBus ref fun b => { b with reporting := on }).KeepsIfFails fun u => s.Alike u :=
  (Space.theBus_keeps _ ref).bind_keepsIfFails fun _ => Step.keepsIfFails_change _

theorem log_minds (args : List String) : Minds t.bus (t.log args) := by
  unfold log
  split
  · next switch =>
    dsimp only
    split
    · next hword =>
      refine .of_change ((switch_failsOnly t.bus _).withFailure nofun)
        (fun s => (switch_keepsIfFails s t.bus _).withFailure _) fun _ => ?_
      rcases hword with hon | hoff
      · rw [hon]
        decide
      · rw [hoff]
        decide
    · exact .pure _
  · exact .pure _

include hd hp in
/-- Each command minds the memory, if registers are found under their names, accessors find what
they call and the arguments have room. -/
theorem command_minds (hu : ∀ r ∈ t.model.registers, ¬"__".toList <+: r.name.toList)
    (hc : Text.canonical o.className ∉ t.device.kind.imported) (verb : Verb) {args : List String}
    (hargs : ∀ a ∈ args, a.length < 2 * Machine.bytes) :
    Minds t.bus (t.command verb args) := by
  have ha := hd.able_of_public hp hu hc
  obtain ⟨_, hm⟩ := hd.wellFormed
  have hsize : t.model.word.size < 500 := by
    obtain ⟨w, hw, heq⟩ := hm.word_mem
    have hall : ∀ w ∈ wordSizes, (Bits.unsigned w).size < 500 := by decide
    exact heq ▸ hall w hw
  cases verb with
  | fields => exact .pure _
  | get => exact get_minds hd hp ha args
  | log => exact log_minds args
  | mem => exact memory_minds hsize args
  | poke => exact poke_minds args
  | regs => exact registers_minds hd hp ha hu
  | set => exact set_minds hd hp ha hargs

end Target

end Shell

end RegisterMap
