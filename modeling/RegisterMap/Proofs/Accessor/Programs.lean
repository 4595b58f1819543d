import RegisterMap.Accessor.Build
import RegisterMap.Accessor.Device
import RegisterMap.Proofs.Analysis.Placement

/-!
# What accessors do

The program of each accessor as its documentation gives it: one read, or one read and one write, or
one write, of a single word. The word that a setter writes is told bit by bit. A device that finds
the right handle and mask, and whose class hides nothing, runs these programs.
-/

namespace RegisterMap

def Store.load {σ : Type} (store : Store σ) (address : Int) (word : Bits.IntType) :
    Step σ Failure Nat :=
  Step.withFailure .memory (store.read address word.size)

def Store.save {σ : Type} (store : Store σ) (address : Int) (word : Bits.IntType) (value : Nat) :
    Step σ Failure Unit :=
  Step.withFailure .memory (store.write address word.size value)

namespace Field

/-- What a getter answers for a word: the bits of the field. -/
def answer (f : Field) (raw : Nat) : Answer :=
  if f.single then .truth (raw.testBit f.start) else .number (raw / 2 ^ f.start % 2 ^ f.width)

/-- The word that has a value in the field and elsewhere the bits of `raw` that `keep` has too. -/
def merged (word : Bits.IntType) (f : Field) (value keep raw : Nat) : Nat :=
  Nat.ofBits fun i : Fin word.bits =>
    if f.covers i then value.testBit (i - f.start) else keep.testBit i && raw.testBit i

theorem merged_lt (word : Bits.IntType) (f : Field) (value keep raw : Nat) :
    f.merged word value keep raw < 2 ^ word.bits :=
  Nat.ofBits_lt_two_pow _

theorem testBit_merged (word : Bits.IntType) (f : Field) (value keep raw : Nat) {i : Nat}
    (hi : i < word.bits) : (f.merged word value keep raw).testBit i =
      if f.covers i then value.testBit (i - f.start) else keep.testBit i && raw.testBit i :=
  Nat.testBit_ofBits_lt _ i hi

theorem eq_merged {word : Bits.IntType} {f : Field} {value keep raw n : Nat}
    (hn : n < 2 ^ word.bits) (h : ∀ i < word.bits, n.testBit i =
      if f.covers i then value.testBit (i - f.start) else keep.testBit i && raw.testBit i) :
    n = f.merged word value keep raw := by
  apply Nat.eq_of_testBit_eq
  intro i
  rcases Nat.lt_or_ge i word.bits with hi | hi
  · rw [h i hi, testBit_merged word f value keep raw hi]
  · have hpow : 2 ^ word.bits ≤ 2 ^ i := Nat.pow_le_pow_right (by decide) hi
    rw [Nat.testBit_lt_two_pow (hn.trans_le hpow),
      Nat.testBit_lt_two_pow ((merged_lt word f value keep raw).trans_le hpow)]

theorem greatest_eq (f : Field) : f.greatest = 2 ^ f.width - 1 := rfl

theorem lt_two_pow_width_of_le_greatest {f : Field} {n : Int} (hn : n ≤ f.greatest) :
    n < (2 ^ f.width : Nat) := by
  have := Nat.two_pow_pos f.width
  rw [greatest_eq] at hn
  omega

theorem div_mod_of_inside {w : Nat} (f : Field) (h : f.stop < w) (raw : Nat) :
    raw % 2 ^ w / 2 ^ f.start % 2 ^ f.width = raw / 2 ^ f.start % 2 ^ f.width := by
  apply Nat.eq_of_testBit_eq
  intro i
  rw [Nat.testBit_mod_two_pow, Nat.testBit_mod_two_pow, Nat.testBit_div_two_pow,
    Nat.testBit_div_two_pow, Nat.testBit_mod_two_pow]
  by_cases hi : i < f.width
  · have hw : i + f.start < w := by
      simp only [width] at hi
      omega
    rw [decide_eq_true hw, Bool.true_and]
  · rw [decide_eq_false hi, Bool.false_and, Bool.false_and]

theorem replaceBits_eq_merged (w : Nat) (f : Field) (value keep raw : Nat) :
    Bits.replaceBits ((raw % 2 ^ w &&& keep) % 2 ^ w) (Bits.rangeMask f.start f.stop)
      (value <<< f.start) % 2 ^ w = f.merged (Bits.unsigned w) value keep raw := by
  refine eq_merged (Nat.mod_lt _ (Nat.two_pow_pos w)) fun i hi => ?_
  have hi : i < w := hi
  rw [Nat.testBit_mod_two_pow, decide_eq_true hi, Bool.true_and, Bits.testBit_replaceBits,
    Bits.testBit_rangeMask, Nat.testBit_mod_two_pow, decide_eq_true hi, Bool.true_and,
    Nat.testBit_and, Nat.testBit_mod_two_pow, decide_eq_true hi, Bool.true_and,
    Nat.testBit_shiftLeft]
  by_cases hc : f.covers i = true
  · obtain ⟨hs, ht⟩ := covers_iff.1 hc
    rw [if_pos hc, if_pos (decide_eq_true ⟨hs, by omega⟩), decide_eq_true hs, Bool.true_and]
  · have hn : ¬(f.start ≤ i ∧ (i : Int) ≤ f.stop) := fun h =>
      hc (covers_iff.2 ⟨h.1, by omega⟩)
    rw [if_neg hc, decide_eq_false hn, if_neg Bool.false_ne_true, Bool.and_comm]

theorem replaceBits_single_eq_merged {f : Field} (hs : f.start = f.stop) (w : Nat) (flag : Bool)
    (keep raw : Nat) :
    Bits.replaceBits ((raw % 2 ^ w &&& keep) % 2 ^ w) (2 ^ f.start)
      (if flag then 2 ^ f.start else 0) % 2 ^ w =
      f.merged (Bits.unsigned w) flag.toNat keep raw := by
  have hmask : Bits.rangeMask f.start f.stop = 2 ^ f.start := by
    have hone : ((f.stop : Int) - f.start + 1).toNat = 1 := by omega
    rw [Bits.rangeMask, hone, Nat.pow_eq, Nat.shiftLeft_eq]
    omega
  have hbits : (if flag then 2 ^ f.start else 0) = flag.toNat <<< f.start := by
    cases flag <;> simp [Nat.shiftLeft_eq]
  rw [hbits, ← hmask, replaceBits_eq_merged]

variable [Machine]

/-- Whether a number may be written to a range: one that has room in it and, when checks are off,
any number that is short enough to be moved there. -/
def admits (checks : Bool) (f : Field) (n : Int) : Bool :=
  (0 ≤ n && n ≤ f.greatest) || (!checks && n.natAbs.log2 + f.start < Machine.bits)

/-- The value that a setter puts into the field when it is called with these arguments, if it
accepts them. -/
def accepted? (checks : Bool) (f : Field) : List Argument → Option Nat
  | [] => if f.policy.selfClearing then some 1 else none
  | [a] =>
    if f.policy.selfClearing then none
    else if f.single then some a.isTrue.toNat
    else
      match a.number? with
      | .ok n => if f.admits checks n then some (n % (2 ^ f.width : Nat)).toNat else none
      | .error _ => none
  | _ => none

/-- What may be written to a range passes the checks of the primitive that writes it. -/
theorem checkFits_of_admits {w : Nat} (hw : w < Machine.bits) {f : Field}
    (hf : f.Fits (Bits.unsigned w)) {checks : Bool} {n : Int} (h : f.admits checks n = true) :
    Bits.checkFits checks f.start f.stop n = .ok () := by
  have hstop : f.stop < w := hf.inside
  simp only [admits, Bool.or_eq_true, Bool.and_eq_true, decide_eq_true_eq, Bool.not_eq_true'] at h
  rcases h with ⟨h0, hg⟩ | ⟨rfl, -⟩
  · have hlt := lt_two_pow_width_of_le_greatest hg
    exact Bits.checkFits_of_lt hf.ordered (by omega) (by omega) ⟨h0, by exact_mod_cast hlt⟩
  · exact Bits.checkFits_unchecked n hf.ordered (by omega) (by omega)

theorem checkShift_of_admits {w : Nat} (hw : w < Machine.bits) {f : Field}
    (hf : f.Fits (Bits.unsigned w)) {checks : Bool} {n : Int} (h : f.admits checks n = true) :
    Bits.checkShift n.natAbs f.start = .ok () := by
  apply Bits.checkShift_of_stored (by omega)
  rw [Int.toNat_natCast]
  simp only [admits, Bool.or_eq_true, Bool.and_eq_true, decide_eq_true_eq, Bool.not_eq_true'] at h
  rcases h with ⟨h0, hg⟩ | ⟨-, hs⟩
  · have hlt : n.natAbs < 2 ^ f.width := by
      have := lt_two_pow_width_of_le_greatest hg
      omega
    have hlog : n.natAbs.log2 ≤ f.width := by
      rcases Nat.eq_zero_or_pos n.natAbs with hz | hz
      · simp [hz, Nat.log2_zero]
      · exact ((Nat.log2_lt (by omega)).2 hlt).le
    have : f.stop < w := hf.inside
    have := hf.ordered
    simp only [width] at hlog
    omega
  · exact hs

theorem setBit_eq_merged {w : Nat} (hw : w < Machine.bits) {f : Field}
    (hf : f.Fits (Bits.unsigned w)) (hs : f.single = true) (checks flag : Bool) (keep raw : Nat) :
    Bits.setBit checks ((raw % 2 ^ w &&& keep : Nat) : Int) f.start flag (Bits.unsigned w) =
      .ok ((f.merged (Bits.unsigned w) flag.toNat keep raw : Nat) : Int) := by
  rw [Bits.setBit_unsigned hw checks _ (hf.ordered.trans_lt hf.inside),
    replaceBits_single_eq_merged (hf.single_iff.1 hs)]

theorem setBitRange_eq_merged {w : Nat} (hw : w < Machine.bits) {f : Field}
    (hf : f.Fits (Bits.unsigned w)) {checks : Bool} {n : Int} (hn : f.admits checks n = true)
    (keep raw : Nat) :
    Bits.setBitRange checks ((raw % 2 ^ w &&& keep : Nat) : Int) f.start f.stop n
      (Bits.unsigned w) =
      .ok ((f.merged (Bits.unsigned w) (n % (2 ^ f.width : Nat)).toNat keep raw : Nat) : Int) := by
  rw [Bits.setBitRange_unsigned hw hf.ordered hf.inside checks _ (checkFits_of_admits hw hf hn)
    (checkShift_of_admits hw hf hn), ← replaceBits_eq_merged, width]

/-- The three ways in which arguments are accepted. -/
theorem accepted?_eq_some {checks : Bool} {f : Field} {args : List Argument} {v : Nat}
    (h : f.accepted? checks args = some v) :
    (f.policy.selfClearing = true ∧ args = [] ∧ v = 1) ∨
    (f.policy.selfClearing = false ∧ f.single = true ∧ ∃ a, args = [a] ∧ v = a.isTrue.toNat) ∨
    (f.policy.selfClearing = false ∧ f.single = false ∧ ∃ a n, args = [a] ∧ a.number? = .ok n ∧
      f.admits checks n = true ∧ v = (n % (2 ^ f.width : Nat)).toNat) := by
  match args with
  | [] =>
    simp only [accepted?] at h
    split at h
    · next hc => exact .inl ⟨hc, rfl, by simpa using h.symm⟩
    · cases h
  | [a] =>
    simp only [accepted?] at h
    split at h
    · cases h
    · next hc =>
      have hc : f.policy.selfClearing = false := by simpa using hc
      split at h
      · next hs => exact .inr (.inl ⟨hc, hs, a, rfl, by simpa using h.symm⟩)
      · next hs =>
        split at h
        · next n hn =>
          split at h
          · next had =>
            exact .inr (.inr ⟨hc, by simpa using hs, a, n, rfl, hn, had, by simpa using h.symm⟩)
          · cases h
        · cases h
  | _ :: _ :: _ => cases h

end Field

section Programs

variable [Machine] {σ : Type} (store : Store σ) {w : Nat} (hw : w < Machine.bits)

namespace Handle

variable {h : Handle} (hp : h.payload = Bits.unsigned w)
include hw hp

theorem read_eq (hr : h.capability.readable = true) :
    h.read store =
      store.load h.address (Bits.unsigned w) >>= fun raw => pure ((raw % 2 ^ w : Nat) : Int) := by
  simp only [read, hr, if_true, hp, Bits.wrap_unsigned hw, mapError_ok, Step.ofOutcome_ok,
    Store.load]

theorem write_eq (hr : h.capability.writable = true) {value : Nat} (hv : value < 2 ^ w) :
    h.write store value = store.save h.address (Bits.unsigned w) value := by
  simp only [write, hr, if_true, hp, Bits.lowBits_unsigned hw, mapError_ok, Step.ofOutcome_ok,
    Store.save, Nat.mod_eq_of_lt hv, pure_bind]

end Handle

namespace Device

/-- A device whose class hides neither its word type nor a primitive. -/
structure Sees (d : Device) (w : Nat) (p : Primitive) : Prop where
  word : d.kind.code.word = Bits.unsigned w
  visible : d.kind.hidesWord = false
  primitive : d.kind.hides p.name = false

variable {d : Device} {p : Primitive} {h : Handle} {register : String}
  (hh : d.ownHandle register = .ok h) (hp : h.payload = Bits.unsigned w)

omit [Machine] in
theorem Sees.checkPrimitive_eq (hd : d.Sees w p) (given : Nat) :
    d.checkPrimitive p given = .ok () := by
  simp [checkPrimitive, hd.visible, hd.primitive]

theorem Sees.writeRegister_eq (hd : d.Sees w p) (h : Handle) (value : Int) :
    d.writeRegister store h value = h.write store value := by
  simp [writeRegister, hd.visible]

theorem Sees.readRegister_eq (hd : d.Sees w p) (h : Handle) :
    d.readRegister store h = h.read store := by
  simp [readRegister, hd.visible]

include hw hh hp

/-- A getter that finds the handle of its register reads it once and answers with the bits of its
field. -/
theorem perform_getter {f : Field} (hf : f.Fits (Bits.unsigned w))
    (hd : d.Sees w (AccessorCode.getter f).action.primitive)
    (hr : h.capability.readable = true) (checks : Bool) (a : Argument) :
    d.perform checks store register a (AccessorCode.getter f).action =
      store.load h.address (Bits.unsigned w) >>= fun raw => pure (f.answer raw) := by
  have hstart : f.start < w := hf.ordered.trans_lt hf.inside
  cases hs : f.single with
  | true =>
    simp only [AccessorCode.getter, hs, if_true, Action.primitive] at hd ⊢
    simp only [perform, hh, Step.ofOutcome_ok, pure_bind, hd.readRegister_eq,
      h.read_eq store hw hp hr, bind_assoc, hd.checkPrimitive_eq, hd.word,
      Bits.getBit_unsigned hw checks _ hstart, mapError_ok, Field.answer, hs, if_true,
      Nat.testBit_mod_two_pow, decide_eq_true hstart, Bool.true_and]
  | false =>
    simp only [AccessorCode.getter, hs, Bool.false_eq_true, if_false, Action.primitive] at hd ⊢
    simp only [perform, hh, Step.ofOutcome_ok, pure_bind, hd.readRegister_eq,
      h.read_eq store hw hp hr, bind_assoc, hd.checkPrimitive_eq, hd.word,
      Bits.getBitRange_unsigned hw hf.ordered hf.inside, mapError_ok, Field.answer, hs,
      Bool.false_eq_true, if_false]
    have hbits : ∀ raw : Nat, raw % 2 ^ w / 2 ^ f.start % 2 ^ (f.stop + 1 - f.start) =
        raw / 2 ^ f.start % 2 ^ f.width := f.div_mod_of_inside hf.inside
    simp only [hbits]

theorem update_preserved (hd : d.Sees w p) (hr : h.capability.readable = true)
    (hwr : h.capability.writable = true) {keep : Nat} (hk : d.preserved register = .ok keep)
    {change : Int → Except Bits.Fault Int} {g : Nat → Nat}
    (hg : ∀ raw : Nat, change ((raw % 2 ^ w &&& keep : Nat) : Int) = .ok ((g raw : Nat) : Int))
    (hlt : ∀ raw, g raw < 2 ^ w) :
    d.update store register .preserved p change =
      store.load h.address (Bits.unsigned w) >>= fun raw =>
        store.save h.address (Bits.unsigned w) (g raw) >>= fun _ => pure .nothing := by
  have hcommon : ∀ raw : Nat, common ((raw % 2 ^ w : Nat) : Int) keep =
      ((raw % 2 ^ w &&& keep : Nat) : Int) := by
    intro raw
    rw [common, Int.toNat_natCast, Int.toNat_natCast]
  simp only [update, seedWord, hh, hk, Step.ofOutcome_ok, pure_bind, bind_assoc,
    hd.readRegister_eq, h.read_eq store hw hp hr, hcommon, hd.checkPrimitive_eq, hg, mapError_ok,
    hd.writeRegister_eq, h.write_eq store hw hp hwr (hlt _)]

theorem update_zero (hd : d.Sees w p) (hwr : h.capability.writable = true)
    {change : Int → Except Bits.Fault Int} {value : Nat} (hg : change 0 = .ok (value : Int))
    (hlt : value < 2 ^ w) :
    d.update store register .zero p change =
      store.save h.address (Bits.unsigned w) value >>= fun _ => pure .nothing := by
  simp only [update, seedWord, hh, Step.ofOutcome_ok, pure_bind, hd.checkPrimitive_eq, hg,
    mapError_ok, hd.writeRegister_eq, h.write_eq store hw hp hwr hlt]

omit hh hp in
/-- A setter that is called with arguments it accepts changes the word as `merged` says. -/
theorem exists_change (register : String) {d : Device}
    (hword : d.kind.code.word = Bits.unsigned w) {f : Field} (hf : f.Fits (Bits.unsigned w))
    {checks : Bool}
    (hguard : ∀ n, f.single = false → f.admits checks n = true →
      d.checkFits checks f.name f.width f.greatest n = .ok ())
    {args : List Argument} {v : Nat} (ha : f.accepted? checks args = some v) (c : Capability) :
    ∃ a change, d.argumentOf (AccessorCode.setter c f) args = .ok a ∧
      d.perform checks store register a (AccessorCode.setterAction (AccessorCode.seedOf c) f) =
        d.update store register (AccessorCode.seedOf c)
          (AccessorCode.setterAction (AccessorCode.seedOf c) f).primitive change ∧
      ∀ keep raw : Nat, change ((raw % 2 ^ w &&& keep : Nat) : Int) =
        .ok ((f.merged (Bits.unsigned w) v keep raw : Nat) : Int) := by
  rcases Field.accepted?_eq_some ha with ⟨hc, rfl, rfl⟩ | ⟨hc, hs, b, rfl, rfl⟩ |
    ⟨hc, hs, b, n, rfl, hn, had, rfl⟩
  · have haction : AccessorCode.setterAction (AccessorCode.seedOf c) f =
        .raiseBit (AccessorCode.seedOf c) f.start := by
      simp [AccessorCode.setterAction, hc]
    have hs := hf.single_of_selfClearing hc
    refine ⟨.truth false, fun x => Bits.setBit checks x f.start true d.kind.code.word, ?_, ?_, ?_⟩
    · simp [argumentOf, AccessorCode.setter, haction, Action.parameter]
    · rw [haction]
      rfl
    · intro keep raw
      rw [hword]
      exact Field.setBit_eq_merged hw hf hs checks true keep raw
  · have haction : AccessorCode.setterAction (AccessorCode.seedOf c) f =
        .writeBit (AccessorCode.seedOf c) f.start := by
      simp [AccessorCode.setterAction, hc, hs]
    refine ⟨b, fun x => Bits.setBit checks x f.start b.isTrue d.kind.code.word, ?_, ?_, ?_⟩
    · simp [argumentOf, AccessorCode.setter, haction, Action.parameter]
    · rw [haction]
      rfl
    · intro keep raw
      rw [hword]
      exact Field.setBit_eq_merged hw hf hs checks b.isTrue keep raw
  · have haction : AccessorCode.setterAction (AccessorCode.seedOf c) f =
        .writeRange (AccessorCode.seedOf c) f.start f.stop f.name f.width f.greatest := by
      simp [AccessorCode.setterAction, hc, hs]
    refine ⟨b, fun x => Bits.setBitRange checks x f.start f.stop n d.kind.code.word, ?_, ?_, ?_⟩
    · simp [argumentOf, AccessorCode.setter, haction, Action.parameter]
    · rw [haction]
      simp only [perform, hn, hguard n hs had, Step.ofOutcome_ok, pure_bind]
      rfl
    · intro keep raw
      rw [hword]
      exact Field.setBitRange_eq_merged hw hf had keep raw

end Device

end Programs

namespace Device

section Calls

variable [Machine] {σ : Type} (store : Store σ) {w : Nat} (hw : w < Machine.bits) {d : Device}
  {h : Handle} {f : Field} (hf : f.Fits (Bits.unsigned w)) (hh : d.ownHandle f.register = .ok h)
  (hp : h.payload = Bits.unsigned w)
include hw hf hh hp

theorem callMember_getter (hd : d.Sees w (AccessorCode.getter f).action.primitive)
    (hr : h.capability.readable = true) (checks : Bool) :
    d.callMember checks store (.method (AccessorCode.getter f)) [] =
      store.load h.address (Bits.unsigned w) >>= fun raw => pure (f.answer raw) := by
  have harg : d.argumentOf (AccessorCode.getter f) [] = .ok (.truth false) := by
    cases hs : f.single <;> simp [argumentOf, AccessorCode.getter, hs, Action.parameter]
  simp only [callMember, Member.method?, harg, Step.ofOutcome_ok, pure_bind]
  exact perform_getter store hw hh hp hf hd hr checks _

variable {c : Capability}
  (hd : d.Sees w (AccessorCode.setterAction (AccessorCode.seedOf c) f).primitive)
  (hwr : h.capability.writable = true) {checks : Bool}
  (hguard : ∀ n, f.single = false → f.admits checks n = true →
    d.checkFits checks f.name f.width f.greatest n = .ok ())
  {args : List Argument} {v : Nat} (ha : f.accepted? checks args = some v)
include hd hwr hguard ha

theorem callMember_setter_of_readable (hc : c.readable = true) (hr : h.capability.readable = true)
    {keep : Nat} (hk : d.preserved f.register = .ok keep) :
    d.callMember checks store (.method (AccessorCode.setter c f)) args =
      store.load h.address (Bits.unsigned w) >>= fun raw =>
        store.save h.address (Bits.unsigned w) (f.merged (Bits.unsigned w) v keep raw) >>=
          fun _ => pure .nothing := by
  obtain ⟨a, change, harg, hperform, hchange⟩ :=
    exists_change store hw f.register hd.word hf hguard ha c
  have hseed : AccessorCode.seedOf c = .preserved := by simp [AccessorCode.seedOf, hc]
  simp only [callMember, Member.method?, harg, Step.ofOutcome_ok, pure_bind]
  simp only [AccessorCode.setter] at hperform ⊢
  rw [hperform, hseed]
  exact update_preserved store hw hh hp (hseed ▸ hd) hr hwr hk (hchange keep)
    fun raw => Field.merged_lt _ _ _ _ _

theorem callMember_setter_of_not_readable (hc : c.readable = false) :
    d.callMember checks store (.method (AccessorCode.setter c f)) args =
      store.save h.address (Bits.unsigned w) (f.merged (Bits.unsigned w) v 0 0) >>=
        fun _ => pure .nothing := by
  obtain ⟨a, change, harg, hperform, hchange⟩ :=
    exists_change store hw f.register hd.word hf hguard ha c
  have hseed : AccessorCode.seedOf c = .zero := by simp [AccessorCode.seedOf, hc]
  simp only [callMember, Member.method?, harg, Step.ofOutcome_ok, pure_bind]
  simp only [AccessorCode.setter] at hperform ⊢
  rw [hperform, hseed]
  exact update_zero store hw hh hp (hseed ▸ hd) hwr (by simpa using hchange 0 0)
    (Field.merged_lt _ _ _ _ _)

end Calls

end Device

end RegisterMap
