import RegisterMap.Proofs.Bits.Primitives
import RegisterMap.Proofs.Matching
import RegisterMap.Proofs.Memory.Bytes

/-!
# Handles as variables

Handles over one buffer, of whole bytes with a sign or without one. A write changes the bytes of its
word and no others, so that handles for words apart from each other are variables of their own:
after any run of writes each of them reads as the last value written to it, taken as a number of its
type. A handle that must not be read or written refuses before it comes to the memory.
-/

namespace RegisterMap

open Memory

namespace Bits

variable {t : IntType}

/-- The low bytes of an integer are its low bits, in a type of whole bytes. -/
theorem IntType.lowBytes_size (h : 8 ∣ t.bits) (v : Int) :
    Cells.lowBytes t.size v = t.toUnsigned v := by
  have hsize : 8 * t.size = t.bits := Nat.mul_div_cancel' h
  have hpow : 256 ^ t.size = 2 ^ t.bits := by rw [← hsize, Nat.pow_mul]
  rw [Cells.lowBytes, IntType.toUnsigned, Nat.pow_eq, Nat.pow_eq, hpow]

end Bits

namespace Handle

/-- The width of a handle's type is some whole bytes. -/
def IsWhole (h : Handle) : Prop :=
  0 < h.payload.bits ∧ 8 ∣ h.payload.bits

/-- Two handles stand for one word. -/
def Shares (h k : Handle) : Prop :=
  h.address = k.address ∧ h.payload = k.payload

/-- The words of two handles have no byte in common; they may adjoin. -/
def IsApart (h k : Handle) : Prop :=
  h.address + h.payload.size ≤ k.address ∨ k.address + k.payload.size ≤ h.address

instance (h : Handle) : Decidable h.IsWhole :=
  inferInstanceAs (Decidable (0 < h.payload.bits ∧ 8 ∣ h.payload.bits))

instance (h k : Handle) : Decidable (h.Shares k) :=
  inferInstanceAs (Decidable (h.address = k.address ∧ h.payload = k.payload))

instance (h k : Handle) : Decidable (h.IsApart k) :=
  inferInstanceAs (Decidable (h.address + h.payload.size ≤ k.address ∨
    k.address + k.payload.size ≤ h.address))

theorem IsWhole.size {h : Handle} (hh : h.IsWhole) : 8 * h.payload.size = h.payload.bits :=
  Nat.mul_div_cancel' hh.2

theorem IsWhole.hasSign {h : Handle} (hh : h.IsWhole) : h.payload.hasSign = true := by
  unfold Bits.IntType.hasSign
  rw [decide_eq_true hh.1, Bool.or_true]

/-- The addresses of a handle's word. -/
def word (h : Handle) : Span :=
  ⟨h.address, h.address + h.payload.size⟩

/-- What a write of a value says of the word of a handle. -/
def toldBy? (h : Handle) (w : Handle × Int) : Option Int :=
  if w.1.capability.writable = true ∧ w.1.Shares h then some w.2 else none

/-- The last value that was written to the word of a handle. -/
def lastWritten? (h : Handle) (ws : List (Handle × Int)) : Option Int :=
  ws.reverse.findSome? h.toldBy?

theorem lastWritten?_cons (h : Handle) (w : Handle × Int) (ws : List (Handle × Int)) :
    h.lastWritten? (w :: ws) = (h.lastWritten? ws).or (h.toldBy? w) := by
  unfold lastWritten?
  rw [List.reverse_cons, List.findSome?_append, List.findSome?_singleton]

theorem lastWritten?_singleton (h : Handle) (w : Handle × Int) :
    h.lastWritten? [w] = h.toldBy? w := by
  rw [lastWritten?_cons]
  exact Option.none_or

/-- How a write ends on a memory that takes it. -/
def outcome (w : Handle × Int) : Except Failure Unit :=
  if w.1.capability.writable then .ok () else .error (.notWritable w.1.address)

end Handle

section

variable [Machine]

namespace Memory.Space

variable {s : Space} {ref : Ref}

theorem put_self {c : Component} (h : s.components[ref]? = some c) : s.put ref c = s := by
  obtain ⟨hlt, rfl⟩ := List.getElem?_eq_some_iff.1 h
  unfold put
  rw [List.set_getElem_self]

theorem put_put (c d : Component) : (s.put ref c).put ref d = s.put ref d := by
  unfold put
  rw [List.set_set]

end Memory.Space

namespace Handle

/-- Writes one after another, whether they fail or not. -/
def writeAll {σ : Type} (store : Store σ) (ws : List (Handle × Int)) (s : σ) :
    List (Except Failure Unit) × σ :=
  Step.runAll (ws.map fun w => w.1.write store w.2) s

/-- A handle that must not be read, or not be written, makes no access. -/
theorem read_of_not_readable {σ : Type} {h : Handle} (hr : h.capability.readable = false)
    (store : Store σ) : h.read store = Step.fail (.notReadable h.address) := by
  unfold read
  rw [hr, if_neg Bool.false_ne_true]

theorem write_of_not_writable {σ : Type} {h : Handle} (hw : h.capability.writable = false)
    (store : Store σ) (v : Int) : h.write store v = Step.fail (.notWritable h.address) := by
  unfold write
  rw [hw, if_neg Bool.false_ne_true]

/-- What a run of writes makes of a buffer: no byte outside their words is another one, and each
word that the others share or leave alone holds the last value written to it. -/
structure Wrote (ws : List (Handle × Int)) (b c : Buffer) : Prop where
  base : c.base = b.base
  size : c.size = b.size
  outside : ∀ a, (∀ w ∈ ws, w.1.capability.writable = true → w.1.word.has a = false) →
    c.cells a = b.cells a
  inside : ∀ h : Handle, (∀ w ∈ ws, h.Shares w.1 ∨ h.IsApart w.1) →
    Bits.wrap h.payload (c.cells.load h.address h.payload.size) =
      Bits.wrap h.payload ((h.lastWritten? ws).getD (b.cells.load h.address h.payload.size))

namespace Wrote

variable {b c d : Buffer}

theorem admits {ws : List (Handle × Int)} (hw : Wrote ws b c) (address size : Int) :
    c.admits address size = b.admits address size := by
  unfold Buffer.admits Buffer.stop
  rw [hw.base, hw.size]

theorem nil (b : Buffer) : Wrote [] b b :=
  ⟨rfl, rfl, fun _ _ => rfl, fun _ _ => rfl⟩

theorem cons {w : Handle × Int} {ws : List (Handle × Int)} (hfirst : Wrote [w] b c)
    (hrest : Wrote ws c d) : Wrote (w :: ws) b d where
  base := hrest.base.trans hfirst.base
  size := hrest.size.trans hfirst.size
  outside a ha := by
    obtain ⟨hw, hws⟩ := List.forall_mem_cons.1 ha
    rw [hrest.outside a hws, hfirst.outside a (List.forall_mem_singleton.2 hw)]
  inside h hh := by
    obtain ⟨hw, hws⟩ := List.forall_mem_cons.1 hh
    rw [hrest.inside h hws, lastWritten?_cons]
    cases h.lastWritten? ws with
    | some v => rfl
    | none =>
      rw [Option.none_or, ← lastWritten?_singleton]
      exact hfirst.inside h (List.forall_mem_singleton.2 hw)

/-- A write that is refused leaves everything as it is. -/
theorem skipped {w : Handle × Int} (h : w.1.capability.writable = false) (b : Buffer) :
    Wrote [w] b b where
  base := rfl
  size := rfl
  outside _ _ := rfl
  inside k _ := by
    rw [lastWritten?_singleton, toldBy?, if_neg]
    · rfl
    · rintro ⟨hwritable, -⟩
      exact absurd hwritable (ne_true_of_eq_false h)

/-- A word that is stored holds its value, and so does every word that shares it. -/
theorem stored {h : Handle} (hh : h.IsWhole) (hw : h.capability.writable = true) (v : Int)
    (b : Buffer) :
    Wrote [(h, v)] b (b.stored h.address h.payload.size (h.payload.toUnsigned v)) where
  base := rfl
  size := rfl
  outside a ha := by
    have hnot := ha (h, v) (List.mem_singleton_self _) hw
    refine Cells.store_outside fun hin => ?_
    rw [Span.has_iff.2 hin] at hnot
    cases hnot
  inside k hk := by
    rw [lastWritten?_singleton, toldBy?, Buffer.stored]
    by_cases hshare : h.Shares k
    · rw [if_pos ⟨hw, hshare⟩, ← hshare.1, ← hshare.2, Cells.load_store, hh.size,
        Nat.mod_eq_of_lt (h.payload.toUnsigned_lt v)]
      exact Bits.wrap_congr (h.payload.toUnsigned_toUnsigned v)
    · have hapart : k.IsApart h :=
        (hk (h, v) (List.mem_singleton_self _)).resolve_left fun hs =>
          hshare ⟨hs.1.symm, hs.2.symm⟩
      rw [if_neg fun hs => hshare hs.2]
      exact congrArg _ (congrArg _ (Cells.load_store_of_apart _ hapart _))

end Wrote

section Buffer

variable {s : Space} {ref : Ref} {b : Buffer} {h : Handle}

/-- The machine has room for the number in a word of a buffer. -/
theorem IsWhole.room (hh : h.IsWhole) (hin : b.admits h.address h.payload.size = true) :
    h.payload.bits < Machine.bits := by
  have hsize := hh.size
  have hfits := (Buffer.le_size_of_admits hin).trans_lt b.size_lt
  have hbits := Machine.bits_of_bytes
  omega

theorem run_read (hs : s.buffer? ref = some b) (hh : h.IsWhole)
    (hin : b.admits h.address h.payload.size = true) (hr : h.capability.readable = true) {v : Int}
    (hv : Bits.wrap h.payload (b.cells.load h.address h.payload.size) = Bits.wrap h.payload v) :
    ∃ r, Bits.wrap h.payload v = .ok r ∧ (h.read (Space.store ref)).run s = (.ok r, s) := by
  have hwrap := Bits.wrap_of_room (hh.room hin) hh.hasSign v
  refine ⟨_, hwrap, ?_⟩
  unfold read
  rw [if_pos hr]
  refine (Step.run_bind_of_ok (Space.run_load hs hin)).trans ?_
  rw [hv, hwrap]
  rfl

theorem run_write (hs : s.buffer? ref = some b) (hh : h.IsWhole)
    (hin : b.admits h.address h.payload.size = true) (hw : h.capability.writable = true)
    (v : Int) :
    (h.write (Space.store ref) v).run s = (.ok (),
      s.put ref (.buffer (b.stored h.address h.payload.size (h.payload.toUnsigned v)))) := by
  have hsave := Space.run_save hs hin (h.payload.toUnsigned v)
  rw [hh.size, Nat.mod_eq_of_lt (h.payload.toUnsigned_lt v)] at hsave
  unfold write
  rw [if_pos hw, Bits.lowBits_of_room (hh.room hin)]
  exact hsave

/-- One write of a run. -/
theorem run_write_wrote {w : Handle × Int} (hs : s.buffer? ref = some b) (hh : w.1.IsWhole)
    (hin : b.admits w.1.address w.1.payload.size = true) :
    ∃ c, (w.1.write (Space.store ref) w.2).run s = (outcome w, s.put ref (.buffer c)) ∧
      Wrote [w] b c := by
  have hself : s.put ref (.buffer b) = s := Space.put_self (Space.component_of_buffer hs)
  cases hw : w.1.capability.writable with
  | false =>
    refine ⟨b, ?_, .skipped hw b⟩
    rw [write_of_not_writable hw, outcome, hw, hself]
    rfl
  | true =>
    refine ⟨_, ?_, .stored hh hw w.2 b⟩
    rw [run_write hs hh hin hw, outcome, if_pos hw]

/-- A whole run of writes, by induction on it: what the first one leaves is a buffer again, with
the same places in it. -/
theorem writeAll_wrote {ws : List (Handle × Int)} (hs : s.buffer? ref = some b)
    (hws : ∀ w ∈ ws, w.1.IsWhole ∧ b.admits w.1.address w.1.payload.size = true) :
    ∃ c, writeAll (Space.store ref) ws s = (ws.map outcome, s.put ref (.buffer c)) ∧
      Wrote ws b c := by
  induction ws generalizing s b with
  | nil => exact ⟨b, by rw [Space.put_self (Space.component_of_buffer hs)]; rfl, .nil b⟩
  | cons w ws ih =>
    obtain ⟨⟨hh, hin⟩, hrest⟩ := List.forall_mem_cons.1 hws
    obtain ⟨c, hrun, hfirst⟩ := run_write_wrote hs hh hin
    have hwithin : ∀ k ∈ ws, k.1.IsWhole ∧ c.admits k.1.address k.1.payload.size = true :=
      fun k hk => ⟨(hrest k hk).1, (hfirst.admits _ _).trans (hrest k hk).2⟩
    obtain ⟨d, hruns, hwrote⟩ := ih (Space.buffer?_put hs c) hwithin
    refine ⟨d, ?_, hfirst.cons hwrote⟩
    unfold writeAll at hruns ⊢
    rw [List.map_cons, Step.runAll, hrun, hruns, Space.put_put]
    rfl

/-- The bytes after a write: those of the value in the word, and elsewhere the ones before. -/
theorem stored_cells (hh : h.IsWhole) (v a : Int) :
    (b.stored h.address h.payload.size (h.payload.toUnsigned v)).cells a =
      if h.word.has a then Cells.byteOf v (a - h.address).toNat else b.cells a := by
  change b.cells.store h.address h.payload.size (h.payload.toUnsigned v) a = _
  by_cases hin : h.address ≤ a ∧ a < h.address + h.payload.size
  · have hplace : (a - h.address).toNat < h.payload.size := by omega
    rw [if_pos (Span.has_iff.2 hin), Cells.store_inside hin, ← Bits.IntType.lowBytes_size hh.2,
      Cells.byteAt_lowBytes hplace]
  · rw [if_neg fun hhas => hin (Span.has_iff.1 hhas), Cells.store_outside hin]

end Buffer

/-- Handles for words of a buffer that are the same or apart. A write changes the bytes of its word;
after any run of writes each word reads as the last value written to it, or as it was; and a handle
that must not be read or written makes no access at all, whatever the memory is. -/
theorem read_after_writeAll {s : Space} {ref : Ref} {b : Buffer} (hs : s.buffer? ref = some b)
    {handles : List Handle}
    (hwhole : ∀ h ∈ handles, h.IsWhole ∧ b.admits h.address h.payload.size = true)
    (happart : ∀ h ∈ handles, ∀ k ∈ handles, h.Shares k ∨ h.IsApart k) :
    (∀ h ∈ handles, h.capability.writable = true → ∀ v : Int,
      ∃ c, (h.write (Space.store ref) v).run s = (.ok (), s.put ref (.buffer c)) ∧
        c.base = b.base ∧ c.size = b.size ∧
        ∀ a, c.cells a =
          if h.word.has a then Cells.byteOf v (a - h.address).toNat else b.cells a) ∧
    (∀ ws : List (Handle × Int), (∀ w ∈ ws, w.1 ∈ handles) →
      ∃ c, writeAll (Space.store ref) ws s = (ws.map outcome, s.put ref (.buffer c)) ∧
        c.base = b.base ∧ c.size = b.size ∧
        (∀ a, (∀ w ∈ ws, w.1.capability.writable = true → w.1.word.has a = false) →
          c.cells a = b.cells a) ∧
        ∀ h ∈ handles, h.capability.readable = true → ∃ r,
          Bits.wrap h.payload ((h.lastWritten? ws).getD
            (b.cells.load h.address h.payload.size)) = .ok r ∧
          (h.read (Space.store ref)).run (s.put ref (.buffer c)) =
            (.ok r, s.put ref (.buffer c))) ∧
    ∀ {σ : Type} (store : Store σ) (h : Handle),
      (h.capability.readable = false → h.read store = Step.fail (.notReadable h.address)) ∧
      (h.capability.writable = false →
        ∀ v, h.write store v = Step.fail (.notWritable h.address)) ∧
      (Failure.notReadable h.address).category = .contract ∧
      (Failure.notWritable h.address).category = .contract := by
  refine ⟨fun h hmem hw v => ?_, fun ws hws => ?_, fun store h => ?_⟩
  · obtain ⟨hh, hin⟩ := hwhole h hmem
    exact ⟨_, run_write hs hh hin hw v, rfl, rfl, stored_cells hh v⟩
  · obtain ⟨c, hrun, hwrote⟩ := writeAll_wrote hs fun w hw => hwhole w.1 (hws w hw)
    refine ⟨c, hrun, hwrote.base, hwrote.size, hwrote.outside, fun h hmem hr => ?_⟩
    obtain ⟨hh, hin⟩ := hwhole h hmem
    exact run_read (Space.buffer?_put hs c) hh ((hwrote.admits _ _).trans hin) hr
      (hwrote.inside h fun w hw => happart h hmem w.1 (hws w hw))
  · exact ⟨fun hr => read_of_not_readable hr store, fun hw => write_of_not_writable hw store,
      rfl, rfl⟩

end Handle

end

namespace Handle

/-- Three blank bytes. -/
def threeBytes : Space :=
  ⟨[.buffer ⟨4096, 3, Cells.blank, by decide⟩], []⟩

/-- A byte with a sign and an unsigned word behind it, the one written past its range, the other
through one handle and read through another. -/
theorem read_after_writeAll_adjoining :
    ∃ c, writeAll (Space.store 0)
        [(⟨.readWrite, 4096, 0, ⟨8, true⟩⟩, -1), (⟨.writeOnly, 4097, 1, ⟨16, false⟩⟩, 0x12345),
          (⟨.readWrite, 4096, 0, ⟨8, true⟩⟩, 200)] threeBytes =
          ([.ok (), .ok (), .ok ()], threeBytes.put 0 (.buffer c)) ∧
      (Handle.read (Space.store 0) ⟨.readWrite, 4096, 0, ⟨8, true⟩⟩).run
        (threeBytes.put 0 (.buffer c)) = (.ok (-56), threeBytes.put 0 (.buffer c)) ∧
      (Handle.read (Space.store 0) ⟨.readOnly, 4097, 1, ⟨16, false⟩⟩).run
        (threeBytes.put 0 (.buffer c)) = (.ok 0x2345, threeBytes.put 0 (.buffer c)) := by
  have hs : threeBytes.buffer? 0 = some ⟨4096, 3, Cells.blank, by decide⟩ := rfl
  obtain ⟨-, hwrites, -⟩ := read_after_writeAll hs
    (show ∀ h ∈ ([⟨.readWrite, 4096, 0, ⟨8, true⟩⟩, ⟨.writeOnly, 4097, 1, ⟨16, false⟩⟩,
        ⟨.readOnly, 4097, 1, ⟨16, false⟩⟩] : List Handle),
        h.IsWhole ∧ Buffer.admits _ h.address h.payload.size = true by decide)
    (by decide)
  obtain ⟨c, hrun, -, -, -, hread⟩ := hwrites
    [(⟨.readWrite, 4096, 0, ⟨8, true⟩⟩, -1), (⟨.writeOnly, 4097, 1, ⟨16, false⟩⟩, 0x12345),
      (⟨.readWrite, 4096, 0, ⟨8, true⟩⟩, 200)] (by decide)
  obtain ⟨r, hr, hbyte⟩ := hread _ (.head _) rfl
  cases (show Bits.wrap ⟨8, true⟩ 200 = .ok (-56) by decide).symm.trans hr
  obtain ⟨r, hr, hword⟩ := hread _ (.tail _ (.tail _ (.head _))) rfl
  cases (show Bits.wrap ⟨16, false⟩ 0x12345 = .ok 0x2345 by decide).symm.trans hr
  exact ⟨c, hrun, hbyte, hword⟩

end Handle

end RegisterMap
