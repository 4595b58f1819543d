import Mathlib.Data.Nat.Digits.Defs
import RegisterMap.Proofs.Memory.Buffers
import RegisterMap.Proofs.Memory.Spaces

/-!
# Bytes of memories

The bytes that the memories of a space hold, and what loads and stores have to do with them. Buses
hold no bytes of their own. An access that is made has been led to one memory, which holds all its
bytes: a load gives the number that these bytes write, and a store changes them and no others.
-/

namespace RegisterMap

namespace Cells

theorem number_eq_ofDigits (bs : List UInt8) :
    number bs = Nat.ofDigits 256 (bs.map UInt8.toNat) := by
  induction bs with
  | nil => rfl
  | cons b bs ih => rw [number, ih, List.map_cons, Nat.ofDigits_cons]

theorem bytes_eq_map (cells : Cells) (address : Int) (count : Nat) :
    cells.bytes address count = (List.range count).map fun (i : Nat) => cells (address + i) := by
  induction count generalizing address with
  | zero => rfl
  | succ count ih =>
    rw [bytes, ih, List.range_succ_eq_map, List.map_cons, List.map_map, Nat.cast_zero, Int.add_zero]
    congr 1
    refine List.map_congr_left fun i _ => congrArg cells ?_
    push_cast
    omega

/-- The byte of an integer at a place counted from the low end. -/
def byteOf (value : Int) (place : Nat) : UInt8 :=
  UInt8.ofInt (value / 256 ^ place)

/-- The low bytes of an integer are its own. -/
theorem byteAt_lowBytes {count place : Nat} (h : place < count) (value : Int) :
    byteAt (lowBytes count value) place = byteOf value place := by
  have hlow : (lowBytes count value : Int) = value % 256 ^ count := by
    have hpos : (0 : Int) < 256 ^ count := Int.pow_pos (by decide)
    unfold lowBytes
    exact Int.toNat_of_nonneg (Int.emod_nonneg _ hpos.ne')
  have hpow : (256 : Int) ^ count = 256 ^ place * (256 * 256 ^ (count - place - 1)) := by
    rw [← Int.pow_succ', ← Int.pow_add]
    congr 1
    omega
  -- What lies above the low bytes is a multiple of 256 at this place and does not count.
  have hdiv : value / 256 ^ place = lowBytes count value / 256 ^ place +
      256 * (256 ^ (count - place - 1) * (value / 256 ^ count)) := by
    have hne : (256 : Int) ^ place ≠ 0 := (Int.pow_pos (by decide)).ne'
    rw [← Int.add_mul_ediv_left _ _ hne, ← Int.mul_assoc 256, ← Int.mul_assoc, ← hpow, hlow,
      Int.emod_add_mul_ediv]
  have hbyte : value / 256 ^ place % 2 ^ 8 =
      (lowBytes count value / 256 ^ place % 2 ^ 8 : Nat) := by
    rw [hdiv]
    push_cast
    exact Int.add_mul_emod_self_left _ _ _
  have hshift : lowBytes count value >>> (8 * place) = lowBytes count value / 256 ^ place := by
    rw [Nat.shiftRight_eq_div_pow, Nat.pow_mul]
  rw [byteOf, UInt8.ofInt, hbyte, Int.toNat_natCast, byteAt, hshift]
  exact UInt8.ofNat_mod_size.symm

end Cells

namespace Memory

variable [Machine]

namespace Buffer

variable {b c : Buffer} {address : Int} {count : Nat}

theorem has_of_admits (h : b.admits address count = true) {a : Int} (hlow : address ≤ a)
    (hhigh : a < address + count) : b.span.has a = true := by
  obtain ⟨hbase, hstop⟩ := admits_iff.1 h
  exact Span.has_iff.2 ⟨hbase.trans hlow, lt_of_lt_of_le hhigh hstop⟩

theorem admits_of_has (hcount : 0 < count)
    (h : ∀ a, address ≤ a → a < address + count → b.span.has a = true) :
    b.admits address count = true := by
  have hfirst := Span.has_iff.1 (h address (by omega) (by omega))
  have hlast := Span.has_iff.1 (h (address + count - 1) (by omega) (by omega))
  unfold span at hfirst hlast
  dsimp only at hfirst hlast
  exact admits_iff.2 ⟨hfirst.1, by omega⟩

theorem read_eq_ok {value : Nat} (h : b.read address count = .ok value) :
    (∀ a, address ≤ a → a < address + count → b.span.has a = true) ∧
      value = b.cells.load address count := by
  by_cases hadmits : b.admits address count = true
  · rw [read_eq hadmits] at h
    exact ⟨fun _ => has_of_admits hadmits, (Except.ok.inj h).symm⟩
  · rw [read_eq_refusal hadmits] at h
    cases h

theorem write_eq_ok {value : Int} (h : b.write address count value = .ok c) :
    (∀ a, address ≤ a → a < address + count → b.span.has a = true) ∧
      c = b.stored address count (Cells.lowBytes count value) := by
  by_cases hadmits : b.admits address count = true
  · rw [write_eq hadmits] at h
    exact ⟨fun _ => has_of_admits hadmits, (Except.ok.inj h).symm⟩
  · rw [write_eq_refusal hadmits] at h
    cases h

end Buffer

namespace Paged

variable {m n : Paged} {address : Int} {count : Nat}

/-- Whether some bytes from an address on are all mapped. -/
def HasBytes (m : Paged) (address : Int) (count : Nat) : Prop :=
  ∀ a, address ≤ a → a < address + count → (m.byte? a).isSome = true

/-- Bytes counted from an address on are those at the addresses from there on. -/
theorem hasBytes_iff :
    m.HasBytes address count ↔ ∀ i : Nat, i < count → (m.byte? (address + i)).isSome = true := by
  constructor
  · intro h i hi
    exact h _ (by omega) (by omega)
  · intro h a hlow hhigh
    have hbyte := h (a - address).toNat (by omega)
    rwa [show address + ((a - address).toNat : Nat) = a by omega] at hbyte

/-- The bytes from an address on, with zeros for those that are not mapped. -/
def bytes (m : Paged) (address : Int) (count : Nat) : List UInt8 :=
  (List.range count).map fun (i : Nat) => (m.byte? (address + i)).getD 0

theorem getElem?_bytes {i : Nat} (hi : i < count) :
    (m.bytes address count)[i]? = some ((m.byte? (address + i)).getD 0) := by
  unfold bytes
  rw [List.getElem?_map, List.getElem?_range hi, Option.map_some]

/-- An engine loads bytes that are all mapped, and no others. -/
theorem load_eq_some_iff {bs : List UInt8} : Machine.engine.load m.state address count = some bs ↔
    m.HasBytes address count ∧ bs = m.bytes address count := by
  rw [Machine.engine.load_eq_some, hasBytes_iff]
  constructor
  · rintro ⟨rfl, hbytes⟩
    have hbyte : ∀ i : Nat, i < bs.length → m.byte? (address + i) = bs[i]? := hbytes
    refine ⟨fun i hi => ?_, List.ext_getElem? fun i => ?_⟩
    · rw [hbyte i hi, List.getElem?_eq_getElem hi, Option.isSome_some]
    · by_cases hi : i < bs.length
      · rw [getElem?_bytes hi, hbyte i hi, List.getElem?_eq_getElem hi, Option.getD_some]
      · have hlength : (m.bytes address bs.length).length = bs.length := by simp [bytes]
        rw [List.getElem?_eq_none (by omega), List.getElem?_eq_none (by omega)]
  · rintro ⟨hhas, rfl⟩
    refine ⟨by simp [bytes], fun i hi => ?_⟩
    obtain ⟨b, hb⟩ := Option.isSome_iff_exists.1 (hhas i hi)
    rw [getElem?_bytes hi, hb, Option.getD_some]
    exact hb

theorem read_eq (hlimit : count < Machine.bytes) (h : m.HasBytes address count) :
    m.read address count = .ok (Cells.number (m.bytes address count)) := by
  have haddress : ¬((count : Int) < -addressLimit ∨ addressLimit ≤ (count : Int)) := by
    have hbytes := bytes_lt_addressLimit
    unfold addressLimit at hbytes ⊢
    omega
  have hlow : ¬(count : Int) < 0 := by omega
  unfold read
  rw [if_neg haddress, if_neg hlow, Int.toNat_natCast, if_neg (Nat.not_le.2 hlimit),
    load_eq_some_iff.2 ⟨h, rfl⟩]

theorem read_eq_ok {value : Nat} (h : m.read address count = .ok value) :
    m.HasBytes address count ∧ value = Cells.number (m.bytes address count) := by
  unfold read at h
  rw [Int.toNat_natCast] at h
  split_ifs at h
  split at h
  · next bs hload =>
    cases h
    obtain ⟨hhas, rfl⟩ := load_eq_some_iff.1 hload
    exact ⟨hhas, rfl⟩
  · cases h

/-- An engine stores bytes where all of them are mapped. -/
theorem isSome_store_iff (value : Nat) :
    (Machine.engine.store m.state address (Cells.bytesOf value count)).isSome = true ↔
      m.HasBytes address count := by
  rw [Machine.engine.isSome_store, hasBytes_iff, Cells.length_bytesOf]
  rfl

theorem exists_write (hlimit : count < Machine.bytes) (h : m.HasBytes address count)
    (value : Int) : ∃ n, m.write address count value = .ok n := by
  obtain ⟨mask, hmask⟩ := Bits.exists_maskForSize hlimit
  obtain ⟨state, hstate⟩ :=
    Option.isSome_iff_exists.1 ((isSome_store_iff (Cells.masked mask value)).2 h)
  refine ⟨⟨state⟩, ?_⟩
  unfold write
  rw [hmask, mapError_ok, ok_bind, Int.toNat_natCast, hstate]

/-- A store that is made changes its own bytes, all of them mapped, and no others. -/
theorem write_eq_ok {value : Int} (h : m.write address count value = .ok n) :
    m.HasBytes address count ∧ ∀ a, n.byte? a = if address ≤ a ∧ a < address + count
      then some (Cells.byteOf value (a - address).toNat) else m.byte? a := by
  obtain ⟨mask, hmask, hrest⟩ := bind_eq_ok.1 h
  have hlow := Cells.masked_eq_lowBytes (mapError_eq_ok.1 hmask) value
  rw [Int.toNat_natCast] at hlow hrest
  rw [hlow] at hrest
  split at hrest
  · next state hstore =>
    cases hrest
    refine ⟨(isSome_store_iff _).1 (Option.isSome_iff_exists.2 ⟨_, hstore⟩), fun a => ?_⟩
    have hbyte := Machine.engine.byte?_store hstore a
    rw [Cells.length_bytesOf] at hbyte
    refine hbyte.trans ?_
    by_cases ha : address ≤ a ∧ a < address + count
    · have hlt : (a - address).toNat < count := by omega
      rw [if_pos ha, if_pos ha, Cells.getElem?_bytesOf hlt, Cells.byteAt_lowBytes hlt]
    · rw [if_neg ha, if_neg ha]
      rfl
  · cases hrest

end Paged

namespace Component

/-- The byte at an address, if the memory holds one there. -/
def byte? : Component → Int → Option UInt8
  | .buffer b, address => if b.span.has address then some (b.cells address) else none
  | .paged p, address => p.byte? address
  | .bus _, _ => none
  | .hollow, _ => none

theorem isSome_byte?_buffer (b : Buffer) (address : Int) :
    ((buffer b).byte? address).isSome = true ↔ b.span.has address = true :=
  Option.isSome_ite

/-- A memory without what buses keep of their accesses. -/
def bare : Component → Component
  | .bus b => .bus { b with history := [] }
  | c => c

theorem byte?_bare (c : Component) : c.bare.byte? = c.byte? := by
  cases c <;> rfl

theorem bare_eq_buffer {c : Component} {b : Buffer} (h : c.bare = .buffer b) : c = .buffer b := by
  cases c <;> cases h
  rfl

theorem bare_eq_paged {c : Component} {p : Paged} (h : c.bare = .paged p) : c = .paged p := by
  cases c <;> cases h
  rfl

theorem bare_eq_bus {c : Component} {b : Bus} (h : c.bare = (Component.bus b).bare) :
    ∃ d, c = .bus d ∧ d.regions = b.regions := by
  cases c with
  | bus d => exact ⟨d, rfl, congrArg (fun c => (c.bus?.map Bus.regions).getD []) h⟩
  | _ => cases h

end Component

namespace Space

open Step

variable {s t u : Space} {ref leaf q : Ref} {address size : Int} {value : Nat} {b : Bus}

/-- The byte at an address of a memory, if it holds one there. -/
def byte? (s : Space) (ref : Ref) (address : Int) : Option UInt8 :=
  s.components[ref]?.bind (·.byte? address)

/-- The number that the bytes of a memory from an address on write, low byte first. -/
def number (s : Space) (ref : Ref) (address : Int) (count : Nat) : Nat :=
  Nat.ofDigits 256 ((List.range count).map fun (i : Nat) =>
    ((s.byte? ref (address + i)).getD 0).toNat)

/-- The memory that an address leads to: a buffer or a paged memory itself, and from a bus on that
of the region with the address. -/
inductive Reaches (s : Space) (address : Int) : Ref → Ref → Prop where
  | buffer {ref : Ref} {b : Buffer} (h : s.components[ref]? = some (.buffer b)) :
      Reaches s address ref ref
  | paged {ref : Ref} {p : Paged} (h : s.components[ref]? = some (.paged p)) :
      Reaches s address ref ref
  | through {ref leaf : Ref} {b : Bus} {r : Region} (hb : s.bus? ref = some b)
      (hr : b.find? address = some r) (h : Reaches s address r.target leaf) :
      Reaches s address ref leaf

/-- Whether spaces have the same memories but for the histories of their buses. -/
def Alike (s t : Space) : Prop :=
  ∀ ref : Ref, s.components[ref]?.map Component.bare = t.components[ref]?.map Component.bare

namespace Alike

theorem refl (s : Space) : s.Alike s :=
  fun _ => rfl

theorem symm (h : s.Alike t) : t.Alike s :=
  fun ref => (h ref).symm

theorem trans (h : s.Alike t) (h' : t.Alike u) : s.Alike u :=
  fun ref => (h ref).trans (h' ref)

theorem byte?_eq (h : s.Alike t) : s.byte? = t.byte? := by
  have hbare : ∀ (s : Space) (ref : Ref) (address : Int),
      s.byte? ref address = (s.components[ref]?.map Component.bare).bind (·.byte? address) := by
    intro s ref address
    unfold byte?
    cases s.components[ref]? with
    | none => rfl
    | some c => exact (congrFun (Component.byte?_bare c) address).symm
  funext ref address
  rw [hbare, hbare, h ref]

theorem regions_eq (h : s.Alike t) (q : Ref) :
    (s.bus? q).map Bus.regions = (t.bus? q).map Bus.regions := by
  have hbare : ∀ s : Space, (s.bus? q).map Bus.regions =
      (s.components[q]?.map Component.bare).bind fun c => c.bus?.map Bus.regions := by
    intro s
    rw [bus?_eq]
    cases s.components[q]? with
    | none => rfl
    | some c => cases c <;> rfl
  rw [hbare, hbare, h q]

theorem exists_component (h : s.Alike t) {c : Component} (hc : s.components[ref]? = some c) :
    ∃ d, t.components[ref]? = some d ∧ d.bare = c.bare := by
  have hd := h ref
  rw [hc] at hd
  exact Option.map_eq_some_iff.1 hd.symm

theorem reaches (h : s.Alike t) (hs : s.Reaches address ref leaf) :
    t.Reaches address ref leaf := by
  induction hs with
  | buffer hb =>
    obtain ⟨d, hd, hbare⟩ := h.exists_component hb
    exact .buffer (Component.bare_eq_buffer hbare ▸ hd)
  | paged hp =>
    obtain ⟨d, hd, hbare⟩ := h.exists_component hp
    exact .paged (Component.bare_eq_paged hbare ▸ hd)
  | through hb hr _ ih =>
    obtain ⟨d, hd, hbare⟩ := h.exists_component (component_of_bus hb)
    obtain ⟨c, rfl, hregions⟩ := Component.bare_eq_bus hbare
    refine .through (bus?_of_component hd) ?_ ih
    unfold Bus.find? at hr ⊢
    rwa [hregions]

end Alike

theorem alike_put_record (hb : s.bus? q = some b) (a : Access) :
    s.Alike (s.put q (.bus (b.record a))) := by
  have hbare : (Component.bus (b.record a)).bare = (Component.bus b).bare := by
    unfold Bus.record
    split <;> rfl
  intro ref
  have hc := component_of_bus hb
  by_cases href : ref = q
  · subst href
    rw [component_put_self (lt_length_of_component hc), hc, Option.map_some, Option.map_some, hbare]
  · rw [component_put_of_ne href]

theorem alike_recordOn (s : Space) (ref : Ref) (a : Access) : s.Alike (recordOn ref a s) := by
  unfold recordOn
  split
  · next b hb => exact alike_put_record hb a
  · exact .refl s

theorem alike_reportOn (s : Space) (b : Bus) (r : Region) (a : Access) :
    s.Alike (reportOn b r a s) := by
  unfold reportOn
  split
  · exact .refl s
  · exact .refl s

/-- A load changes the histories of buses at most. -/
theorem alike_readWithin (s : Space) (depth : Nat) (ref : Ref) (address size : Int) :
    s.Alike ((readWithin depth ref address size).run s).2 := by
  refine readWithin_keeps_of (fun _ _ hs => hs) (fun _ _ a _ hb hs => ?_) _ _ _ _ s (.refl s)
  exact hs.trans (alike_put_record hb a)

/-- Whether a memory holds all of some bytes from an address on. -/
def HasBytes (s : Space) (ref : Ref) (address : Int) (count : Nat) : Prop :=
  ∀ a, address ≤ a → a < address + count → (s.byte? ref a).isSome = true

/-- Where the bytes of a memory are those of cells, they are all there and their number is what the
cells give. -/
theorem hasBytes_and_load_eq {count : Nat} {cells : Cells}
    (h : ∀ a, address ≤ a → a < address + count → s.byte? ref a = some (cells a)) :
    s.HasBytes ref address count ∧ cells.load address count = s.number ref address count := by
  constructor
  · intro a hlow hhigh
    rw [h a hlow hhigh, Option.isSome_some]
  · unfold number Cells.load
    rw [Cells.number_eq_ofDigits, Cells.bytes_eq_map, List.map_map]
    congr 1
    refine List.map_congr_left fun i hi => ?_
    have hcount := List.mem_range.1 hi
    rw [h (address + i) (by omega) (by omega)]
    rfl

theorem byte?_of_component {c : Component} (h : s.components[ref]? = some c) (address : Int) :
    s.byte? ref address = c.byte? address := by
  unfold byte?
  rw [h, Option.bind_some]

theorem byte?_eq_some_of_buffer {c : Buffer} (h : s.components[ref]? = some (.buffer c))
    (hhas : c.span.has address = true) : s.byte? ref address = some (c.cells address) :=
  (byte?_of_component h address).trans (if_pos hhas)

theorem hasBytes_of_paged {p : Paged} {count : Nat} (h : s.components[ref]? = some (.paged p)) :
    s.HasBytes ref address count ↔ p.HasBytes address count := by
  unfold HasBytes
  simp only [byte?_of_component h]
  rfl

theorem number_of_paged {p : Paged} (h : s.components[ref]? = some (.paged p)) (count : Nat) :
    Cells.number (p.bytes address count) = s.number ref address count := by
  unfold number
  simp only [byte?_of_component h]
  rw [Cells.number_eq_ofDigits, Paged.bytes, List.map_map]
  rfl

/-- A load that is made has been led to a memory with all its bytes and gives their number. -/
theorem readWithin_eq_ok {depth count : Nat}
    (h : (readWithin depth ref address count).run s = (.ok value, t)) :
    ∃ leaf, s.Reaches address ref leaf ∧ s.HasBytes leaf address count ∧
      value = s.number leaf address count := by
  -- The induction is on the number of buses that the load may still pass.
  induction depth generalizing ref value t with
  | zero => cases h
  | succ depth ih =>
    unfold readWithin at h
    rw [run_bind, run_current] at h
    dsimp only at h
    split at h
    · cases h
    · cases h
    · next c hc =>
      obtain ⟨hread, -⟩ := run_ofOutcome_eq_ok.1 h
      obtain ⟨hhas, rfl⟩ := Buffer.read_eq_ok hread
      exact ⟨ref, .buffer hc, hasBytes_and_load_eq fun a hlow hhigh =>
        byte?_eq_some_of_buffer hc (hhas a hlow hhigh)⟩
    · next p hp =>
      obtain ⟨hread, -⟩ := run_ofOutcome_eq_ok.1 h
      obtain ⟨hhas, rfl⟩ := Paged.read_eq_ok hread
      exact ⟨ref, .paged hp, (hasBytes_of_paged hp).2 hhas, number_of_paged hp count⟩
    · next b hb =>
      split at h
      · cases h
      · next r hr =>
        obtain ⟨_, _, hread, hrest⟩ := run_bind_eq_ok.1 h
        cases hrest
        obtain ⟨leaf, hreaches, hbytes⟩ := ih hread
        exact ⟨leaf, .through (bus?_of_component hb) hr hreaches, hbytes⟩

/-- Whether the second of two spaces has all bytes of the first, but for those that were stored in a
memory. -/
def Stores (s t : Space) (leaf : Ref) (address : Int) (count : Nat) (value : Int) : Prop :=
  ∀ q a, t.byte? q a = if q = leaf ∧ address ≤ a ∧ a < address + count
    then some (Cells.byteOf value (a - address).toNat) else s.byte? q a

theorem stores_put {count : Nat} {value : Int} {c d : Component} (hc : s.components[q]? = some c)
    (hbytes : ∀ a, d.byte? a = if address ≤ a ∧ a < address + count
      then some (Cells.byteOf value (a - address).toNat) else c.byte? a) :
    s.Stores (s.put q d) q address count value := by
  intro p a
  unfold byte?
  by_cases hp : p = q
  · subst hp
    rw [component_put_self (lt_length_of_component hc), hc]
    simpa using hbytes a
  · rw [component_put_of_ne hp]
    simp [hp]

omit [Machine] in
/-- The bytes of a memory whose cells have been changed by a store. -/
theorem ite_store {has : Bool} {cells : Cells} {count : Nat} {value a : Int}
    (h : address ≤ a → a < address + count → has = true) :
    (if has then some (cells.store address count (Cells.lowBytes count value) a) else none) =
      if address ≤ a ∧ a < address + count then some (Cells.byteOf value (a - address).toNat)
      else if has then some (cells a) else none := by
  by_cases ha : address ≤ a ∧ a < address + count
  · rw [if_pos (h ha.1 ha.2), if_pos ha, Cells.store_inside ha, Cells.byteAt_lowBytes (by omega)]
  · rw [if_neg ha, Cells.store_outside ha]

/-- A store that is made has been led to a memory with all its bytes and changes those. -/
theorem writeWithin_eq_ok {depth count : Nat} {value : Int}
    (h : (writeWithin depth ref address count value).run s = (.ok (), t)) :
    ∃ leaf, s.Reaches address ref leaf ∧ s.HasBytes leaf address count ∧
      s.Stores t leaf address count value := by
  -- A bus takes note of a store before it hands it on, so the rest starts from another space, one
  -- that is alike.
  induction depth generalizing ref s t with
  | zero => cases h
  | succ depth ih =>
    unfold writeWithin at h
    rw [run_bind, run_current] at h
    dsimp only at h
    split at h
    · cases h
    · cases h
    · next c hc =>
      obtain ⟨d, _, hrun, hput⟩ := run_bind_eq_ok.1 h
      obtain ⟨hwrite, rfl⟩ := run_ofOutcome_eq_ok.1 hrun
      obtain ⟨hhas, rfl⟩ := Buffer.write_eq_ok hwrite
      cases hput
      obtain ⟨hbytes, -⟩ := hasBytes_and_load_eq fun a hlow hhigh =>
        byte?_eq_some_of_buffer hc (hhas a hlow hhigh)
      exact ⟨ref, .buffer hc, hbytes, stores_put hc fun a => ite_store (hhas a)⟩
    · next p hp =>
      obtain ⟨n, _, hrun, hput⟩ := run_bind_eq_ok.1 h
      obtain ⟨hwrite, rfl⟩ := run_ofOutcome_eq_ok.1 hrun
      obtain ⟨hhas, hbytes⟩ := Paged.write_eq_ok hwrite
      cases hput
      exact ⟨ref, .paged hp, (hasBytes_of_paged hp).2 hhas, stores_put hp hbytes⟩
    · next b hb =>
      split at h
      · cases h
      · next r hr =>
        obtain ⟨_, _, hreport, hrest⟩ := run_bind_eq_ok.1 h
        obtain ⟨_, u, hrecord, hwrite⟩ := run_bind_eq_ok.1 hrest
        cases hreport
        cases hrecord
        have halike := (alike_reportOn s b r ⟨.store, address, count, value⟩).trans
          (alike_recordOn _ ref ⟨.store, address, count, value⟩)
        obtain ⟨leaf, hreaches, hbytes, hstores⟩ := ih hwrite
        refine ⟨leaf, .through (bus?_of_component hb) hr (halike.symm.reaches hreaches), ?_, ?_⟩
        · unfold HasBytes
          rwa [halike.byte?_eq]
        · unfold Stores
          rwa [halike.byte?_eq]

/-- A store that fails changes no byte. -/
theorem writeWithin_eq_error {depth : Nat} {value : Int} {e : Fault}
    (h : (writeWithin depth ref address size value).run s = (.error e, t)) : s.Alike t :=
  writeWithin_keepsIfFails_of (fun _ _ hs => hs)
    (fun _ _ a _ hb hs => hs.trans (alike_put_record hb a)) depth ref address size value s e t
    (.refl s) h

theorem read_eq_ok {count value : Nat} (h : (read ref address count).run s = (.ok value, t)) :
    ∃ leaf, s.Reaches address ref leaf ∧ s.HasBytes leaf address count ∧
      value = s.number leaf address count := by
  obtain ⟨_, _, hcurrent, hread⟩ := run_bind_eq_ok.1 h
  cases hcurrent
  exact readWithin_eq_ok hread

theorem alike_read (s : Space) (ref : Ref) (address size : Int) :
    s.Alike ((read ref address size).run s).2 :=
  alike_readWithin s _ ref address size

theorem write_eq_ok {count : Nat} {value : Int}
    (h : (write ref address count value).run s = (.ok (), t)) :
    ∃ leaf, s.Reaches address ref leaf ∧ s.HasBytes leaf address count ∧
      s.Stores t leaf address count value := by
  obtain ⟨_, _, hcurrent, hwrite⟩ := run_bind_eq_ok.1 h
  cases hcurrent
  exact writeWithin_eq_ok hwrite

theorem write_eq_error {value : Int} {e : Fault}
    (h : (write ref address size value).run s = (.error e, t)) : s.Alike t := by
  obtain hcurrent | ⟨_, _, hcurrent, hwrite⟩ := run_bind_eq_error.1 h
  · cases hcurrent
  · cases hcurrent
    exact writeWithin_eq_error hwrite

end Space

end Memory

end RegisterMap
