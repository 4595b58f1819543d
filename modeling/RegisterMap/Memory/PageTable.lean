import RegisterMap.Memory.Cells
import RegisterMap.Memory.Engine

/-!
# Page tables

A simple engine: it keeps the spans that were mapped and a byte for each address.
-/

namespace RegisterMap.Memory

/-- The spans mapped so far, and the bytes at all addresses. -/
structure PageTable where
  mapped : List Span
  cells : Cells

namespace PageTable

def blank : PageTable :=
  ⟨[], Cells.blank⟩

def has (m : PageTable) (address : Int) : Bool :=
  m.mapped.any (·.has address)

def byte? (m : PageTable) (address : Int) : Option UInt8 :=
  if m.has address then some (m.cells address) else none

/-- Whether a span shares no address with what is mapped. -/
def isFree (m : PageTable) (span : Span) : Bool :=
  m.mapped.all fun other => min span.stop other.stop ≤ max span.base other.base

def map (m : PageTable) (start length : Int) : Except PageReason PageTable :=
  let span : Span := ⟨start, start + length⟩
  if length ≤ 0 then .error .empty
  else if m.isFree span then
    .ok ⟨m.mapped ++ [span], fun a => if span.has a then 0 else m.cells a⟩
  else .error .alreadyMapped

/-- The `count` bytes from an address on. -/
def load (m : PageTable) (address : Int) : Nat → Option (List UInt8)
  | 0 => some []
  | count + 1 =>
    match m.byte? address with
    | none => none
    | some b => (m.load (address + 1) count).map (b :: ·)

/-- Whether the `count` bytes from an address on are mapped. -/
def holds (m : PageTable) (address : Int) : Nat → Bool
  | 0 => true
  | count + 1 => m.has address && m.holds (address + 1) count

/-- The cells after bytes were stored from an address on. -/
def stored (cells : Cells) (address : Int) (bs : List UInt8) : Cells :=
  fun a => if address ≤ a then (bs[(a - address).toNat]?).getD (cells a) else cells a

def store (m : PageTable) (address : Int) (bs : List UInt8) : Option PageTable :=
  if m.holds address bs.length then some { m with cells := stored m.cells address bs } else none

theorem isSome_byte? {m : PageTable} {a : Int} : (m.byte? a).isSome = m.has a := by
  unfold byte?
  cases m.has a <;> rfl

theorem byte?_eq_none_iff {m : PageTable} {a : Int} : m.byte? a = none ↔ m.has a = false := by
  unfold byte?
  cases m.has a <;> simp

/-- A span is free when none of its addresses is mapped. -/
theorem isFree_of_byte?_eq_none {m : PageTable} {span : Span}
    (h : ∀ a, span.base ≤ a → a < span.stop → m.byte? a = none) : m.isFree span = true := by
  refine List.all_eq_true.2 fun other hother => decide_eq_true ?_
  -- The greater of the two bases would be an address of both spans.
  refine Int.not_lt.1 fun hlt => ?_
  have hnone := byte?_eq_none_iff.1 (h (max span.base other.base) (by omega) (by omega))
  have hother := List.any_eq_false.1 hnone other hother
  simp only [Span.has, Bool.and_eq_true, decide_eq_true_eq] at hother
  omega

theorem exists_map (m : PageTable) {start length : Int} (hpos : 0 < length)
    (hfree : ∀ a, start ≤ a → a < start + length → m.byte? a = none) :
    ∃ n, m.map start length = .ok n := by
  unfold map
  rw [if_neg (Int.not_le.2 hpos), if_pos (isFree_of_byte?_eq_none hfree)]
  exact ⟨_, rfl⟩

theorem byte?_map {m n : PageTable} {start length : Int} (h : m.map start length = .ok n)
    (a : Int) : n.byte? a = if start ≤ a ∧ a < start + length then some 0 else m.byte? a := by
  unfold map at h
  dsimp only at h
  split at h
  · cases h
  · split at h
    · cases h
      unfold byte? has
      by_cases ha : start ≤ a ∧ a < start + length
      · simp [Span.has, ha]
      · have hhas : (⟨start, start + length⟩ : Span).has a = false := by simpa [Span.has] using ha
        simp [hhas, ha]
    · cases h

theorem load_eq_some {m : PageTable} {address : Int} {count : Nat} {bs : List UInt8} :
    m.load address count = some bs ↔
      bs.length = count ∧ ∀ i : Nat, i < count → m.byte? (address + i) = bs[i]? := by
  induction count generalizing address bs with
  | zero =>
    unfold load
    constructor
    · rintro ⟨⟩
      exact ⟨rfl, nofun⟩
    · rintro ⟨hlength, -⟩
      rw [List.eq_nil_of_length_eq_zero hlength]
  | succ count ih =>
    unfold load
    cases hbyte : m.byte? address with
    | none =>
      refine ⟨nofun, fun ⟨hlength, hbytes⟩ => ?_⟩
      have hfirst := hbytes 0 (Nat.succ_pos _)
      rw [show address + (0 : Nat) = address by simp, hbyte] at hfirst
      exact absurd (List.getElem?_eq_none_iff.1 hfirst.symm) (by omega)
    | some b =>
      have hnext : ∀ i : Nat, address + 1 + i = address + (i + 1 : Nat) := by
        intro i
        omega
      dsimp only
      rw [Option.map_eq_some_iff]
      constructor
      · rintro ⟨rest, hrest, rfl⟩
        obtain ⟨hlength, hbytes⟩ := ih.1 hrest
        refine ⟨congrArg (· + 1) hlength, fun i hi => ?_⟩
        cases i with
        | zero => simpa using hbyte
        | succ i =>
          rw [← hnext, hbytes i (Nat.lt_of_succ_lt_succ hi), List.getElem?_cons_succ]
      · rintro ⟨hlength, hbytes⟩
        cases bs with
        | nil => cases hlength
        | cons first rest =>
          have hfirst := hbytes 0 (Nat.succ_pos _)
          rw [show address + (0 : Nat) = address by simp, hbyte] at hfirst
          obtain rfl : b = first := Option.some.inj hfirst
          refine ⟨rest, ih.2 ⟨Nat.succ.inj hlength, fun i hi => ?_⟩, rfl⟩
          rw [hnext, hbytes (i + 1) (Nat.succ_lt_succ hi), List.getElem?_cons_succ]

theorem holds_iff {m : PageTable} {address : Int} {count : Nat} :
    m.holds address count = true ↔
      ∀ i : Nat, i < count → (m.byte? (address + i)).isSome = true := by
  induction count generalizing address with
  | zero => exact ⟨fun _ => nofun, fun _ => rfl⟩
  | succ count ih =>
    unfold holds
    rw [Bool.and_eq_true, ih, ← isSome_byte?]
    constructor
    · rintro ⟨hfirst, hrest⟩ i hi
      cases i with
      | zero => simpa using hfirst
      | succ i =>
        have hbyte := hrest i (Nat.lt_of_succ_lt_succ hi)
        rwa [show address + 1 + i = address + (i + 1 : Nat) by omega] at hbyte
    · refine fun h => ⟨by simpa using h 0 (Nat.succ_pos _), fun i hi => ?_⟩
      have hbyte := h (i + 1) (Nat.succ_lt_succ hi)
      rwa [show address + (i + 1 : Nat) = address + 1 + i by omega] at hbyte

theorem isSome_store {m : PageTable} {address : Int} {bs : List UInt8} :
    (m.store address bs).isSome = true ↔
      ∀ i : Nat, i < bs.length → (m.byte? (address + i)).isSome = true := by
  rw [← holds_iff]
  unfold store
  cases m.holds address bs.length <;> simp

theorem byte?_store {m n : PageTable} {address : Int} {bs : List UInt8}
    (h : m.store address bs = some n) (a : Int) :
    n.byte? a = if address ≤ a ∧ a < address + bs.length then bs[(a - address).toNat]?
      else m.byte? a := by
  unfold store at h
  split at h
  · next hholds =>
    cases h
    have hbyte : ∀ cells : Cells, ({ m with cells := cells } : PageTable).byte? a =
        if m.has a then some (cells a) else none := fun _ => rfl
    rw [hbyte, stored]
    by_cases ha : address ≤ a ∧ a < address + bs.length
    · have hhas := holds_iff.1 hholds (a - address).toNat (by omega)
      rw [isSome_byte?, show address + ((a - address).toNat : Nat) = a by omega] at hhas
      have hlt : (a - address).toNat < bs.length := by omega
      rw [if_pos ha, if_pos hhas, if_pos ha.1, List.getElem?_eq_getElem hlt, Option.getD_some]
    · have hcell : (if address ≤ a then (bs[(a - address).toNat]?).getD (m.cells a)
          else m.cells a) = m.cells a := by
        split
        · have hge : bs.length ≤ (a - address).toNat := by omega
          rw [List.getElem?_eq_none hge, Option.getD_none]
        · rfl
      rw [if_neg ha, hcell, byte?]
  · cases h

/-- Page tables as an engine. -/
def engine : Engine where
  State := PageTable
  blank := blank
  byte? := byte?
  map := map
  load := load
  store := store
  byte?_blank := fun _ => rfl
  exists_map := fun m _ _ hpos _ _ _ _ hfree => m.exists_map hpos hfree
  byte?_map := byte?_map
  load_eq_some := load_eq_some
  isSome_store := isSome_store
  byte?_store := byte?_store

end PageTable

end RegisterMap.Memory
