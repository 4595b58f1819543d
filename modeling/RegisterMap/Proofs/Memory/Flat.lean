import Mathlib.Data.List.Induction
import RegisterMap.Failure
import RegisterMap.Proofs.Memory.Bytes
import RegisterMap.Proofs.Memory.Regions

/-!
# A bus as a flat memory

The regions of a bus that were mapped without memories have buffers of their own, so that the bus
as a whole is a flat memory of bytes: each holds what was last stored at its address, through
whatever accesses, and zero before that. An access that does not fit in one region fails as a
look-up does, unless its size is too long to be named, and no byte changes.
-/

namespace RegisterMap.Memory

/-- The byte that a store left at an address of the memory with a number, if it was made and reached
that far. -/
def Exchange.stored? (ref : Ref) (address : Int) (x : Exchange) : Option UInt8 :=
  match x.request, x.outcome with
  | .write q start size value, .ok _ =>
    if q = ref ∧ start ≤ address ∧ address < start + size
    then some (Cells.byteOf value (address - start).toNat) else none
  | _, _ => none

/-- The byte that was last stored at an address, and zero before any was. -/
def lastStored (ref : Ref) (xs : List Exchange) (address : Int) : UInt8 :=
  (xs.reverse.findSome? (·.stored? ref address)).getD 0

theorem lastStored_append (ref : Ref) (xs : List Exchange) (x : Exchange) (address : Int) :
    lastStored ref (xs ++ [x]) address =
      (x.stored? ref address).getD (lastStored ref xs address) := by
  unfold lastStored
  rw [List.reverse_append, List.reverse_singleton, List.singleton_append, List.findSome?_cons]
  cases x.stored? ref address <;> rfl

/-- Whether an access fits in one of the regions: its first address lies there, and it does not pass
the end. -/
def FitsIn (rs : List Region) (address size : Int) : Prop :=
  ∃ r ∈ rs, r.span.base ≤ address ∧ address < r.span.stop ∧ address + size ≤ r.span.stop

section

variable [Machine]

/-- A new buffer is blank. -/
theorem Buffer.parts_of_ofSize {base size : Int} {b : Buffer}
    (h : Buffer.ofSize base size = .ok b) :
    b.base = base ∧ b.size = size.toNat ∧ b.cells = Cells.blank := by
  unfold Buffer.ofSize at h
  split_ifs at h
  cases h
  exact ⟨rfl, rfl, rfl⟩

/-- Whether an access of some bytes fails as a look-up does, or because their number is too long to
be written. -/
def Fault.Refuses (size : Int) (e : Fault) : Prop :=
  Failure.memoryCategory e = .key ∨ e = .longNumber ∧ Number.isShort size = false

theorem Buffer.refuses_refusal (b : Buffer) (address size : Int) :
    (b.refusal address size).Refuses size := by
  unfold Buffer.refusal
  split
  · exact .inl rfl
  · next hlong => exact .inr ⟨rfl, Bool.eq_false_iff.2 hlong⟩

namespace Space

open Step

variable {s t : Space} {ref : Ref} {address size value : Int} {b : Bus} {r : Region} {d : Buffer}
  {rs : List Region} {flat : Cells}

/-- The byte at an address of a bus. -/
def busByte? (s : Space) (ref : Ref) (address : Int) : Option UInt8 :=
  (s.bus? ref).bind fun b => (b.find? address).bind fun r => s.byte? r.target address

theorem run_read_of_none (hb : s.bus? ref = some b) (hr : b.find? address = none) (size : Int) :
    (read ref address size).run s = (.error (.noRegion address), s) := by
  rw [run_read, depth, readWithin, run_bind, run_current]
  simp only [component_of_bus hb, hr, run_fail]

theorem run_write_of_none (hb : s.bus? ref = some b) (hr : b.find? address = none)
    (size value : Int) :
    (write ref address size value).run s = (.error (.noRegion address), s) := by
  rw [run_write, depth, writeWithin, run_bind, run_current]
  simp only [component_of_bus hb, hr, run_fail]

section Owned

variable (hb : s.bus? ref = some b) (hr : b.find? address = some r)
  (hd : s.components[r.target]? = some (.buffer d))
include hb hr hd

theorem exists_run_read (size : Int) :
    ∃ t, s.Alike t ∧ (read ref address size).run s = (d.read address size, t) := by
  obtain ⟨n, hn⟩ := exists_depth hd
  have htarget : (readWithin (n + 1) r.target address size).run s = (d.read address size, s) := by
    rw [readWithin, run_bind, run_current]
    simp only [hd, run_ofOutcome]
  refine ⟨_, alike_readWithin s s.depth ref address size, Prod.ext ?_ rfl⟩
  rw [run_read, hn, run_readWithin_of_bus hb hr, run_bind, htarget]
  cases d.read address size <;> rfl

theorem exists_run_write (size value : Int) :
    ∃ t, s.Alike t ∧ (write ref address size value).run s =
      match d.write address size value with
      | .ok c => (.ok (), t.put r.target (.buffer c))
      | .error e => (.error e, t) := by
  obtain ⟨n, hn⟩ := exists_depth hd
  have halike := (alike_reportOn s b r ⟨.store, address, size, value⟩).trans
    (alike_recordOn _ ref ⟨.store, address, size, value⟩)
  refine ⟨_, halike, ?_⟩
  obtain ⟨c, hc, hbare⟩ := halike.exists_component hd
  obtain rfl := Component.bare_eq_buffer hbare
  rw [run_write, hn, run_writeWithin_of_bus hb hr, writeWithin, run_bind, run_current]
  simp only [hc]
  cases d.write address size value <;> rfl

end Owned

/-- Whether the regions of a bus have buffers of their own that hold what a flat memory does, and
that has nothing elsewhere. -/
structure Mirrors (ref : Ref) (rs : List Region) (flat : Cells) (s : Space) : Prop where
  lists : s.Lists ref rs
  arranged : Bus.Arranged rs
  owned : ∀ r ∈ rs, ∃ d, s.components[r.target]? = some (.buffer d) ∧ d.span = r.span ∧
    ∀ a, r.span.has a = true → d.cells a = flat a
  apart : rs.Pairwise fun r q => r.target ≠ q.target
  blank : ∀ a, (∀ r ∈ rs, r.span.has a = false) → flat a = 0

theorem mirrors_nil (h : s.Lists ref []) : s.Mirrors ref [] Cells.blank where
  lists := h
  arranged := Bus.arranged_nil
  owned := fun _ hr => (List.not_mem_nil hr).elim
  apart := .nil
  blank := fun _ _ => rfl

theorem Alike.lists (h : s.Alike t) (hs : s.Lists ref rs) : t.Lists ref rs := by
  obtain ⟨b, hb, rfl⟩ := lists_iff.1 hs
  obtain ⟨c, hc, hbare⟩ := h.exists_component (component_of_bus hb)
  obtain ⟨d, rfl, hregions⟩ := Component.bare_eq_bus hbare
  exact lists_iff.2 ⟨d, bus?_of_component hc, hregions⟩

namespace Mirrors

theorem of_alike (h : s.Mirrors ref rs flat) (ht : s.Alike t) : t.Mirrors ref rs flat where
  lists := ht.lists h.lists
  arranged := h.arranged
  owned := by
    intro r hr
    obtain ⟨d, hd, hspan, hcells⟩ := h.owned r hr
    obtain ⟨c, hc, hbare⟩ := ht.exists_component hd
    obtain rfl := Component.bare_eq_buffer hbare
    exact ⟨d, hc, hspan, hcells⟩
  apart := h.apart
  blank := h.blank

/-- The bytes of the bus are those of the flat memory, where a region has the address. -/
theorem busByte?_eq (h : s.Mirrors ref rs flat) (address : Int) :
    s.busByte? ref address = if rs.any (·.span.has address) then some (flat address) else none := by
  obtain ⟨b, hb, rfl⟩ := lists_iff.1 h.lists
  unfold busByte?
  rw [hb, Option.bind_some]
  cases hr : b.find? address with
  | none =>
    have hnone : ¬b.regions.any (·.span.has address) = true := by
      simpa using Bus.find?_eq_none_iff.1 hr
    rw [if_neg hnone, Option.bind_none]
  | some r =>
    obtain ⟨hmem, hhas⟩ := Bus.mem_and_has_of_find? hr
    obtain ⟨d, hd, hspan, hcells⟩ := h.owned r hmem
    rw [if_pos (List.any_eq_true.2 ⟨r, hmem, hhas⟩), Option.bind_some,
      byte?_eq_some_of_buffer hd (hspan ▸ hhas), hcells address hhas]

/-- In a region, an access fits exactly when the buffer of the region admits it. -/
theorem admits_iff (h : s.Mirrors ref rs flat) (hr : r ∈ rs) (hhas : r.span.has address = true)
    (hspan : d.span = r.span) (size : Int) :
    d.admits address size = true ↔ FitsIn rs address size := by
  obtain ⟨hbase, hstop⟩ := Span.has_iff.1 hhas
  have hdbase : d.base = r.span.base := congrArg Span.base hspan
  have hdstop : d.stop = r.span.stop := congrArg Span.stop hspan
  rw [Buffer.admits_iff, hdbase, hdstop]
  constructor
  · rintro ⟨-, hfits⟩
    exact ⟨r, hr, hbase, hstop, hfits⟩
  · rintro ⟨q, hq, hqbase, hqstop, hfits⟩
    obtain rfl := h.arranged.eq_of_has hq hr (Span.has_iff.2 ⟨hqbase, hqstop⟩) hhas
    exact ⟨hbase, hfits⟩

omit [Machine] in
theorem not_fitsIn_of_none (hr : b.find? address = none) (size : Int) :
    ¬FitsIn b.regions address size := by
  rintro ⟨r, hmem, hbase, hstop, -⟩
  have hnot := Bus.find?_eq_none_iff.1 hr r hmem
  rw [Span.has_iff.2 ⟨hbase, hstop⟩] at hnot
  cases hnot

/-- A load gives what the flat memory holds if it fits, and fails otherwise. -/
theorem read (h : s.Mirrors ref rs flat) (address : Int) (count : Nat) :
    (FitsIn rs address count ∧ ∃ t, s.Alike t ∧
      (read ref address count).run s = (.ok (flat.load address count), t)) ∨
    (¬FitsIn rs address count ∧ ∃ e t, s.Alike t ∧
      (read ref address count).run s = (.error e, t) ∧ e.Refuses count) := by
  obtain ⟨b, hb, rfl⟩ := lists_iff.1 h.lists
  cases hr : b.find? address with
  | none =>
    exact .inr ⟨not_fitsIn_of_none hr _, _, s, .refl s, run_read_of_none hb hr _, .inl rfl⟩
  | some r =>
    obtain ⟨hmem, hhas⟩ := Bus.mem_and_has_of_find? hr
    obtain ⟨d, hd, hspan, hcells⟩ := h.owned r hmem
    obtain ⟨t, halike, hrun⟩ := exists_run_read hb hr hd count
    have hiff := h.admits_iff hmem hhas hspan count
    by_cases hadmits : d.admits address count = true
    · refine .inl ⟨hiff.1 hadmits, t, halike, ?_⟩
      have hload : d.cells.load address count = flat.load address count :=
        congrArg Cells.number (Cells.bytes_congr fun a hlow hhigh =>
          hcells a (hspan ▸ Buffer.has_of_admits hadmits hlow hhigh))
      rw [hrun, Buffer.read_eq hadmits, hload]
    · refine .inr ⟨fun hfit => hadmits (hiff.2 hfit), d.refusal address count, t, halike, ?_,
        d.refuses_refusal address count⟩
      rw [hrun, Buffer.read_eq_refusal hadmits]

/-- A change in the buffer of one region is one in the flat memory. -/
theorem put (h : s.Mirrors ref rs flat) (hr : r ∈ rs) {c : Buffer} {changed : Cells}
    (hspan : c.span = r.span) (hinside : ∀ a, r.span.has a = true → c.cells a = changed a)
    (houtside : ∀ a, ¬r.span.has a = true → changed a = flat a) :
    (s.put r.target (.buffer c)).Mirrors ref rs changed where
  lists := by
    obtain ⟨d, hd, -⟩ := h.owned r hr
    exact lists_put h.lists hd rfl
  arranged := h.arranged
  owned := by
    intro q hq
    obtain ⟨d, hd, hdspan, hdcells⟩ := h.owned q hq
    by_cases htarget : q.target = r.target
    · have hsymm : Std.Symm fun r q : Region => r.target ≠ q.target := ⟨fun _ _ hne => hne.symm⟩
      obtain rfl : q = r := by
        by_contra hne
        exact h.apart.forall hq hr hne htarget
      exact ⟨c, component_put_self (lt_length_of_component hd) _, hspan, hinside⟩
    · refine ⟨d, (component_put_of_ne htarget s _).trans hd, hdspan, fun a ha => ?_⟩
      have hnot : ¬r.span.has a = true := by
        intro hra
        obtain rfl := h.arranged.eq_of_has hq hr ha hra
        exact htarget rfl
      rw [hdcells a ha, houtside a hnot]
  apart := h.apart
  blank := by
    intro a hnone
    have hnot : ¬r.span.has a = true := by
      rw [hnone r hr]
      exact Bool.false_ne_true
    rw [houtside a hnot, h.blank a hnone]

/-- A store is made if it fits and changes the flat memory; otherwise it fails and changes no
byte. -/
theorem write (h : s.Mirrors ref rs flat) (address : Int) (count : Nat) (value : Int) :
    (FitsIn rs address count ∧ ∃ t,
      (write ref address count value).run s = (.ok (), t) ∧
      t.Mirrors ref rs (flat.store address count (Cells.lowBytes count value))) ∨
    (¬FitsIn rs address count ∧ ∃ e t, s.Alike t ∧
      (write ref address count value).run s = (.error e, t) ∧ e.Refuses count) := by
  obtain ⟨b, hb, rfl⟩ := lists_iff.1 h.lists
  cases hr : b.find? address with
  | none =>
    exact .inr ⟨not_fitsIn_of_none hr _, _, s, .refl s, run_write_of_none hb hr _ _, .inl rfl⟩
  | some r =>
    obtain ⟨hmem, hhas⟩ := Bus.mem_and_has_of_find? hr
    obtain ⟨d, hd, hspan, hcells⟩ := h.owned r hmem
    obtain ⟨t, halike, hrun⟩ := exists_run_write hb hr hd count value
    have hiff := h.admits_iff hmem hhas hspan count
    by_cases hadmits : d.admits address count = true
    · rw [Buffer.write_eq hadmits] at hrun
      refine .inl ⟨hiff.1 hadmits, _, hrun, (h.of_alike halike).put hmem hspan ?_ ?_⟩
      · intro a ha
        unfold Buffer.stored Cells.store
        dsimp only
        rw [hcells a ha]
      · intro a hnot
        refine Cells.store_outside ?_
        rintro ⟨hlow, hhigh⟩
        exact hnot (hspan ▸ Buffer.has_of_admits hadmits hlow hhigh)
    · rw [Buffer.write_eq_refusal hadmits] at hrun
      exact .inr ⟨fun hfit => hadmits (hiff.2 hfit), _, t, halike, hrun,
        d.refuses_refusal address count⟩

/-- The target of a region is a buffer and so none of the other memories. -/
theorem target_lt_and_ne (h : s.Mirrors ref rs flat) (hb : s.bus? ref = some b) (hr : r ∈ rs) :
    r.target < s.components.length ∧ r.target ≠ ref := by
  obtain ⟨d, hd, -⟩ := h.owned r hr
  refine ⟨lt_length_of_component hd, ?_⟩
  rintro hsame
  rw [hsame, component_of_bus hb] at hd
  cases hd

/-- A region that is mapped without a memory is blank, as the flat memory is there. -/
theorem map (h : s.Mirrors ref rs flat) {name : String} {base : Int} {made : Ref} (hsize : 0 < size)
    (hrun : (map ref name base size none).run s = (.ok made, t)) :
    ∃ listed, t.Mirrors ref listed flat := by
  obtain ⟨hfree, hlists⟩ := lists_of_run_map_eq_ok h.lists hrun
  obtain ⟨b, u, hb, -, hbacks, rfl⟩ := run_map_eq_ok.1 hrun
  cases hbacks with
  | @fresh buffer hbuffer =>
  obtain ⟨hbase, hbytes, hcells⟩ := Buffer.parts_of_ofSize hbuffer
  have hlt : ref < s.components.length := lt_length_of_component (component_of_bus hb)
  refine ⟨_, hlists, Bus.arranged_insert h.arranged hfree, ?owned, ?apart, ?blank⟩
  case owned =>
    -- The new buffer stands behind all memories that there were, and holds zeros where the flat
    -- memory has had nothing stored.
    intro q hq
    rcases List.mem_cons.1 ((Bus.perm_insert _ _).mem_iff.1 hq) with rfl | hq
    · refine ⟨_, (component_put_of_ne hlt.ne' _ _).trans (component_add_self s _), ?_, ?_⟩
      · unfold Buffer.span Buffer.stop
        rw [hbase, hbytes, Int.toNat_of_nonneg hsize.le]
      · intro a ha
        rw [hcells]
        refine (h.blank a fun r hr => ?_).symm
        have hnot := Span.not_has_of_meets_eq_false (hfree r hr) a
        exact Bool.eq_false_iff.2 fun hra => hnot ⟨ha, hra⟩
    · obtain ⟨d, hd, hdspan, hdcells⟩ := h.owned q hq
      obtain ⟨-, hne⟩ := h.target_lt_and_ne hb hq
      exact ⟨d, (component_put_of_ne hne _ _).trans (component_add_of_some hd _), hdspan, hdcells⟩
  case apart =>
    have hsymm : ∀ {r q : Region}, r.target ≠ q.target → q.target ≠ r.target := fun hne => hne.symm
    refine ((Bus.perm_insert _ rs).symm.pairwise (List.pairwise_cons.2 ⟨?_, h.apart⟩)) hsymm
    intro q hq
    exact (h.target_lt_and_ne hb hq).1.ne'
  case blank =>
    intro a hnone
    refine h.blank a fun r hr => hnone r ?_
    exact (Bus.perm_insert _ _).mem_iff.2 (List.mem_cons_of_mem _ hr)

/-- A load that is made fits and gives the number in the bytes of the flat memory. -/
theorem read_iff (h : s.Mirrors ref rs flat) (address : Int) (count : Nat) :
    ((∃ value t, (Space.read ref address count).run s = (.ok value, t)) ↔ FitsIn rs address count) ∧
      ∀ value t, (Space.read ref address count).run s = (.ok value, t) →
        value = Nat.ofDigits 256 ((List.range count).map fun (i : Nat) =>
          (flat (address + i)).toNat) := by
  obtain ⟨hfit, u, -, hrun⟩ | ⟨hnot, e, u, -, hrun, -⟩ := h.read address count
  · refine ⟨⟨fun _ => hfit, fun _ => ⟨_, u, hrun⟩⟩, fun value t hvalue => ?_⟩
    cases hrun.symm.trans hvalue
    rw [Cells.load, Cells.number_eq_ofDigits, Cells.bytes_eq_map, List.map_map]
    rfl
  · refine ⟨⟨?_, fun hfit => (hnot hfit).elim⟩, ?_⟩
    · rintro ⟨value, t, hvalue⟩
      cases hrun.symm.trans hvalue
    · intro value t hvalue
      cases hrun.symm.trans hvalue

/-- A store that is made fits and changes its own bytes only. -/
theorem write_iff (h : s.Mirrors ref rs flat) (address : Int) (count : Nat) (value : Int) :
    ((∃ t, (Space.write ref address count value).run s = (.ok (), t)) ↔ FitsIn rs address count) ∧
      ∀ t, (Space.write ref address count value).run s = (.ok (), t) → ∀ a, t.busByte? ref a =
        if address ≤ a ∧ a < address + count then some (Cells.byteOf value (a - address).toNat)
        else s.busByte? ref a := by
  obtain ⟨hfit, u, hrun, hu⟩ | ⟨hnot, e, u, -, hrun, -⟩ := h.write address count value
  · refine ⟨⟨fun _ => hfit, fun _ => ⟨u, hrun⟩⟩, fun t ht a => ?_⟩
    cases hrun.symm.trans ht
    rw [hu.busByte?_eq, h.busByte?_eq]
    refine ite_store fun hlow hhigh => ?_
    obtain ⟨r, hr, hbase, hstop, hfits⟩ := hfit
    exact List.any_eq_true.2 ⟨r, hr, Span.has_iff.2 ⟨by omega, by omega⟩⟩
  · refine ⟨⟨?_, fun hfit => (hnot hfit).elim⟩, ?_⟩
    · rintro ⟨t, ht⟩
      cases hrun.symm.trans ht
    · intro t ht
      cases hrun.symm.trans ht

/-- An access that fails changes no byte. -/
theorem failed (h : s.Mirrors ref rs flat) (address : Int) (count : Nat) {e : Fault} :
    (∀ t, (Space.read ref address count).run s = (.error e, t) →
      e.Refuses count ∧ t.byte? = s.byte?) ∧
    ∀ value t, (Space.write ref address count value).run s = (.error e, t) →
      e.Refuses count ∧ t.byte? = s.byte? := by
  constructor
  · intro t ht
    obtain ⟨-, u, -, hrun⟩ | ⟨-, _, u, halike, hrun, hrefuses⟩ := h.read address count
    · cases hrun.symm.trans ht
    · cases hrun.symm.trans ht
      exact ⟨hrefuses, halike.byte?_eq.symm⟩
  · intro value t ht
    obtain ⟨-, u, hrun, -⟩ | ⟨-, _, u, halike, hrun, hrefuses⟩ := h.write address count value
    · cases hrun.symm.trans ht
    · cases hrun.symm.trans ht
      exact ⟨hrefuses, halike.byte?_eq.symm⟩

end Mirrors

end Space

/-- Whether a request maps bytes of a bus without a memory for them, or loads or stores there. -/
def Request.IsPlain (ref : Ref) : Request → Prop
  | .map q _ _ size none => q = ref ∧ 0 < size
  | .read q _ size => q = ref ∧ 0 ≤ size
  | .write q _ size _ => q = ref ∧ 0 ≤ size
  | _ => False

namespace Space

open Step

variable {s : Space} {ref : Ref} {rs : List Region} {xs : List Exchange}

omit [Machine] in
theorem lastStored_append_of_none {x : Exchange} (h : ∀ a, x.stored? ref a = none) :
    lastStored ref (xs ++ [x]) = lastStored ref xs := by
  funext a
  rw [lastStored_append, h a, Option.getD_none]

omit [Machine] in
theorem lastStored_append_write (address : Int) (count : Nat) (value : Int) (answer : Response) :
    lastStored ref (xs ++ [⟨.write ref address count value, .ok answer⟩]) =
      Cells.store (lastStored ref xs) address count (Cells.lowBytes count value) := by
  funext a
  rw [lastStored_append]
  by_cases ha : address ≤ a ∧ a < address + count
  · have hstored : (⟨.write ref address count value, .ok answer⟩ : Exchange).stored? ref a =
        some (Cells.byteOf value (a - address).toNat) := if_pos ⟨rfl, ha⟩
    rw [hstored, Option.getD_some, Cells.store_inside ha, Cells.byteAt_lowBytes (by omega)]
  · have hstored : (⟨.write ref address count value, .ok answer⟩ : Exchange).stored? ref a = none :=
      if_neg fun hboth => ha hboth.2
    rw [hstored, Option.getD_none, Cells.store_outside ha]

/-- One plain request keeps a bus and its flat memory in step. -/
theorem mirrors_afterOne (h : s.Mirrors ref rs (lastStored ref xs)) {request : Request}
    (hplain : request.IsPlain ref) : ∃ listed, (s.afterOne request).Mirrors ref listed
      (lastStored ref (xs ++ [⟨request, (request.perform.run s).1⟩])) := by
  cases request with
  | map q name base size target =>
    cases target with
    | some _ => exact hplain.elim
    | none =>
      obtain ⟨rfl, hsize⟩ := hplain
      rw [lastStored_append_of_none fun _ => rfl]
      unfold afterOne Request.perform
      rw [run_bind]
      rcases hrun : (Space.map q name base size none).run s with ⟨e | made, t⟩
      · rw [run_map_eq_error hrun]
        exact ⟨rs, h⟩
      · exact h.map hsize hrun
  | read q address size =>
    obtain ⟨rfl, hsize⟩ := hplain
    rw [lastStored_append_of_none fun _ => rfl]
    have hafter : s.afterOne (.read q address size) = ((read q address size).run s).2 := by
      unfold afterOne Request.perform
      rw [run_bind]
      rcases (read q address size).run s with ⟨_ | _, _⟩ <;> rfl
    rw [hafter]
    exact ⟨rs, h.of_alike (alike_read s q address size)⟩
  | write q address size value =>
    obtain ⟨rfl, hsize⟩ := hplain
    obtain ⟨count, rfl⟩ := Int.eq_ofNat_of_zero_le hsize
    unfold afterOne Request.perform
    obtain ⟨-, t, hrun, ht⟩ | ⟨-, e, t, halike, hrun, -⟩ := h.write address count value
    · rw [run_bind_of_ok hrun, run_pure, lastStored_append_write]
      exact ⟨rs, ht⟩
    · rw [run_bind_of_error hrun, lastStored_append_of_none fun _ => rfl]
      exact ⟨rs, h.of_alike halike⟩
  | _ => exact hplain.elim

/-- A run of plain requests keeps a bus and its flat memory in step. -/
theorem mirrors_after (h : s.Lists ref []) {requests : List Request}
    (hplain : ∀ q ∈ requests, q.IsPlain ref) :
    ∃ listed, (s.after requests).Mirrors ref listed (lastStored ref (s.exchanges requests)) := by
  induction requests using List.reverseRecOn with
  | nil => exact ⟨[], mirrors_nil h⟩
  | append_singleton requests request ih =>
    obtain ⟨listed, hlisted⟩ := ih fun q hq => hplain q (List.mem_append_left _ hq)
    rw [after_append, exchanges_append]
    exact mirrors_afterOne hlisted (hplain request (List.mem_append_right _ List.mem_cons_self))

/-- A bus whose regions were all mapped without a memory is a flat memory: an access is made exactly
when it fits in a region; a load gives the bytes that were last stored, and zeros where none were; a
store changes its own bytes, and an access that fails none: it fails as a look-up does, or because
the number of its bytes is too long to be written. -/
theorem flat_of_requests (h : s.Lists ref []) {requests : List Request}
    (hplain : ∀ q ∈ requests, q.IsPlain ref) :
    ∃ b, (s.after requests).bus? ref = some b ∧
      b.regions.Perm ((s.exchanges requests).filterMap (·.mapped? ref)) ∧
      (∀ address, (s.after requests).busByte? ref address =
        if b.regions.any (·.span.has address)
        then some (lastStored ref (s.exchanges requests) address) else none) ∧
      ∀ address size, 0 ≤ size →
        ((∃ value t, (read ref address size).run (s.after requests) = (.ok value, t)) ↔
          FitsIn b.regions address size) ∧
        (∀ value, (∃ t, (write ref address size value).run (s.after requests) = (.ok (), t)) ↔
          FitsIn b.regions address size) ∧
        (∀ value t, (read ref address size).run (s.after requests) = (.ok value, t) →
          value = Nat.ofDigits 256 ((List.range size.toNat).map fun (i : Nat) =>
            (lastStored ref (s.exchanges requests) (address + i)).toNat)) ∧
        (∀ value t, (write ref address size value).run (s.after requests) = (.ok (), t) →
          ∀ a, t.busByte? ref a = if address ≤ a ∧ a < address + size
            then some (Cells.byteOf value (a - address).toNat)
            else (s.after requests).busByte? ref a) ∧
        ((read ref address size).run (s.after requests)).2.byte? = (s.after requests).byte? ∧
        ∀ e t, ((read ref address size).run (s.after requests) = (.error e, t) ∨
            ∃ value, (write ref address size value).run (s.after requests) = (.error e, t)) →
          (Failure.memoryCategory e = .key ∨ e = .longNumber ∧ Number.isShort size = false) ∧
            t.byte? = (s.after requests).byte? := by
  obtain ⟨listed, hlisted, -, hperm⟩ := lists_after h Bus.arranged_nil requests
  obtain ⟨rs, hmirrors⟩ := mirrors_after h hplain
  obtain ⟨b, hb, rfl⟩ := lists_iff.1 hmirrors.lists
  obtain ⟨c, hc, rfl⟩ := lists_iff.1 hlisted
  cases hb.symm.trans hc
  rw [List.append_nil] at hperm
  refine ⟨b, hb, hperm, hmirrors.busByte?_eq, fun address size hsize => ?_⟩
  obtain ⟨count, rfl⟩ := Int.eq_ofNat_of_zero_le hsize
  obtain ⟨hmade, hvalue⟩ := hmirrors.read_iff address count
  refine ⟨hmade, fun value => (hmirrors.write_iff address count value).1, hvalue,
    fun value t => (hmirrors.write_iff address count value).2 t,
    (alike_read _ ref address count).byte?_eq.symm, fun e t hfails => ?_⟩
  obtain hread | ⟨value, hwrite⟩ := hfails
  · exact (hmirrors.failed address count).1 t hread
  · exact (hmirrors.failed address count).2 value t hwrite

end Space

end

/-- A store of a negative number at the end of a region, and one across that end. -/
def Request.straddling : List Request :=
  [.map 0 "low" 0x1000 4 none, .map 0 "high" 0x1004 4 none, .write 0 0x1002 2 (-2),
    .write 0 0x1003 2 7]

namespace Space

/-- The first store is there to be loaded, the second has left no byte. -/
theorem flat_straddling : oneBus.Lists 0 [] ∧ (∀ q ∈ Request.straddling, q.IsPlain 0) ∧
    ∃ t, (read 0 0x1000 4).run (oneBus.after Request.straddling) = (.ok 0xFFFE0000, t) := by
  have hplain : ∀ q ∈ Request.straddling, q.IsPlain 0 := by
    simp [Request.straddling, Request.IsPlain]
  refine ⟨lists_oneBus, hplain, ?_⟩
  obtain ⟨b, hb, -, -, haccess⟩ := flat_of_requests lists_oneBus hplain
  obtain ⟨hmade, -, hvalue, -⟩ := haccess 0x1000 4 (by decide)
  have hbus : (oneBus.after Request.straddling).bus? 0 = some ⟨[⟨"low", ⟨0x1000, 0x1004⟩, 1⟩,
      ⟨"high", ⟨0x1004, 0x1008⟩, 2⟩], false, false, 1024, []⟩ := rfl
  cases hbus.symm.trans hb
  obtain ⟨value, t, hrun⟩ := hmade.2 ⟨_, List.mem_cons_self, by decide, by decide, by decide⟩
  obtain rfl : value = 0xFFFE0000 := hvalue value t hrun
  exact ⟨t, hrun⟩

end Space

end RegisterMap.Memory
