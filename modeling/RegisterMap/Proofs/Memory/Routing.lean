import RegisterMap.Proofs.Memory.Bytes
import RegisterMap.Proofs.Memory.Regions

/-!
# Routing

A bus looks at the first address of an access only, and leaves it to the memory of the region to
refuse what passes the end. An access that is made lies in that memory as a whole, but in the region
only if the memory does not go on behind it.
-/

namespace RegisterMap.Memory

section

variable [Machine]

/-- Whether a memory holds bytes itself. -/
def Component.isStorage : Component → Bool
  | .buffer _ => true
  | .paged _ => true
  | _ => false

namespace Space

open Step

variable {s t : Space} {ref leaf : Ref} {address size : Int} {b : Bus} {r : Region} {c : Component}

/-- From a bus, an address leads on through its region. -/
theorem Reaches.of_bus (h : s.Reaches address ref leaf) (hb : s.bus? ref = some b) :
    ∃ r, b.find? address = some r ∧ s.Reaches address r.target leaf := by
  have hc := component_of_bus hb
  cases h with
  | buffer h => cases hc.symm.trans h
  | paged h => cases hc.symm.trans h
  | through hb' hr h =>
    cases hb.symm.trans hb'
    exact ⟨_, hr, h⟩

theorem Reaches.of_storage (h : s.Reaches address ref leaf) (hc : s.components[ref]? = some c)
    (hstorage : c.isStorage = true) : leaf = ref := by
  cases h with
  | buffer => rfl
  | paged => rfl
  | through hb _ _ =>
    cases hc.symm.trans (component_of_bus hb)
    cases hstorage

/-- A memory gives any bytes that it has, if they are not too many. -/
theorem exists_readWithin_eq_ok {count : Nat} (hc : s.components[ref]? = some c)
    (hstorage : c.isStorage = true) (hbytes : s.HasBytes ref address count) (hcount : 0 < count)
    (hlimit : count < Machine.bytes) (depth : Nat) :
    ∃ value, (readWithin (depth + 1) ref address count).run s = (.ok value, s) := by
  have hhas : ∀ a, address ≤ a → a < address + count → (c.byte? a).isSome = true := by
    intro a hlow hhigh
    rw [← byte?_of_component hc]
    exact hbytes a hlow hhigh
  unfold readWithin
  rw [run_bind, run_current]
  dsimp only
  rw [hc]
  cases c with
  | buffer d =>
    simp only [Component.isSome_byte?_buffer] at hhas
    have hread := Buffer.read_eq (Buffer.admits_of_has hcount hhas)
    exact ⟨_, run_ofOutcome_eq_ok.2 ⟨hread, rfl⟩⟩
  | paged p =>
    have hread := Paged.read_eq hlimit hhas
    exact ⟨_, run_ofOutcome_eq_ok.2 ⟨hread, rfl⟩⟩
  | bus _ => cases hstorage
  | hollow => cases hstorage

/-- A bus gives what the memory of a region gives. -/
theorem exists_read_eq_ok {count : Nat} (hb : s.bus? ref = some b) (hr : b.find? address = some r)
    (hc : s.components[r.target]? = some c) (hstorage : c.isStorage = true)
    (hbytes : s.HasBytes r.target address count) (hcount : 0 < count)
    (hlimit : count < Machine.bytes) :
    ∃ value t, (read ref address count).run s = (.ok value, t) := by
  obtain ⟨n, hn⟩ := exists_depth hc
  obtain ⟨value, hvalue⟩ := exists_readWithin_eq_ok hc hstorage hbytes hcount hlimit n
  rw [run_read, hn, run_readWithin_of_bus hb hr, run_bind_of_ok hvalue]
  exact ⟨value, _, rfl⟩

/-- Whether a load or a store of some bytes at an address is made. -/
def Completes (s : Space) (ref : Ref) (address size : Int) : Prop :=
  (∃ value t, (read ref address size).run s = (.ok value, t)) ∨
    ∃ value t, (write ref address size value).run s = (.ok (), t)

theorem Completes.hasBytes {count : Nat} (h : s.Completes ref address count) :
    ∃ leaf, s.Reaches address ref leaf ∧ s.HasBytes leaf address count := by
  obtain ⟨value, t, h⟩ | ⟨value, t, h⟩ := h
  · obtain ⟨leaf, hreaches, hbytes, -⟩ := read_eq_ok h
    exact ⟨leaf, hreaches, hbytes⟩
  · obtain ⟨leaf, hreaches, hbytes, -⟩ := write_eq_ok h
    exact ⟨leaf, hreaches, hbytes⟩

/-- The accesses that start in a region stay in it, unless its memory goes on behind its end. -/
theorem stays_iff (hb : s.bus? ref = some b) (harranged : Bus.Arranged b.regions)
    (hr : r ∈ b.regions) (hsize : r.span.base < r.span.stop)
    (hc : s.components[r.target]? = some c) (hstorage : c.isStorage = true) :
    (∀ address size, 1 ≤ size → r.span.has address = true → s.Completes ref address size →
      address + size ≤ r.span.stop) ↔
    ¬((s.byte? r.target (r.span.stop - 1)).isSome = true ∧
      (s.byte? r.target r.span.stop).isSome = true) := by
  constructor
  · -- A load of the two bytes at the end of the region would be made.
    rintro hstays ⟨hlast, hnext⟩
    have hhas : r.span.has (r.span.stop - 1) = true := Span.has_iff.2 ⟨by omega, by omega⟩
    have hfind := (Bus.find?_eq_some_iff harranged).2 ⟨hr, hhas⟩
    have hbytes : s.HasBytes r.target (r.span.stop - 1) 2 := by
      intro a hlow hhigh
      obtain rfl | rfl : a = r.span.stop - 1 ∨ a = r.span.stop := by omega
      · exact hlast
      · exact hnext
    have hlimit : 2 < Machine.bytes := lt_trans (by decide) Machine.addresses_lt
    have hread := exists_read_eq_ok hb hfind hc hstorage hbytes (by decide) hlimit
    have hend := hstays (r.span.stop - 1) 2 (by decide) hhas (.inl hread)
    omega
  · -- An access that passes the end needs both of them.
    intro hnot address size hone hhas hcompletes
    obtain ⟨count, rfl⟩ := Int.eq_ofNat_of_zero_le (show 0 ≤ size by omega)
    obtain ⟨leaf, hreaches, hbytes⟩ := hcompletes.hasBytes
    obtain ⟨q, hq, hreaches⟩ := hreaches.of_bus hb
    cases hq.symm.trans ((Bus.find?_eq_some_iff harranged).2 ⟨hr, hhas⟩)
    obtain rfl := hreaches.of_storage hc hstorage
    by_contra hpast
    have hbounds := Span.has_iff.1 hhas
    exact hnot ⟨hbytes _ (by omega) (by omega), hbytes _ (by omega) (by omega)⟩

/-- Whether an access on a bus is led to a region with its first address, and on to a memory with
all its bytes. -/
def Routes (s : Space) (b : Bus) (address : Int) (count : Nat) (r : Region) (leaf : Ref) : Prop :=
  b.find? address = some r ∧ r.span.base ≤ address ∧ address < r.span.stop ∧
    s.Reaches address r.target leaf ∧ s.HasBytes leaf address count

theorem exists_routes {count : Nat} (hb : s.bus? ref = some b)
    (hreaches : s.Reaches address ref leaf) (hbytes : s.HasBytes leaf address count) :
    ∃ r, s.Routes b address count r leaf := by
  obtain ⟨r, hr, htarget⟩ := hreaches.of_bus hb
  obtain ⟨-, hhas⟩ := Bus.mem_and_has_of_find? hr
  obtain ⟨hbase, hstop⟩ := Span.has_iff.1 hhas
  exact ⟨r, hr, hbase, hstop, htarget, hbytes⟩

/-- Whatever was asked of a space, an access to a bus that is made is led by its first address, and
needs and touches bytes of one memory only, all of them there. It may pass the end of its region,
which it does only where the memory goes on behind that. -/
theorem accesses_of_requests (h : s.Lists ref []) (requests : List Request) :
    ∃ b, (s.after requests).bus? ref = some b ∧
      (∀ address size value t, 1 ≤ size →
        (read ref address size).run (s.after requests) = (.ok value, t) →
        ∃ r leaf, (s.after requests).Routes b address size.toNat r leaf ∧
          value = (s.after requests).number leaf address size.toNat) ∧
      (∀ address size value t, 1 ≤ size →
        (write ref address size value).run (s.after requests) = (.ok (), t) →
        ∃ r leaf, (s.after requests).Routes b address size.toNat r leaf ∧
          (s.after requests).Stores t leaf address size.toNat value) ∧
      (∀ address size,
        ((read ref address size).run (s.after requests)).2.byte? = (s.after requests).byte?) ∧
      (∀ address size value e t,
        (write ref address size value).run (s.after requests) = (.error e, t) →
        t.byte? = (s.after requests).byte?) ∧
      ∀ r ∈ b.regions, r.span.base < r.span.stop →
        ∀ c, (s.after requests).components[r.target]? = some c → c.isStorage = true →
        ((∀ address size, 1 ≤ size → r.span.has address = true →
            (s.after requests).Completes ref address size → address + size ≤ r.span.stop) ↔
          ¬(((s.after requests).byte? r.target (r.span.stop - 1)).isSome = true ∧
            ((s.after requests).byte? r.target r.span.stop).isSome = true)) := by
  obtain ⟨listed, hlisted, harranged, -⟩ := lists_after h Bus.arranged_nil requests
  obtain ⟨b, hb, rfl⟩ := lists_iff.1 hlisted
  refine ⟨b, hb, ?reads, ?writes, ?kept, ?failed, ?stays⟩
  case reads =>
    intro address size value t hone hread
    obtain ⟨count, rfl⟩ := Int.eq_ofNat_of_zero_le (show 0 ≤ size by omega)
    obtain ⟨leaf, hreaches, hbytes, hvalue⟩ := read_eq_ok hread
    obtain ⟨r, hroutes⟩ := exists_routes hb hreaches hbytes
    exact ⟨r, leaf, hroutes, hvalue⟩
  case writes =>
    intro address size value t hone hwrite
    obtain ⟨count, rfl⟩ := Int.eq_ofNat_of_zero_le (show 0 ≤ size by omega)
    obtain ⟨leaf, hreaches, hbytes, hstores⟩ := write_eq_ok hwrite
    obtain ⟨r, hroutes⟩ := exists_routes hb hreaches hbytes
    exact ⟨r, leaf, hroutes, hstores⟩
  case kept => exact fun address size => (alike_read _ ref address size).byte?_eq.symm
  case failed => exact fun _ _ _ _ _ hwrite => (write_eq_error hwrite).byte?_eq.symm
  case stays => exact fun r hr hsize c hc hstorage => stays_iff hb harranged hr hsize hc hstorage

end Space

end

namespace Space

/-- A region with a buffer of its own is never left. -/
theorem accesses_owned : oneBus.Lists 0 [] ∧ ∀ address size, 1 ≤ size → 0x1000 ≤ address →
    address < 0x1004 → (oneBus.after [.map 0 "port" 0x1000 4 none]).Completes 0 address size →
    address + size ≤ 0x1004 := by
  refine ⟨lists_oneBus, fun address size hone hbase hstop hcompletes => ?_⟩
  obtain ⟨b, hb, -, -, -, -, hstays⟩ :=
    accesses_of_requests lists_oneBus [.map 0 "port" 0x1000 4 none]
  have hbus : (oneBus.after [.map 0 "port" 0x1000 4 none]).bus? 0 =
      some ⟨[⟨"port", ⟨0x1000, 0x1004⟩, 1⟩], false, false, 1024, []⟩ := rfl
  cases hbus.symm.trans hb
  refine (hstays _ List.mem_cons_self (by decide) _ rfl rfl).2 ?_ address size hone
    (Span.has_iff.2 ⟨hbase, hstop⟩) hcompletes
  rintro ⟨-, hnext⟩
  cases hnext

end Space

/-- A region of four bytes in front of a page. -/
def Request.paged : List Request :=
  [.newPaged, .mapPages 1 0x1000 4, .map 0 "port" 0x1000 4 (some 1)]

namespace Space

/-- A load of bytes behind a region is made where its memory goes on. -/
theorem not_forall_inside : ¬∀ (requests : List Request) (address size : Int) (value : Nat)
    (t : Space), 1 ≤ size → (read 0 address size).run (oneBus.after requests) = (.ok value, t) →
    ∃ b r, (oneBus.after requests).bus? 0 = some b ∧ b.find? address = some r ∧
      r.span.base ≤ address ∧ address + size ≤ r.span.stop := by
  intro h
  obtain ⟨b, r, hb, hr, -, hend⟩ := h Request.paged 0x1002 4 0 _ (by decide) rfl
  have hbus : (oneBus.after Request.paged).bus? 0 =
      some ⟨[⟨"port", ⟨0x1000, 0x1004⟩, 1⟩], false, false, 1024, []⟩ := rfl
  cases hbus.symm.trans hb
  cases hr
  exact absurd hend (by decide)

end Space

end RegisterMap.Memory
