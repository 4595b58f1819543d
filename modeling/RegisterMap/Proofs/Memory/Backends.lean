import RegisterMap.CommandLine.Run
import RegisterMap.Proofs.Accessor.Exact
import RegisterMap.Proofs.Accessor.Matching
import RegisterMap.Proofs.Memory.Windows

/-!
# Memories behind a shell

The memory behind a shell is a buffer, or a paged memory with the pages that the device touches. In
the window of the device the two hold the same bytes, zeros at first, so that nobody who stays in
the window can tell them apart: neither by loads and stores, nor by accessors of a device with all
its registers there.
-/

namespace RegisterMap

open Memory

section

variable [Machine]

/-- What calls of accessors answer, one after the other, and the memory after them. -/
def Device.callAll {σ : Type} (checks : Bool) (store : Store σ) (d : Device)
    (calls : List (String × List Argument)) (s : σ) : List (Except Failure Answer) × σ :=
  Step.runAll (calls.map fun c => d.call checks store c.1 c.2) s

/-- Whether the words of all registers lie in a window. -/
def Device.LiesIn (window : Span) (d : Device) : Prop :=
  ∀ x ∈ d.handles, window.Includes x.2.address x.2.payload.size

omit [Machine] in
theorem Device.LiesIn.of_lookup {window : Span} {d : Device} (hd : d.LiesIn window) {name : String}
    {h : Handle} (hh : d.handles.lookup name = some h) :
    window.Includes h.address h.payload.size := by
  obtain ⟨front, back, hhandles, -⟩ := List.lookup_eq_some_iff.1 hh
  have hmem : (name, h) ∈ d.handles := by
    rw [hhandles]
    exact List.mem_append_right _ List.mem_cons_self
  exact hd _ hmem

namespace Memory

namespace Paged

variable {base size : Int} {m p : Paged}

omit [Machine] in
/-- Rounding down the start and rounding up the end, whole pages take in all bytes. -/
theorem pagesOf_covers (base size : Int) :
    (pagesOf base size).base ≤ base ∧ base + size ≤ (pagesOf base size).stop := by
  unfold pagesOf pageStart pageSize
  dsimp only
  omega

/-- The pages of some bytes are fresh in a blank memory. -/
theorem exists_map_blank (hbase : 0 ≤ base) (hsize : 1 ≤ size)
    (hstop : (pagesOf base size).stop ≤ 2 ^ 32) : ∃ p, blank.map base size = .ok p := by
  obtain ⟨hlow, hhigh⟩ := pagesOf_covers base size
  have hstart : pageSize ∣ (pagesOf base size).base := Int.dvd_mul_left _ _
  have hend : pageSize ∣ (pagesOf base size).stop := Int.dvd_mul_left _ _
  have hpos : 0 ≤ (pagesOf base size).base :=
    Int.mul_nonneg (Int.ediv_nonneg hbase (by decide)) (by decide)
  obtain ⟨state, hstate⟩ := Machine.engine.exists_map Machine.engine.blank
    (show 0 < (pagesOf base size).stop - (pagesOf base size).base by omega) hstart
    (Int.dvd_sub hend hstart) hpos (by omega) fun a _ _ => Machine.engine.byte?_blank a
  refine ⟨⟨state⟩, ?_⟩
  unfold map blank
  dsimp only
  rw [hstate]

/-- What has been mapped is there, and blank. -/
theorem holds_of_map (h : m.map base size = .ok p) :
    (Component.paged p).Holds ⟨base, base + size⟩ Cells.blank := by
  intro a ha
  obtain ⟨hlow, hhigh⟩ := pagesOf_covers base size
  obtain ⟨hbase, hstop⟩ := Span.has_iff.1 ha
  dsimp only at hbase hstop
  unfold map at h
  dsimp only at h
  split at h
  · next state hstate =>
    cases h
    exact (Machine.engine.byte?_map hstate a).trans (if_pos ⟨by omega, by omega⟩)
  · cases h

end Paged

namespace Buffer

variable {base size : Int} {b : Buffer}

theorem exists_ofSize (base : Int) (hsize : 1 ≤ size) (hlimit : size < Machine.bytes) :
    ∃ b, ofSize base size = .ok b := by
  have hbytes : ¬size ≤ 0 := by omega
  have haddress : ¬addressLimit ≤ size := Int.not_le.2 (hlimit.trans bytes_lt_addressLimit)
  unfold ofSize
  rw [if_neg hbytes, if_neg haddress, dif_pos (by omega)]
  exact ⟨_, rfl⟩

/-- A new buffer has all bytes that it was made for, and they are blank. -/
theorem holds_of_ofSize (hsize : 1 ≤ size) (h : ofSize base size = .ok b) :
    (Component.buffer b).Holds ⟨base, base + size⟩ Cells.blank := by
  obtain ⟨hbase, hbytes, hcells⟩ := parts_of_ofSize h
  intro a ha
  obtain ⟨hlow, hhigh⟩ := Span.has_iff.1 ha
  dsimp only at hlow hhigh
  rw [← hcells]
  refine if_pos (Span.has_iff.2 ?_)
  unfold span stop
  rw [hbase, hbytes]
  dsimp only
  omega

end Buffer

namespace Space

open Step

variable {s t u : Space} {ref leaf : Ref} {window : Span} {flat : Cells} {b : Bus} {c : Component}

/-- A new bus. -/
def emptyBus : Bus :=
  ⟨[], false, false, 1024, []⟩

theorem run_createBus (s : Space) : (createBus Bus.usualRoom).run s =
    (.ok s.components.length, s.add (.bus emptyBus)) := rfl

theorem bus?_add_emptyBus (s : Space) :
    (s.add (.bus emptyBus)).bus? s.components.length = some emptyBus :=
  bus?_of_component (component_add_self s _)

/-- The first region of a bus shows what the memory behind it has. -/
theorem exists_run_map {base size : Int} {target : Option Ref} (hb : s.bus? ref = some emptyBus)
    (hbacks : Backs base size s target leaf u) (hc : u.components[leaf]? = some c)
    (hne : leaf ≠ ref) (h : c.Holds ⟨base, base + size⟩ flat) (name : String) :
    ∃ t, (map ref name base size target).run s = (.ok leaf, t) ∧
      t.Carries ref ⟨base, base + size⟩ flat := by
  refine ⟨_, run_map_eq_ok.2 ⟨emptyBus, u, hb, List.forall_mem_nil _, hbacks, rfl⟩, leaf, c,
    (component_put_of_ne hne u _).trans hc, h, .bus (bus?_put_self (hbacks.bus? hb) _) ?_⟩
  intro a ha
  exact ⟨⟨name, ⟨base, base + size⟩, leaf⟩, List.find?_cons_of_pos ha, rfl⟩

theorem run_mapPages {p q : Paged} {base size : Int} (hp : s.components[ref]? = some (.paged p))
    (hq : p.map base size = .ok q) : ∃ r,
    (mapPages ref base size).run s = (.ok (), (s.put ref (.paged q)).say r) := by
  unfold mapPages
  rw [run_bind, run_current]
  dsimp only
  rw [hp]
  dsimp only
  rw [hq]
  exact ⟨_, rfl⟩

theorem exists_map_of_run_mapPages {p : Paged} {base size : Int}
    (hp : s.components[ref]? = some (.paged p))
    (h : (mapPages ref base size).run s = (.ok (), t)) : ∃ q, p.map base size = .ok q := by
  unfold mapPages at h
  rw [run_bind, run_current] at h
  dsimp only at h
  rw [hp] at h
  obtain ⟨q, _, hq, -⟩ := run_bind_eq_ok.1 h
  exact ⟨q, (run_ofOutcome_eq_ok.1 hq).1⟩

/-- Memories that agree in a window answer alike there. -/
theorem store_matches (hwindow : window.stop - window.base < Machine.bytes) {h : Handle}
    (hh : window.Includes h.address h.payload.size) :
    Store.Matches (Agree ref window) (store ref) (store ref) h := by
  have hfirst := Span.has_iff.1 hh.first
  have hlast := hh.last
  have hlimit : h.payload.size < Machine.bytes := by omega
  constructor
  · rintro s t ⟨flat, hs, ht⟩
    obtain ⟨u, hu, hsu⟩ := hs.read hh hlimit
    obtain ⟨v, hv, htv⟩ := ht.read hh hlimit
    unfold store
    dsimp only
    rw [hu, hv]
    exact ⟨.ok rfl, flat, hsu, htv⟩
  · rintro value s t ⟨flat, hs, ht⟩
    obtain ⟨u, hu, hsu⟩ := hs.write hh hlimit value
    obtain ⟨v, hv, htv⟩ := ht.write hh hlimit value
    unfold store
    dsimp only
    rw [hu, hv]
    exact ⟨.ok rfl, _, hsu, htv⟩
  · rintro s t ⟨flat, hs, ht⟩
    have hnone : window.Includes h.address (0 : Nat) := ⟨hh.first, by push_cast; omega⟩
    have hroom : 0 < Machine.bytes := Nat.zero_lt_of_lt hlimit
    obtain ⟨u, hu, -⟩ := hs.read hnone hroom
    obtain ⟨v, hv, -⟩ := ht.read hnone hroom
    exact (congrArg Prod.fst hu).trans (congrArg Prod.fst hv).symm

/-- Whether a memory of one space cannot be told from that of another in a window: neither by
accesses nor by what devices answer and the words that they leave. -/
structure Indistinct (ref : Ref) (window : Span) (s t : Space) : Prop where
  accesses : ∀ qs : List Request, (∀ q ∈ qs, q.IsWithin ref window) →
    s.exchanges qs = t.exchanges qs ∧ ∀ x ∈ s.exchanges qs, ∃ answer, x.outcome = .ok answer
  calls : ∀ d : Device, d.LiesIn window → ∀ checks calls,
    (d.callAll checks (store ref) calls s).1 = (d.callAll checks (store ref) calls t).1 ∧
    ∀ x ∈ d.handles, ∃ word : Nat,
      ((read ref x.2.address x.2.payload.size).run
        (d.callAll checks (store ref) calls s).2).1 = .ok word ∧
      ((read ref x.2.address x.2.payload.size).run
        (d.callAll checks (store ref) calls t).2).1 = .ok word

theorem Agree.indistinct (h : s.Agree ref window t)
    (hwindow : window.stop - window.base < Machine.bytes) : s.Indistinct ref window t where
  accesses := fun _ hqs => h.exchanges hwindow hqs
  calls := by
    intro d hd checks calls
    have hcall : ∀ c ∈ calls, Step.Matches (Agree ref window) Eq
        (d.call checks (store ref) c.1 c.2) (d.call checks (store ref) c.1 c.2) := by
      intro c _
      refine Device.call_matches (.refl c.1 d) (fun _ _ hh => ?_) checks c.2
      exact store_matches hwindow (hd.of_lookup hh)
    obtain ⟨hanswers, hafter⟩ := runAll_matches hcall h
    refine ⟨?_, fun x hx => ?_⟩
    · exact List.forall₂_eq_eq_eq ▸ hanswers.imp fun _ _ hmatch => hmatch.eq
    · obtain ⟨flat, hs, ht⟩ := hafter
      have hfirst := Span.has_iff.1 (hd x hx).first
      have hlast := (hd x hx).last
      have hlimit : x.2.payload.size < Machine.bytes := by omega
      obtain ⟨u, hu, -⟩ := hs.read (hd x hx) hlimit
      obtain ⟨v, hv, -⟩ := ht.read (hd x hx) hlimit
      exact ⟨_, congrArg Prod.fst hu, congrArg Prod.fst hv⟩

end Space

end Memory

namespace CommandLine.Request

open Step

variable {r : CommandLine.Request} {size : Int}

/-- A bus with a buffer behind its one region. -/
theorem makeBus_of_buffer (hr : r.isPaged = false) {base : Int} (hsize : 1 ≤ size) {b : Buffer}
    (hb : Buffer.ofSize base size = .ok b) (u : Space) :
    ∃ s, (r.makeBus base size).run u = (.ok u.components.length, s) ∧
      s.Carries u.components.length ⟨base, base + size⟩ Cells.blank := by
  have hbacks := Space.Backs.fresh (s := u.add (.bus Space.emptyBus)) hb
  have hne : (u.add (.bus Space.emptyBus)).components.length ≠ u.components.length := by
    rw [Space.length_add]
    exact Nat.succ_ne_self _
  obtain ⟨s, hrun, hcarries⟩ := Space.exists_run_map (Space.bus?_add_emptyBus u) hbacks
    (Space.component_add_self _ _) hne (Buffer.holds_of_ofSize hsize hb) r.className
  refine ⟨s, ?_, hcarries⟩
  unfold makeBus
  rw [run_bind_of_ok (Space.run_createBus u), hr]
  exact run_bind_of_ok hrun

/-- A bus with pages behind its one region. -/
theorem makeBus_of_pages (hr : r.isPaged = true) {base : Int} {p : Paged}
    (hp : Paged.blank.map base size = .ok p) (u : Space) :
    ∃ s, (r.makeBus base size).run u = (.ok u.components.length, s) ∧
      s.Carries u.components.length ⟨base, base + size⟩ Cells.blank := by
  let v := u.add (.bus Space.emptyBus)
  let w := v.add (.paged .blank)
  have hne : v.components.length ≠ u.components.length := by
    rw [Space.length_add]
    exact Nat.succ_ne_self _
  have hpaged : w.components[v.components.length]? = some (.paged .blank) :=
    Space.component_add_self v _
  obtain ⟨message, hpages⟩ := Space.run_mapPages hpaged hp
  generalize hmapped : (w.put v.components.length (.paged p)).say message = x at hpages
  have hbus : x.bus? u.components.length = some Space.emptyBus := by
    rw [← hmapped]
    refine Space.bus?_of_component ?_
    exact (Space.component_put_of_ne hne.symm _ _).trans
      (Space.component_add_of_some (Space.component_add_self u _) _)
  have hleaf : x.components[v.components.length]? = some (.paged p) := by
    rw [← hmapped]
    exact Space.component_put_self (Space.lt_length_of_component hpaged) _
  obtain ⟨s, hrun, hcarries⟩ := Space.exists_run_map hbus (.given _) hleaf hne
    (Paged.holds_of_map hp) r.className
  refine ⟨s, ?_, hcarries⟩
  unfold makeBus
  rw [run_bind_of_ok (Space.run_createBus u), hr, if_pos rfl]
  have hcreate : (Space.create (.paged .blank)).run v = (.ok v.components.length, w) := rfl
  refine (run_bind_of_ok hcreate).trans ((run_bind_of_ok hpages).trans ?_)
  rw [pure_bind]
  exact run_bind_of_ok hrun

/-- Whatever is behind it, the region of a bus that has been made is blank. -/
theorem carries_of_makeBus {base : Int} (hsize : 1 ≤ size) {u s : Space} {bus : Ref}
    (h : (r.makeBus base size).run u = (.ok bus, s)) :
    s.Carries bus ⟨base, base + size⟩ Cells.blank := by
  -- What is behind the region has been made, so that making it again gives the same.
  have hmade := h
  unfold makeBus at hmade
  rw [run_bind_of_ok (Space.run_createBus u)] at hmade
  by_cases hr : r.isPaged = true
  · rw [hr, if_pos rfl] at hmade
    obtain ⟨_, _, ⟨⟩, hpages⟩ := run_bind_eq_ok.1 hmade
    obtain ⟨_, _, hpages, -⟩ := run_bind_eq_ok.1 hpages
    obtain ⟨p, hp⟩ := Space.exists_map_of_run_mapPages (Space.component_add_self _ _) hpages
    obtain ⟨v, hv, hcarries⟩ := makeBus_of_pages hr hp u
    cases hv.symm.trans h
    exact hcarries
  · replace hr : r.isPaged = false := by simpa using hr
    rw [hr] at hmade
    obtain ⟨_, _, ⟨⟩, hmap⟩ := run_bind_eq_ok.1 hmade
    obtain ⟨_, _, hmap, -⟩ := run_bind_eq_ok.1 hmap
    obtain ⟨_, _, -, -, hbacks, -⟩ := Space.run_map_eq_ok.1 hmap
    cases hbacks with
    | fresh hbuffer =>
      obtain ⟨v, hv, hcarries⟩ := makeBus_of_buffer hr hsize hbuffer u
      cases hv.symm.trans h
      exact hcarries

end CommandLine.Request

namespace Memory.Space

variable {base size : Int}

/-- A buffer and a paged memory that are made for the same addresses cannot be told apart there, be
it that they are used themselves or behind the bus of a shell. -/
theorem backends_indistinct (hbase : 0 ≤ base) (hsize : 1 ≤ size)
    (hpages : (Paged.pagesOf base size).stop ≤ 2 ^ 32) :
    (∃ b p, Buffer.ofSize base size = .ok b ∧ Paged.blank.map base size = .ok p ∧
      ∀ (s t : Space) (ref : Ref), s.components[ref]? = some (.buffer b) →
        t.components[ref]? = some (.paged p) → s.Indistinct ref ⟨base, base + size⟩ t) ∧
    ∀ r q : CommandLine.Request, r.isPaged = false → q.isPaged = true → ∀ u : Space,
      ∃ bus s t, (r.makeBus base size).run u = (.ok bus, s) ∧
        (q.makeBus base size).run u = (.ok bus, t) ∧ s.Indistinct bus ⟨base, base + size⟩ t := by
  obtain ⟨-, hstop⟩ := Paged.pagesOf_covers base size
  have hlimit : size < Machine.bytes := by
    have hroom := Machine.addresses_lt
    omega
  have hwindow : (⟨base, base + size⟩ : Span).stop - (⟨base, base + size⟩ : Span).base <
      Machine.bytes := by
    dsimp only
    omega
  obtain ⟨b, hb⟩ := Buffer.exists_ofSize base hsize hlimit
  obtain ⟨p, hp⟩ := Paged.exists_map_blank hbase hsize hpages
  constructor
  · refine ⟨b, p, hb, hp, fun s t ref hs ht => ?_⟩
    refine Agree.indistinct ⟨Cells.blank, ?_, ?_⟩ hwindow
    · exact ⟨ref, _, hs, Buffer.holds_of_ofSize hsize hb, .itself⟩
    · exact ⟨ref, _, ht, Paged.holds_of_map hp, .itself⟩
  · intro r q hr hq u
    obtain ⟨s, hs, hscarries⟩ := CommandLine.Request.makeBus_of_buffer hr hsize hb u
    obtain ⟨t, ht, htcarries⟩ := CommandLine.Request.makeBus_of_pages hq hp u
    exact ⟨_, s, t, hs, ht, Agree.indistinct ⟨Cells.blank, hscarries, htcarries⟩ hwindow⟩

end Memory.Space

end

namespace Memory.Space

/-- A timer answers the same over a buffer and over pages. -/
theorem backends_timer : (0 : Int) ≤ 4096 ∧ (1 : Int) ≤ 16 ∧
    (Paged.pagesOf 4096 16).stop ≤ 2 ^ 32 ∧ ∃ bus s t,
      (({} : CommandLine.Request).makeBus 4096 16).run empty = (.ok bus, s) ∧
      (({ paged := true } : CommandLine.Request).makeBus 4096 16).run empty = (.ok bus, t) ∧
      ∀ checks calls, (Device.timer.callAll checks (store bus) calls s).1 =
        (Device.timer.callAll checks (store bus) calls t).1 := by
  have hlies : Device.timer.LiesIn ⟨4096, 4096 + 16⟩ := by
    refine List.forall_mem_cons.2 ⟨⟨by decide, by decide⟩, ?_⟩
    exact List.forall_mem_singleton.2 ⟨by decide, by decide⟩
  have hbase : (0 : Int) ≤ 4096 := by decide
  have hsize : (1 : Int) ≤ 16 := by decide
  have hpages : (Paged.pagesOf 4096 16).stop ≤ 2 ^ 32 := by decide
  refine ⟨hbase, hsize, hpages, ?_⟩
  obtain ⟨-, hshell⟩ := backends_indistinct hbase hsize hpages
  obtain ⟨bus, s, t, hs, ht, hindistinct⟩ := hshell {} { paged := true } rfl rfl empty
  exact ⟨bus, s, t, hs, ht, fun checks calls => (hindistinct.calls _ hlies checks calls).1⟩

end Memory.Space

end RegisterMap
