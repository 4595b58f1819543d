import RegisterMap.Proofs.Matching
import RegisterMap.Proofs.Memory.Flat
import RegisterMap.Proofs.Memory.Routing
import RegisterMap.Proofs.Words

/-!
# Windows

In a window of addresses that it has, a buffer or a paged memory is a flat memory of bytes, be it on
its own or behind a region of a bus. So two memories that start with the same bytes in a window
cannot be told apart there.
-/

namespace RegisterMap

theorem Cells.store_congr {cells flat : Cells} {a : Int} (h : cells a = flat a) (address : Int)
    (count value : Nat) : cells.store address count value a = flat.store address count value a := by
  unfold Cells.store
  rw [h]

namespace Memory

/-- Whether an access lies in a window. -/
structure Span.Includes (window : Span) (address : Int) (count : Nat) : Prop where
  first : window.has address = true
  last : address + count ≤ window.stop

theorem Span.Includes.has {window : Span} {address : Int} {count : Nat}
    (h : window.Includes address count) {a : Int} (hlow : address ≤ a)
    (hhigh : a < address + count) : window.has a = true := by
  have hfirst := Span.has_iff.1 h.first
  have hlast := h.last
  exact Span.has_iff.2 ⟨by omega, by omega⟩

variable [Machine]

/-- Whether a memory has the bytes of a flat memory at all addresses of a window. -/
def Component.Holds (window : Span) (flat : Cells) (c : Component) : Prop :=
  ∀ a, window.has a = true → c.byte? a = some (flat a)

namespace Component.Holds

variable {window : Span} {flat : Cells} {b : Buffer} {p : Paged} {address : Int} {count : Nat}

theorem buffer (h : (Component.buffer b).Holds window flat) {a : Int} (ha : window.has a = true) :
    b.span.has a = true ∧ b.cells a = flat a := by
  obtain ⟨hhas, hcell⟩ := Option.ite_none_right_eq_some.1 (h a ha)
  exact ⟨hhas, Option.some.inj hcell⟩

theorem paged (h : (Component.paged p).Holds window flat) {a : Int} (ha : window.has a = true) :
    p.byte? a = some (flat a) :=
  h a ha

theorem of_bare_eq {c d : Component} (h : c.Holds window flat) (hbare : d.bare = c.bare) :
    d.Holds window flat := by
  intro a ha
  rw [← byte?_bare, hbare, byte?_bare, h a ha]

theorem buffer_admits (h : (Component.buffer b).Holds window flat)
    (hin : window.Includes address count) : b.admits address count = true := by
  by_cases hcount : 0 < count
  · exact Buffer.admits_of_has hcount fun a hlow hhigh => (h.buffer (hin.has hlow hhigh)).1
  · have hfirst := Span.has_iff.1 (h.buffer hin.first).1
    unfold Buffer.span at hfirst
    dsimp only at hfirst
    exact Buffer.admits_iff.2 ⟨hfirst.1, by omega⟩

theorem paged_hasBytes (h : (Component.paged p).Holds window flat)
    (hin : window.Includes address count) : p.HasBytes address count := by
  intro a hlow hhigh
  rw [h.paged (hin.has hlow hhigh), Option.isSome_some]

theorem paged_number (h : (Component.paged p).Holds window flat)
    (hin : window.Includes address count) :
    Cells.number (p.bytes address count) = flat.load address count := by
  unfold Cells.load Paged.bytes
  rw [Cells.bytes_eq_map]
  refine congrArg Cells.number (List.map_congr_left fun i hi => ?_)
  have hcount := List.mem_range.1 hi
  rw [h.paged (hin.has (by omega) (by omega)), Option.getD_some]

end Component.Holds

omit [Machine] in
/-- Loads in a window see the bytes of the window only. -/
theorem Span.Includes.load_congr {window : Span} {address : Int} {count : Nat}
    (hin : window.Includes address count) {cells flat : Cells}
    (h : ∀ a, window.has a = true → cells a = flat a) :
    cells.load address count = flat.load address count :=
  congrArg Cells.number (Cells.bytes_congr fun _ hlow hhigh => h _ (hin.has hlow hhigh))

namespace Space

open Step

variable {s t : Space} {ref leaf : Ref} {window : Span} {flat : Cells} {c : Component}
  {address : Int} {count : Nat}

section Leaf

variable (hc : s.components[leaf]? = some c) (h : c.Holds window flat)
  (hin : window.Includes address count) (hlimit : count < Machine.bytes)
include hc h hin hlimit

/-- A load in a window gives the bytes of the flat memory. -/
theorem run_readWithin_of_holds (depth : Nat) :
    (readWithin (depth + 1) leaf address count).run s = (.ok (flat.load address count), s) := by
  unfold readWithin
  rw [run_bind, run_current]
  dsimp only
  rw [hc]
  cases c with
  | buffer b =>
    have hload := hin.load_congr fun a ha => (h.buffer ha).2
    exact run_ofOutcome_eq_ok.2 ⟨hload ▸ Buffer.read_eq (h.buffer_admits hin), rfl⟩
  | paged p =>
    have hread := Paged.read_eq hlimit (h.paged_hasBytes hin)
    rw [h.paged_number hin] at hread
    exact run_ofOutcome_eq_ok.2 ⟨hread, rfl⟩
  | bus b => cases h address hin.first
  | hollow => cases h address hin.first

/-- A store in a window changes the bytes as it does in the flat memory. -/
theorem exists_run_writeWithin_of_holds (depth : Nat) (value : Int) :
    ∃ d, (writeWithin (depth + 1) leaf address count value).run s = (.ok (), s.put leaf d) ∧
      d.Holds window (flat.store address count (Cells.lowBytes count value)) := by
  unfold writeWithin
  rw [run_bind, run_current]
  dsimp only
  rw [hc]
  cases c with
  | buffer b =>
    dsimp only
    rw [Buffer.write_eq (h.buffer_admits hin), ofOutcome_ok, pure_bind]
    refine ⟨_, rfl, fun a ha => ?_⟩
    obtain ⟨hhas, hcell⟩ := h.buffer ha
    exact Option.ite_none_right_eq_some.2 ⟨hhas, congrArg some (Cells.store_congr hcell _ _ _)⟩
  | paged p =>
    obtain ⟨n, hn⟩ := Paged.exists_write hlimit (h.paged_hasBytes hin) value
    obtain ⟨-, hbytes⟩ := Paged.write_eq_ok hn
    dsimp only
    rw [hn, ofOutcome_ok, pure_bind]
    refine ⟨_, rfl, fun a ha => (hbytes a).trans ?_⟩
    by_cases hstored : address ≤ a ∧ a < address + count
    · rw [if_pos hstored, Cells.store_inside hstored, Cells.byteAt_lowBytes (by omega)]
    · rw [if_neg hstored, Cells.store_outside hstored, h.paged ha]
  | bus b => cases h address hin.first
  | hollow => cases h address hin.first

end Leaf

/-- Whether a memory is the one that stands behind it in a window, or a bus with regions for all of
the window that lead there. -/
inductive Fronts (s : Space) (window : Span) (leaf : Ref) : Ref → Prop
  | itself : Fronts s window leaf leaf
  | bus {ref : Ref} {b : Bus} (hb : s.bus? ref = some b)
      (h : ∀ a, window.has a = true → ∃ r, b.find? a = some r ∧ r.target = leaf) :
      Fronts s window leaf ref

/-- Whether the memory with a number has the bytes of a flat memory in a window. -/
def Carries (ref : Ref) (window : Span) (flat : Cells) (s : Space) : Prop :=
  ∃ leaf c, s.components[leaf]? = some c ∧ c.Holds window flat ∧ s.Fronts window leaf ref

theorem Fronts.of_regions_eq (h : s.Fronts window leaf ref)
    (hbus : (s.bus? ref).map Bus.regions = (t.bus? ref).map Bus.regions) :
    t.Fronts window leaf ref := by
  cases h with
  | itself => exact .itself
  | @bus _ b hb h =>
    rw [hb] at hbus
    obtain ⟨d, hd, hregions⟩ := Option.map_eq_some_iff.1 hbus.symm
    refine .bus hd fun a ha => ?_
    obtain ⟨r, hr, htarget⟩ := h a ha
    refine ⟨r, ?_, htarget⟩
    unfold Bus.find? at hr ⊢
    rwa [hregions]

namespace Carries

theorem of_alike (h : s.Carries ref window flat) (ht : s.Alike t) : t.Carries ref window flat := by
  obtain ⟨leaf, c, hc, hholds, hfronts⟩ := h
  obtain ⟨d, hd, hbare⟩ := ht.exists_component hc
  exact ⟨leaf, d, hd, hholds.of_bare_eq hbare, hfronts.of_regions_eq (ht.regions_eq ref)⟩

section Access

variable (h : s.Carries ref window flat) (hin : window.Includes address count)
  (hlimit : count < Machine.bytes)
include h hin hlimit

theorem read : ∃ t, (Space.read ref address count).run s = (.ok (flat.load address count), t) ∧
    t.Carries ref window flat := by
  have halike : s.Alike ((Space.read ref address count).run s).2 := alike_read s ref address count
  refine ⟨_, Prod.ext ?_ rfl, h.of_alike halike⟩
  obtain ⟨leaf, c, hc, hholds, hfronts⟩ := h
  obtain ⟨n, hn⟩ := exists_depth hc
  rw [run_read, hn]
  cases hfronts with
  | itself => rw [run_readWithin_of_holds hc hholds hin hlimit]
  | bus hb hbus =>
    obtain ⟨r, hr, rfl⟩ := hbus address hin.first
    rw [run_readWithin_of_bus hb hr,
      run_bind_of_ok (run_readWithin_of_holds hc hholds hin hlimit n)]
    rfl

theorem write (value : Int) :
    ∃ t, (Space.write ref address count value).run s = (.ok (), t) ∧
      t.Carries ref window (flat.store address count (Cells.lowBytes count value)) := by
  obtain ⟨leaf, c, hc, hholds, hfronts⟩ := h
  obtain ⟨n, hn⟩ := exists_depth hc
  rw [run_write, hn]
  cases hfronts with
  | itself =>
    obtain ⟨d, hrun, hd⟩ := exists_run_writeWithin_of_holds hc hholds hin hlimit (n + 1) value
    exact ⟨_, hrun, ref, d, component_put_self (lt_length_of_component hc) d, hd, .itself⟩
  | @bus _ b hb hbus =>
    obtain ⟨r, hr, rfl⟩ := hbus address hin.first
    have hne : ref ≠ r.target := by
      rintro rfl
      cases hc.symm.trans (component_of_bus hb)
      cases hholds address hin.first
    have halike := (alike_reportOn s b r ⟨.store, address, count, value⟩).trans
      (alike_recordOn _ ref ⟨.store, address, count, value⟩)
    obtain ⟨e, he, hbare⟩ := halike.exists_component hc
    obtain ⟨d, hrun, hd⟩ :=
      exists_run_writeWithin_of_holds he (hholds.of_bare_eq hbare) hin hlimit n value
    refine ⟨_, (run_writeWithin_of_bus hb hr (n + 1) count value).trans hrun, r.target, d,
      component_put_self (lt_length_of_component he) d, hd, ?_⟩
    refine (Fronts.bus hb hbus).of_regions_eq ?_
    rw [bus?_put_of_ne hne]
    exact halike.regions_eq ref

end Access

end Carries

/-- Whether the memories with a number in two spaces have the same bytes in a window. -/
def Agree (ref : Ref) (window : Span) (s t : Space) : Prop :=
  ∃ flat, s.Carries ref window flat ∧ t.Carries ref window flat

end Space

/-- Whether a request loads or stores bytes of a memory in a window. -/
def Request.IsWithin (ref : Ref) (window : Span) : Request → Prop
  | .read q address size =>
    q = ref ∧ 1 ≤ size ∧ window.base ≤ address ∧ address + size ≤ window.stop
  | .write q address size _ =>
    q = ref ∧ 1 ≤ size ∧ window.base ≤ address ∧ address + size ≤ window.stop
  | _ => False

/-- An access of bytes in a small window. -/
theorem Span.exists_includes {window : Span} (hwindow : window.stop - window.base < Machine.bytes)
    {address size : Int} (hone : 1 ≤ size) (hbase : window.base ≤ address)
    (hstop : address + size ≤ window.stop) :
    ∃ count : Nat, size = count ∧ window.Includes address count ∧ count < Machine.bytes := by
  obtain ⟨count, rfl⟩ := Int.eq_ofNat_of_zero_le (show 0 ≤ size by omega)
  exact ⟨count, rfl, ⟨Span.has_iff.2 ⟨hbase, by omega⟩, hstop⟩, by omega⟩

namespace Space

open Step

variable {s t : Space} {ref : Ref} {window : Span}

namespace Agree

variable (h : s.Agree ref window t) (hwindow : window.stop - window.base < Machine.bytes)
include h hwindow

/-- Neither of two memories that agree in a window shows by an access there which of them it is. -/
theorem perform {q : Request} (hq : q.IsWithin ref window) : ∃ answer,
    (q.perform.run s).1 = .ok answer ∧ (q.perform.run t).1 = .ok answer ∧
      (s.afterOne q).Agree ref window (t.afterOne q) := by
  obtain ⟨flat, hs, ht⟩ := h
  cases q with
  | read q address size =>
    obtain ⟨rfl, hone, hbase, hstop⟩ := hq
    obtain ⟨count, rfl, hin, hlimit⟩ := Span.exists_includes hwindow hone hbase hstop
    obtain ⟨u, hu, hsu⟩ := hs.read hin hlimit
    obtain ⟨v, hv, htv⟩ := ht.read hin hlimit
    unfold afterOne Request.perform
    rw [run_bind_of_ok hu, run_bind_of_ok hv]
    exact ⟨_, rfl, rfl, flat, hsu, htv⟩
  | write q address size value =>
    obtain ⟨rfl, hone, hbase, hstop⟩ := hq
    obtain ⟨count, rfl, hin, hlimit⟩ := Span.exists_includes hwindow hone hbase hstop
    obtain ⟨u, hu, hsu⟩ := hs.write hin hlimit value
    obtain ⟨v, hv, htv⟩ := ht.write hin hlimit value
    unfold afterOne Request.perform
    rw [run_bind_of_ok hu, run_bind_of_ok hv]
    exact ⟨_, rfl, rfl, _, hsu, htv⟩
  | _ => exact hq.elim

/-- Nor does any run of them show it. -/
theorem exchanges {qs : List Request} (hqs : ∀ q ∈ qs, q.IsWithin ref window) :
    s.exchanges qs = t.exchanges qs ∧ ∀ x ∈ s.exchanges qs, ∃ answer, x.outcome = .ok answer := by
  induction qs generalizing s t with
  | nil => exact ⟨rfl, List.forall_mem_nil _⟩
  | cons q qs ih =>
    obtain ⟨hq, hqs⟩ := List.forall_mem_cons.1 hqs
    obtain ⟨answer, hs, ht, hagree⟩ := h.perform hwindow hq
    obtain ⟨hsame, hmet⟩ := ih hagree hqs
    unfold Space.exchanges
    rw [hs, ht, hsame]
    exact ⟨rfl, List.forall_mem_cons.2 ⟨⟨answer, rfl⟩, hsame ▸ hmet⟩⟩

end Agree

theorem afterOne_read (s : Space) (ref : Ref) (address size : Int) :
    s.afterOne (.read ref address size) = ((read ref address size).run s).2 := by
  unfold afterOne Request.perform
  rw [Step.run_bind]
  rcases (read ref address size).run s with ⟨_ | _, _⟩ <;> rfl

/-- Loads change no bytes. -/
theorem alike_after_loads {qs : List Request}
    (h : ∀ q ∈ qs, ∃ ref address size, q = .read ref address size) : s.Alike (s.after qs) := by
  induction qs generalizing s with
  | nil => exact .refl s
  | cons q qs ih =>
    obtain ⟨⟨ref, address, size, rfl⟩, hqs⟩ := List.forall_mem_cons.1 h
    have halike := alike_read s ref address size
    rw [← afterOne_read] at halike
    exact halike.trans (ih hqs)

/-- A bus whose one region is a buffer of its own has what that buffer holds. -/
theorem Mirrors.carries {name : String} {leaf : Ref} {flat : Cells}
    (h : s.Mirrors ref [⟨name, window, leaf⟩] flat) : s.Carries ref window flat := by
  obtain ⟨b, hb, hregions⟩ := lists_iff.1 h.lists
  obtain ⟨d, hd, hspan, hcells⟩ := h.owned _ List.mem_cons_self
  refine ⟨leaf, _, hd, fun a ha => ?_, .bus hb fun a ha => ⟨⟨name, window, leaf⟩, ?_, rfl⟩⟩
  · rw [← hcells a ha]
    exact if_pos (hspan ▸ ha)
  · rw [← hregions] at h
    exact (Bus.find?_eq_some_iff h.arranged).2 ⟨hregions ▸ List.mem_cons_self, ha⟩

end Space

end Memory

end RegisterMap
