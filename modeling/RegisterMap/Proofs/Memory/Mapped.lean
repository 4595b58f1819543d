import RegisterMap.Proofs.Memory.Flat

/-!
# Buses of buffers

A bus all of whose regions stand for buffers, which may be longer or shorter than the regions and
stand behind several of them. An access fails there for one reason only: nothing answers at its
address, or the buffer that does ends before the access, which may be too long to be named. A load
keeps the memories as they are, and so does a store that fails.
-/

namespace RegisterMap.Memory.Space

variable [Machine]

open Step

variable {s t : Space} {ref : Ref}

/-- Whether there is a bus with a number, and all its regions stand for buffers. -/
def HasBuffers (ref : Ref) (s : Space) : Prop :=
  ∃ b, s.bus? ref = some b ∧ ∀ r ∈ b.regions, ∃ d, s.components[r.target]? = some (.buffer d)

theorem HasBuffers.of_alike (h : s.HasBuffers ref) (ht : s.Alike t) : t.HasBuffers ref := by
  obtain ⟨b, hb, hregions⟩ := h
  obtain ⟨c, hc, hbare⟩ := ht.exists_component (component_of_bus hb)
  obtain ⟨b', rfl, heq⟩ := Component.bare_eq_bus hbare
  refine ⟨b', bus?_of_component hc, fun r hr => ?_⟩
  obtain ⟨d, hd⟩ := hregions r (heq ▸ hr)
  obtain ⟨c, hc, hbare⟩ := ht.exists_component hd
  exact ⟨d, Component.bare_eq_buffer hbare ▸ hc⟩

theorem HasBuffers.put {q : Ref} {d : Buffer} (h : s.HasBuffers ref)
    (hd : s.components[q]? = some (.buffer d)) (c : Buffer) :
    (s.put q (.buffer c)).HasBuffers ref := by
  obtain ⟨b, hb, hregions⟩ := h
  have hne : ref ≠ q := by
    rintro rfl
    cases hd.symm.trans (component_of_bus hb)
  refine ⟨b, by rw [bus?_put_of_ne hne, hb], fun r hr => ?_⟩
  by_cases hq : r.target = q
  · rw [hq]
    exact ⟨c, component_put_self (lt_length_of_component hd) _⟩
  · rw [component_put_of_ne hq]
    exact hregions r hr

theorem HasBuffers.put_bus {b c : Bus} (h : s.HasBuffers ref) (hb : s.bus? ref = some b)
    (hregions : c.regions = b.regions) : (s.put ref (.bus c)).HasBuffers ref := by
  obtain ⟨b', hb', hleads⟩ := h
  cases hb.symm.trans hb'
  refine ⟨c, bus?_put_self hb c, fun r hr => ?_⟩
  obtain ⟨d, hd⟩ := hleads r (hregions ▸ hr)
  have hne : r.target ≠ ref := by
    intro htarget
    cases hd.symm.trans (htarget ▸ component_of_bus hb)
  rw [component_put_of_ne hne]
  exact ⟨d, hd⟩

/-- What an access to a bus of buffers fails with. -/
def Misses (e : Fault) : Prop :=
  Failure.memoryCategory e = .key ∨ e = .longNumber

theorem misses_refusal (b : Buffer) (address size : Int) : Misses (b.refusal address size) :=
  (b.refuses_refusal address size).imp_right And.left

/-- A load leaves all memories as they are and fails only where nothing answers. -/
theorem read_failsOnly (h : s.HasBuffers ref) (address size : Int) :
    (read ref address size).FailsOnly (fun t => s.Alike t) Misses := by
  refine ⟨fun t ht => ht.trans (alike_read t ref address size), fun t e u ht hrun => ?_⟩
  obtain ⟨b, hb, hregions⟩ := h.of_alike ht
  cases hr : b.find? address with
  | none =>
    cases (run_read_of_none hb hr size).symm.trans hrun
    exact .inl rfl
  | some r =>
    obtain ⟨d, hd⟩ := hregions r (Bus.mem_and_has_of_find? hr).1
    obtain ⟨v, -, hv⟩ := exists_run_read hb hr hd size
    have hfails : d.read address size = .error e := congrArg Prod.fst (hv.symm.trans hrun)
    rw [Buffer.read] at hfails
    split at hfails <;> cases hfails
    exact misses_refusal d address size

theorem write_keepsIfFails (s : Space) (ref : Ref) (address size value : Int) :
    (write ref address size value).KeepsIfFails fun t => s.Alike t :=
  fun _ _ _ ht hrun => ht.trans (write_eq_error hrun)

/-- A store keeps a bus of buffers and fails only where nothing answers. -/
theorem write_failsOnly (ref : Ref) (address : Int) {size : Int} (hsize : 0 ≤ size) (value : Int) :
    (write ref address size value).FailsOnly (HasBuffers ref) Misses := by
  have hwrite : ∀ s : Space, s.HasBuffers ref →
      ((write ref address size value).run s).2.HasBuffers ref ∧
        ∀ e t, (write ref address size value).run s = (.error e, t) → Misses e := by
    rintro s ⟨b, hb, hregions⟩
    cases hr : b.find? address with
    | none =>
      rw [run_write_of_none hb hr]
      refine ⟨⟨b, hb, hregions⟩, ?_⟩
      rintro e t ⟨⟩
      exact .inl rfl
    | some r =>
      obtain ⟨d, hd⟩ := hregions r (Bus.mem_and_has_of_find? hr).1
      obtain ⟨u, halike, hu⟩ := exists_run_write hb hr hd size value
      have hkept := HasBuffers.of_alike ⟨b, hb, hregions⟩ halike
      obtain ⟨c, hc, hbare⟩ := halike.exists_component hd
      obtain rfl := Component.bare_eq_buffer hbare
      rw [hu]
      cases hd' : d.write address size value with
      | ok c => exact ⟨hkept.put hc c, nofun⟩
      | error e =>
        refine ⟨hkept, ?_⟩
        rintro e' t ⟨⟩
        obtain ⟨count, rfl⟩ := Int.eq_ofNat_of_zero_le hsize
        by_cases hadmits : d.admits address count = true
        · cases (Buffer.write_eq hadmits value).symm.trans hd'
        · cases (Buffer.write_eq_refusal hadmits value).symm.trans hd'
          exact misses_refusal d address count
  exact ⟨fun s hs => (hwrite s hs).1, fun s e t hs hrun => (hwrite s hs).2 e t hrun⟩

end RegisterMap.Memory.Space
