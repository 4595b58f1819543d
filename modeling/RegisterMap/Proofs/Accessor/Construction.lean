import RegisterMap.Accessor.Device
import RegisterMap.Outcome
import RegisterMap.Proofs.Accessor.Members

/-!
# Building devices

When a class has a device at a base address, and which handles the device then has: one for each
slot, where a later slot takes the place of an earlier one that is kept under the same name.
-/

namespace RegisterMap.AccessorClass

def handleOf (k : AccessorClass) (base : Int) (s : Slot) : Handle :=
  ⟨s.capability, base + s.offset.value, s.offset.value, k.code.word⟩

/-- The name under which a class keeps the handle of a slot. -/
def slotName (k : AccessorClass) (s : Slot) : String :=
  memberName k.code.className s.register

/-- A slot whose name a device can take a handle by, whatever the base. -/
structure Takes (k : AccessorClass) (s : Slot) : Prop where
  visible : k.hides s.capability.handleName = false
  assignable : k.claims "__setattr__" = false
  known : k.slotName s ∈ k.slots ∨ k.claims "__dict__" = true
  ne_weakref : k.slotName s ≠ "__weakref__"
  ne_dict : k.slotName s ≠ "__dict__"

/-- The handles with one more for each slot. -/
def handles (k : AccessorClass) (base : Int) (slots : List Slot)
    (known : List (String × Handle)) : List (String × Handle) :=
  slots.foldl (fun known s => bind known (k.slotName s) (k.handleOf base s)) known

theorem makeHandle_eq_ok {k : AccessorClass} {base : Int} {s : Slot} {h : Handle} :
    k.makeHandle base s = .ok h ↔ k.hides s.capability.handleName = false ∧
      base + s.offset.value ≠ 0 ∧ h = k.handleOf base s := by
  unfold makeHandle Handle.ofOffset
  cases k.hides s.capability.handleName with
  | true => simp
  | false =>
    by_cases hz : base + s.offset.value = 0
    · simp [hz]
    · simp [hz, handleOf, eq_comm]

theorem assign_eq_ok {k : AccessorClass} {s : Slot} {h : Handle}
    {known after : List (String × Handle)} :
    k.assign s h known = .ok after ↔ (k.claims "__setattr__" = false ∧
      (k.slotName s ∈ k.slots ∨ k.claims "__dict__" = true) ∧ k.slotName s ≠ "__weakref__" ∧
      k.slotName s ≠ "__dict__") ∧ after = bind known (k.slotName s) h := by
  unfold assign
  simp only [← slotName.eq_def]
  by_cases hrefused : (k.claims "__setattr__" || !(k.slots.contains (k.slotName s) ||
      k.claims "__dict__") || k.slotName s == "__weakref__") = true
  · rw [if_pos hrefused]
    simp only [Bool.or_eq_true, Bool.not_eq_true', Bool.or_eq_false_iff] at hrefused
    rcases hrefused with (hs | ⟨hk, hd⟩) | hw
    · simp [hs]
    · have hk : k.slotName s ∉ k.slots := by simpa using hk
      simp [hk, hd]
    · simp [eq_of_beq hw]
  · rw [if_neg hrefused]
    simp only [Bool.or_eq_true, Bool.not_eq_true', Bool.or_eq_false_iff, not_or, not_and,
      Bool.not_eq_false, Bool.not_eq_true, beq_eq_false_iff_ne] at hrefused
    obtain ⟨⟨hs, hk⟩, hw⟩ := hrefused
    have hk : k.slotName s ∈ k.slots ∨ k.claims "__dict__" = true := by
      by_cases hmem : k.slotName s ∈ k.slots
      · exact .inl hmem
      · exact .inr (hk (by simpa using hmem))
    by_cases hd : k.slotName s = "__dict__"
    · simp [hd]
    · have hd' : (k.slotName s == "__dict__") = false := beq_false_of_ne hd
      rw [hd', if_neg Bool.false_ne_true]
      constructor
      · rintro ⟨⟩
        exact ⟨⟨hs, hk, hw, hd⟩, rfl⟩
      · rintro ⟨-, rfl⟩
        rfl

/-- A device takes its handles exactly when it can take each of them. -/
theorem fill_eq_ok {k : AccessorClass} {base : Int} {slots : List Slot}
    {known after : List (String × Handle)} :
    k.fill base known slots = .ok after ↔
      (∀ s ∈ slots, k.Takes s ∧ base + s.offset.value ≠ 0) ∧
        after = k.handles base slots known := by
  induction slots generalizing known with
  | nil => simp [fill, handles, eq_comm]
  | cons s slots ih =>
    rw [fill, bind_eq_ok]
    constructor
    · rintro ⟨h, hh, hrest⟩
      obtain ⟨more, hm, hrest⟩ := bind_eq_ok.1 hrest
      obtain ⟨hv, hz, rfl⟩ := makeHandle_eq_ok.1 hh
      obtain ⟨⟨ha, hk, hw, hd⟩, rfl⟩ := assign_eq_ok.1 hm
      obtain ⟨hall, rfl⟩ := ih.1 hrest
      exact ⟨List.forall_mem_cons.2 ⟨⟨⟨hv, ha, hk, hw, hd⟩, hz⟩, hall⟩, rfl⟩
    · rintro ⟨hall, rfl⟩
      obtain ⟨⟨⟨hv, ha, hk, hw, hd⟩, hz⟩, hall⟩ := List.forall_mem_cons.1 hall
      refine ⟨_, makeHandle_eq_ok.2 ⟨hv, hz, rfl⟩, bind_eq_ok.2 ⟨_, assign_eq_ok.2
        ⟨⟨ha, hk, hw, hd⟩, rfl⟩, ih.2 ⟨hall, rfl⟩⟩⟩

/-- When there is a device at a base address, and which one. -/
theorem construct_eq_ok {checks : Bool} {k : AccessorClass} {base : Int} {d : Device} :
    k.construct checks base = .ok d ↔ k.claims "__new__" = false ∧
      k.checkBase checks base = .ok () ∧
      (∀ s ∈ k.code.slots, k.Takes s ∧ base + s.offset.value ≠ 0) ∧
      d = ⟨k, base, k.handles base k.code.slots []⟩ := by
  unfold construct
  cases k.claims "__new__" with
  | true => simp
  | false =>
    rw [if_neg (by simp), bind_eq_ok]
    constructor
    · rintro ⟨_, hb, h⟩
      obtain ⟨after, hf, h⟩ := bind_eq_ok.1 h
      obtain ⟨hall, rfl⟩ := fill_eq_ok.1 hf
      cases h
      exact ⟨rfl, hb, hall, rfl⟩
    · rintro ⟨-, hb, hall, rfl⟩
      exact ⟨(), hb, bind_eq_ok.2 ⟨_, fill_eq_ok.2 ⟨hall, rfl⟩, rfl⟩⟩

end RegisterMap.AccessorClass
