import Mathlib.Tactic.Common
import RegisterMap.Memory.Space
import RegisterMap.Proofs.Preservation

/-!
# Memories of a space

What is found under a number after a memory has been added or replaced, and what loads and stores
keep. A load changes nothing but the histories of buses and the messages; a store changes one memory
besides.
-/

namespace RegisterMap.Memory

variable [Machine]

namespace Component

def bus? : Component → Option Bus
  | .bus b => some b
  | _ => none

end Component

namespace Space

open Step

variable {s t : Space} {ref q : Ref} {b : Bus} {c : Component}

theorem bus?_eq (s : Space) (ref : Ref) : s.bus? ref = s.components[ref]?.bind Component.bus? := by
  unfold bus?
  split
  · next h => rw [h]; rfl
  · next h =>
    cases hc : s.components[ref]? with
    | none => rfl
    | some c =>
      cases c with
      | bus b => exact absurd hc (h b)
      | _ => rfl

theorem component_of_bus (h : s.bus? ref = some b) : s.components[ref]? = some (.bus b) := by
  unfold bus? at h
  split at h
  · next c hc =>
    cases h
    exact hc
  · cases h

theorem bus?_of_component (h : s.components[ref]? = some (.bus b)) : s.bus? ref = some b := by
  rw [bus?_eq, h]
  rfl

theorem lt_length_of_component (h : s.components[ref]? = some c) : ref < s.components.length :=
  (List.getElem?_eq_some_iff.1 h).1

theorem length_put (s : Space) (ref : Ref) (c : Component) :
    (s.put ref c).components.length = s.components.length :=
  List.length_set

theorem length_add (s : Space) (c : Component) :
    (s.add c).components.length = s.components.length + 1 :=
  List.length_append

theorem component_put_self (h : ref < s.components.length) (c : Component) :
    (s.put ref c).components[ref]? = some c :=
  List.getElem?_set_self h

theorem component_put_of_ne (h : q ≠ ref) (s : Space) (c : Component) :
    (s.put ref c).components[q]? = s.components[q]? :=
  List.getElem?_set_ne h.symm

theorem component_add_self (s : Space) (c : Component) :
    (s.add c).components[s.components.length]? = some c :=
  List.getElem?_concat_length

theorem component_add_of_lt (h : q < s.components.length) (c : Component) :
    (s.add c).components[q]? = s.components[q]? :=
  List.getElem?_append_left h

theorem component_add_of_some {d : Component} (h : s.components[q]? = some d) (c : Component) :
    (s.add c).components[q]? = some d := by
  rw [component_add_of_lt (lt_length_of_component h), h]

theorem bus?_put_self (h : s.bus? ref = some b) (c : Bus) :
    (s.put ref (.bus c)).bus? ref = some c := by
  have hlt := lt_length_of_component (component_of_bus h)
  rw [bus?_eq, component_put_self hlt]
  rfl

theorem bus?_put_of_ne (h : q ≠ ref) (s : Space) (c : Component) :
    (s.put ref c).bus? q = s.bus? q := by
  rw [bus?_eq, bus?_eq, component_put_of_ne h]

theorem run_theBus_of_some (h : s.bus? ref = some b) : (theBus ref).run s = (.ok b, s) := by
  unfold theBus
  rw [run_bind, run_current]
  simp only [h, run_pure]

theorem run_theBus_eq_ok (h : (theBus ref).run s = (.ok b, t)) : s.bus? ref = some b ∧ t = s := by
  unfold theBus at h
  rw [run_bind, run_current] at h
  dsimp only at h
  split at h
  · next hb =>
    cases h
    exact ⟨hb, rfl⟩
  · cases h

theorem theBus_keeps (P : Space → Prop) (ref : Ref) : (theBus ref).Keeps P := by
  refine keeps_current.bind fun s => ?_
  split
  · exact keeps_pure _
  · exact keeps_fail _

theorem run_createBuffer (s : Space) (base size : Int) : (createBuffer base size).run s =
    match Buffer.ofSize base size with
    | .ok buffer => (.ok s.components.length, s.add (.buffer buffer))
    | .error e => (.error e, s) := by
  unfold createBuffer
  rw [run_bind, run_ofOutcome]
  cases Buffer.ofSize base size <;> rfl

/-- Where there is a memory at all, an access can pass a bus. -/
theorem exists_depth (h : s.components[ref]? = some c) : ∃ n, s.depth = n + 1 + 1 := by
  have hpos : 0 < s.components.length := Nat.zero_lt_of_lt (lt_length_of_component h)
  exact ⟨s.components.length - 1, by unfold depth; omega⟩

theorem run_read (s : Space) (ref : Ref) (address size : Int) :
    (read ref address size).run s = (readWithin s.depth ref address size).run s := rfl

theorem run_write (s : Space) (ref : Ref) (address size value : Int) :
    (write ref address size value).run s = (writeWithin s.depth ref address size value).run s := rfl

section Routing

variable {r : Region} {address : Int} (hb : s.bus? ref = some b) (hr : b.find? address = some r)
include hb hr

/-- A bus hands a load on and takes note of it when it has come back. -/
theorem run_readWithin_of_bus (depth : Nat) (size : Int) :
    (readWithin (depth + 1) ref address size).run s = (do
      let value ← readWithin depth r.target address size
      change (recordOn ref ⟨.load, address, size, value⟩)
      change (reportOn b r ⟨.load, address, size, value⟩)
      pure value : Step Space Fault Nat).run s := by
  rw [readWithin, run_bind, run_current]
  simp only [component_of_bus hb, hr]

/-- A bus takes note of a store and hands it on. -/
theorem run_writeWithin_of_bus (depth : Nat) (size value : Int) :
    (writeWithin (depth + 1) ref address size value).run s =
      (writeWithin depth r.target address size value).run
        (recordOn ref ⟨.store, address, size, value⟩
          (reportOn b r ⟨.store, address, size, value⟩ s)) := by
  rw [writeWithin, run_bind, run_current]
  simp only [component_of_bus hb, hr]
  rfl

end Routing

section Keeping

variable {P : Space → Prop} (hsay : ∀ r s, P s → P (s.say r))
  (hrecord : ∀ ref b a s, s.bus? ref = some b → P s → P (s.put ref (.bus (b.record a))))
include hsay hrecord

omit hsay in
theorem recordOn_keeps {ref : Ref} {a : Access} (h : P s) : P (recordOn ref a s) := by
  unfold recordOn
  split
  · next b hb => exact hrecord ref b a s hb h
  · exact h

omit hrecord in
theorem reportOn_keeps {b : Bus} {r : Region} {a : Access} (h : P s) : P (reportOn b r a s) := by
  unfold reportOn
  split
  · exact hsay _ s h
  · exact h

/-- What reports and records keep, loads keep. -/
theorem readWithin_keeps_of (depth : Nat) (ref : Ref) (address size : Int) :
    (readWithin depth ref address size).Keeps P := by
  induction depth generalizing ref with
  | zero => exact keeps_fail _
  | succ depth ih =>
    unfold readWithin
    refine keeps_current.bind fun s => ?_
    split
    · exact keeps_fail _
    · exact keeps_fail _
    · exact keeps_ofOutcome _
    · exact keeps_ofOutcome _
    · next b _ =>
      split
      · exact keeps_fail _
      · next r _ =>
        refine (ih r.target).bind fun value => ?_
        refine (keeps_change fun s hs => recordOn_keeps hrecord hs).bind fun _ => ?_
        refine (keeps_change fun s hs => reportOn_keeps hsay hs).bind fun _ => ?_
        exact keeps_pure _

/-- What reports, records and changes of storage keep, stores keep. -/
theorem writeWithin_keeps_of
    (hbuffer : ∀ ref b c s, s.components[ref]? = some (.buffer b) → P s →
      P (s.put ref (.buffer c)))
    (hpaged : ∀ ref p m s, s.components[ref]? = some (.paged p) → P s →
      P (s.put ref (.paged m)))
    (depth : Nat) (ref : Ref) (address size value : Int) :
    (writeWithin depth ref address size value).Keeps P := by
  induction depth generalizing ref with
  | zero => exact keeps_fail _
  | succ depth ih =>
    unfold writeWithin
    refine keeps_current_bind fun s hs => ?_
    split
    · exact hs
    · exact hs
    · next b hb =>
      refine keeps_outcome_bind hs fun c _ => ?_
      exact hbuffer ref b c s hb hs
    · next p hp =>
      refine keeps_outcome_bind hs fun m _ => ?_
      exact hpaged ref p m s hp hs
    · next b _ =>
      split
      · exact hs
      · next r _ =>
        refine (keeps_change fun s hs => reportOn_keeps hsay hs).bind (fun _ => ?_) s hs
        refine (keeps_change fun s hs => recordOn_keeps hrecord hs).bind fun _ => ?_
        exact ih r.target

/-- What reports and records keep, stores keep that fail. -/
theorem writeWithin_keepsIfFails_of (depth : Nat) (ref : Ref) (address size value : Int) :
    (writeWithin depth ref address size value).KeepsIfFails P := by
  induction depth generalizing ref with
  | zero => exact (keeps_fail _).keepsIfFails
  | succ depth ih =>
    unfold writeWithin
    refine keeps_current.bind_keepsIfFails fun s => ?_
    split
    · exact (keeps_fail _).keepsIfFails
    · exact (keeps_fail _).keepsIfFails
    · exact (keeps_ofOutcome _).bind_keepsIfFails fun b => keepsIfFails_change _
    · exact (keeps_ofOutcome _).bind_keepsIfFails fun p => keepsIfFails_change _
    · next b _ =>
      split
      · exact (keeps_fail _).keepsIfFails
      · next r _ =>
        refine (keeps_change fun s hs => reportOn_keeps hsay hs).bind_keepsIfFails fun _ => ?_
        refine (keeps_change fun s hs => recordOn_keeps hrecord hs).bind_keepsIfFails fun _ => ?_
        exact ih r.target

end Keeping

end Space

end RegisterMap.Memory
