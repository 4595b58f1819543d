import Mathlib.Data.List.DropRight
import RegisterMap.Proofs.Memory.Flat

/-!
# The history of a bus

A bus takes note of a load when it has come back, but of a store before it hands it on. So its
history is the ledger of the accesses that were completed and of the stores that failed behind the
bus, as far as there is room. Nothing else that fails leaves a trace.
-/

namespace RegisterMap.Memory

namespace Exchange

/-- The access to a memory that an exchange completed. -/
def completed? (ref : Ref) (x : Exchange) : Option Access :=
  match x.request, x.outcome with
  | .read q address size, .ok (.value n) =>
    if q = ref then some ⟨.load, address, size, n⟩ else none
  | .write q address size value, .ok _ =>
    if q = ref then some ⟨.store, address, size, value⟩ else none
  | _, _ => none

/-- The store that found its region and failed behind it. -/
def refused? (ref : Ref) (x : Exchange) : Option Access :=
  match x.request, x.outcome with
  | .write q address size value, .error e =>
    if q = ref ∧ e ≠ .noRegion address then some ⟨.store, address, size, value⟩ else none
  | _, _ => none

/-- What a bus takes note of. -/
def noted? (ref : Ref) (x : Exchange) : Option Access :=
  (x.completed? ref).or (x.refused? ref)

end Exchange

/-- Whether accesses are recorded, and those that were since the last clearing, the oldest first. -/
structure Ledger where
  recording : Bool
  entries : List Access

namespace Ledger

def blank : Ledger :=
  ⟨false, []⟩

def note (l : Ledger) (a : Access) : Ledger :=
  if l.recording then { l with entries := l.entries ++ [a] } else l

/-- The ledger after one more exchange with a bus, where `seen` tells the access to note. -/
def enter (ref : Ref) (seen : Exchange → Option Access) (l : Ledger) (x : Exchange) : Ledger :=
  match x.request with
  | .record q on => if q = ref then { l with recording := on } else l
  | .clearHistory q => if q = ref then { l with entries := [] } else l
  | _ => (seen x).elim l l.note

def ofExchanges (ref : Ref) (seen : Exchange → Option Access) (xs : List Exchange) : Ledger :=
  xs.foldl (enter ref seen) blank

variable {ref : Ref} {l : Ledger} {xs : List Exchange}

section Enter

variable (ref : Ref) (l : Ledger) (q : Ref) (address size value : Int)

theorem enter_read_ok (n : Nat) :
    l.enter ref (·.noted? ref) ⟨.read q address size, .ok (.value n)⟩ =
      if q = ref then l.note ⟨.load, address, size, n⟩ else l := by
  by_cases hq : q = ref <;>
    simp [enter, Exchange.noted?, Exchange.completed?, Exchange.refused?, hq]

theorem enter_write_ok (answer : Response) :
    l.enter ref (·.noted? ref) ⟨.write q address size value, .ok answer⟩ =
      if q = ref then l.note ⟨.store, address, size, value⟩ else l := by
  by_cases hq : q = ref <;>
    simp [enter, Exchange.noted?, Exchange.completed?, Exchange.refused?, hq]

theorem enter_write_error (e : Fault) :
    l.enter ref (·.noted? ref) ⟨.write q address size value, .error e⟩ =
      if q = ref ∧ e ≠ .noRegion address then l.note ⟨.store, address, size, value⟩ else l := by
  by_cases hq : q = ref ∧ e ≠ .noRegion address <;>
    simp [enter, Exchange.noted?, Exchange.completed?, Exchange.refused?, hq]

end Enter

/-- Without stores that failed behind the bus, the ledger has the completed accesses alone. -/
theorem ofExchanges_noted (h : ∀ x ∈ xs, x.refused? ref = none) :
    ofExchanges ref (·.noted? ref) xs = ofExchanges ref (·.completed? ref) xs := by
  refine List.foldl_ext _ _ _ fun l x hx => ?_
  have hseen : x.noted? ref = x.completed? ref := by
    unfold Exchange.noted?
    rw [h x hx, Option.or_none]
  unfold enter
  simp only [hseen]

end Ledger

namespace Bus

theorem lastOf_eq (room : Nat) (history : List Access) :
    lastOf room history = (history.reverse.take room).reverse :=
  List.rtake_eq_reverse_take_reverse history room

theorem lastOf_nil (room : Nat) : lastOf room [] = [] :=
  List.drop_nil

/-- What has been dropped does not count later. -/
theorem lastOf_lastOf_append (room : Nat) (history : List Access) (a : Access) :
    lastOf room (lastOf room history ++ [a]) = lastOf room (history ++ [a]) := by
  rw [lastOf_eq, lastOf_eq, lastOf_eq, List.reverse_append, List.reverse_append,
    List.reverse_reverse, List.reverse_singleton, List.singleton_append, List.singleton_append]
  cases room with
  | zero => rfl
  | succ room =>
    rw [List.take_succ_cons, List.take_succ_cons, List.take_take,
      Nat.min_eq_left (Nat.le_succ room)]

/-- Whether a bus has room for some accesses and keeps the last of a ledger. -/
structure Follows (size : Nat) (l : Ledger) (b : Bus) : Prop where
  room : b.room = size
  recording : b.recording = l.recording
  history : b.history = lastOf size l.entries

variable {b : Bus} {size : Nat} {l : Ledger}

theorem follows_blank {room : Int} (h : ofRoom room = .ok b) : b.Follows room.toNat .blank := by
  unfold ofRoom at h
  split_ifs at h
  cases h
  exact ⟨rfl, rfl, (lastOf_nil _).symm⟩

namespace Follows

variable (h : b.Follows size l)
include h

theorem record (a : Access) : (b.record a).Follows size (l.note a) := by
  unfold Bus.record Ledger.note
  rw [h.recording]
  by_cases hon : l.recording = true
  · rw [if_pos hon, if_pos hon]
    refine ⟨h.room, rfl, ?_⟩
    dsimp only
    rw [h.room, h.history, lastOf_lastOf_append]
  · rw [if_neg hon, if_neg hon]
    exact h

theorem clearHistory : b.clearHistory.Follows size { l with entries := [] } :=
  ⟨h.room, h.recording, (lastOf_nil _).symm⟩

theorem switch (on : Bool) :
    ({ b with recording := on } : Bus).Follows size { l with recording := on } :=
  ⟨h.room, rfl, h.history⟩

end Follows

end Bus

section

variable [Machine]

theorem Buffer.ne_noRegion_of_write {b : Buffer} {address size value : Int} {e : Fault}
    (h : b.write address size value = .error e) (a : Int) : e ≠ .noRegion a := by
  unfold write at h
  split at h
  · cases hmask : Bits.maskForSize size with
    | error f =>
      rw [hmask] at h
      cases h
      exact Fault.noConfusion
    | ok mask =>
      rw [hmask] at h
      cases h
  · cases h
    unfold refusal
    split <;> exact Fault.noConfusion

theorem Paged.ne_noRegion_of_write {p : Paged} {address size value : Int} {e : Fault}
    (h : p.write address size value = .error e) (a : Int) : e ≠ .noRegion a := by
  unfold write at h
  cases hmask : Bits.maskForSize size with
  | error f =>
    rw [hmask] at h
    cases h
    exact Fault.noConfusion
  | ok mask =>
    rw [hmask] at h
    dsimp only [Except.mapError, bind, Except.bind] at h
    split at h
    · cases h
    · cases h
      exact Fault.noConfusion

namespace Space

open Step

variable {s t : Space} {ref q : Ref} {address size value : Int} {b : Bus} {r : Region}
  {room : Nat} {l : Ledger}

/-- Whether the regions of buses lead to memories other than buses. -/
def IsShallow (s : Space) : Prop :=
  ∀ q b, s.bus? q = some b → ∀ r ∈ b.regions, s.bus? r.target = none

/-- The space after a bus has taken note of an access to a region. -/
def noting (ref : Ref) (b : Bus) (r : Region) (a : Access) (s : Space) : Space :=
  recordOn ref a (reportOn b r a s)

theorem alike_noting (s : Space) (ref : Ref) (b : Bus) (r : Region) (a : Access) :
    s.Alike (s.noting ref b r a) :=
  (alike_reportOn s b r a).trans (alike_recordOn _ ref a)

/-- A load from a memory other than a bus changes nothing. -/
theorem run_readWithin_of_none (h : s.bus? q = none) (depth : Nat) (address size : Int) :
    ((readWithin depth q address size).run s).2 = s := by
  cases depth with
  | zero => rfl
  | succ depth =>
    unfold readWithin
    rw [run_bind, run_current]
    dsimp only
    split
    · rfl
    · rfl
    · rfl
    · rfl
    · next b hb =>
      rw [bus?_of_component hb] at h
      cases h

theorem bus?_put_of_none (h : s.bus? q = none) {c : Component} (hc : c.bus? = none) :
    (s.put q c).bus? = s.bus? := by
  funext p
  by_cases hp : p = q
  · subst hp
    rw [h, bus?_eq, put, List.getElem?_set_self']
    cases s.components[p]? <;> simp [hc]
  · exact bus?_put_of_ne hp s c

/-- A store to a memory other than a bus changes no bus, and if it fails, it changes nothing and has
a reason of its own. -/
theorem run_writeWithin_of_none (h : s.bus? q = none) (depth : Nat) (address size value : Int) :
    (∃ e, e ≠ .noRegion address ∧
      (writeWithin depth q address size value).run s = (.error e, s)) ∨
    ∃ t, (writeWithin depth q address size value).run s = (.ok (), t) ∧ t.bus? = s.bus? := by
  cases depth with
  | zero => exact .inl ⟨.endless, Fault.noConfusion, rfl⟩
  | succ depth =>
    unfold writeWithin
    rw [run_bind, run_current]
    dsimp only
    split
    · exact .inl ⟨.unsupported, Fault.noConfusion, rfl⟩
    · exact .inl ⟨.noStorage, Fault.noConfusion, rfl⟩
    · next c _ =>
      rw [run_bind, run_ofOutcome]
      cases hwrite : c.write address size value with
      | error e => exact .inl ⟨e, Buffer.ne_noRegion_of_write hwrite address, rfl⟩
      | ok d => exact .inr ⟨_, rfl, bus?_put_of_none h rfl⟩
    · next p _ =>
      rw [run_bind, run_ofOutcome]
      cases hwrite : p.write address size value with
      | error e => exact .inl ⟨e, Paged.ne_noRegion_of_write hwrite address, rfl⟩
      | ok m => exact .inr ⟨_, rfl, bus?_put_of_none h rfl⟩
    · next b hb =>
      rw [bus?_of_component hb] at h
      cases h

theorem recordOn_reportOn (s : Space) (ref : Ref) (b : Bus) (r : Region) (a : Access) :
    recordOn ref a (reportOn b r a s) = reportOn b r a (recordOn ref a s) := by
  have hsay : ∀ m, recordOn ref a (s.say m) = (recordOn ref a s).say m := by
    intro m
    have hbus : (s.say m).bus? ref = s.bus? ref := rfl
    unfold recordOn
    rw [hbus]
    cases s.bus? ref <;> rfl
  unfold reportOn
  split
  · exact hsay _
  · rfl

theorem bus?_noting_self (hb : s.bus? ref = some b) (r : Region) (a : Access) :
    (s.noting ref b r a).bus? ref = some (b.record a) := by
  have hrecorded : recordOn ref a s = s.put ref (.bus (b.record a)) := by
    unfold recordOn
    rw [hb]
  have hreported : (reportOn b r a (recordOn ref a s)).bus? ref = (recordOn ref a s).bus? ref := by
    unfold reportOn
    split <;> rfl
  rw [noting, recordOn_reportOn, hreported, hrecorded, bus?_put_self hb]

theorem bus?_noting_of_ne (h : q ≠ ref) (s : Space) (b : Bus) (r : Region) (a : Access) :
    (s.noting ref b r a).bus? q = s.bus? q := by
  have hrecorded : (recordOn ref a s).bus? q = s.bus? q := by
    unfold recordOn
    split
    · exact bus?_put_of_ne h s _
    · rfl
  have hreported : (reportOn b r a (recordOn ref a s)).bus? q = (recordOn ref a s).bus? q := by
    unfold reportOn
    split <;> rfl
  rw [noting, recordOn_reportOn, hreported, hrecorded]

section Region

variable (hb : s.bus? ref = some b) (hr : b.find? address = some r)
  (htarget : s.bus? r.target = none)
include hb hr htarget

/-- A load that a bus hands on is noted when it has come back, and changes nothing else. -/
theorem run_read_of_region (size : Int) :
    (∃ e, (read ref address size).run s = (.error e, s)) ∨
    ∃ n : Nat, (read ref address size).run s =
      (.ok n, s.noting ref b r ⟨.load, address, size, n⟩) := by
  obtain ⟨n, hn⟩ := exists_depth (component_of_bus hb)
  have hstate := run_readWithin_of_none htarget (n + 1) address size
  rw [run_read, hn, run_readWithin_of_bus hb hr]
  rcases hrun : (readWithin (n + 1) r.target address size).run s with ⟨e | value, t⟩
  · rw [hrun] at hstate
    obtain rfl : t = s := hstate
    exact .inl ⟨e, run_bind_of_error hrun⟩
  · rw [hrun] at hstate
    obtain rfl : t = s := hstate
    refine .inr ⟨value, (run_bind_of_ok hrun).trans ?_⟩
    rw [noting, recordOn_reportOn]
    rfl

/-- A store that a bus hands on is noted before, and fails without another change or changes no
other bus. -/
theorem run_write_of_region (size value : Int) :
    (∃ e, e ≠ .noRegion address ∧ (write ref address size value).run s =
      (.error e, s.noting ref b r ⟨.store, address, size, value⟩)) ∨
    ∃ t, (write ref address size value).run s = (.ok (), t) ∧
      t.bus? = (s.noting ref b r ⟨.store, address, size, value⟩).bus? := by
  obtain ⟨n, hn⟩ := exists_depth (component_of_bus hb)
  have hne : r.target ≠ ref := by
    intro hsame
    rw [hsame, hb] at htarget
    cases htarget
  rw [run_write, hn, run_writeWithin_of_bus hb hr]
  refine run_writeWithin_of_none ?_ (n + 1) address size value
  exact (bus?_noting_of_ne hne s b r _).trans htarget

end Region

section Access

variable (h : s.IsShallow) (q : Ref) (address size value : Int)
include h

/-- All that a load can do: nothing, unless a bus has handed it on and it has come back. -/
theorem run_read_cases :
    (∃ outcome, (read q address size).run s = (outcome, s) ∧
      (∀ b, s.bus? q = some b → ∃ e, outcome = .error e)) ∨
    ∃ b r, ∃ n : Nat, s.bus? q = some b ∧ b.find? address = some r ∧
      (read q address size).run s = (.ok n, s.noting q b r ⟨.load, address, size, n⟩) := by
  cases hq : s.bus? q with
  | none =>
    exact .inl ⟨_, Prod.ext rfl (run_readWithin_of_none hq _ address size), by rintro b ⟨⟩⟩
  | some b =>
    cases hr : b.find? address with
    | none => exact .inl ⟨_, run_read_of_none hq hr size, fun _ _ => ⟨_, rfl⟩⟩
    | some r =>
      obtain ⟨hmem, -⟩ := Bus.mem_and_has_of_find? hr
      obtain ⟨e, hrun⟩ | ⟨n, hrun⟩ := run_read_of_region hq hr (h q b hq r hmem) size
      · exact .inl ⟨_, hrun, fun _ _ => ⟨e, rfl⟩⟩
      · exact .inr ⟨b, r, n, rfl, hr, hrun⟩

/-- All that a store can do: what it does in the memory itself, and before that what a bus does that
hands it on. -/
theorem run_write_cases :
    (s.bus? q = none ∧ ∃ outcome t, (write q address size value).run s = (outcome, t) ∧
      t.bus? = s.bus? ∧ ∀ e, outcome = .error e → t = s) ∨
    (∃ b, s.bus? q = some b ∧
      (write q address size value).run s = (.error (.noRegion address), s)) ∨
    ∃ b r, s.bus? q = some b ∧ b.find? address = some r ∧
      ((∃ e, e ≠ .noRegion address ∧ (write q address size value).run s =
        (.error e, s.noting q b r ⟨.store, address, size, value⟩)) ∨
      ∃ t, (write q address size value).run s = (.ok (), t) ∧
        t.bus? = (s.noting q b r ⟨.store, address, size, value⟩).bus?) := by
  cases hq : s.bus? q with
  | none =>
    refine .inl ⟨rfl, ?_⟩
    rw [run_write]
    obtain ⟨e, -, hrun⟩ | ⟨t, hrun, ht⟩ := run_writeWithin_of_none hq s.depth address size value
    · exact ⟨_, _, hrun, rfl, fun _ _ => rfl⟩
    · exact ⟨_, _, hrun, ht, by rintro e ⟨⟩⟩
  | some b =>
    cases hr : b.find? address with
    | none => exact .inr (.inl ⟨b, rfl, run_write_of_none hq hr size value⟩)
    | some r =>
      obtain ⟨hmem, -⟩ := Bus.mem_and_has_of_find? hr
      exact .inr (.inr ⟨b, r, rfl, hr, run_write_of_region hq hr (h q b hq r hmem) size value⟩)

end Access

/-- Whether a space has a bus that keeps the last of a ledger. -/
def Follows (ref : Ref) (room : Nat) (l : Ledger) (s : Space) : Prop :=
  ∃ b, s.bus? ref = some b ∧ b.Follows room l

/-- What else the bus has to do with does not count. -/
theorem follows_of_bus?_eq (h : s.Follows ref room l) (ht : t.bus? ref = s.bus? ref) :
    t.Follows ref room l := by
  obtain ⟨b, hb, hfollows⟩ := h
  exact ⟨b, ht.trans hb, hfollows⟩

/-- A memory that takes the place of another, a bus that of one which keeps the same ledger. -/
theorem follows_put (h : s.Follows ref room l) {c d : Component} (hc : s.components[q]? = some c)
    (hd : ∀ b, c.bus? = some b → b.Follows room l → ∃ e, d.bus? = some e ∧ e.Follows room l) :
    (s.put q d).Follows ref room l := by
  by_cases hq : ref = q
  · subst hq
    obtain ⟨b, hb, hfollows⟩ := h
    rw [bus?_eq, hc] at hb
    obtain ⟨e, he, hkept⟩ := hd b hb hfollows
    refine ⟨e, ?_, hkept⟩
    rw [bus?_eq, component_put_self (lt_length_of_component hc)]
    exact he
  · exact follows_of_bus?_eq h (bus?_put_of_ne hq s d)

theorem create_keeps_follows (c : Component) : (create c).Keeps (Follows ref room l) := by
  refine keeps_current.bind fun s => Keeps.bind (keeps_change ?_) fun _ => keeps_pure _
  rintro s ⟨b, hb, hfollows⟩
  refine ⟨b, ?_, hfollows⟩
  exact bus?_of_component (component_add_of_some (component_of_bus hb) c)

theorem mapPages_keeps_follows (q : Ref) (base size : Int) :
    (mapPages q base size).Keeps (Follows ref room l) := by
  refine keeps_current_bind fun s hs => ?_
  split
  · next p hp =>
    refine keeps_outcome_bind hs fun m _ => ?_
    refine follows_put hs hp ?_
    rintro b ⟨⟩
  · exact hs

theorem map_keeps_follows (q : Ref) (name : String) (base size : Int) (target : Option Ref) :
    (map q name base size target).Keeps (Follows ref room l) := by
  rintro s ⟨b, hb, hfollows⟩
  rcases hrun : (map q name base size target).run s with ⟨e | made, t⟩
  · rw [run_map_eq_error hrun]
    exact ⟨b, hb, hfollows⟩
  · obtain ⟨c, u, hc, -, hbacks, rfl⟩ := run_map_eq_ok.1 hrun
    refine follows_put ⟨b, hbacks.bus? hb, hfollows⟩ (component_of_bus (hbacks.bus? hc)) ?_
    rintro _ ⟨⟩ hkept
    exact ⟨_, rfl, hkept.room, hkept.recording, hkept.history⟩

/-- A bus that is changed goes on to follow the ledger that its change makes of the old one. -/
theorem changeBus_follows (h : s.Follows ref room l) {m : Ledger} {f : Bus → Bus}
    (hf : ∀ b : Bus, b.Follows room l → (f b).Follows room m) :
    ((changeBus ref f).run s).2.Follows ref room m := by
  obtain ⟨b, hb, hfollows⟩ := h
  unfold changeBus
  rw [run_bind_of_ok (run_theBus_of_some hb)]
  exact ⟨f b, bus?_put_self hb _, hf b hfollows⟩

theorem changeBus_follows_of_ne (h : s.Follows ref room l) (hq : q ≠ ref) (f : Bus → Bus) :
    ((changeBus q f).run s).2.Follows ref room l := by
  unfold changeBus
  rw [run_bind]
  rcases hrun : (theBus q).run s with ⟨e | b, t⟩
  · have ht := theBus_keeps (Follows ref room l) q s h
    rwa [hrun] at ht
  · obtain ⟨hb, rfl⟩ := run_theBus_eq_ok hrun
    exact follows_of_bus?_eq h (bus?_put_of_ne hq.symm _ _)

/-- A bus that has noted an access follows the ledger that has too. -/
theorem follows_noting (h : s.Follows ref room l) (hb : s.bus? q = some b) (r : Region)
    (a : Access) (ht : t.bus? = (s.noting q b r a).bus?) :
    t.Follows ref room (if q = ref then l.note a else l) := by
  obtain ⟨c, hc, hfollows⟩ := h
  by_cases hq : q = ref
  · subst hq
    cases hb.symm.trans hc
    rw [if_pos rfl]
    exact ⟨b.record a, (congrFun ht q).trans (bus?_noting_self hb r a), hfollows.record a⟩
  · rw [if_neg hq]
    exact ⟨c, (congrFun ht ref).trans ((bus?_noting_of_ne (Ne.symm hq) s b r a).trans hc),
      hfollows⟩

/-- A load keeps the ledger, in which it is noted if it was made on the bus. -/
theorem follows_read (hshallow : s.IsShallow) (h : s.Follows ref room l) (q : Ref)
    (address size : Int) : (s.afterOne (.read q address size)).Follows ref room
      (l.enter ref (·.noted? ref) ⟨.read q address size,
        ((Request.read q address size).perform.run s).1⟩) := by
  unfold afterOne Request.perform
  obtain ⟨outcome, hrun, hfails⟩ | ⟨b, r, n, hb, -, hrun⟩ := run_read_cases hshallow q address size
  · cases outcome with
    | error e =>
      rw [run_bind_of_error hrun]
      exact h
    | ok n =>
      have hq : q ≠ ref := by
        rintro rfl
        obtain ⟨b, hb, -⟩ := h
        obtain ⟨e, he⟩ := hfails b hb
        cases he
      rw [run_bind_of_ok hrun, run_pure, Ledger.enter_read_ok, if_neg hq]
      exact h
  · rw [run_bind_of_ok hrun, run_pure, Ledger.enter_read_ok]
    exact follows_noting h hb r _ rfl

/-- A store keeps the ledger, in which it is noted if the bus has handed it on. -/
theorem follows_write (hshallow : s.IsShallow) (h : s.Follows ref room l) (q : Ref)
    (address size value : Int) : (s.afterOne (.write q address size value)).Follows ref room
      (l.enter ref (·.noted? ref) ⟨.write q address size value,
        ((Request.write q address size value).perform.run s).1⟩) := by
  unfold afterOne Request.perform
  obtain ⟨hnone, outcome, t, hrun, ht, -⟩ | ⟨b, hb, hrun⟩ | ⟨b, r, hb, -, hnoted⟩ :=
    run_write_cases hshallow q address size value
  · have hq : q ≠ ref := by
      rintro rfl
      obtain ⟨b, hb, -⟩ := h
      cases hnone.symm.trans hb
    have hkept := follows_of_bus?_eq h (congrFun ht ref)
    cases outcome with
    | error e =>
      rw [run_bind_of_error hrun, Ledger.enter_write_error, if_neg fun hboth => hq hboth.1]
      exact hkept
    | ok _ =>
      rw [run_bind_of_ok hrun, run_pure, Ledger.enter_write_ok, if_neg hq]
      exact hkept
  · rw [run_bind_of_error hrun, Ledger.enter_write_error, if_neg fun hboth => hboth.2 rfl]
    exact h
  · obtain ⟨e, he, hrun⟩ | ⟨t, hrun, ht⟩ := hnoted
    · rw [run_bind_of_error hrun, Ledger.enter_write_error]
      simp only [ne_eq, he, not_false_eq_true, and_true]
      exact follows_noting h hb r _ rfl
    · rw [run_bind_of_ok hrun, run_pure, Ledger.enter_write_ok]
      exact follows_noting h hb r _ ht

/-- One request keeps a bus and its ledger in step. -/
theorem follows_afterOne (hshallow : s.IsShallow) (h : s.Follows ref room l) (request : Request) :
    (s.afterOne request).Follows ref room
      (l.enter ref (·.noted? ref) ⟨request, (request.perform.run s).1⟩) := by
  -- A request that answers what another step answers leaves the state of that step.
  have hstate : ∀ {α : Type} (x : Step Space Fault α) (f : α → Response) (m : Ledger),
      (x.run s).2.Follows ref room m →
        ((x >>= fun a => pure (f a)).run s).2.Follows ref room m := by
    intro α x f m hx
    rw [run_bind]
    rcases hrun : x.run s with ⟨e | a, t⟩ <;> rwa [hrun] at hx
  cases request with
  | newBuffer base size =>
    exact hstate _ _ l ((keeps_ofOutcome _).bind (fun _ => create_keeps_follows _) s h)
  | newPaged => exact hstate _ _ l (create_keeps_follows _ s h)
  | newHollow => exact hstate _ _ l (create_keeps_follows _ s h)
  | newBus size =>
    exact hstate _ _ l ((keeps_ofOutcome _).bind (fun _ => create_keeps_follows _) s h)
  | mapPages q base size => exact hstate _ _ l (mapPages_keeps_follows q base size s h)
  | map q name base size target =>
    exact hstate _ _ l (map_keeps_follows q name base size target s h)
  | read q address size => exact follows_read hshallow h q address size
  | write q address size value => exact follows_write hshallow h q address size value
  | report q on =>
    by_cases hq : q = ref
    · subst hq
      exact hstate _ _ l (changeBus_follows h fun b hb => ⟨hb.room, hb.recording, hb.history⟩)
    · exact hstate _ _ l (changeBus_follows_of_ne h hq _)
  | record q on =>
    unfold Ledger.enter
    dsimp only
    split
    · next hq =>
      subst hq
      exact hstate _ _ _ (changeBus_follows h fun b hb => hb.switch on)
    · next hq => exact hstate _ _ l (changeBus_follows_of_ne h hq _)
  | clearHistory q =>
    unfold Ledger.enter
    dsimp only
    split
    · next hq =>
      subst hq
      exact hstate _ _ _ (changeBus_follows h fun b hb => hb.clearHistory)
    · next hq => exact hstate _ _ l (changeBus_follows_of_ne h hq _)

/-- A request never makes a region lead elsewhere, nor another memory of a bus. -/
theorem IsShallow.of_afterOne {request : Request} (h : (s.afterOne request).IsShallow) :
    s.IsShallow := by
  have hlisted : ∀ {q : Ref} {b : Bus}, s.bus? q = some b →
      ∃ c, (s.afterOne request).bus? q = some c ∧ ∀ r ∈ b.regions, r ∈ c.regions := by
    intro q b hb
    obtain ⟨-, hlists⟩ | ⟨r, -, -, hlists⟩ := lists_afterOne (lists_iff.2 ⟨b, hb, rfl⟩) request
    · obtain ⟨c, hc, hregions⟩ := lists_iff.1 hlists
      exact ⟨c, hc, fun _ hr => hregions ▸ hr⟩
    · obtain ⟨c, hc, hregions⟩ := lists_iff.1 hlists
      refine ⟨c, hc, fun q hq => ?_⟩
      rw [hregions]
      exact (Bus.perm_insert _ _).mem_iff.2 (List.mem_cons_of_mem _ hq)
  intro q b hb r hr
  obtain ⟨c, hc, hregions⟩ := hlisted hb
  cases htarget : s.bus? r.target with
  | none => rfl
  | some d =>
    obtain ⟨e, he, -⟩ := hlisted htarget
    cases he.symm.trans (h q c hc r (hregions r hr))

theorem IsShallow.of_after {requests : List Request} (h : (s.after requests).IsShallow) :
    s.IsShallow := by
  induction requests generalizing s with
  | nil => exact h
  | cons request requests ih => exact (ih h).of_afterOne

/-- A run of requests keeps a bus and its ledger in step. -/
theorem follows_after (h : s.Follows ref room l) {requests : List Request}
    (hshallow : (s.after requests).IsShallow) : (s.after requests).Follows ref room
      ((s.exchanges requests).foldl (Ledger.enter ref (·.noted? ref)) l) := by
  induction requests generalizing s l with
  | nil => exact h
  | cons request requests ih =>
    have hrest : ((s.afterOne request).after requests).IsShallow := hshallow
    exact ih (follows_afterOne hrest.of_after.of_afterOne h request) hrest

section Failing

variable (P : Space → Prop)

theorem create_keepsIfFails (c : Component) : (create c).KeepsIfFails P :=
  keeps_current.bind_keepsIfFails fun _ => (keepsIfFails_change _).bind_pure _

theorem changeBus_keepsIfFails (q : Ref) (f : Bus → Bus) : (changeBus q f).KeepsIfFails P :=
  (theBus_keeps P q).bind_keepsIfFails fun _ => keepsIfFails_change _

theorem mapPages_keepsIfFails (q : Ref) (base size : Int) :
    (mapPages q base size).KeepsIfFails P := by
  refine keeps_current.bind_keepsIfFails fun s => ?_
  split
  · refine (keeps_ofOutcome _).bind_keepsIfFails fun m => ?_
    rintro s e t - ⟨⟩
  · exact (keeps_fail _).keepsIfFails

theorem map_keepsIfFails (q : Ref) (name : String) (base size : Int) (target : Option Ref) :
    (map q name base size target).KeepsIfFails P := by
  intro s e t hs hrun
  rwa [run_map_eq_error hrun]

end Failing

/-- A request that fails changes nothing, but for the note that a bus takes of a store before it
hands it on. -/
theorem afterOne_of_error (h : s.IsShallow) {request : Request} {e : Fault}
    (hfails : (request.perform.run s).1 = .error e) : s.afterOne request = s ∨
      ∃ q b r address size value, request = .write q address size value ∧ s.bus? q = some b ∧
        b.find? address = some r ∧
        s.afterOne request = s.noting q b r ⟨.store, address, size, value⟩ := by
  have hkept : request.perform.KeepsIfFails (· = s) → s.afterOne request = s :=
    fun hkeeps => hkeeps s e _ rfl (Prod.ext hfails rfl)
  cases request with
  | newBuffer base size =>
    exact .inl (hkept (((keeps_ofOutcome _).bind_keepsIfFails
      fun _ => create_keepsIfFails _ _).bind_pure _))
  | newPaged => exact .inl (hkept ((create_keepsIfFails _ _).bind_pure _))
  | newHollow => exact .inl (hkept ((create_keepsIfFails _ _).bind_pure _))
  | newBus room =>
    exact .inl (hkept (((keeps_ofOutcome _).bind_keepsIfFails
      fun _ => create_keepsIfFails _ _).bind_pure _))
  | mapPages q base size => exact .inl (hkept ((mapPages_keepsIfFails _ _ _ _).bind_pure _))
  | map q name base size target => exact .inl (hkept ((map_keepsIfFails _ _ _ _ _ _).bind_pure _))
  | report q on => exact .inl (hkept ((changeBus_keepsIfFails _ _ _).bind_pure _))
  | record q on => exact .inl (hkept ((changeBus_keepsIfFails _ _ _).bind_pure _))
  | clearHistory q => exact .inl (hkept ((changeBus_keepsIfFails _ _ _).bind_pure _))
  | read q address size =>
    unfold afterOne Request.perform at *
    obtain ⟨outcome, hrun, -⟩ | ⟨b, r, n, -, -, hrun⟩ := run_read_cases h q address size
    · cases outcome with
      | error f => exact .inl (by rw [run_bind_of_error hrun])
      | ok n =>
        rw [run_bind_of_ok hrun] at hfails
        cases hfails
    · rw [run_bind_of_ok hrun] at hfails
      cases hfails
  | write q address size value =>
    unfold afterOne Request.perform at *
    obtain ⟨-, outcome, t, hrun, -, ht⟩ | ⟨b, -, hrun⟩ | ⟨b, r, hb, hr, hnoted⟩ :=
      run_write_cases h q address size value
    · cases outcome with
      | error f => exact .inl (by rw [run_bind_of_error hrun, ht f rfl])
      | ok _ =>
        rw [run_bind_of_ok hrun] at hfails
        cases hfails
    · exact .inl (by rw [run_bind_of_error hrun])
    · obtain ⟨f, -, hrun⟩ | ⟨t, hrun, -⟩ := hnoted
      · exact .inr ⟨q, b, r, address, size, value, rfl, hb, hr, by rw [run_bind_of_error hrun]⟩
      · rw [run_bind_of_ok hrun] at hfails
        cases hfails

/-- Whatever was asked of a space without regions that lead to other buses, the history of a bus
that was new has the last accesses that were completed, and among them the stores that failed behind
the bus, while accesses were recorded and since the history was last cleared. A request that fails
leaves the regions and all bytes, and the histories too unless it is such a store. -/
theorem history_of_requests {size : Int} (hnew : Bus.ofRoom size = .ok b)
    (hb : s.bus? ref = some b) {requests : List Request}
    (hshallow : (s.after requests).IsShallow) :
    ∃ c, (s.after requests).bus? ref = some c ∧
      c.history = Bus.lastOf size.toNat
        (Ledger.ofExchanges ref (·.noted? ref) (s.exchanges requests)).entries ∧
      ((∀ x ∈ s.exchanges requests, x.refused? ref = none) →
        c.history = Bus.lastOf size.toNat
          (Ledger.ofExchanges ref (·.completed? ref) (s.exchanges requests)).entries) ∧
      ∀ request e, (request.perform.run (s.after requests)).1 = .error e →
        ((s.after requests).afterOne request).byte? = (s.after requests).byte? ∧
        (∀ q, (((s.after requests).afterOne request).bus? q).map Bus.regions =
          ((s.after requests).bus? q).map Bus.regions) ∧
        ((s.after requests).afterOne request = s.after requests ∨
          ∃ q d r address size value, request = .write q address size value ∧
            (s.after requests).bus? q = some d ∧ d.find? address = some r ∧
            (s.after requests).afterOne request =
              (s.after requests).noting q d r ⟨.store, address, size, value⟩) := by
  obtain ⟨c, hc, hfollows⟩ :=
    follows_after ⟨b, hb, Bus.follows_blank hnew⟩ hshallow
  refine ⟨c, hc, hfollows.history, fun hnone => ?_, fun request e hfails => ?_⟩
  · rw [← Ledger.ofExchanges_noted hnone]
    exact hfollows.history
  · have hcases := afterOne_of_error hshallow hfails
    have halike : (s.after requests).Alike ((s.after requests).afterOne request) := by
      obtain hsame | ⟨q, d, r, _, _, _, -, -, -, hnoted⟩ := hcases
      · rw [hsame]
        exact .refl _
      · rw [hnoted]
        exact alike_noting _ q d r _
    exact ⟨halike.byte?_eq.symm, fun q => (halike.regions_eq q).symm, hcases⟩

end Space

end

namespace Space

/-- A space with a new bus that has room for two accesses. -/
def narrowBus : Space :=
  empty.afterOne (.newBus 2)

end Space

/-- A store, a load and a store across the end of the region, all recorded. -/
def Request.overrunning : List Request :=
  [.map 0 "r" 0 4 none, .record 0 true, .write 0 0 1 7, .read 0 0 1, .write 0 2 4 7]

namespace Space

/-- The store that failed has taken the place of the one that was made. -/
theorem history_overrunning : Bus.ofRoom 2 = .ok ⟨[], false, false, 2, []⟩ ∧
    narrowBus.bus? 0 = some ⟨[], false, false, 2, []⟩ ∧
    (narrowBus.after Request.overrunning).IsShallow ∧
    ∃ c, (narrowBus.after Request.overrunning).bus? 0 = some c ∧
      c.history = [⟨.load, 0, 1, 7⟩, ⟨.store, 2, 4, 7⟩] := by
  have hshallow : (narrowBus.after Request.overrunning).IsShallow := by
    rintro (_ | _ | q) b ⟨⟩ r hr
    obtain rfl := List.mem_singleton.1 hr
    rfl
  have hnew : Bus.ofRoom 2 = .ok ⟨[], false, false, 2, []⟩ := rfl
  have hb : narrowBus.bus? 0 = some ⟨[], false, false, 2, []⟩ := rfl
  obtain ⟨c, hc, hhistory, -⟩ := history_of_requests hnew hb hshallow
  exact ⟨hnew, hb, hshallow, c, hc, hhistory⟩

end Space

end RegisterMap.Memory
