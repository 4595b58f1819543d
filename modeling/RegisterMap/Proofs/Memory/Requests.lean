import RegisterMap.Proofs.Memory.Spaces

/-!
# Requests to memories

All that can be asked of the memories of a space: to be made, to be mapped, to load and store, and,
of a bus, to report, to record and to forget its history. A request that is not met counts too: what
comes of a run is the list of its requests with their outcomes, and the space after it.
-/

namespace RegisterMap.Memory

inductive Request where
  | newBuffer (base size : Int)
  | newPaged
  | newHollow
  | newBus (room : Int)
  | mapPages (ref : Ref) (base size : Int)
  | map (ref : Ref) (name : String) (base size : Int) (target : Option Ref)
  | read (ref : Ref) (address size : Int)
  | write (ref : Ref) (address size value : Int)
  | report (ref : Ref) (on : Bool)
  | record (ref : Ref) (on : Bool)
  | clearHistory (ref : Ref)
  deriving DecidableEq, Repr

/-- What a request answers that has been met. -/
inductive Response where
  | done
  | memory (ref : Ref)
  | value (n : Nat)
  deriving DecidableEq, Repr

/-- A request and what came of it. -/
structure Exchange where
  request : Request
  outcome : Except Fault Response

variable [Machine]

namespace Request

def perform : Request → Step Space Fault Response
  | newBuffer base size => do
    let ref ← Space.createBuffer base size
    pure (.memory ref)
  | newPaged => do
    let ref ← Space.create (.paged .blank)
    pure (.memory ref)
  | newHollow => do
    let ref ← Space.create .hollow
    pure (.memory ref)
  | newBus room => do
    let ref ← Space.createBus room
    pure (.memory ref)
  | mapPages ref base size => do
    Space.mapPages ref base size
    pure .done
  | map ref name base size target => do
    let made ← Space.map ref name base size target
    pure (.memory made)
  | read ref address size => do
    let value ← Space.read ref address size
    pure (.value value)
  | write ref address size value => do
    Space.write ref address size value
    pure .done
  | report ref on => do
    Space.changeBus ref fun b => { b with reporting := on }
    pure .done
  | record ref on => do
    Space.changeBus ref fun b => { b with recording := on }
    pure .done
  | clearHistory ref => do
    Space.changeBus ref Bus.clearHistory
    pure .done

end Request

namespace Space

/-- The space after a request, whether it was met or not. -/
def afterOne (s : Space) (q : Request) : Space :=
  (q.perform.run s).2

def after (s : Space) (qs : List Request) : Space :=
  qs.foldl afterOne s

/-- Requests with what came of each, one after the other. -/
def exchanges (s : Space) : List Request → List Exchange
  | [] => []
  | q :: qs => ⟨q, (q.perform.run s).1⟩ :: (s.afterOne q).exchanges qs

@[simp] theorem after_nil (s : Space) : s.after [] = s := rfl

@[simp] theorem after_cons (s : Space) (q : Request) (qs : List Request) :
    s.after (q :: qs) = (s.afterOne q).after qs := rfl

theorem after_append (s : Space) (qs rs : List Request) :
    s.after (qs ++ rs) = (s.after qs).after rs :=
  List.foldl_append

theorem exchanges_append (s : Space) (qs rs : List Request) :
    s.exchanges (qs ++ rs) = s.exchanges qs ++ (s.after qs).exchanges rs := by
  induction qs generalizing s with
  | nil => rfl
  | cons q qs ih =>
    rw [List.cons_append, exchanges, exchanges, ih, List.cons_append, after_cons]

end Space

end RegisterMap.Memory
