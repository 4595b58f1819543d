import RegisterMap.Proofs.Analysis.Constants
import RegisterMap.Proofs.Sequences

/-!
# Filling tables

A table of constants after any requests: single constants, lists and mappings, of which some members
may not be readable. What a path stands for, how many paths there are and what was said on the way
depend on nothing but the constants that were entered, and the first two not even on the order in
which different paths were.
-/

namespace RegisterMap

/-- What is said of each of some items in view of those before it. -/
def inTurn {α β : Type} (say : List α → α → List β) (before : List α) : List α → List β
  | [] => []
  | x :: xs => say before x ++ inTurn say (before ++ [x]) xs

theorem inTurn_append {α β : Type} (say : List α → α → List β) (before xs ys : List α) :
    inTurn say before (xs ++ ys) = inTurn say before xs ++ inTurn say (before ++ xs) ys := by
  induction xs generalizing before with
  | nil => rw [List.nil_append, inTurn, List.nil_append, List.append_nil]
  | cons x xs ih =>
    rw [List.cons_append, inTurn, inTurn, ih, List.append_assoc, List.append_assoc]
    rfl

namespace External

/-- The constant that a member of a mapping gives, if its path and its value can be read. -/
def constantOf? (member : String × Json) : Option Constant :=
  match Path.ofText? member.1, integer member.2 with
  | some p, .ok value => some ⟨p, value, [], 0⟩
  | _, _ => Option.none

/-- The constants of the members before the first one that gives none. -/
def readable : List (String × Json) → List Constant
  | [] => []
  | member :: members =>
    match constantOf? member with
    | some c => c :: readable members
    | Option.none => []

/-- The constants that enter a table. -/
def entered : External → List Constant
  | .items cs => cs
  | .mapping members => readable members

/-- All that is given enters a table, as these constants. -/
def Gives : External → List Constant → Prop
  | .items cs, given => given = cs
  | .mapping members, given =>
    List.Forall₂ (fun member c => constantOf? member = some c) members given

end External

namespace ConstantTable

/-- The values of a path among constants, in their order. -/
def valuesAt (cs : List Constant) (p : Path) : List Int :=
  (cs.filter (·.path == p)).map (·.value)

theorem lastValue?_eq_getLast? (cs : List Constant) (p : Path) :
    lastValue? cs p = (valuesAt cs p).getLast? := by
  rw [lastValue?, valuesAt, ← List.head?_filter, List.filter_reverse, List.head?_reverse,
    List.getLast?_map]

theorem lastValue?_ne_none_iff {cs : List Constant} {p : Path} :
    lastValue? cs p ≠ none ↔ ∃ c ∈ cs, c.path = p := by
  rw [lastValue?_eq_getLast?, valuesAt, ne_eq, List.getLast?_eq_none_iff, List.map_eq_nil_iff,
    List.filter_eq_nil_iff]
  simp

/-- What is said of a constant that is added after others: that the last one with its path had
another value. -/
def redefinition (before : List Constant) (c : Constant) : List Notice :=
  match lastValue? before c.path with
  | some old => if old = c.value then [] else [.redefined c.path old c.value]
  | none => []

theorem addAll_concat (t : ConstantTable) (cs : List Constant) (c : Constant) :
    t.addAll (cs ++ [c]) = (t.addAll cs).add c.path c.value :=
  List.foldl_concat _ _ _ _

theorem get?_addAll_empty (cs : List Constant) (p : Path) :
    (empty.addAll cs).get? p = lastValue? cs p := by
  have hempty : empty.get? p = none := rfl
  rw [get?_addAll, hempty, Option.or_none]

theorem mem_paths_addAll (t : ConstantTable) (cs : List Constant) (p : Path) :
    p ∈ (t.addAll cs).entries.map (·.1) ↔ (∃ c ∈ cs, c.path = p) ∨ p ∈ t.entries.map (·.1) := by
  induction cs generalizing t with
  | nil => simp [addAll]
  | cons c cs ih =>
    have hrest : t.addAll (c :: cs) = (t.add c.path c.value).addAll cs := rfl
    have hput : p ∈ (t.add c.path c.value).entries.map (·.1) ↔ p = c.path ∨
        p ∈ t.entries.map (·.1) := mem_map_put
    rw [hrest, ih, hput, List.exists_mem_cons_iff, eq_comm (a := p)]
    exact or_left_comm.trans or_assoc.symm

/-- A table holds each path that was added once. -/
theorem size_addAll_empty (cs : List Constant) :
    (empty.addAll cs).size = (cs.map (·.path)).eraseDups.length := by
  have hperm : ((empty.addAll cs).entries.map (·.1)).Perm (cs.map (·.path)).eraseDups := by
    refine (List.perm_ext_iff_of_nodup (distinct_empty.addAll cs) (nodup_eraseDups _)).2
      fun p => ?_
    have hnew : p ∉ empty.entries.map (·.1) := List.not_mem_nil
    rw [mem_paths_addAll, or_iff_left hnew, List.mem_eraseDups, List.mem_map]
  rw [size, ← hperm.length_eq, List.length_map]

/-- What a path stands for depends on nothing but the values of exact paths. -/
theorem resolve_congr {t u : ConstantTable} (ht : t.Distinct) (hu : u.Distinct)
    (h : ∀ p, t.get? p = u.get? p) (p : Path) : t.resolve p = u.resolve p := by
  have honly : ∀ name q, t.IsOnly name q ↔ u.IsOnly name q := fun name q =>
    ⟨fun hq => ⟨hq.last, fun other => by rw [← h]; exact hq.only other⟩,
      fun hq => ⟨hq.last, fun other => by rw [h]; exact hq.only other⟩⟩
  refine Option.ext fun v => ?_
  rw [resolve_eq_some_iff ht, resolve_eq_some_iff hu, h]
  simp only [h, honly]

/-- What a path stands for after constants were added. -/
theorem resolve_addAll_empty {cs : List Constant} {p : Path} {v : Int} :
    (empty.addAll cs).resolve p = some v ↔ lastValue? cs p = some v ∨
      lastValue? cs p = none ∧ ∃ name, p.segments = [name] ∧ ∃ q, lastValue? cs q = some v ∧
        q.last = name ∧ ∀ c ∈ cs, c.path.last = name → c.path = q := by
  have honly : ∀ name q, (empty.addAll cs).IsOnly name q ↔
      q.last = name ∧ ∀ c ∈ cs, c.path.last = name → c.path = q := by
    intro name q
    constructor
    · rintro ⟨hlast, honly⟩
      refine ⟨hlast, fun c hc hname => honly _ hname ?_⟩
      rw [get?_addAll_empty]
      exact lastValue?_ne_none_iff.2 ⟨c, hc, rfl⟩
    · rintro ⟨hlast, honly⟩
      refine ⟨hlast, fun other hother hfound => ?_⟩
      rw [get?_addAll_empty] at hfound
      obtain ⟨c, hc, rfl⟩ := lastValue?_ne_none_iff.1 hfound
      exact honly c hc hother
  have hbare : p.segments.length ≤ 1 ↔ p.segments = [p.last] := by
    obtain ⟨_ | ⟨first, _ | ⟨second, rest⟩⟩, hne⟩ := p
    · exact absurd rfl hne
    · simp [Path.last]
    · simp
  rw [resolve_eq_some_iff (distinct_empty.addAll cs), hbare]
  simp only [get?_addAll_empty, honly]
  constructor
  · rintro (h | ⟨hnone, hsegments, q, hq⟩)
    · exact .inl h
    · exact .inr ⟨hnone, p.last, hsegments, q, hq⟩
  · rintro (h | ⟨hnone, name, hsegments, q, hq⟩)
    · exact .inl h
    · have hlast : p.last = name := by
        have hsame := hbare.1 (by rw [hsegments]; exact Nat.le_refl 1)
        rw [hsegments, List.singleton_inj] at hsame
        exact hsame.symm
      rw [hlast]
      exact .inr ⟨hnone, hsegments, q, hq⟩

end ConstantTable

namespace Filling

open ConstantTable

variable {ε : Type}

/-- A table that holds just some constants, after what was said. -/
def holding (cs : List Constant) (said : List Notice) : Filling :=
  ⟨empty.addAll cs, said⟩

theorem table_holding (cs : List Constant) (ns : List Notice) :
    (holding cs ns).table = empty.addAll cs := rfl

theorem run_add (before : List Constant) (c : Constant) (ns : List Notice) :
    (add c.path c.value : Step Filling ε Unit).run (holding before ns) =
      (.ok (), holding (before ++ [c]) (ns ++ redefinition before c)) := by
  have hsaid : ∀ old? : Option Int,
      (match old?.filter (· != c.value) with
        | some old => [Notice.redefined c.path old c.value]
        | none => []) =
      match old? with
        | some old => if old = c.value then [] else [.redefined c.path old c.value]
        | none => [] := by
    rintro (- | old)
    · rfl
    · by_cases h : old = c.value
      · simp [h, Option.filter_some]
      · simp [h, Option.filter_some]
  have hheld : (holding before ns).table.replaced? c.path c.value =
      (lastValue? before c.path).filter (· != c.value) :=
    congrArg (Option.filter _) (get?_addAll_empty before c.path)
  rw [add, Step.run_change, hheld]
  refine congrArg (fun s => (Except.ok (), s)) ?_
  rw [holding, holding, addAll_concat, redefinition]
  exact congrArg (fun said => Filling.mk _ (ns ++ said)) (hsaid (lastValue? before c.path))

theorem run_addConstants (cs before : List Constant) (ns : List Notice) :
    (addConstants cs : Step Filling ε Unit).run (holding before ns) =
      (.ok (), holding (before ++ cs) (ns ++ inTurn redefinition before cs)) := by
  induction cs generalizing before ns with
  | nil => rw [List.append_nil, inTurn, List.append_nil]; rfl
  | cons c cs ih =>
    have hrun : (addConstants (c :: cs) : Step Filling ε Unit) =
        add c.path c.value >>= fun _ => addConstants cs := rfl
    rw [hrun, Step.run_bind_of_ok (run_add before c ns), ih, inTurn, List.append_assoc,
      List.append_assoc]
    rfl

theorem run_addMember {member : String × Json} {c : Constant}
    (h : External.constantOf? member = some c) (before : List Constant) (ns : List Notice) :
    (addMember member).run (holding before ns) =
      (.ok (), holding (before ++ [c]) (ns ++ redefinition before c)) := by
  unfold External.constantOf? at h
  unfold addMember
  split at h
  · next p value hp hv =>
    cases h
    rw [hp, hv]
    exact run_add before ⟨p, value, [], 0⟩ ns
  · cases h

theorem run_addMember_of_none {member : String × Json} (h : External.constantOf? member = none)
    (s : Filling) : ∃ e, (addMember member).run s = (.error e, s) := by
  unfold External.constantOf? at h
  unfold addMember
  cases hp : Path.ofText? member.1 with
  | none => exact ⟨_, rfl⟩
  | some p =>
    cases hv : External.integer member.2 with
    | error e => exact ⟨e, rfl⟩
    | ok value =>
      rw [hp, hv] at h
      cases h

theorem run_addMembers (members : List (String × Json)) (before : List Constant)
    (ns : List Notice) : ((members.forM addMember).run (holding before ns)).2 =
      holding (before ++ External.readable members)
        (ns ++ inTurn redefinition before (External.readable members)) ∧
    (((members.forM addMember).run (holding before ns)).1 = .ok () →
      (External.mapping members).Gives (External.readable members)) := by
  induction members generalizing before ns with
  | nil =>
    refine ⟨?_, fun _ => .nil⟩
    rw [External.readable, List.append_nil, inTurn, List.append_nil]
    rfl
  | cons member members ih =>
    have hrun : (member :: members).forM addMember =
        addMember member >>= fun _ => members.forM addMember := rfl
    rw [hrun, External.readable]
    cases hc : External.constantOf? member with
    | none =>
      obtain ⟨e, he⟩ := run_addMember_of_none hc (holding before ns)
      rw [Step.run_bind_of_error he]
      refine ⟨?_, fun h => by cases h⟩
      rw [List.append_nil, inTurn, List.append_nil]
    | some c =>
      obtain ⟨hrest, hgives⟩ := ih (before ++ [c]) (ns ++ redefinition before c)
      rw [Step.run_bind_of_ok (run_addMember hc before ns)]
      refine ⟨?_, fun h => .cons hc (hgives h)⟩
      rw [hrest, inTurn, List.append_assoc, List.append_assoc]
      rfl

/-- Whether or not all of it can be read, what is given enters the table up to the first that
cannot. -/
theorem run_addExternal (external : External) (before : List Constant) (ns : List Notice) :
    ((addExternal external).run (holding before ns)).2 =
      holding (before ++ external.entered)
        (ns ++ inTurn redefinition before external.entered) ∧
    (((addExternal external).run (holding before ns)).1 = .ok () →
      external.Gives external.entered) := by
  cases external with
  | items cs => exact ⟨congrArg Prod.snd (run_addConstants cs before ns), fun _ => rfl⟩
  | mapping members => exact run_addMembers members before ns

/-! ### Requests -/

/-- A request on a table: to add a value, or all that is given. -/
inductive Request where
  | add (path : Path) (value : Int)
  | update (constants : External)

namespace Request

def perform : Request → Step Filling Failure Unit
  | add p value => Filling.add p value
  | update constants => addExternal constants

/-- The constants that a request enters. -/
def entered : Request → List Constant
  | add p value => [⟨p, value, [], 0⟩]
  | update constants => constants.entered

end Request

/-- What a request leaves, also one that fails. -/
def afterOne (s : Filling) (q : Request) : Filling :=
  (q.perform.run s).2

def after (s : Filling) (qs : List Request) : Filling :=
  qs.foldl afterOne s

theorem afterOne_holding (before : List Constant) (q : Request) (ns : List Notice) :
    afterOne (holding before ns) q =
      holding (before ++ q.entered) (ns ++ inTurn redefinition before q.entered) := by
  cases q with
  | add p value =>
    have hone : inTurn redefinition before [⟨p, value, [], 0⟩] =
        redefinition before ⟨p, value, [], 0⟩ := List.append_nil _
    rw [Request.entered, hone]
    exact congrArg Prod.snd (run_add (ε := Failure) before ⟨p, value, [], 0⟩ ns)
  | update constants => exact (run_addExternal constants before ns).1

theorem after_holding (qs : List Request) (before : List Constant) (ns : List Notice) :
    after (holding before ns) qs = holding (before ++ qs.flatMap Request.entered)
      (ns ++ inTurn redefinition before (qs.flatMap Request.entered)) := by
  induction qs generalizing before ns with
  | nil => rw [List.flatMap_nil, List.append_nil, inTurn, List.append_nil]; rfl
  | cons q qs ih =>
    have hcons : after (holding before ns) (q :: qs) = after (afterOne (holding before ns) q) qs :=
      rfl
    rw [hcons, afterOne_holding, ih, List.flatMap_cons, inTurn_append, List.append_assoc,
      List.append_assoc]

/-- A table before any request. -/
def blank : Filling :=
  ⟨.empty, []⟩

/-- The constants that requests enter, in their order. -/
def enteredBy (qs : List Request) : List Constant :=
  qs.flatMap Request.entered

theorem after_blank (qs : List Request) :
    after blank qs = holding (enteredBy qs) (inTurn redefinition [] (enteredBy qs)) :=
  after_holding qs [] []

/-- Requests that give each path the same values in the same order lead to the same table, in
whatever order they give them to different paths. -/
theorem after_blank_congr {qs rs : List Request}
    (h : ∀ p, valuesAt (enteredBy rs) p = valuesAt (enteredBy qs) p) :
    (after blank rs).table.size = (after blank qs).table.size ∧
      ∀ p, (after blank rs).table.resolve p = (after blank qs).table.resolve p := by
  have hlast : ∀ p, lastValue? (enteredBy rs) p = lastValue? (enteredBy qs) p := fun p => by
    rw [lastValue?_eq_getLast?, lastValue?_eq_getLast?, h]
  have hpaths : ∀ p, p ∈ ((enteredBy rs).map (·.path)).eraseDups ↔
      p ∈ ((enteredBy qs).map (·.path)).eraseDups := by
    intro p
    rw [List.mem_eraseDups, List.mem_eraseDups, List.mem_map, List.mem_map,
      ← lastValue?_ne_none_iff, ← lastValue?_ne_none_iff, hlast]
  rw [after_blank, after_blank, table_holding, table_holding]
  constructor
  · have hperm := (List.perm_ext_iff_of_nodup (nodup_eraseDups _) (nodup_eraseDups _)).2 hpaths
    exact (size_addAll_empty _).trans (hperm.length_eq.trans (size_addAll_empty _).symm)
  · refine resolve_congr (distinct_empty.addAll _) (distinct_empty.addAll _) fun p => ?_
    rw [get?_addAll_empty, get?_addAll_empty, hlast]

/-- After any requests a path stands for the last value that was entered for exactly this path or
else, if it has one segment, for the last value of the only entered path that ends in it. There are
as many entries as different paths were entered, the order in which different paths were entered
does not matter, and it was told of each constant that changed the value of its path. -/
theorem table_of_requests (qs : List Request) :
    (∀ p v, (after blank qs).table.resolve p = some v ↔
      lastValue? (enteredBy qs) p = some v ∨ lastValue? (enteredBy qs) p = none ∧
        ∃ name, p.segments = [name] ∧ ∃ q, lastValue? (enteredBy qs) q = some v ∧
          q.last = name ∧ ∀ c ∈ enteredBy qs, c.path.last = name → c.path = q) ∧
    (after blank qs).table.size = ((enteredBy qs).map (·.path)).eraseDups.length ∧
    (∀ rs, (∀ p, valuesAt (enteredBy rs) p = valuesAt (enteredBy qs) p) →
      (after blank rs).table.size = (after blank qs).table.size ∧
        ∀ p, (after blank rs).table.resolve p = (after blank qs).table.resolve p) ∧
    (after blank qs).notices = inTurn redefinition [] (enteredBy qs) := by
  refine ⟨fun p v => ?_, ?_, fun rs => after_blank_congr, ?_⟩
  · rw [after_blank, table_holding]
    exact resolve_addAll_empty
  · rw [after_blank, table_holding]
    exact size_addAll_empty _
  · rw [after_blank]
    rfl

/-- A path that is entered twice, another one with the same last segment that comes before a member
that cannot be read, and a bare name: the second order gives each path the same values. -/
theorem table_of_requests_mixed :
    let qs := [.add (.inModules ["a"] "X") 1,
      .update (.mapping [("b::Y", .text "7"), ("a.X", .int 0), ("Z", .text "?"), ("W", .int 5)])]
    let rs := [.update (.items [⟨.inModules ["b"] "Y", 7, [], 0⟩]), .add (.inModules ["a"] "X") 1,
      .add (.inModules ["a"] "X") 0]
    enteredBy qs = [⟨.inModules ["a"] "X", 1, [], 0⟩, ⟨.inModules ["b"] "Y", 7, [], 0⟩,
      ⟨.inModules ["a"] "X", 0, [], 0⟩] ∧
    (after blank qs).table.resolve (.inModules [] "X") = some 0 ∧ (after blank qs).table.size = 2 ∧
    (after blank rs).table.resolve (.inModules [] "X") =
      (after blank qs).table.resolve (.inModules [] "X") ∧
    (after blank qs).notices = [.redefined (.inModules ["a"] "X") 1 0] := by
  intro qs rs
  obtain ⟨hresolve, hsize, horder, hsaid⟩ := table_of_requests qs
  have hentered : enteredBy qs =
      [⟨.inModules ["a"] "X", 1, [], 0⟩, ⟨.inModules ["b"] "Y", 7, [], 0⟩,
       ⟨.inModules ["a"] "X", 0, [], 0⟩] := by
    decide
  rw [hentered] at hresolve hsize hsaid
  have hvalues : ∀ p, valuesAt (enteredBy rs) p = valuesAt (enteredBy qs) p := by
    intro p
    rw [hentered]
    by_cases hp : p = .inModules ["b"] "Y"
    · rw [hp]
      decide
    · have hbeq : ((.inModules ["b"] "Y" : Path) == p) = false := beq_false_of_ne (Ne.symm hp)
      simp [rs, enteredBy, Request.entered, External.entered, valuesAt, List.filter_cons, hbeq]
  refine ⟨hentered, (hresolve (.inModules [] "X") 0).2 (.inr ⟨by decide, "X", rfl,
    .inModules ["a"] "X", by decide, rfl, by decide⟩), hsize, (horder rs hvalues).2 _, hsaid⟩

end Filling

end RegisterMap
