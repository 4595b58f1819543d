import Mathlib.Data.List.Nodup
import RegisterMap.Analysis.External
import RegisterMap.Proofs.Preservation

/-!
# Tables of constants

What a table holds after constants have been added to it, and what a path stands for in a table: the
value of exactly this path or, for a bare name, that of the only path that ends in it.
-/

namespace RegisterMap

namespace ConstantTable

variable {t : ConstantTable} {p q : Path} {v : Int} {name : String}

theorem lookup_put_of_ne (h : q ≠ p) (value : Int) (es : List (Path × Int)) :
    (put p value es).lookup q = es.lookup q := by
  have hqp : (q == p) = false := beq_false_of_ne h
  induction es with
  | nil => rw [put, List.lookup_cons, hqp, List.lookup_nil]
  | cons e es ih =>
    obtain ⟨r, w⟩ := e
    unfold put
    by_cases hr : r = p
    · subst hr
      rw [if_pos rfl, List.lookup_cons, List.lookup_cons, hqp]
    · rw [if_neg hr, List.lookup_cons, List.lookup_cons, ih]

theorem get?_add (t : ConstantTable) (p q : Path) (value : Int) :
    (t.add p value).get? q = if q = p then some value else t.get? q := by
  by_cases h : q = p
  · rw [if_pos h, h]
    exact get?_add_self t p value
  · rw [if_neg h]
    exact lookup_put_of_ne h value t.entries

/-- The table with constants added in their order. -/
def addAll (t : ConstantTable) (cs : List Constant) : ConstantTable :=
  cs.foldl (fun t c => t.add c.path c.value) t

/-- The value of the last constant with a path. -/
def lastValue? (cs : List Constant) (p : Path) : Option Int :=
  (cs.reverse.find? (·.path == p)).map (·.value)

/-- A path has the value that was added last for it, or the one it had before. -/
theorem get?_addAll (t : ConstantTable) (cs : List Constant) (p : Path) :
    (t.addAll cs).get? p = (lastValue? cs p).or (t.get? p) := by
  induction cs generalizing t with
  | nil => rfl
  | cons c cs ih =>
    have hlast : lastValue? (c :: cs) p =
        (lastValue? cs p).or (if p = c.path then some c.value else none) := by
      unfold lastValue?
      rw [List.reverse_cons, List.find?_append, List.find?_singleton, Option.map_or]
      by_cases h : p = c.path
      · simp [h]
      · simp [h, Ne.symm h]
    have hrest : (t.addAll (c :: cs)).get? p = ((t.add c.path c.value).addAll cs).get? p := rfl
    rw [hrest, ih, hlast, get?_add, Option.or_assoc]
    by_cases h : p = c.path
    · rw [if_pos h, if_pos h, Option.some_or]
    · rw [if_neg h, if_neg h, Option.none_or]

/-- No path is listed twice. -/
def Distinct (t : ConstantTable) : Prop :=
  (t.entries.map (·.1)).Nodup

theorem distinct_empty : empty.Distinct :=
  List.nodup_nil

theorem mem_map_put {es : List (Path × Int)} :
    q ∈ (put p v es).map (·.1) ↔ q = p ∨ q ∈ es.map (·.1) := by
  induction es with
  | nil => simp [put]
  | cons e es ih =>
    unfold put
    by_cases h : e.1 = p
    · simp [h]
    · rw [if_neg h, List.map_cons, List.mem_cons, ih, List.map_cons, List.mem_cons]
      exact or_left_comm

theorem nodup_put {es : List (Path × Int)} (h : (es.map (·.1)).Nodup) :
    ((put p v es).map (·.1)).Nodup := by
  induction es with
  | nil => simp [put]
  | cons e es ih =>
    obtain ⟨hnew, hrest⟩ := List.nodup_cons.1 h
    unfold put
    by_cases he : e.1 = p
    · rw [if_pos he]
      exact List.nodup_cons.2 ⟨he ▸ hnew, hrest⟩
    · rw [if_neg he]
      refine List.nodup_cons.2 ⟨?_, ih hrest⟩
      rw [mem_map_put]
      exact not_or.2 ⟨he, hnew⟩

namespace Distinct

variable (ht : t.Distinct)
include ht

theorem add (p : Path) (value : Int) : (t.add p value).Distinct :=
  nodup_put ht

theorem addAll (cs : List Constant) : (t.addAll cs).Distinct := by
  induction cs generalizing t with
  | nil => exact ht
  | cons c cs ih => exact ih (ht.add c.path c.value)

theorem mem_entries_iff : (p, v) ∈ t.entries ↔ t.get? p = some v := by
  obtain ⟨es⟩ := t
  unfold Distinct at ht
  unfold get?
  dsimp only at ht ⊢
  induction es with
  | nil => simp
  | cons e es ih =>
    obtain ⟨r, w⟩ := e
    obtain ⟨hnew, hrest⟩ := List.nodup_cons.1 ht
    rw [List.mem_cons, ih hrest, List.lookup_cons]
    by_cases h : p = r
    · subst h
      have hnone : es.lookup p = none := by
        rw [List.lookup_eq_none_iff]
        intro e he
        refine bne_iff_ne.2 fun heq => hnew ?_
        exact List.mem_map.2 ⟨e, he, heq.symm⟩
      simp [hnone, eq_comm]
    · simp [h, beq_false_of_ne h]

end Distinct

/-- A path that ends in a name and is the only one of a table that does. -/
structure IsOnly (t : ConstantTable) (name : String) (q : Path) : Prop where
  last : q.last = name
  only : ∀ other, other.last = name → t.get? other ≠ none → other = q

theorem valuesNamed_eq_singleton_iff (ht : t.Distinct) :
    t.valuesNamed name = [v] ↔ ∃ q, t.get? q = some v ∧ t.IsOnly name q := by
  have hnodup : (t.entries.filter (·.1.last == name)).Nodup := (ht.of_map _).filter _
  have hmem : ∀ q w, (q, w) ∈ t.entries.filter (·.1.last == name) ↔
      t.get? q = some w ∧ q.last = name := by
    intro q w
    rw [List.mem_filter, ht.mem_entries_iff, beq_iff_eq]
  unfold valuesNamed
  rw [List.map_eq_singleton_iff]
  constructor
  · rintro ⟨⟨q, w⟩, hfilter, rfl⟩
    rw [hfilter] at hmem
    obtain ⟨hget, hlast⟩ := (hmem q w).1 (List.mem_singleton_self _)
    refine ⟨q, hget, hlast, fun other hother hnone => ?_⟩
    obtain ⟨u, hu⟩ := Option.ne_none_iff_exists'.1 hnone
    have hin := (hmem other u).2 ⟨hu, hother⟩
    rw [List.mem_singleton] at hin
    exact congrArg Prod.fst hin
  · rintro ⟨q, hget, hlast, honly⟩
    refine ⟨(q, v), ?_, rfl⟩
    rw [← List.perm_singleton, List.perm_ext_iff_of_nodup hnodup (List.nodup_singleton _)]
    rintro ⟨other, u⟩
    rw [hmem, List.mem_singleton, Prod.mk.injEq]
    constructor
    · rintro ⟨hu, hother⟩
      obtain rfl := honly other hother (by simp [hu])
      exact ⟨rfl, Option.some.inj (hu.symm.trans hget)⟩
    · rintro ⟨rfl, rfl⟩
      exact ⟨hget, hlast⟩

/-- What a path stands for. -/
theorem resolve_eq_some_iff (ht : t.Distinct) : t.resolve p = some v ↔
    t.get? p = some v ∨ t.get? p = none ∧ p.segments.length ≤ 1 ∧
      ∃ q, t.get? q = some v ∧ t.IsOnly p.last q := by
  rw [← valuesNamed_eq_singleton_iff ht]
  unfold resolve
  cases t.get? p with
  | some w => simp
  | none =>
    by_cases hlong : 1 < p.segments.length
    · simp [hlong, Nat.not_le.2 hlong]
    · simp only [if_neg hlong, Nat.not_lt.1 hlong, reduceCtorEq, true_and, false_or]
      split
      · next w hw => simp [hw]
      · next hmany => simpa using hmany v

end ConstantTable

namespace Filling

variable {ε : Type}

theorem exists_run_addConstants (cs : List Constant) (s : Filling) :
    ∃ ns, (addConstants cs : Step Filling ε Unit).run s = (.ok (), ⟨s.table.addAll cs, ns⟩) := by
  induction cs generalizing s with
  | nil => exact ⟨s.notices, rfl⟩
  | cons c cs ih =>
    have hrun : (addConstants (c :: cs) : Step Filling ε Unit) =
        add c.path c.value >>= fun _ => addConstants cs := rfl
    rw [hrun, Step.run_bind]
    exact ih _

theorem add_keeps_distinct (p : Path) (value : Int) :
    (add p value : Step Filling ε Unit).Keeps (·.table.Distinct) :=
  Step.keeps_change fun _ hs => hs.add p value

theorem addConstants_keeps_distinct (cs : List Constant) :
    (addConstants cs : Step Filling ε Unit).Keeps (·.table.Distinct) := by
  intro s hs
  obtain ⟨ns, hrun⟩ := exists_run_addConstants (ε := ε) cs s
  rw [hrun]
  exact hs.addAll cs

theorem addMember_keeps_distinct (member : String × Json) :
    (addMember member).Keeps (·.table.Distinct) := by
  unfold addMember
  split
  · exact Step.keeps_fail _
  · refine (Step.keeps_ofOutcome _).bind fun value => ?_
    exact add_keeps_distinct _ value

theorem addExternal_keeps_distinct (external : External) :
    (addExternal external).Keeps (·.table.Distinct) := by
  cases external with
  | items cs => exact addConstants_keeps_distinct cs
  | mapping members =>
    induction members with
    | nil => exact Step.keeps_pure ()
    | cons member members ih => exact (addMember_keeps_distinct member).bind fun _ => ih

end Filling

/-- The table of constants from outside alone. -/
def External.table (external : External) : Noting Failure ConstantTable :=
  ConstantTable.filledBy (Filling.addExternal external)

namespace ConstantTable

theorem run_filledBy_eq_ok {ε : Type} {x : Step Filling ε Unit} {t : ConstantTable}
    {ns ns' : List Notice} :
    (filledBy x).run ns = (.ok t, ns') ↔ x.run ⟨empty, ns⟩ = (.ok (), ⟨t, ns'⟩) := by
  unfold filledBy Step.run
  dsimp only
  rcases x ⟨empty, ns⟩ with ⟨e | a, s⟩
  · simp
  · obtain ⟨table, notices⟩ := s
    simp

theorem distinct_of_external {external : External} {e : ConstantTable} {ns ns' : List Notice}
    (h : external.table.run ns = (.ok e, ns')) : e.Distinct := by
  have hkeeps := Filling.addExternal_keeps_distinct external ⟨empty, ns⟩ distinct_empty
  rwa [run_filledBy_eq_ok.1 h] at hkeeps

end ConstantTable

end RegisterMap
