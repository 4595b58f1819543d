import Mathlib.Data.List.Forall2
import Mathlib.Data.List.Nodup
import Mathlib.Tactic.Common
import RegisterMap.Outcome

/-!
# Lists of steps and of names

Steps over a list that all succeed, and lists without repetitions.
-/

namespace RegisterMap

variable {ε α β : Type}

/-- A step succeeds on a whole list exactly when it does on each member. -/
theorem mapM_eq_ok {f : α → Except ε β} {xs : List α} {ys : List β} :
    xs.mapM f = .ok ys ↔ List.Forall₂ (fun x y => f x = .ok y) xs ys := by
  induction xs generalizing ys with
  | nil => simp [pure, Except.pure, eq_comm]
  | cons x xs ih =>
    rw [List.mapM_cons, List.forall₂_cons_left_iff, bind_eq_ok]
    constructor
    · rintro ⟨y, hy, h⟩
      obtain ⟨zs, hzs, h⟩ := bind_eq_ok.1 h
      cases h
      exact ⟨y, zs, hy, ih.1 hzs, rfl⟩
    · rintro ⟨y, zs, hy, hzs, rfl⟩
      exact ⟨y, hy, bind_eq_ok.2 ⟨zs, ih.2 hzs, rfl⟩⟩

/-- A step with the index succeeds on a whole list, when it does on a member whatever the index. -/
theorem mapM_zipIdx_eq_ok {γ : Type} {f : α → β} {g : Nat → β → Except ε γ} {h : α → γ}
    {C : α → Prop} {xs : List α} (hg : ∀ x ∈ xs, ∀ i, g i (f x) = .ok (h x) ↔ C x) :
    (xs.map f).zipIdx.mapM (fun (v, i) => g i v) = .ok (xs.map h) ↔ ∀ x ∈ xs, C x := by
  generalize 0 = k
  induction xs generalizing k with
  | nil => simp [pure, Except.pure]
  | cons x xs ih =>
    obtain ⟨hx, hxs⟩ := List.forall_mem_cons.1 hg
    rw [List.map_cons, List.map_cons, List.zipIdx_cons, mapM_eq_ok, List.forall₂_cons, hx,
      ← mapM_eq_ok, ih hxs, List.forall_mem_cons]

theorem exists_of_forall₂ {R : α → β → Prop} {xs : List α} {ys : List β}
    (h : List.Forall₂ R xs ys) {y : β} (hy : y ∈ ys) : ∃ x ∈ xs, R x y := by
  induction h with
  | nil => cases hy
  | cons hxy _ ih =>
    rcases List.mem_cons.1 hy with rfl | hy
    · exact ⟨_, List.mem_cons_self, hxy⟩
    · obtain ⟨x, hx, hr⟩ := ih hy
      exact ⟨x, List.mem_cons_of_mem _ hx, hr⟩

theorem lookup_eq_none_of_not_mem {members : List (String × α)} {n : String}
    (h : n ∉ members.map (·.1)) : members.lookup n = none := by
  rw [List.lookup_eq_none_iff]
  intro m hm
  have hne : n ≠ m.1 := by
    rintro rfl
    exact h (List.mem_map_of_mem hm)
  exact bne_iff_ne.2 hne

section Dups

variable [BEq α] [LawfulBEq α]

theorem nodup_eraseDups (xs : List α) : xs.eraseDups.Nodup := by
  cases xs with
  | nil => simp
  | cons x xs =>
    rw [List.eraseDups_cons, List.nodup_cons]
    exact ⟨by simp [List.mem_eraseDups], nodup_eraseDups _⟩
termination_by xs.length
decreasing_by exact Nat.lt_succ_of_le (List.length_filter_le _ _)

theorem filter_eraseDups (p : α → Bool) (xs : List α) :
    xs.eraseDups.filter p = (xs.filter p).eraseDups := by
  cases xs with
  | nil => simp
  | cons x xs =>
    have hswap : (xs.filter fun b => !b == x).filter p = (xs.filter p).filter fun b => !b == x :=
      List.filter_comm _ _ _
    rw [List.eraseDups_cons, List.filter_cons, filter_eraseDups, hswap]
    by_cases hp : p x = true
    · rw [if_pos hp, List.filter_cons_of_pos hp, List.eraseDups_cons]
    · have hnone : (xs.filter p).filter (fun b => !b == x) = xs.filter p := by
        refine List.filter_eq_self.2 fun b hb => ?_
        have hne : b ≠ x := fun h => hp (h ▸ (List.mem_filter.1 hb).2)
        simpa using hne
      rw [if_neg hp, List.filter_cons_of_neg hp, hnone]
termination_by xs.length
decreasing_by exact Nat.lt_succ_of_le (List.length_filter_le _ _)

end Dups

end RegisterMap
