import RegisterMap.Proofs.Description.Grammar

/-!
# Nested modules

How many modules are open at once can be counted on the braces of a text: only the start of a
module has an opening brace, only its end a closing one.
-/

namespace RegisterMap.Grammar

open Phrase

variable {α β : Type} {ts rest : List Token} {now : Nat}

/-- The braces that are open behind a lexeme with `now` of them open in front of it. -/
def openBehind (now : Nat) : Lexeme → Nat
  | .mark .leftBrace => now + 1
  | .mark .rightBrace => now - 1
  | _ => now

/-- The greatest number of braces open at once, `now` of them at the start. -/
def deepest (now : Nat) : List Token → Nat
  | [] => now
  | t :: ts => max now (deepest (openBehind now t.lexeme) ts)

/-- How deep the modules of a text are nested. -/
def depth (ts : List Token) : Nat :=
  deepest 0 ts

theorem le_deepest (now : Nat) (ts : List Token) : now ≤ deepest now ts := by
  cases ts with
  | nil => exact Nat.le_refl now
  | cons t ts => exact Nat.le_max_left now _

/-- Neither opens nor closes a module. -/
def IsFlat (l : Lexeme) : Prop :=
  l ≠ .mark .leftBrace ∧ l ≠ .mark .rightBrace

instance : DecidablePred IsFlat :=
  fun l => inferInstanceAs (Decidable (l ≠ .mark .leftBrace ∧ l ≠ .mark .rightBrace))

theorem openBehind_of_isFlat {l : Lexeme} (h : IsFlat l) : openBehind now l = now := by
  rw [openBehind.eq_def]
  split
  · exact absurd rfl h.1
  · exact absurd rfl h.2
  · rfl

/-- A phrase without braces. -/
def Flat (p : Phrase α) : Prop :=
  ∀ {ts a rest}, p.Reads ts a rest → ∀ now, deepest now ts = deepest now rest

namespace Flat

theorem one {stands : Token → α → Prop} (h : ∀ t a, stands t a → IsFlat t.lexeme) :
    Flat (one stands) := by
  rintro _ a rest ⟨t, rfl, -, ha⟩ now
  rw [deepest, openBehind_of_isFlat (h t a ha), Nat.max_eq_right (le_deepest now rest)]

theorem pure (a : α) : Flat (pure a : Phrase α) := by
  rintro _ _ _ ⟨-, rfl⟩ now
  rfl

theorem bind {p : Phrase α} {f : α → Phrase β} (hp : Flat p) (hf : ∀ a, Flat (f a)) :
    Flat (p >>= f) := by
  rintro _ _ _ ⟨a, _, ha, hb⟩ now
  exact (hp ha now).trans (hf a hb now)

theorem either {p q : Phrase α} (hp : Flat p) (hq : Flat q) : Flat (either p q) :=
  fun h now => h.elim (hp · now) (hq · now)

theorem optional {p : Phrase α} (hp : Flat p) : Flat (optional p) :=
  either (pure none) (hp.bind fun a => pure (some a))

theorem many {p : Phrase α} (hp : Flat p) : Flat (many p) := by
  intro ts as rest h now
  induction h with
  | done ts => rfl
  | more first _ ih => exact (hp first now).trans ih

theorem word (s : String) : Flat (word s) :=
  one fun t _ h => by simp [IsFlat, h.1]

theorem mark {m : Mark} (hm : IsFlat (.mark m)) : Flat (mark m) :=
  one fun t _ h => by rwa [h.1]

theorem name : Flat name :=
  one fun t s h => by simp [IsFlat, h]

theorem number : Flat number :=
  one fun t n h => by simp [IsFlat, h]

theorem policy : Flat policy :=
  one fun t p h => by simp [IsFlat, h]

theorem docs : Flat docs :=
  many (one fun t line h => by simp [IsFlat, h])

theorem list {p : Phrase α} (hp : Flat p) : Flat (list p) := by
  refine either (pure []) (hp.bind fun a => bind (many ?_) fun as => bind ?_ fun _ => pure _)
  · exact bind (mark (by decide)) fun _ => hp
  · exact optional (mark (by decide))

theorem path : Flat path := by
  refine bind name fun first => bind (many ?_) fun others => pure _
  exact bind (either (mark (by decide)) (mark (by decide))) fun _ => name

theorem constant (modules lines : List String) : Flat (constant modules lines) := by
  refine bind (word _) fun line => bind name fun s => bind (optional ?_) fun _ => ?_
  · exact bind (mark (by decide)) fun _ => name
  · exact bind (mark (by decide)) fun _ => bind number fun value =>
      bind (mark (by decide)) fun _ => pure _

theorem itemStart : Flat itemStart :=
  bind docs fun lines => bind (optional (word _)) fun _ => pure lines

theorem port : Flat port :=
  either (bind number fun _ => pure _) (bind path fun _ => pure _)

theorem ports : Flat ports :=
  bind (word _) fun _ => bind (mark (by decide)) fun _ => bind (list port) fun ps =>
    bind (mark (by decide)) fun _ => bind (mark (by decide)) fun _ => pure ps

theorem bits : Flat bits := by
  refine either (bind number fun _ => pure _) (either ?_ ?_)
  · exact bind (optional number) fun _ => bind (mark (by decide)) fun _ =>
      bind (optional number) fun _ => pure _
  · exact bind (optional number) fun _ => bind (mark (by decide)) fun _ =>
      bind number fun _ => pure _

theorem bitAttribute : Flat bitAttribute := by
  refine bind (mark (by decide)) fun _ => bind (word _) fun _ => bind (mark (by decide)) fun _ => ?_
  refine bind bits fun _ => bind (mark (by decide)) fun _ => bind policy fun _ => ?_
  refine bind (mark (by decide)) fun _ => bind path fun _ => ?_
  exact bind (mark (by decide)) fun _ => bind (mark (by decide)) fun _ => pure _

theorem field : Flat field :=
  bind docs fun _ => bind (mark (by decide)) fun _ => bind bitAttribute fun _ =>
    bind docs fun _ => bind name fun _ => pure _

end Flat

theorem deepest_of_moduleStart {name : String} (h : moduleStart.Reads ts name rest) (now : Nat) :
    deepest now ts = deepest (now + 1) rest := by
  obtain ⟨_, _, hword, _, _, hname, _, _, ⟨t, rfl, -, ht, -⟩, -, rfl⟩ := h
  rw [Flat.word _ hword, Flat.name hname, deepest, ht]
  exact Nat.max_eq_right (Nat.le_of_succ_le (le_deepest (now + 1) _))

theorem deepest_of_moduleEnd {line : Nat} (h : moduleEnd.Reads ts line rest) (now : Nat) :
    deepest (now + 1) ts = max (now + 1) (deepest now rest) := by
  obtain ⟨_, _, hdocs, t, rfl, -, ht, -⟩ := h
  rw [Flat.docs hdocs, deepest, ht]
  rfl

theorem deepest_le_of_items {modules : List String} {cs : List Constant}
    (h : Items modules ts cs rest) (now : Nat) : deepest now rest ≤ deepest now ts := by
  induction h generalizing now with
  | done modules ts => exact Nat.le_refl _
  | constant start first _ ih =>
    rw [Flat.itemStart start, Flat.constant _ _ first]
    exact ih now
  | module start opens _ closes _ ihBody ihOthers =>
    rw [Flat.itemStart start, deepest_of_moduleStart opens]
    refine Nat.le_trans (ihOthers now) (Nat.le_trans ?_ (ihBody (now + 1)))
    rw [deepest_of_moduleEnd closes]
    exact Nat.le_max_right _ _

theorem length_of_constant {modules lines : List String} {c : Constant}
    (h : (constant modules lines).Reads ts c rest) :
    c.path.segments.length = modules.length + 1 := by
  obtain ⟨_, _, -, _, _, -, _, _, -, _, _, -, _, _, -, _, _, -, rfl, -⟩ := h
  exact List.length_append

/-- A constant lies in no more modules than are open at its place. -/
theorem length_le_of_items {modules : List String} {cs : List Constant}
    (h : Items modules ts cs rest) (now : Nat) :
    ∀ c ∈ cs, now + c.path.segments.length ≤ deepest now ts + modules.length + 1 := by
  induction h generalizing now with
  | done modules ts => exact nofun
  | constant start first _ ih =>
    rw [Flat.itemStart start, Flat.constant _ _ first]
    refine List.forall_mem_cons.2 ⟨?_, ih now⟩
    rw [length_of_constant first, Nat.add_assoc]
    exact Nat.add_le_add_right (le_deepest now _) _
  | module start opens body closes _ ihBody ihOthers =>
    have hclosed := deepest_le_of_items body (now + 1)
    rw [deepest_of_moduleEnd closes] at hclosed
    rw [Flat.itemStart start, deepest_of_moduleStart opens]
    intro c hc
    rcases List.mem_append.1 hc with hc | hc
    · have hin := ihBody (now + 1) c hc
      rw [List.length_append] at hin
      simp only [List.length_singleton] at hin
      omega
    · have hbehind := ihOthers now c hc
      omega

/-- All the modules of a text stand in front of its addresses. -/
theorem depth_of_ports {ps : List Port} {fs : List FieldDecl} {ts₁ : List Token} {last : Token}
    (hports : ports.Reads ts ps ts₁) (hfields : (list field).Reads ts₁ fs [last])
    (hlast : last.lexeme = .endOfInput) : depth ts = 0 := by
  rw [depth, Flat.ports hports, Flat.list Flat.field hfields, deepest, hlast]
  rfl

/-! ### Lexemes put together -/

/-- Wherever they stand, lexemes open at most `most` braces at once, and close all that they
open. -/
def Nests (most : Nat) (ls : List Lexeme) : Prop :=
  ∀ ts rest now, ts.map (·.lexeme) = ls →
    deepest now (ts ++ rest) ≤ max (now + most) (deepest now rest)

namespace Nests

variable {most : Nat} {ls ls' : List Lexeme}

theorem nil : Nests most [] := by
  intro ts rest now hts
  obtain rfl := List.map_eq_nil_iff.1 hts
  exact Nat.le_max_right _ _

theorem mono (h : Nests most ls) {more : Nat} (hmore : most ≤ more) : Nests more ls := by
  intro ts rest now hts
  have hle := h ts rest now hts
  omega

theorem append (h : Nests most ls) (h' : Nests most ls') : Nests most (ls ++ ls') := by
  intro ts rest now hts
  obtain ⟨front, back, rfl, hfront, hback⟩ := List.map_eq_append_iff.1 hts
  have hle := h front (back ++ rest) now hfront
  have hle' := h' back rest now hback
  rw [List.append_assoc]
  omega

theorem braces (h : Nests most ls) :
    Nests (most + 1) (.mark .leftBrace :: (ls ++ [.mark .rightBrace])) := by
  intro ts rest now hts
  obtain ⟨opening, ts, rfl, hopening, hts⟩ := List.map_eq_cons_iff.1 hts
  obtain ⟨inner, last, rfl, hinner, hlast⟩ := List.map_eq_append_iff.1 hts
  obtain ⟨closing, rfl, hclosing⟩ := List.map_eq_singleton_iff.1 hlast
  have hle := h inner (closing :: rest) (now + 1) hinner
  rw [deepest, hclosing] at hle
  rw [List.cons_append, List.append_assoc, deepest, hopening]
  change max now (deepest (now + 1) (inner ++ closing :: rest)) ≤ _
  change _ ≤ max _ (max (now + 1) (deepest now rest)) at hle
  omega

end Nests

end RegisterMap.Grammar
