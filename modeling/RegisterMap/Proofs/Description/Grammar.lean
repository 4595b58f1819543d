import Mathlib.Data.List.Basic
import RegisterMap.Description.Basic
import RegisterMap.Description.Token

/-!
# The grammar of descriptions

A phrase relates the tokens it starts with to what it stands for and to the tokens that follow it.
Phrases are put together one after the other, as alternatives, as options and as repetitions, and
nothing is said of how a phrase is found: more than one number of tokens may make it up. None
takes the end of input.
-/

namespace RegisterMap.Grammar

/-- Tokens before the end of input. -/
def Inner (ts : List Token) : Prop :=
  ∀ t ∈ ts, t.lexeme ≠ .endOfInput

instance : DecidablePred Inner :=
  fun ts => inferInstanceAs (Decidable (∀ t ∈ ts, t.lexeme ≠ .endOfInput))

/-- The tokens end in their only end of input. -/
def Ended (ts : List Token) : Prop :=
  ∃ inner last, ts = inner ++ [last] ∧ Inner inner ∧ last.lexeme = .endOfInput

/-- Where the end of input shows behind inner tokens, nothing else is left. -/
theorem eq_singleton_of_ended {taken rest : List Token} (h : Ended (taken ++ rest))
    (htaken : Inner taken) (hrest : (rest.headD Token.absent).lexeme = .endOfInput) :
    ∃ last, rest = [last] ∧ last.lexeme = .endOfInput := by
  obtain ⟨inner, last, heq, hinner, hlast⟩ := h
  cases rest with
  | nil =>
    rw [List.append_nil] at heq
    exact absurd hlast (htaken last (by simp [heq]))
  | cons t ts =>
    obtain rfl | ⟨us, u, rfl⟩ := List.eq_nil_or_concat ts
    · exact ⟨t, rfl, hrest⟩
    · rw [List.concat_eq_append, ← List.cons_append, ← List.append_assoc] at heq
      obtain ⟨rfl, -⟩ := List.append_inj' heq rfl
      exact absurd hrest (hinner t (by simp))

/-- `Reads ts a rest` says that `ts` may start with the phrase, which then stands for `a` and has
`rest` behind it. -/
structure Phrase (α : Type) where
  Reads : List Token → α → List Token → Prop
  takes : ∀ {ts a rest}, Reads ts a rest → ∃ taken, ts = taken ++ rest ∧ Inner taken

namespace Phrase

variable {α β : Type}

theorem takes_none (ts : List Token) : ∃ taken, ts = taken ++ ts ∧ Inner taken :=
  ⟨[], rfl, nofun⟩

theorem takes_trans {ts between rest : List Token}
    (h : ∃ taken, ts = taken ++ between ∧ Inner taken)
    (h' : ∃ taken, between = taken ++ rest ∧ Inner taken) :
    ∃ taken, ts = taken ++ rest ∧ Inner taken := by
  obtain ⟨first, rfl, hfirst⟩ := h
  obtain ⟨second, rfl, hsecond⟩ := h'
  refine ⟨first ++ second, (List.append_assoc ..).symm, fun t ht => ?_⟩
  exact (List.mem_append.1 ht).elim (hfirst t) (hsecond t)

/-- No tokens. -/
def nothing (a : α) : Phrase α where
  Reads ts b rest := a = b ∧ ts = rest
  takes h := h.2 ▸ takes_none _

/-- One phrase and then another that may depend on what the first stands for. -/
def andThen (p : Phrase α) (f : α → Phrase β) : Phrase β where
  Reads ts b rest := ∃ a between, p.Reads ts a between ∧ (f a).Reads between b rest
  takes h := by
    obtain ⟨a, between, hp, hf⟩ := h
    exact takes_trans (p.takes hp) ((f a).takes hf)

instance : Monad Phrase where
  pure := nothing
  bind := andThen

@[simp] theorem reads_pure {a b : α} {ts rest : List Token} :
    (pure a : Phrase α).Reads ts b rest ↔ a = b ∧ ts = rest :=
  Iff.rfl

@[simp] theorem reads_bind {p : Phrase α} {f : α → Phrase β} {b : β} {ts rest : List Token} :
    (p >>= f).Reads ts b rest ↔ ∃ a between, p.Reads ts a between ∧ (f a).Reads between b rest :=
  Iff.rfl

/-- One token of which a relation tells what it stands for. -/
def one (stands : Token → α → Prop) : Phrase α where
  Reads ts a rest := ∃ t, ts = t :: rest ∧ t.lexeme ≠ .endOfInput ∧ stands t a
  takes h := by
    obtain ⟨t, rfl, ht, -⟩ := h
    refine ⟨[t], rfl, fun u hu => ?_⟩
    rwa [List.mem_singleton.1 hu]

/-- `p | q` -/
def either (p q : Phrase α) : Phrase α where
  Reads ts a rest := p.Reads ts a rest ∨ q.Reads ts a rest
  takes h := h.elim p.takes q.takes

/-- `[p]` -/
def optional (p : Phrase α) : Phrase (Option α) :=
  either (pure none) do return some (← p)

/-- The repetitions of a phrase. -/
inductive Many (p : Phrase α) : List Token → List α → List Token → Prop where
  | done (ts : List Token) : Many p ts [] ts
  | more {ts between rest : List Token} {a : α} {as : List α} (first : p.Reads ts a between)
      (others : Many p between as rest) : Many p ts (a :: as) rest

/-- `{p}` -/
def many (p : Phrase α) : Phrase (List α) where
  Reads := Many p
  takes h := by
    induction h with
    | done ts => exact takes_none ts
    | more first _ ih => exact takes_trans (p.takes first) ih

/-- The phrases of `p` of which a condition holds. -/
def such (p : Phrase α) (holds : α → Prop) : Phrase α where
  Reads ts a rest := p.Reads ts a rest ∧ holds a
  takes h := p.takes h.1

@[simp] theorem reads_either {p q : Phrase α} {a : α} {ts rest : List Token} :
    (either p q).Reads ts a rest ↔ p.Reads ts a rest ∨ q.Reads ts a rest :=
  Iff.rfl

theorem reads_optional {p : Phrase α} {o : Option α} {ts rest : List Token} :
    (optional p).Reads ts o rest ↔
      (none = o ∧ ts = rest) ∨ ∃ a, p.Reads ts a rest ∧ some a = o := by
  simp only [optional, reads_either, reads_pure, reads_bind]
  refine or_congr_right ⟨?_, ?_⟩
  · rintro ⟨a, _, hp, rfl, rfl⟩
    exact ⟨a, hp, rfl⟩
  · rintro ⟨a, hp, rfl⟩
    exact ⟨a, rest, hp, rfl, rfl⟩

theorem reads_many {p : Phrase α} {as : List α} {ts rest : List Token} :
    (many p).Reads ts as rest ↔ ([] = as ∧ ts = rest) ∨
      ∃ a between, p.Reads ts a between ∧
        ∃ more, (many p).Reads between more rest ∧ a :: more = as := by
  constructor
  · intro h
    cases h with
    | done => exact .inl ⟨rfl, rfl⟩
    | more first others => exact .inr ⟨_, _, first, _, others, rfl⟩
  · rintro (⟨rfl, rfl⟩ | ⟨a, between, first, more, others, rfl⟩)
    · exact .done _
    · exact .more first others

end Phrase

open Phrase

/-! ## Tokens -/

/-- The line of a word. -/
def word (s : String) : Phrase Nat :=
  one fun t line => t.lexeme = .name s ∧ t.line = line

/-- The line of a mark. -/
def mark (m : Mark) : Phrase Nat :=
  one fun t line => t.lexeme = .mark m ∧ t.line = line

def name : Phrase String :=
  one fun t s => t.lexeme = .name s

def number : Phrase Int :=
  one fun t value => t.lexeme = .number value

def doc : Phrase String :=
  one fun t line => t.lexeme = .doc line

/-! ## Rules -/

variable {α : Type}

/-- `[p {"," p} [","]]` -/
def list (p : Phrase α) : Phrase (List α) :=
  either (pure []) do
    let a ← p
    let as ← many (do let _ ← mark .comma; p)
    let _ ← optional (mark .comma)
    return a :: as

theorem reads_list_nil {p : Phrase α} {ts rest : List Token} :
    (list p).Reads ts [] rest ↔ ts = rest := by
  constructor
  · rintro (⟨-, h⟩ | ⟨a, _, -, as, _, -, o, _, -, h, -⟩)
    · exact h
    · cases h
  · exact fun h => .inl ⟨rfl, h⟩

/-- A list goes on behind a comma or ends, also behind a comma. -/
theorem reads_list_cons {p : Phrase α} {a : α} {as : List α} {ts rest : List Token} :
    (list p).Reads ts (a :: as) rest ↔ ∃ between, p.Reads ts a between ∧
      ((as = [] ∧ between = rest) ∨
        ∃ line next, (mark .comma).Reads between line next ∧ (list p).Reads next as rest) := by
  constructor
  · rintro (⟨h, -⟩ | ⟨a, _, hp, as, _, hmany, o, _, ho, hcons, rfl⟩)
    · cases h
    cases hcons
    refine ⟨_, hp, ?_⟩
    obtain ⟨rfl, rfl⟩ | ⟨b, _, ⟨line, _, hcomma, hb⟩, bs, hbs, rfl⟩ := reads_many.1 hmany
    · obtain ⟨-, rfl⟩ | ⟨line, hcomma, -⟩ := reads_optional.1 ho
      · exact .inl ⟨rfl, rfl⟩
      · exact .inr ⟨line, _, hcomma, reads_list_nil.2 rfl⟩
    · exact .inr ⟨line, _, hcomma, .inr ⟨b, _, hb, bs, _, hbs, o, _, ho, rfl, rfl⟩⟩
  · rintro ⟨_, hp, ⟨rfl, rfl⟩ | ⟨line, _, hcomma, hlist⟩⟩
    · exact .inr ⟨a, _, hp, [], _, .done _, none, _, reads_optional.2 (.inl ⟨rfl, rfl⟩), rfl, rfl⟩
    refine .inr ⟨a, _, hp, ?_⟩
    obtain ⟨rfl, rfl⟩ | ⟨b, _, hb, bs, _, hbs, o, _, ho, rfl, rfl⟩ := hlist
    · exact ⟨[], _, .done _, some line, _, reads_optional.2 (.inr ⟨line, hcomma, rfl⟩), rfl, rfl⟩
    · exact ⟨b :: bs, _, .more ⟨line, _, hcomma, hb⟩ hbs, o, _, ho, rfl, rfl⟩

theorem reads_list_such {p : Phrase α} {holds : α → Prop} {as : List α} {ts rest : List Token} :
    (list (p.such holds)).Reads ts as rest ↔
      (list p).Reads ts as rest ∧ ∀ a ∈ as, holds a := by
  induction as generalizing ts with
  | nil => simp [reads_list_nil]
  | cons b bs ih =>
    simp only [reads_list_cons, ih, List.forall_mem_cons]
    constructor
    · rintro ⟨_, ⟨hp, hb⟩, ⟨rfl, rfl⟩ | ⟨line, _, hcomma, hlist, hbs⟩⟩
      · exact ⟨⟨_, hp, .inl ⟨rfl, rfl⟩⟩, hb, nofun⟩
      · exact ⟨⟨_, hp, .inr ⟨line, _, hcomma, hlist⟩⟩, hb, hbs⟩
    · rintro ⟨⟨_, hp, ⟨rfl, rfl⟩ | ⟨line, _, hcomma, hlist⟩⟩, hb, hbs⟩
      · exact ⟨_, ⟨hp, hb⟩, .inl ⟨rfl, rfl⟩⟩
      · exact ⟨_, ⟨hp, hb⟩, .inr ⟨line, _, hcomma, hlist, hbs⟩⟩

/-- `{DOC}` -/
def docs : Phrase (List String) :=
  many doc

/-- `NAME {("::" | ".") NAME}` -/
def path : Phrase Path := do
  let first ← name
  let others ← many (do let _ ← either (mark .pathSeparator) (mark .dot); name)
  return ⟨first :: others, List.cons_ne_nil _ _⟩

/-- `"const" NAME [":" NAME] "=" NUMBER ";"`, in modules and behind documentation. -/
def constant (modules lines : List String) : Phrase Constant := do
  let line ← word "const"
  let name ← name
  let _ ← optional (do let _ ← mark .colon; Grammar.name)
  let _ ← mark .equals
  let value ← number
  let _ ← mark .semicolon
  return ⟨.inModules modules name, value, lines, line⟩

/-- `"mod" NAME "{"` -/
def moduleStart : Phrase String := do
  let _ ← word "mod"
  let name ← name
  let _ ← mark .leftBrace
  return name

/-- `{DOC} ["pub"]`, standing for its documentation. -/
def itemStart : Phrase (List String) := do
  let lines ← docs
  let _ ← optional (word "pub")
  return lines

/-- `{DOC} "}"` -/
def moduleEnd : Phrase Nat := do
  let _ ← docs
  mark .rightBrace

/-- `{ {DOC} ["pub"] (module | constant) }` in the modules `modules`, outermost first, where a
module is `"mod" NAME "{" items {DOC} "}"`. -/
inductive Items : List String → List Token → List Constant → List Token → Prop where
  | done (modules : List String) (ts : List Token) : Items modules ts [] ts
  | constant {modules lines : List String} {ts ts₁ ts₂ rest : List Token} {c : Constant}
      {cs : List Constant} (start : itemStart.Reads ts lines ts₁)
      (first : (constant modules lines).Reads ts₁ c ts₂) (others : Items modules ts₂ cs rest) :
      Items modules ts (c :: cs) rest
  | module {modules lines : List String} {ts ts₁ ts₂ ts₃ ts₄ rest : List Token} {name : String}
      {line : Nat} {inner cs : List Constant} (start : itemStart.Reads ts lines ts₁)
      (opens : moduleStart.Reads ts₁ name ts₂) (body : Items (modules ++ [name]) ts₂ inner ts₃)
      (closes : moduleEnd.Reads ts₃ line ts₄) (others : Items modules ts₄ cs rest) :
      Items modules ts (inner ++ cs) rest

def items (modules : List String) : Phrase (List Constant) where
  Reads := Items modules
  takes h := by
    induction h with
    | done modules ts => exact takes_none ts
    | constant start first _ ih =>
      exact takes_trans (itemStart.takes start) (takes_trans ((constant _ _).takes first) ih)
    | module start opens _ closes _ ihBody ihOthers =>
      exact takes_trans (itemStart.takes start) (takes_trans (moduleStart.takes opens)
        (takes_trans ihBody (takes_trans (moduleEnd.takes closes) ihOthers)))

/-- `NUMBER | path` -/
def port : Phrase Port :=
  either (do return .address (← number)) (do return .named (← path))

/-- `"device_ports" "(" [port {"," port} [","]] ")" ";"` -/
def ports : Phrase (List Port) := do
  let _ ← word "device_ports"
  let _ ← mark .leftParen
  let ps ← list port
  let _ ← mark .rightParen
  let _ ← mark .semicolon
  return ps

/-- `NUMBER | [NUMBER] ".." [NUMBER] | [NUMBER] "..=" NUMBER` -/
def bits : Phrase BitSpec :=
  either (do return .single (← number)) <|
    either
      (do
        let start ← optional number
        let _ ← mark .openRange
        let stop ← optional number
        return .range (start.map fun n => ⟨n, true⟩) (stop.map fun n => ⟨n, false⟩))
      (do
        let start ← optional number
        let _ ← mark .inclusiveRange
        let stop ← number
        return .range (start.map fun n => ⟨n, true⟩) (some ⟨stop, true⟩))

def policy : Phrase Policy :=
  one fun t p => t.lexeme = .name p.keyword

/-- `"[" "bit" "(" bits "," POLICY "," path ")" "]"` -/
def bitAttribute : Phrase (BitSpec × Policy × Path) := do
  let _ ← mark .leftBracket
  let _ ← word "bit"
  let _ ← mark .leftParen
  let bit ← bits
  let _ ← mark .comma
  let policy ← policy
  let _ ← mark .comma
  let path ← path
  let _ ← mark .rightParen
  let _ ← mark .rightBracket
  return (bit, policy, path)

/-- `{DOC} "#" bitAttribute {DOC} NAME` -/
def field : Phrase FieldDecl := do
  let before ← docs
  let line ← mark .hash
  let (bit, policy, path) ← bitAttribute
  let after ← docs
  let name ← name
  return ⟨name, bit, policy, path, before ++ after, line⟩

/-- `items {DOC} ports [field {"," field} [","]]` -/
def device (source : String) : Phrase Description := do
  let constants ← items []
  let _ ← docs
  let ports ← ports
  let fields ← list field
  return ⟨ports, fields, constants, source⟩

/-- A device and the end of input: the tokens `ts` of a text called `source` describe `d`. -/
def File (source : String) (ts : List Token) (d : Description) : Prop :=
  ∃ last, (device source).Reads ts d [last] ∧ last.lexeme = .endOfInput

end RegisterMap.Grammar
