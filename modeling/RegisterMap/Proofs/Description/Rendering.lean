import RegisterMap.Proofs.Description.Layout
import RegisterMap.Proofs.Description.RangeText

/-!
# Descriptions as text

A description is rendered as tokens, where modules nest as they like, commas may trail and
documentation stands in front of a field's attribute or behind it, and the tokens are laid out as a
text.
-/

namespace RegisterMap

open Lexer

/-! ## Renderings -/

structure Constant.Plain (c : Constant) : Prop where
  path : c.path.Written
  value : (Lexeme.number c.value).Plain
  docs : ∀ line ∈ c.docs, (Lexeme.doc line).Plain

def Port.Plain : Port → Prop
  | .address value => (Lexeme.number value).Plain
  | .named path => path.Written

structure FieldDecl.Plain (f : FieldDecl) : Prop where
  name : IsWord f.name
  bit : f.bit.Written
  short : ∀ n ∈ f.bit.numbers, Number.isShort n = true
  path : f.path.Written
  docs : ∀ line ∈ f.docs, (Lexeme.doc line).Plain

/-- A description whose names, numbers and lines can all be written. -/
structure Description.Plain (d : Description) : Prop where
  ports : ∀ p ∈ d.ports, p.Plain
  fields : ∀ f ∈ d.fields, f.Plain
  constants : ∀ c ∈ d.constants, c.Plain

section Decidable

instance (c : Constant) : Decidable c.Plain :=
  decidable_of_iff (c.path.Written ∧ (Lexeme.number c.value).Plain ∧
      ∀ line ∈ c.docs, (Lexeme.doc line).Plain)
    ⟨fun h => ⟨h.1, h.2.1, h.2.2⟩, fun h => ⟨h.1, h.2, h.3⟩⟩

instance : DecidablePred Port.Plain
  | .address value => inferInstanceAs (Decidable (Lexeme.number value).Plain)
  | .named path => inferInstanceAs (Decidable path.Written)

instance (f : FieldDecl) : Decidable f.Plain :=
  decidable_of_iff (IsWord f.name ∧ f.bit.Written ∧ (∀ n ∈ f.bit.numbers, Number.isShort n = true) ∧
      f.path.Written ∧ ∀ line ∈ f.docs, (Lexeme.doc line).Plain)
    ⟨fun h => ⟨h.1, h.2.1, h.2.2.1, h.2.2.2.1, h.2.2.2.2⟩, fun h => ⟨h.1, h.2, h.3, h.4, h.5⟩⟩

instance (d : Description) : Decidable d.Plain :=
  decidable_of_iff ((∀ p ∈ d.ports, p.Plain) ∧ (∀ f ∈ d.fields, f.Plain) ∧
      ∀ c ∈ d.constants, c.Plain)
    ⟨fun h => ⟨h.1, h.2.1, h.2.2⟩, fun h => ⟨h.1, h.2, h.3⟩⟩

end Decidable

namespace Rendering

variable {α : Type}

/-- Segments of a path, with `::` or a dot between them. -/
inductive Segments : List String → List Lexeme → Prop where
  | last (s : String) : Segments [s] [.name s]
  | more {s : String} {m : Mark} {segments : List String} {ls : List Lexeme}
      (hm : m = .pathSeparator ∨ m = .dot) (others : Segments segments ls) :
      Segments (s :: segments) (.name s :: .mark m :: ls)

/-- Elements with commas between them, and perhaps one behind the last. -/
inductive Listed (R : α → List Lexeme → Prop) : List α → List Lexeme → Prop where
  | none : Listed R [] []
  | last {a : α} {ls : List Lexeme} (h : R a ls) : Listed R [a] ls
  | more {a : α} {as : List α} {ls others : List Lexeme} (h : R a ls)
      (rest : Listed R as others) : Listed R (a :: as) (ls ++ .mark .comma :: others)

def docs (lines : List String) : List Lexeme :=
  lines.map .doc

/-- The word `pub`, or nothing. -/
def Visibility (ls : List Lexeme) : Prop :=
  ls = [] ∨ ls = [.name "pub"]

/-- The type of a constant behind a colon, or nothing. -/
def Typing (ls : List Lexeme) : Prop :=
  ls = [] ∨ ∃ s, IsWord s ∧ ls = [.mark .colon, .name s]

/-- A constant, apart from what stands in front of it. -/
def declaration (name : String) (typing : List Lexeme) (value : Int) : List Lexeme :=
  .name "const" :: .name name :: (typing ++ [.mark .equals, .number value, .mark .semicolon])

def moduleStart (name : String) : List Lexeme :=
  [.name "mod", .name name, .mark .leftBrace]

/-- The constants of the modules `modules`, outermost first, and of modules inside them. -/
inductive Items : List String → List Constant → List Lexeme → Prop where
  | done (modules : List String) : Items modules [] []
  | constant {modules lines : List String} {name : String} {value : Int} {line : Nat}
      {cs : List Constant} {visibility typing ls : List Lexeme} (hv : Visibility visibility)
      (ht : Typing typing) (others : Items modules cs ls) :
      Items modules (⟨.inModules modules name, value, lines, line⟩ :: cs)
        (docs lines ++ (visibility ++ (declaration name typing value ++ ls)))
  | module {modules : List String} {name : String} {inner cs : List Constant}
      {visibility body ls : List Lexeme} (hv : Visibility visibility) (hname : IsWord name)
      (hbody : Items (modules ++ [name]) inner body) (others : Items modules cs ls) :
      Items modules (inner ++ cs)
        (visibility ++ (moduleStart name ++ (body ++ .mark .rightBrace :: ls)))

inductive OfPort : Port → List Lexeme → Prop where
  | address (value : Int) : OfPort (.address value) [.number value]
  | named {path : Path} {ls : List Lexeme} (h : Segments path.segments ls) : OfPort (.named path) ls

/-- The addresses of a device, where `ls` are the addresses with their commas. -/
def addresses (ls : List Lexeme) : List Lexeme :=
  .name "device_ports" :: .mark .leftParen :: (ls ++ [.mark .rightParen, .mark .semicolon])

def bound (o : Option Bound) : List Lexeme :=
  o.toList.map fun b => .number b.value

def bits : BitSpec → List Lexeme
  | .single index => [.number index]
  | .range start stop =>
    bound start ++ .mark (if BitSpec.closes stop then .inclusiveRange else .openRange) :: bound stop

/-- The attribute of a field, where `ls` are the segments of its path. -/
def bitAttribute (bit : BitSpec) (policy : Policy) (ls : List Lexeme) : List Lexeme :=
  .mark .leftBracket :: .name "bit" :: .mark .leftParen :: (bits bit ++ .mark .comma ::
    .name policy.keyword :: .mark .comma :: (ls ++ [.mark .rightParen, .mark .rightBracket]))

/-- A field, with its documentation cut in two around the attribute. -/
inductive OfField : FieldDecl → List Lexeme → Prop where
  | mk {name : String} {bit : BitSpec} {policy : Policy} {path : Path} {before after : List String}
      {line : Nat} {ls : List Lexeme} (hpath : Segments path.segments ls) :
      OfField ⟨name, bit, policy, path, before ++ after, line⟩
        (docs before ++ .mark .hash :: (bitAttribute bit policy ls ++ (docs after ++ [.name name])))

/-- A device: its constants, its addresses and its fields. -/
inductive OfDevice (d : Description) : List Lexeme → Prop where
  | mk {items ports fields : List Lexeme} (hitems : Items [] d.constants items)
      (hports : Listed OfPort d.ports ports) (hfields : Listed OfField d.fields fields) :
      OfDevice d (items ++ (addresses ports ++ fields))

end Rendering

/-- A text that renders the description. -/
def Description.RenderedAs (d : Description) (text : String) : Prop :=
  ∃ ls, Rendering.OfDevice d ls ∧ LaidOut none ls text.toList

/-! ## Parts of descriptions can be rendered -/

namespace Rendering

variable {α : Type} {R : α → List Lexeme → Prop}

theorem exists_segments {segments : List String} (h : segments ≠ []) :
    ∃ ls, Segments segments ls := by
  induction segments with
  | nil => exact absurd rfl h
  | cons s segments ih =>
    cases segments with
    | nil => exact ⟨_, .last s⟩
    | cons t segments =>
      obtain ⟨ls, others⟩ := ih nofun
      exact ⟨_, .more (.inl rfl) others⟩

theorem exists_listed {as : List α} (h : ∀ a ∈ as, ∃ ls, R a ls) : ∃ ls, Listed R as ls := by
  induction as with
  | nil => exact ⟨[], .none⟩
  | cons a as ih =>
    obtain ⟨⟨ls, ha⟩, has⟩ := List.forall_mem_cons.1 h
    obtain ⟨others, hothers⟩ := ih has
    exact ⟨_, .more ha hothers⟩

theorem Items.append {modules : List String} {cs ds : List Constant} {ls more : List Lexeme}
    (h : Items modules cs ls) (h' : Items modules ds more) :
    Items modules (cs ++ ds) (ls ++ more) := by
  induction h with
  | done modules => exact h'
  | constant hv ht _ ih =>
    simp only [List.append_assoc, List.cons_append]
    exact .constant hv ht (ih h')
  | module hv hname hbody _ _ ih =>
    simp only [List.append_assoc, List.cons_append]
    exact .module hv hname hbody (ih h')

theorem exists_ofPort (p : Port) : ∃ ls, OfPort p ls := by
  cases p with
  | address value => exact ⟨_, .address value⟩
  | named path =>
    obtain ⟨ls, hls⟩ := exists_segments path.ne_nil
    exact ⟨_, .named hls⟩

theorem exists_ofField (f : FieldDecl) : ∃ ls, OfField f ls := by
  obtain ⟨name, bit, policy, path, lines, line⟩ := f
  obtain ⟨ls, hls⟩ := exists_segments path.ne_nil
  have hfield : OfField ⟨name, bit, policy, path, [] ++ lines, line⟩ _ := .mk hls
  exact ⟨_, hfield⟩

/-! ## The tokens of a rendering can be laid out -/

theorem plain_segments {segments : List String} {ls : List Lexeme} (h : Segments segments ls)
    (hwords : ∀ s ∈ segments, IsWord s) : ∀ l ∈ ls, l.Plain := by
  induction h with
  | last s => exact List.forall_mem_singleton.2 (hwords s List.mem_cons_self)
  | more _ _ ih =>
    obtain ⟨hs, hwords⟩ := List.forall_mem_cons.1 hwords
    exact List.forall_mem_cons.2 ⟨hs, List.forall_mem_cons.2 ⟨trivial, ih hwords⟩⟩

theorem plain_listed {as : List α} {ls : List Lexeme} (h : Listed R as ls)
    (hR : ∀ a ∈ as, ∀ ls, R a ls → ∀ l ∈ ls, l.Plain) : ∀ l ∈ ls, l.Plain := by
  induction h with
  | none => exact nofun
  | last h => exact hR _ List.mem_cons_self _ h
  | more h _ ih =>
    obtain ⟨ha, has⟩ := List.forall_mem_cons.1 hR
    exact List.forall_mem_append.2 ⟨ha _ h, List.forall_mem_cons.2 ⟨trivial, ih has⟩⟩

theorem plain_docs {lines : List String} (h : ∀ line ∈ lines, (Lexeme.doc line).Plain) :
    ∀ l ∈ docs lines, l.Plain := by
  intro l hl
  obtain ⟨line, hline, rfl⟩ := List.mem_map.1 hl
  exact h line hline

theorem plain_visibility {ls : List Lexeme} (h : Visibility ls) : ∀ l ∈ ls, l.Plain := by
  obtain rfl | rfl := h
  · exact nofun
  · have hpub : IsWord "pub" := by decide
    exact List.forall_mem_singleton.2 hpub

theorem plain_typing {ls : List Lexeme} (h : Typing ls) : ∀ l ∈ ls, l.Plain := by
  obtain rfl | ⟨s, hs, rfl⟩ := h
  · exact nofun
  · exact List.forall_mem_cons.2 ⟨trivial, List.forall_mem_singleton.2 hs⟩

theorem plain_declaration {name : String} {typing : List Lexeme} {value : Int}
    (hname : IsWord name) (ht : Typing typing) (hvalue : (Lexeme.number value).Plain) :
    ∀ l ∈ declaration name typing value, l.Plain := by
  have hconst : IsWord "const" := by decide
  simp only [declaration, List.forall_mem_append, List.forall_mem_cons]
  exact ⟨hconst, hname, plain_typing ht, trivial, hvalue, trivial, nofun⟩

theorem plain_items {modules : List String} {cs : List Constant} {ls : List Lexeme}
    (h : Items modules cs ls) (hcs : ∀ c ∈ cs, c.Plain) : ∀ l ∈ ls, l.Plain := by
  induction h with
  | done modules => exact nofun
  | @constant modules lines name value line cs _ _ ls hv ht _ ih =>
    obtain ⟨⟨hpath, hvalue, hlines⟩, hcs⟩ := List.forall_mem_cons.1 hcs
    have hname : IsWord name := hpath name (List.mem_append_right modules List.mem_cons_self)
    simp only [List.forall_mem_append]
    exact ⟨plain_docs hlines, plain_visibility hv, plain_declaration hname ht hvalue, ih hcs⟩
  | module hv hname _ _ ihBody ih =>
    obtain ⟨hinner, hcs⟩ := List.forall_mem_append.1 hcs
    have hmod : IsWord "mod" := by decide
    simp only [moduleStart, List.forall_mem_append, List.forall_mem_cons]
    exact ⟨plain_visibility hv, ⟨hmod, hname, trivial, nofun⟩, ihBody hinner, trivial, ih hcs⟩

theorem plain_ofPort {p : Port} {ls : List Lexeme} (h : OfPort p ls) (hp : p.Plain) :
    ∀ l ∈ ls, l.Plain := by
  cases h with
  | address value => exact List.forall_mem_singleton.2 hp
  | named h => exact plain_segments h hp

theorem plain_bits {b : BitSpec} (hb : b.Written)
    (hshort : ∀ n ∈ b.numbers, Number.isShort n = true) : ∀ l ∈ bits b, l.Plain := by
  have hbound : ∀ {o : Option Bound}, (∀ b ∈ o, 0 ≤ b.value ∧ Number.isShort b.value = true) →
      ∀ l ∈ bound o, l.Plain := by
    intro o ho l hl
    obtain ⟨b, hb, rfl⟩ := List.mem_map.1 hl
    exact ho b (Option.mem_toList.1 hb)
  cases b with
  | single index =>
    exact List.forall_mem_singleton.2 ⟨hb, hshort index (List.mem_singleton.2 rfl)⟩
  | range start stop =>
    obtain ⟨hstart, hstop⟩ := BitSpec.shortBounds hb hshort
    exact List.forall_mem_append.2
      ⟨hbound hstart, List.forall_mem_cons.2 ⟨trivial, hbound hstop⟩⟩

theorem plain_ofField {f : FieldDecl} {ls : List Lexeme} (h : OfField f ls) (hf : f.Plain) :
    ∀ l ∈ ls, l.Plain := by
  cases h with
  | @mk name bit policy path before after line ls hpath =>
    obtain ⟨hname, hbit, hshort, hwords, hdocs⟩ := hf
    obtain ⟨hbefore, hafter⟩ := List.forall_mem_append.1 hdocs
    have hword : IsWord "bit" := by decide
    have hpolicy : IsWord policy.keyword := by cases policy <;> decide
    simp only [bitAttribute, List.forall_mem_append, List.forall_mem_cons]
    exact ⟨plain_docs hbefore, trivial, ⟨trivial, hword, trivial, plain_bits hbit hshort, trivial,
      hpolicy, trivial, plain_segments hpath hwords, trivial, trivial, nofun⟩,
      plain_docs hafter, hname, nofun⟩

theorem plain_ofDevice {d : Description} {ls : List Lexeme} (h : OfDevice d ls) (hd : d.Plain) :
    ∀ l ∈ ls, l.Plain := by
  cases h with
  | mk hitems hports hfields =>
    have hword : IsWord "device_ports" := by decide
    have hp := plain_listed hports fun p hp _ h => plain_ofPort h (hd.ports p hp)
    have hf := plain_listed hfields fun f hf _ h => plain_ofField h (hd.fields f hf)
    simp only [addresses, List.forall_mem_append, List.forall_mem_cons]
    exact ⟨plain_items hitems hd.constants, ⟨hword, trivial, hp, trivial, trivial, nofun⟩, hf⟩

end Rendering

end RegisterMap
