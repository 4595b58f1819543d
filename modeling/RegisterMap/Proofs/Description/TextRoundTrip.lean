import RegisterMap.Description.Failure
import RegisterMap.Proofs.Description.Rendering

/-!
# Reading rendered descriptions

The tokens of a rendering make up the phrases of the grammar, wherever they stand in the text. Main
statement: every text that renders a description and nests no deeper than calls can is read as the
description.
-/

namespace RegisterMap

open Lexer

/-- What a constant says, wherever it stands. -/
def Constant.content (c : Constant) : Constant :=
  { c with line := 0 }

/-- What a field says, wherever it stands. -/
def FieldDecl.content (f : FieldDecl) : FieldDecl :=
  { f with line := 0 }

/-- What a description says, wherever its constants and fields stand. -/
def Description.content (d : Description) : Description :=
  { d with fields := d.fields.map FieldDecl.content, constants := d.constants.map Constant.content }

namespace Grammar

open Phrase Rendering

variable {α β : Type} {p q : Phrase α} {f : α → Phrase β} {Q : α → Prop} {R : β → Prop}
  {ls ls' : List Lexeme} {l : Lexeme}

/-- Wherever the tokens stand and whatever follows them, the phrase takes them, and what it then
stands for has a property. -/
def Fits (p : Phrase α) (ls : List Lexeme) (Q : α → Prop) : Prop :=
  ∀ ts rest, ts.map (·.lexeme) = ls → ∃ a, p.Reads (ts ++ rest) a rest ∧ Q a

/-- The phrase takes the front of more tokens. -/
theorem Fits.front (h : Fits p ls Q) {ts : List Token} (hts : ts.map (·.lexeme) = ls ++ ls')
    (rest : List Token) :
    ∃ a us, p.Reads (ts ++ rest) a (us ++ rest) ∧ us.map (·.lexeme) = ls' ∧ Q a := by
  obtain ⟨front, us, rfl, hfront, hus⟩ := List.map_eq_append_iff.1 hts
  obtain ⟨a, ha, hQ⟩ := h front (us ++ rest) hfront
  exact ⟨a, us, by rwa [List.append_assoc], hus, hQ⟩

theorem Fits.front_cons (h : Fits p [l] Q) {ts : List Token} (hts : ts.map (·.lexeme) = l :: ls)
    (rest : List Token) :
    ∃ a us, p.Reads (ts ++ rest) a (us ++ rest) ∧ us.map (·.lexeme) = ls ∧ Q a :=
  h.front (show ts.map (·.lexeme) = [l] ++ ls from hts) rest

namespace Fits

theorem pure {a : α} (h : Q a) : Fits (Pure.pure a) [] Q := by
  intro ts rest hts
  obtain rfl := List.map_eq_nil_iff.1 hts
  exact ⟨a, ⟨rfl, rfl⟩, h⟩

theorem bind (hp : Fits p ls Q) (hf : ∀ a, Q a → Fits (f a) ls' R) :
    Fits (p >>= f) (ls ++ ls') R := by
  intro ts rest hts
  obtain ⟨a, us, ha, hus, hQ⟩ := hp.front hts rest
  obtain ⟨b, hb, hR⟩ := hf a hQ us rest hus
  exact ⟨b, ⟨a, _, ha, hb⟩, hR⟩

theorem cons (hp : Fits p [l] Q) (hf : ∀ a, Q a → Fits (f a) ls R) :
    Fits (p >>= f) (l :: ls) R :=
  hp.bind hf

theorem mono (h : Fits p ls Q) {Q' : α → Prop} (hQ : ∀ a, Q a → Q' a) : Fits p ls Q' := by
  intro ts rest hts
  obtain ⟨a, ha, h⟩ := h ts rest hts
  exact ⟨a, ha, hQ a h⟩

theorem left (h : Fits p ls Q) : Fits (either p q) ls Q := by
  intro ts rest hts
  obtain ⟨a, ha, h⟩ := h ts rest hts
  exact ⟨a, .inl ha, h⟩

theorem right (h : Fits q ls Q) : Fits (either p q) ls Q := by
  intro ts rest hts
  obtain ⟨a, ha, h⟩ := h ts rest hts
  exact ⟨a, .inr ha, h⟩

theorem token {stands : Token → α → Prop} (hl : l ≠ .endOfInput)
    (h : ∀ t, t.lexeme = l → ∃ a, stands t a ∧ Q a) : Fits (one stands) [l] Q := by
  intro ts rest hts
  obtain ⟨t, rfl, ht⟩ := List.map_eq_singleton_iff.1 hts
  obtain ⟨a, ha, hQ⟩ := h t ht
  exact ⟨a, ⟨t, rfl, by rwa [ht], ha⟩, hQ⟩

theorem absent : Fits (optional p) [] fun o => o = none :=
  left (pure rfl)

theorem map {g : α → β} (h : Fits p ls Q) (hR : ∀ a, Q a → R (g a)) :
    Fits (do return g (← p)) ls R := by
  intro ts rest hts
  obtain ⟨a, ha, hQ⟩ := h ts rest hts
  exact ⟨g a, ⟨a, rest, ha, rfl, rfl⟩, hR a hQ⟩

theorem present (h : Fits p ls Q) : Fits (optional p) ls fun o => ∃ a, o = some a ∧ Q a :=
  right (h.map fun a ha => ⟨a, rfl, ha⟩)

theorem done : Fits (many p) [] fun as => as = [] := by
  intro ts rest hts
  obtain rfl := List.map_eq_nil_iff.1 hts
  exact ⟨[], .done rest, rfl⟩

theorem more {a : α} {as : List α} (h : Fits p ls fun b => b = a)
    (others : Fits (many p) ls' fun bs => bs = as) :
    Fits (many p) (ls ++ ls') fun bs => bs = a :: as := by
  intro ts rest hts
  obtain ⟨_, us, ha, hus, rfl⟩ := h.front hts rest
  obtain ⟨_, hothers, rfl⟩ := others us rest hus
  exact ⟨_, .more ha hothers, rfl⟩

end Fits

theorem fits_word (s : String) : Fits (word s) [.name s] fun _ => True :=
  .token nofun fun t ht => ⟨t.line, ⟨ht, rfl⟩, trivial⟩

theorem fits_mark (m : Mark) : Fits (mark m) [.mark m] fun _ => True :=
  .token nofun fun t ht => ⟨t.line, ⟨ht, rfl⟩, trivial⟩

theorem fits_name (s : String) : Fits name [.name s] fun word => word = s :=
  .token nofun fun _ ht => ⟨s, ht, rfl⟩

theorem fits_number (n : Int) : Fits number [.number n] fun value => value = n :=
  .token nofun fun _ ht => ⟨n, ht, rfl⟩

theorem fits_policy (a : Policy) : Fits policy [.name a.keyword] fun b => b = a :=
  .token nofun fun _ ht => ⟨a, ht, rfl⟩

theorem fits_docs (lines : List String) :
    Fits Grammar.docs (Rendering.docs lines) fun read => read = lines := by
  induction lines with
  | nil => exact .done
  | cons line lines ih =>
    have hdoc : Fits doc [.doc line] fun read => read = line :=
      .token nofun fun _ ht => ⟨line, ht, rfl⟩
    exact hdoc.more ih

theorem fits_visibility (h : Visibility ls) : Fits (optional (word "pub")) ls fun _ => True := by
  obtain rfl | rfl := h
  · exact Fits.absent.mono fun _ _ => trivial
  · exact (fits_word "pub").present.mono fun _ _ => trivial

theorem fits_typing (h : Typing ls) :
    Fits (optional (do let _ ← mark .colon; name)) ls fun _ => True := by
  obtain rfl | ⟨s, -, rfl⟩ := h
  · exact Fits.absent.mono fun _ _ => trivial
  · exact (Fits.cons (fits_mark .colon) fun _ _ => fits_name s).present.mono fun _ _ => trivial

theorem exists_fits_segments {segments : List String} (h : Segments segments ls) :
    ∃ first others tail, segments = first :: others ∧ ls = .name first :: tail ∧
      Fits Parser.segments tail fun read => read = others := by
  induction h with
  | last s => exact ⟨s, [], [], rfl, rfl, .done⟩
  | @more s m _ _ hm _ ih =>
    obtain ⟨t, others, tail, rfl, rfl, htail⟩ := ih
    have hseparator : Fits (either (mark .pathSeparator) (mark .dot)) [.mark m] fun _ => True := by
      obtain rfl | rfl := hm
      · exact .left (fits_mark _)
      · exact .right (fits_mark _)
    have hsegment := hseparator.cons fun _ _ => fits_name t
    exact ⟨s, t :: others, _, rfl, rfl, hsegment.more htail⟩

theorem fits_path {segments : List String} (h : Segments segments ls) :
    Fits path ls fun read => read.segments = segments := by
  obtain ⟨first, others, tail, rfl, rfl, htail⟩ := exists_fits_segments h
  refine .cons (fits_name first) fun _ hfirst => ?_
  exact htail.map fun _ hothers => congrArg₂ _ hfirst hothers

theorem fits_list {γ : Type} {g : α → γ} {R : α → List Lexeme → Prop} {as : List α}
    (h : Listed R as ls) (hR : ∀ a ∈ as, ∀ ls, R a ls → Fits p ls fun b => g b = g a) :
    Fits (list p) ls fun bs => bs.map g = as.map g := by
  induction h with
  | none =>
    intro ts rest hts
    obtain rfl := List.map_eq_nil_iff.1 hts
    exact ⟨[], reads_list_nil.2 rfl, rfl⟩
  | @last a ls h =>
    intro ts rest hts
    obtain ⟨b, hb, heq⟩ := hR a List.mem_cons_self ls h ts rest hts
    exact ⟨[b], reads_list_cons.2 ⟨rest, hb, .inl ⟨rfl, rfl⟩⟩, by simp [heq]⟩
  | @more a as ls others h _ ih =>
    obtain ⟨ha, has⟩ := List.forall_mem_cons.1 hR
    intro ts rest hts
    obtain ⟨b, us, hb, hus, heq⟩ := (ha ls h).front hts rest
    obtain ⟨line, vs, hcomma, hvs, -⟩ := (fits_mark .comma).front_cons hus rest
    obtain ⟨bs, hbs, hothers⟩ := ih has vs rest hvs
    exact ⟨b :: bs, reads_list_cons.2 ⟨_, hb, .inr ⟨line, _, hcomma, hbs⟩⟩, by simp [heq, hothers]⟩

theorem fits_port {a : Port} (h : OfPort a ls) : Fits port ls fun b => b = a := by
  cases h with
  | address value => exact .left ((fits_number value).map fun _ hvalue => by rw [hvalue])
  | named h => exact .right ((fits_path h).map fun _ hpath => by rw [Path.ext hpath])

theorem fits_bound (o : Option Bound) :
    Fits (optional number) (bound o) fun read => read = o.map Bound.value := by
  cases o with
  | none => exact .absent
  | some b =>
    refine (fits_number b.value).present.mono ?_
    rintro _ ⟨_, rfl, rfl⟩
    rfl

theorem fits_bits {b : BitSpec} (hb : b.Written) :
    Fits Grammar.bits (Rendering.bits b) fun read => read = b := by
  cases b with
  | single index => exact .left ((fits_number index).map fun _ hindex => by rw [hindex])
  | range start stop =>
    intro ts rest hts
    obtain ⟨lower, more, rfl, hlower, hmore⟩ := List.map_eq_append_iff.1 hts
    obtain ⟨⟨_, line, column⟩, upper, rfl, rfl, hupper⟩ := List.map_eq_cons_iff.1 hmore
    have hstart : ∀ us, (optional number).Reads (lower ++ us) (start.map Bound.value) us := by
      intro us
      obtain ⟨_, hread, rfl⟩ := fits_bound start lower us hlower
      exact hread
    obtain ⟨_, hstop, rfl⟩ := fits_bound stop upper rest hupper
    refine ⟨_, ?_, rfl⟩
    rw [List.append_assoc]
    exact BitSpec.reads_range hb hstart hstop

theorem fits_constant {modules lines : List String} {name : String} {value : Int}
    {typing : List Lexeme} (line : Nat) (ht : Typing typing) :
    Fits (constant modules lines) (declaration name typing value)
      fun c => c.content = (⟨.inModules modules name, value, lines, line⟩ : Constant).content := by
  refine .cons (fits_word "const") fun _ _ => .cons (fits_name name) fun _ hname => ?_
  refine (fits_typing ht).bind fun _ _ => .cons (fits_mark .equals) fun _ _ => ?_
  refine .cons (fits_number value) fun _ hvalue => .cons (fits_mark .semicolon) fun _ _ => ?_
  exact .pure (by rw [hname, hvalue]; rfl)

theorem fits_itemStart (lines : List String) (hv : Visibility ls) :
    Fits itemStart (Rendering.docs lines ++ ls) fun read => read = lines :=
  (fits_docs lines).bind fun _ hlines => (fits_visibility hv).map fun _ _ => hlines

theorem fits_moduleStart (name : String) :
    Fits moduleStart (Rendering.moduleStart name) fun read => read = name := by
  refine .cons (fits_word "mod") fun _ _ => .cons (fits_name name) fun _ hname => ?_
  exact (fits_mark .leftBrace).map fun _ _ => hname

theorem fits_moduleEnd : Fits moduleEnd [.mark .rightBrace] fun _ => True :=
  Fits.done.bind fun _ _ => fits_mark .rightBrace

/-- Nested modules are taken as modules of the grammar. -/
theorem fits_items {modules : List String} {cs : List Constant}
    (h : Rendering.Items modules cs ls) :
    Fits (items modules) ls fun read =>
      read.map Constant.content = cs.map Constant.content := by
  -- on the nesting: a module has its own items, behind which the items of the outer one go on
  induction h with
  | done modules =>
    intro ts rest hts
    obtain rfl := List.map_eq_nil_iff.1 hts
    exact ⟨[], .done modules rest, rfl⟩
  | @constant modules lines _ _ line _ _ _ _ hv ht _ ih =>
    intro ts rest hts
    rw [← List.append_assoc] at hts
    obtain ⟨_, us, hstart, hus, rfl⟩ := (fits_itemStart lines hv).front hts rest
    obtain ⟨c, vs, hconstant, hvs, hc⟩ := (fits_constant line ht).front hus rest
    obtain ⟨others, hothers, hmap⟩ := ih vs rest hvs
    refine ⟨c :: others, .constant hstart hconstant hothers, ?_⟩
    simp only [List.map_cons, hc, hmap]
  | @module modules name _ _ _ _ _ hv _ _ _ ihBody ih =>
    intro ts rest hts
    obtain ⟨_, us, hstart, hus, -⟩ := (fits_itemStart [] hv).front hts rest
    obtain ⟨_, vs, hopens, hvs, rfl⟩ := (fits_moduleStart name).front hus rest
    obtain ⟨inner, ws, hbody, hws, hinner⟩ := ihBody.front hvs rest
    obtain ⟨line, xs, hcloses, hxs, -⟩ := fits_moduleEnd.front_cons hws rest
    obtain ⟨others, hothers, hmap⟩ := ih xs rest hxs
    refine ⟨inner ++ others, .module hstart hopens hbody hcloses hothers, ?_⟩
    simp only [List.map_append, hinner, hmap]

theorem fits_ports {ps : List Port} (h : Listed OfPort ps ls) :
    Fits ports (addresses ls) fun read => read = ps := by
  refine .cons (fits_word "device_ports") fun _ _ => .cons (fits_mark .leftParen) fun _ _ => ?_
  refine (fits_list (g := id) h fun p _ _ hp => fits_port hp).bind fun read hread => ?_
  refine .cons (fits_mark .rightParen) fun _ _ => (fits_mark .semicolon).map fun _ _ => ?_
  simpa using hread

theorem fits_bitAttribute {bit : BitSpec} (hb : bit.Written) (policy : Policy) {path : Path}
    (h : Segments path.segments ls) :
    Fits bitAttribute (Rendering.bitAttribute bit policy ls) fun read =>
      read = (bit, policy, path) := by
  refine .cons (fits_mark .leftBracket) fun _ _ => .cons (fits_word "bit") fun _ _ => ?_
  refine .cons (fits_mark .leftParen) fun _ _ => (fits_bits hb).bind fun _ hbit => ?_
  refine .cons (fits_mark .comma) fun _ _ => .cons (fits_policy policy) fun _ hpolicy => ?_
  refine .cons (fits_mark .comma) fun _ _ => (fits_path h).bind fun _ hpath => ?_
  refine .cons (fits_mark .rightParen) fun _ _ => (fits_mark .rightBracket).map fun _ _ => ?_
  rw [hbit, hpolicy, Path.ext hpath]

theorem fits_field {f : FieldDecl} (h : OfField f ls) (hb : f.bit.Written) :
    Fits field ls fun read => read.content = f.content := by
  cases h with
  | @mk name bit policy path before after line ls hpath =>
    refine (fits_docs before).bind fun _ hbefore => .cons (fits_mark .hash) fun _ _ => ?_
    refine (fits_bitAttribute hb policy hpath).bind fun _ hattribute => ?_
    rw [hattribute]
    refine (fits_docs after).bind fun _ hafter => (fits_name name).map fun _ hname => ?_
    rw [hbefore, hafter, hname]
    rfl

theorem fits_device {d : Description} (hd : d.Plain) (h : OfDevice d ls)
    (source : String) :
    Fits (device source) ls fun read => read.content = { d.content with source := source } := by
  cases h with
  | mk hitems hports hfields =>
    have hfield := fits_list (g := FieldDecl.content) hfields fun f hf _ h =>
      fits_field h (hd.fields f hf).bit
    refine (fits_items hitems).bind fun constants hconstants => ?_
    refine Fits.done.bind fun _ _ => (fits_ports hports).bind fun _ hports => ?_
    refine hfield.map fun fields hfields => ?_
    rw [Description.content, Description.content, hconstants, hports, hfields]

/-! ### How deep renderings nest -/

/-- Lexemes that make up a phrase without braces open none. -/
theorem Fits.nests (h : Fits p ls Q) (hp : Flat p) : Nests 0 ls := by
  intro ts rest now hts
  obtain ⟨a, ha, -⟩ := h ts rest hts
  rw [hp ha]
  exact Nat.le_max_right _ _

/-- A constant is rendered inside the modules of its path and no others. -/
theorem exists_items_constant {c : Constant} {name : String} {inner : List String}
    (hinner : ∀ s ∈ inner, Lexer.IsWord s) {modules : List String}
    (hpath : c.path = .inModules (modules ++ inner) name) :
    ∃ ls, Rendering.Items modules [c] ls ∧ Nests inner.length ls := by
  induction inner generalizing modules with
  | nil =>
    obtain ⟨path, value, lines, line⟩ := c
    obtain rfl : path = .inModules modules name := by simpa using hpath
    refine ⟨_, .constant (.inl rfl) (.inl rfl) (.done modules), ?_⟩
    have hstart := (fits_itemStart lines (.inl rfl)).nests Flat.itemStart
    have hconstant : Nests 0 (declaration name [] value) :=
      (@fits_constant modules lines name value [] line (.inl rfl)).nests (Flat.constant _ _)
    simpa using hstart.append hconstant
  | cons s inner ih =>
    obtain ⟨hs, hinner⟩ := List.forall_mem_cons.1 hinner
    have hrest : c.path = .inModules ((modules ++ [s]) ++ inner) name := by simpa using hpath
    obtain ⟨body, hbody, hnests⟩ := ih hinner hrest
    refine ⟨_, .module (.inl rfl) hs hbody (.done modules), ?_⟩
    have hnames : Nests 0 [.name "mod", .name s] :=
      ((fits_word "mod").nests (Flat.word _)).append ((fits_name s).nests Flat.name)
    exact (hnames.mono (Nat.zero_le _)).append hnests.braces

theorem exists_items {n : Nat} {cs : List Constant} (h : ∀ c ∈ cs, c.path.Written)
    (hn : ∀ c ∈ cs, c.path.segments.length ≤ n + 1) :
    ∃ ls, Rendering.Items [] cs ls ∧ Nests n ls := by
  induction cs with
  | nil => exact ⟨_, .done [], .nil⟩
  | cons c cs ih =>
    obtain ⟨hwords, hcs⟩ := List.forall_mem_cons.1 h
    obtain ⟨hlength, hn⟩ := List.forall_mem_cons.1 hn
    obtain ⟨others, hothers, hnests⟩ := ih hcs hn
    have hpath : c.path = .inModules ([] ++ c.path.segments.dropLast) c.path.last :=
      Path.ext (List.dropLast_append_getLast c.path.ne_nil).symm
    obtain ⟨ls, hc, hnest⟩ :=
      exists_items_constant (fun s hs => hwords s ((List.dropLast_sublist _).subset hs)) hpath
    rw [List.length_dropLast] at hnest
    exact ⟨_, hc.append hothers, (hnest.mono (by omega)).append hnests⟩

/-- A description can be rendered with no more modules open at once than its constants lie in. -/
theorem exists_ofDevice {d : Description} (hd : d.Plain) {n : Nat}
    (hn : ∀ c ∈ d.constants, c.path.segments.length ≤ n + 1) :
    ∃ ls, OfDevice d ls ∧ Nests n ls := by
  obtain ⟨items, hitems, hnests⟩ := exists_items (fun c hc => (hd.constants c hc).path) hn
  obtain ⟨ports, hports⟩ := exists_listed fun p _ => exists_ofPort p
  obtain ⟨fields, hfields⟩ := exists_listed fun f _ => exists_ofField f
  have hfield := fits_list (g := FieldDecl.content) hfields fun f hf _ h =>
    fits_field h (hd.fields f hf).bit
  have hflat : Nests 0 (addresses ports ++ fields) :=
    ((fits_ports hports).nests Flat.ports).append (hfield.nests (Flat.list Flat.field))
  exact ⟨_, .mk hitems hports hfields, hnests.append (hflat.mono (Nat.zero_le _))⟩

end Grammar

namespace Description

theorem inOrder_of_content {f g : FieldDecl} {wordBits : Int} (h : f.content = g.content)
    (hg : Parser.InOrder wordBits g) : Parser.InOrder wordBits f := by
  have hbit : f.content.bit = g.content.bit := congrArg FieldDecl.bit h
  have hsame : f.bit = g.bit := hbit
  rwa [Parser.InOrder, hsame]

/-- The tokens of a text that renders a description, in front of the end of input. -/
theorem tokens_of_laidOut {d : Description} (hd : d.Plain) {text : String} {ls : List Lexeme}
    (hls : Rendering.OfDevice d ls) (hlaid : LaidOut none ls text.toList) :
    ∃ ts last, Parser.tokens text = .ok (ts ++ [last]) ∧ ts.map (·.lexeme) = ls ∧
      last.lexeme = .endOfInput := by
  obtain ⟨ts, hts, hlexemes⟩ := tokensFrom_laidOut hlaid (Rendering.plain_ofDevice hls hd) 1 1
  obtain ⟨us, lasts, rfl, hus, hlast⟩ := List.map_eq_append_iff.1 hlexemes
  obtain ⟨last, rfl, hend⟩ := List.map_eq_singleton_iff.1 hlast
  exact ⟨us, last, by rw [Parser.tokens, Lexer.tokens, hts], hus, hend⟩

/-- A description can be rendered as a text that nests no deeper than its constants. -/
theorem exists_renderedAs {d : Description} (hd : d.Plain) {n : Nat}
    (hn : ∀ c ∈ d.constants, c.path.segments.length ≤ n + 1) :
    ∃ text ts, d.RenderedAs text ∧ Parser.tokens text = .ok ts ∧ Grammar.depth ts ≤ n := by
  obtain ⟨ls, hls, hnests⟩ := Grammar.exists_ofDevice hd hn
  obtain ⟨cs, hcs⟩ := exists_laidOut (Rendering.plain_ofDevice hls hd) none
  have hlaid : LaidOut none ls (String.ofList cs).toList := by rwa [String.toList_ofList]
  obtain ⟨ts, last, htokens, hts, hlast⟩ := tokens_of_laidOut hd hls hlaid
  refine ⟨_, _, ⟨ls, hls, hlaid⟩, htokens, (hnests ts [last] 0 hts).trans ?_⟩
  rw [Grammar.deepest, hlast]
  exact Nat.max_le.2 ⟨(Nat.zero_add n).le, Nat.max_le.2 ⟨Nat.zero_le n, Nat.zero_le n⟩⟩

/-- A description of plain names, numbers and lines with its ranges in order can be rendered as a
text that nests no deeper than its constants. Every text that renders it nests as deep as they do,
and is read as the description just when it does not nest deeper than calls can. -/
theorem readDescription_of_renderedAs [Machine] {d : Description} {wordBits : Int} (hd : d.Plain)
    (horder : ∀ f ∈ d.fields, Parser.InOrder wordBits f) :
    (∀ n, (∀ c ∈ d.constants, c.path.segments.length ≤ n + 1) →
      ∃ text ts, d.RenderedAs text ∧ Parser.tokens text = .ok ts ∧ Grammar.depth ts ≤ n) ∧
    ∀ text source, d.RenderedAs text → ∃ ts, Parser.tokens text = .ok ts ∧
      (∀ c ∈ d.constants, c.path.segments.length ≤ Grammar.depth ts + 1) ∧
      (Grammar.depth ts ≤ Machine.modules →
        ∃ read, Parser.readDescription text source wordBits = .ok read ∧
          read.content = { d.content with source := source }) ∧
      (Machine.modules < Grammar.depth ts →
        ∃ fault, Parser.readDescription text source wordBits = .error fault ∧
          fault.failure source = .tooDeep) := by
  refine ⟨fun n => exists_renderedAs hd, ?_⟩
  rintro text source ⟨ls, hls, hlaid⟩
  obtain ⟨ts, last, htokens, hts, hlast⟩ := tokens_of_laidOut hd hls hlaid
  obtain ⟨read, hread, hcontent⟩ := Grammar.fits_device hd hls source ts [last] hts
  refine ⟨_, htokens, ?constants, fun hshallow => ⟨read, ?shallow, hcontent⟩, fun hdeep => ?deep⟩
  case constants =>
    obtain ⟨constants, _, hitems, _, _, -, _, _, -, _, _, -, rfl, -⟩ := hread
    intro c hc
    have hmap : constants.map Constant.content = d.constants.map Constant.content :=
      congrArg Description.constants hcontent
    have hmem : c.content ∈ constants.map Constant.content := by
      rw [hmap]
      exact List.mem_map_of_mem hc
    obtain ⟨c', hc', heq⟩ := List.mem_map.1 hmem
    have hpath : c'.content.path = c.content.path := congrArg Constant.path heq
    replace hpath : c'.path = c.path := hpath
    have hlength := Grammar.length_le_of_items hitems 0 c' hc'
    rwa [hpath, Nat.zero_add] at hlength
  case shallow =>
    have hfields : read.fields.map FieldDecl.content = d.fields.map FieldDecl.content :=
      congrArg Description.fields hcontent
    have hin : ∀ f ∈ read.fields, Parser.InOrder wordBits f := by
      intro f hf
      have hmem : f.content ∈ d.fields.map FieldDecl.content := by
        rw [← hfields]
        exact List.mem_map_of_mem hf
      obtain ⟨g, hg, heq⟩ := List.mem_map.1 hmem
      exact inOrder_of_content heq.symm (horder g hg)
    have hended := (Lexer.lexed_of_tokens (Parser.tokens_eq_ok.1 htokens)).1
    exact bind_eq_ok.2 ⟨_, htokens,
      (Parser.description_eq_ok hended).2 ⟨⟨last, hread, hlast⟩, hin, hshallow⟩⟩
  case deep =>
    obtain ⟨place, hfault⟩ := Parser.description_of_deep ⟨last, hread, hlast⟩ hdeep
    exact ⟨_, by rw [Parser.readDescription, htokens, ok_bind, hfault], rfl⟩

/-- A counter whose registers are in a module of their own. -/
def counter : Description where
  ports := [.named (.inModules ["map"] "COUNTER"), .address 0x40002000]
  fields := [
    ⟨"mode", .range (some ⟨4, true⟩) (some ⟨8, false⟩), .readWrite,
      .inModules ["map", "regs"] "CTRL", ["How the counter wraps."], 0⟩,
    ⟨"busy", .single 0, .readOnly, .inModules ["map", "regs"] "STATUS", [], 0⟩]
  constants := [⟨.inModules ["map"] "COUNTER", 0x40001000, ["The first counter."], 0⟩,
    ⟨.inModules ["map", "regs"] "CTRL", 0, [], 0⟩, ⟨.inModules ["map", "regs"] "STATUS", 4, [], 0⟩]
  source := "counter"

theorem readDescription_counter :
    counter.Plain ∧ (∀ f ∈ counter.fields, Parser.InOrder 32 f) ∧
      ∃ text read, counter.RenderedAs text ∧
        Parser.readDescription text "counter" 32 = .ok read ∧ read.content = counter.content := by
  have hplain : counter.Plain := by decide +kernel
  have horder : ∀ f ∈ counter.fields, Parser.InOrder 32 f := by decide
  obtain ⟨hrendered, hread⟩ := readDescription_of_renderedAs hplain horder
  obtain ⟨text, ts, htext, hts, hdepth⟩ := hrendered 2 (by decide)
  obtain ⟨ts', hts', -, hshallow, -⟩ := hread text "counter" htext
  cases hts.symm.trans hts'
  obtain ⟨read, hok, hcontent⟩ := hshallow (hdepth.trans (by decide))
  exact ⟨hplain, horder, text, read, htext, hok, hcontent⟩

end Description

end RegisterMap
