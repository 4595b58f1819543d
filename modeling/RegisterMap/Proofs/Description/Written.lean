import RegisterMap.Proofs.Description.Lexed

/-!
# Descriptions that can be written

A description read from a text is made of words, numbers that are not negative and stripped lines,
because its tokens are. Whatever a phrase stands for is made of the tokens it takes.
-/

namespace RegisterMap

open Lexer

/-- A path of words. -/
def Path.Written (p : Path) : Prop :=
  ∀ s ∈ p.segments, IsWord s

instance : DecidablePred Path.Written :=
  fun p => inferInstanceAs (Decidable (∀ s ∈ p.segments, IsWord s))

/-- Bits of which no bound is negative and the lower one is included. -/
def BitSpec.Written : BitSpec → Prop
  | .single index => 0 ≤ index
  | .range start stop =>
    (∀ b ∈ start, 0 ≤ b.value ∧ b.included = true) ∧ ∀ b ∈ stop, 0 ≤ b.value

instance : DecidablePred BitSpec.Written
  | .single index => inferInstanceAs (Decidable (0 ≤ index))
  | .range start stop => inferInstanceAs (Decidable
      ((∀ b ∈ start, 0 ≤ b.value ∧ b.included = true) ∧ ∀ b ∈ stop, 0 ≤ b.value))

structure Constant.Written (c : Constant) : Prop where
  path : c.path.Written
  value : 0 ≤ c.value

def Port.Written : Port → Prop
  | .address value => 0 ≤ value
  | .named path => path.Written

structure FieldDecl.Written (f : FieldDecl) : Prop where
  name : IsWord f.name
  bit : f.bit.Written
  path : f.path.Written
  docs : ∀ line ∈ f.docs, Text.strip line = line

structure Description.Written (d : Description) : Prop where
  ports : ∀ p ∈ d.ports, p.Written
  fields : ∀ f ∈ d.fields, f.Written
  constants : ∀ c ∈ d.constants, c.Written

namespace Grammar

open Phrase

/-- Whatever the phrase stands for has a property when its tokens are tokens of a text. -/
def Gives {α : Type} (p : Phrase α) (Q : α → Prop) : Prop :=
  ∀ ts a rest, (∀ t ∈ ts, Lexed t.lexeme) → p.Reads ts a rest → Q a

variable {α β : Type} {p q : Phrase α} {f : α → Phrase β} {Q : α → Prop} {R : β → Prop}

theorem lexed_rest {a : α} {ts rest : List Token} (hts : ∀ t ∈ ts, Lexed t.lexeme)
    (h : p.Reads ts a rest) : ∀ t ∈ rest, Lexed t.lexeme := by
  obtain ⟨taken, rfl, -⟩ := p.takes h
  exact fun t ht => hts t (List.mem_append_right taken ht)

namespace Gives

theorem any (p : Phrase α) : Gives p fun _ => True :=
  fun _ _ _ _ _ => trivial

theorem pure {a : α} (h : Q a) : Gives (Pure.pure a) Q := by
  rintro _ _ _ _ ⟨rfl, -⟩
  exact h

theorem bind (hp : Gives p Q) (hf : ∀ a, Q a → Gives (f a) R) : Gives (p >>= f) R := by
  rintro ts b rest hts ⟨a, between, ha, hb⟩
  exact hf a (hp _ _ _ hts ha) _ _ _ (lexed_rest hts ha) hb

theorem either (hp : Gives p Q) (hq : Gives q Q) : Gives (either p q) Q :=
  fun _ _ _ hts h => h.elim (hp _ _ _ hts) (hq _ _ _ hts)

theorem optional (hp : Gives p Q) : Gives (Phrase.optional p) fun o => ∀ a ∈ o, Q a :=
  either (pure (by simp)) (bind hp fun a ha => pure (by simpa using ha))

theorem many (hp : Gives p Q) : Gives (Phrase.many p) fun as => ∀ a ∈ as, Q a := by
  intro ts as rest hts h
  induction h with
  | done ts => exact nofun
  | more first _ ih =>
    exact List.forall_mem_cons.2 ⟨hp _ _ _ hts first, ih (lexed_rest hts first)⟩

theorem list (hp : Gives p Q) : Gives (Grammar.list p) fun as => ∀ a ∈ as, Q a :=
  either (pure nofun) <| bind hp fun _ ha =>
    bind (many (bind (any _) fun _ _ => hp)) fun _ hothers =>
      bind (any _) fun _ _ => pure (List.forall_mem_cons.2 ⟨ha, hothers⟩)

theorem value {shape : α → Lexeme} (h : ∀ a, Lexed (shape a) → Q a) :
    Gives (one fun t a => t.lexeme = shape a) Q := by
  rintro _ a _ hts ⟨t, rfl, -, ht⟩
  exact h a (ht ▸ hts t List.mem_cons_self)

end Gives

theorem gives_name : Gives name IsWord :=
  .value fun _ h => h

theorem gives_number : Gives number fun n => 0 ≤ n :=
  .value fun _ h => h

theorem gives_docs : Gives docs fun lines => ∀ line ∈ lines, Text.strip line = line :=
  .many (.value fun _ h => h)

theorem gives_path : Gives path Path.Written :=
  .bind gives_name fun _ hfirst =>
    .bind (.many (.bind (.any _) fun _ _ => gives_name)) fun _ hothers =>
      .pure (List.forall_mem_cons.2 ⟨hfirst, hothers⟩)

theorem gives_constant {modules : List String} (hmodules : ∀ s ∈ modules, IsWord s)
    (lines : List String) : Gives (constant modules lines) Constant.Written := by
  refine .bind (.any _) fun line _ => .bind gives_name fun name hname => .bind (.any _) fun _ _ =>
    .bind (.any _) fun _ _ => .bind gives_number fun value hvalue => .bind (.any _) fun _ _ =>
      .pure ⟨fun s hs => ?_, hvalue⟩
  obtain hs | hs := List.mem_append.1 hs
  · exact hmodules s hs
  · rwa [List.mem_singleton.1 hs]

theorem gives_moduleStart : Gives moduleStart IsWord :=
  .bind (.any _) fun _ _ => .bind gives_name fun _ hname => .bind (.any _) fun _ _ => .pure hname

theorem gives_items {modules : List String} (hmodules : ∀ s ∈ modules, IsWord s) :
    Gives (items modules) fun cs => ∀ c ∈ cs, c.Written := by
  intro ts cs rest hts h
  induction h with
  | done modules ts => exact nofun
  | constant start first _ ih =>
    have hfirst := lexed_rest hts start
    exact List.forall_mem_cons.2
      ⟨gives_constant hmodules _ _ _ _ hfirst first, ih hmodules (lexed_rest hfirst first)⟩
  | @module _ _ _ _ _ _ _ _ name _ _ _ start opens body closes _ ihBody ihOthers =>
    have hopens := lexed_rest hts start
    have hbody := lexed_rest hopens opens
    have hcloses := lexed_rest (p := items _) hbody body
    have hinner : ∀ s ∈ _ ++ [name], IsWord s := List.forall_mem_append.2
      ⟨hmodules, List.forall_mem_singleton.2 (gives_moduleStart _ _ _ hopens opens)⟩
    exact List.forall_mem_append.2
      ⟨ihBody hinner hbody, ihOthers hmodules (lexed_rest hcloses closes)⟩

theorem gives_port : Gives port Port.Written :=
  .either (.bind gives_number fun _ h => .pure h) (.bind gives_path fun _ h => .pure h)

theorem gives_ports : Gives ports fun ps => ∀ p ∈ ps, p.Written :=
  .bind (.any _) fun _ _ => .bind (.any _) fun _ _ => .bind (.list gives_port) fun _ hps =>
    .bind (.any _) fun _ _ => .bind (.any _) fun _ _ => .pure hps

theorem gives_bits : Gives bits BitSpec.Written := by
  have hstart : ∀ {start : Option Int}, (∀ n ∈ start, 0 ≤ n) →
      ∀ b ∈ start.map (fun n => (⟨n, true⟩ : Bound)), 0 ≤ b.value ∧ b.included = true := by
    intro start h b hb
    obtain ⟨n, hn, rfl⟩ := Option.map_eq_some_iff.1 hb
    exact ⟨h n hn, rfl⟩
  refine .either (.bind gives_number fun n hn => .pure hn) (.either ?_ ?_)
  · refine .bind (.optional gives_number) fun start hn => .bind (.any _) fun _ _ =>
      .bind (.optional gives_number) fun stop hm => .pure ⟨hstart hn, fun b hb => ?_⟩
    obtain ⟨m, hmem, rfl⟩ := Option.map_eq_some_iff.1 hb
    exact hm m hmem
  · refine .bind (.optional gives_number) fun start hn => .bind (.any _) fun _ _ =>
      .bind gives_number fun stop hm => .pure ⟨hstart hn, ?_⟩
    rintro b ⟨⟩
    exact hm

theorem gives_bitAttribute :
    Gives bitAttribute fun (bit, _, path) => bit.Written ∧ path.Written :=
  .bind (.any _) fun _ _ => .bind (.any _) fun _ _ => .bind (.any _) fun _ _ =>
    .bind gives_bits fun _ hbit => .bind (.any _) fun _ _ => .bind (.any _) fun _ _ =>
      .bind (.any _) fun _ _ => .bind gives_path fun _ hpath => .bind (.any _) fun _ _ =>
        .bind (.any _) fun _ _ => .pure ⟨hbit, hpath⟩

theorem gives_field : Gives field FieldDecl.Written := by
  refine .bind gives_docs fun before hbefore => .bind (.any _) fun line _ =>
    .bind gives_bitAttribute fun (bit, policy, path) h => .bind gives_docs fun after hafter =>
      .bind gives_name fun name hname => .pure ⟨hname, h.1, h.2, fun s hs => ?_⟩
  exact (List.mem_append.1 hs).elim (hbefore s) (hafter s)

theorem gives_device (source : String) : Gives (device source) Description.Written :=
  .bind (gives_items nofun) fun _ hconstants => .bind (.any _) fun _ _ =>
    .bind gives_ports fun _ hports => .bind (.list gives_field) fun _ hfields =>
      .pure ⟨hports, hfields, hconstants⟩

end Grammar

/-- What is read from a text can be written. -/
theorem Parser.written_of_readDescription [Machine] {text source : String} {wordBits : Int}
    {d : Description} (h : Parser.readDescription text source wordBits = .ok d) :
    d.Written ∧ ∀ f ∈ d.fields, Parser.InOrder wordBits f := by
  obtain ⟨ts, htokens, h⟩ := bind_eq_ok.1 h
  obtain ⟨hended, hlexed⟩ := lexed_of_tokens (Parser.tokens_eq_ok.1 htokens)
  obtain ⟨⟨last, hdevice, -⟩, horder, -⟩ := (Parser.description_eq_ok hended).1 h
  exact ⟨Grammar.gives_device source _ _ _ hlexed hdevice, horder⟩

end RegisterMap
