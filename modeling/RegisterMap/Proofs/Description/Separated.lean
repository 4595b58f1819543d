import RegisterMap.Proofs.Description.Written

/-!
# What stands behind numbers

In a description a mark stands behind each number. It follows phrase by phrase, from the last
to the first: what holds behind a phrase tells what holds in front of it.
-/

namespace RegisterMap.Grammar

open Phrase RegisterMap.Parser

/-- None of the tokens is a number with a point, and behind each number there is a mark. -/
inductive Separated : List Token → Prop where
  | nil : Separated []
  | cons {t : Token} {ts : List Token} (hfraction : ∀ s, t.lexeme ≠ .fraction s)
      (hnumber : ∀ n, t.lexeme = .number n → ∃ m, peek ts = .mark m) (others : Separated ts) :
      Separated (t :: ts)

/-- Separated tokens that a number may stand in front of. -/
def Marked (ts : List Token) : Prop :=
  (∃ m, peek ts = .mark m) ∧ Separated ts

/-- Where `behind` holds of what follows the phrase, `front` holds of the tokens it starts. -/
def Keeps {α : Type} (p : Phrase α) (behind front : List Token → Prop) : Prop :=
  ∀ ts a rest, p.Reads ts a rest → behind rest → front ts

variable {α β : Type} {p q : Phrase α} {f : α → Phrase β} {A B C : List Token → Prop}

theorem Separated.no_fraction {ts : List Token} (h : Separated ts) :
    ∀ t ∈ ts, ∀ s, t.lexeme ≠ .fraction s := by
  induction h with
  | nil => exact nofun
  | cons hfraction _ _ ih => exact List.forall_mem_cons.2 ⟨hfraction, ih⟩

namespace Keeps

theorem pure {a : α} : Keeps (Pure.pure a) A A := by
  rintro _ _ _ ⟨-, rfl⟩ h
  exact h

theorem bind (hp : Keeps p B C) (hf : ∀ a, Keeps (f a) A B) : Keeps (p >>= f) A C := by
  rintro ts b rest ⟨a, between, ha, hb⟩ h
  exact hp _ _ _ ha (hf a _ _ _ hb h)

theorem either (hp : Keeps p A B) (hq : Keeps q A B) : Keeps (either p q) A B :=
  fun _ _ _ hreads h => hreads.elim (hp _ _ _ · h) (hq _ _ _ · h)

theorem weaken (hp : Keeps p B C) (h : ∀ ts, A ts → B ts) : Keeps p A C :=
  fun _ _ _ hreads hrest => hp _ _ _ hreads (h _ hrest)

theorem optional (hp : Keeps p A B) (h : ∀ ts, A ts → B ts) : Keeps (Phrase.optional p) A B :=
  either (weaken pure h) (bind hp fun _ => pure)

theorem many (hp : Keeps p A A) : Keeps (Phrase.many p) A A := by
  intro ts as rest hreads h
  induction hreads with
  | done ts => exact h
  | more first _ ih => exact hp _ _ _ first (ih h)

/-- A token that is no number leaves the tokens behind it separated. -/
theorem one {stands : Token → α → Prop} (h : ∀ t a, stands t a →
    (∀ s, t.lexeme ≠ .fraction s) ∧ ∀ n, t.lexeme ≠ .number n) :
    Keeps (Phrase.one stands) Separated Separated := by
  rintro _ a rest ⟨t, rfl, -, ha⟩ hrest
  obtain ⟨hfraction, hnumber⟩ := h t a ha
  exact .cons hfraction (fun n hn => absurd hn (hnumber n)) hrest

theorem value {shape : α → Lexeme}
    (h : ∀ a, (∀ s, shape a ≠ .fraction s) ∧ ∀ n, shape a ≠ .number n) :
    Keeps (Phrase.one fun t a => t.lexeme = shape a) Separated Separated :=
  one fun _ a ha => ha ▸ h a

theorem word (s : String) : Keeps (Grammar.word s) Separated Separated :=
  one fun t _ ⟨ht, _⟩ => by simp [ht]

theorem mark (m : Mark) : Keeps (Grammar.mark m) Separated Marked := by
  rintro _ line rest ⟨t, rfl, -, ht, -⟩ hrest
  exact ⟨⟨m, ht⟩, .cons (by simp [ht]) (by simp [ht]) hrest⟩

theorem number : Keeps Grammar.number Marked Separated := by
  rintro _ n rest ⟨t, rfl, -, ht⟩ ⟨hmark, hrest⟩
  exact .cons (by simp [ht]) (fun _ _ => hmark) hrest

theorem marked (hp : Keeps p A Marked) : Keeps p A Separated :=
  fun _ _ _ hreads h => (hp _ _ _ hreads h).2

/-- A list of what may stand in front of a comma. -/
theorem list (hp : Keeps p B Separated) (hmark : ∀ ts, Marked ts → B ts)
    (hB : ∀ ts, B ts → Separated ts) : Keeps (Grammar.list p) B Separated := by
  have hcomma : Keeps (Grammar.mark .comma) Separated B :=
    fun _ _ _ hreads h => hmark _ (mark .comma _ _ _ hreads h)
  refine either (weaken pure hB) (bind hp fun _ => bind (many (bind hcomma fun _ => hp)) fun _ =>
    bind (optional (weaken hcomma hB) fun _ h => h) fun _ => pure)

end Keeps

theorem keeps_name : Keeps name Separated Separated :=
  .value fun _ => by simp

theorem keeps_docs : Keeps docs Separated Separated :=
  .many (.value fun _ => by simp)

theorem keeps_path : Keeps path Separated Separated :=
  .bind keeps_name fun _ =>
    .bind (.many (.bind (.marked (.either (.mark _) (.mark _))) fun _ => keeps_name)) fun _ => .pure

theorem keeps_constant (modules lines : List String) :
    Keeps (constant modules lines) Separated Separated :=
  .bind (.word _) fun _ => .bind keeps_name fun _ =>
    .bind (.optional (.bind (.marked (.mark _)) fun _ => keeps_name) fun _ h => h) fun _ =>
      .bind (.marked (.mark _)) fun _ => .bind .number fun _ => .bind (.mark _) fun _ => .pure

theorem keeps_moduleStart : Keeps moduleStart Separated Separated :=
  .bind (.word _) fun _ => .bind keeps_name fun _ => .bind (.marked (.mark _)) fun _ => .pure

theorem keeps_itemStart : Keeps itemStart Separated Separated :=
  .bind keeps_docs fun _ => .bind (.optional (.word _) fun _ h => h) fun _ => .pure

theorem keeps_moduleEnd : Keeps moduleEnd Separated Separated :=
  .bind keeps_docs fun _ => .marked (.mark _)

theorem keeps_items (modules : List String) : Keeps (items modules) Separated Separated := by
  intro ts cs rest hreads h
  induction hreads with
  | done modules ts => exact h
  | constant start first _ ih =>
    exact keeps_itemStart _ _ _ start (keeps_constant _ _ _ _ _ first (ih h))
  | module start opens _ closes _ ihBody ihOthers =>
    exact keeps_itemStart _ _ _ start (keeps_moduleStart _ _ _ opens
      (ihBody (keeps_moduleEnd _ _ _ closes (ihOthers h))))

theorem keeps_port : Keeps port Marked Separated :=
  .either (.bind .number fun _ => .pure)
    (.bind (.weaken keeps_path fun _ h => h.2) fun _ => .pure)

theorem keeps_ports : Keeps ports Separated Separated :=
  .bind (.word _) fun _ => .bind (.marked (.mark _)) fun _ =>
    .bind (.list keeps_port (fun _ h => h) fun _ h => h.2) fun _ => .bind (.mark _) fun _ =>
      .bind (.marked (.mark _)) fun _ => .pure

theorem keeps_bits : Keeps bits Marked Separated :=
  .either (.bind .number fun _ => .pure) <|
    .either
      (.bind (.optional .number fun _ h => h.2) fun _ => .bind (.mark _) fun _ =>
        .bind (.optional .number fun _ h => h.2) fun _ => .pure)
      (.bind (.optional .number fun _ h => h.2) fun _ => .bind (.mark _) fun _ =>
        .bind .number fun _ => .pure)

theorem keeps_bitAttribute : Keeps bitAttribute Separated Separated :=
  .bind (.marked (.mark _)) fun _ => .bind (.word _) fun _ => .bind (.marked (.mark _)) fun _ =>
    .bind keeps_bits fun _ => .bind (.mark _) fun _ => .bind (.value fun _ => by simp) fun _ =>
      .bind (.marked (.mark _)) fun _ => .bind keeps_path fun _ =>
        .bind (.marked (.mark _)) fun _ => .bind (.marked (.mark _)) fun _ => .pure

theorem keeps_field : Keeps field Separated Separated :=
  .bind keeps_docs fun _ => .bind (.marked (.mark _)) fun _ => .bind keeps_bitAttribute fun _ =>
    .bind keeps_docs fun _ => .bind keeps_name fun _ => .pure

theorem keeps_device (source : String) : Keeps (device source) Separated Separated :=
  .bind (keeps_items []) fun _ => .bind keeps_docs fun _ => .bind keeps_ports fun _ =>
    .bind (.list keeps_field (fun _ h => h.2) fun _ h => h) fun _ => .pure

theorem separated_end {last : Token} (h : last.lexeme = .endOfInput) : Separated [last] :=
  .cons (by simp [h]) (by simp [h]) .nil

variable [Machine]

/-- The tokens of a description are separated. -/
theorem separated_of_description {source : String} {wordBits : Int} {ts : List Token}
    {d : Description} (hts : Ended ts) (h : description source wordBits ts = .ok d) :
    Separated ts := by
  obtain ⟨⟨last, hdevice, hlast⟩, -⟩ := (description_eq_ok hts).1 h
  exact keeps_device source _ _ _ hdevice (separated_end hlast)

theorem separated_of_constantFile {ts : List Token} {cs : List Constant} (hts : Ended ts)
    (h : constantFile ts = .ok cs) : Separated ts := by
  obtain ⟨⟨constants, rest⟩, hitems, h⟩ := bind_eq_ok.1 h
  obtain ⟨_, hend, -⟩ := bind_eq_ok.1 h
  cases inside_of_items hitems with
  | file hconstants =>
    obtain ⟨taken, rfl, htaken⟩ := (items []).takes hconstants
    obtain ⟨last, rfl, hlast⟩ := eq_singleton_of_ended hts htaken (expect_eq_ok.1 hend).1
    exact keeps_items [] _ _ _ hconstants (separated_end hlast)

end RegisterMap.Grammar
