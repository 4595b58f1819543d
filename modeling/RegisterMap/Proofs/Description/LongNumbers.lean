import RegisterMap.Proofs.Analysis.Refusals
import RegisterMap.Proofs.Description.FaultPositions
import RegisterMap.Proofs.Description.Positions
import RegisterMap.Proofs.Description.Shown

/-!
# Descriptions with long numbers

A message that would show a number of too many digits gives way to the complaint about it. The
numbers of a text are those of its tokens, so a text without a long number is read, or its fault is
told in full and at its place.
-/

namespace RegisterMap

/-- One of the tokens is a number with too many digits to be written in decimal. -/
def HasLong (ts : List Token) : Prop :=
  ∃ t ∈ ts, ∃ n, t.lexeme = .number n ∧ Number.isShort n = false

/-- A number that can be written in decimal, or any number if `L` holds. -/
def ShortUnless (L : Prop) (n : Int) : Prop :=
  Number.isShort n = true ∨ L

variable {L : Prop} {ts rest : List Token}

theorem Failure.showing_cases {numbers : List Int} {d : Diagnostic}
    (h : ∀ n ∈ numbers, ShortUnless L n) :
    Failure.showing numbers d = .diagnostic d ∨ Failure.showing numbers d = .longNumber ∧ L := by
  rw [Failure.showing]
  by_cases hshort : numbers.all Number.isShort = true
  · exact .inl (if_pos hshort)
  · obtain ⟨n, hn, hlong⟩ := List.all_eq_false.1 (eq_false_of_ne_true hshort)
    exact .inr ⟨if_neg hshort, (h n hn).resolve_left hlong⟩

/-- The numbers of a fault are in `N`, and it is about the depth of modules only if `D` holds. -/
structure SourceFault.Tells (N : Int → Prop) (D : Prop) (fault : SourceFault) : Prop where
  deep : fault.cause = .tooDeep → D
  numbers : ∀ n ∈ fault.cause.numbers, N n

/-- What the lexer rejects is not about depth, and no number of it is shown. -/
theorem SourceFault.tells_ofLexer (N : Int → Prop) (D : Prop) (fault : Lexer.Fault) :
    (SourceFault.ofLexer fault).Tells N D := by
  obtain ⟨cause, line, column⟩ := fault
  cases cause <;> refine ⟨fun hdeep => ?_, List.forall_mem_nil _⟩ <;> cases hdeep

theorem SourceFault.Tells.failure_cases {D : Prop} {fault : SourceFault}
    (h : fault.Tells (ShortUnless L) D) (source : String) :
    fault.failure source = .diagnostic (fault.diagnostic source) ∨
      (fault.failure source = .longNumber ∧ L) ∨ fault.failure source = .tooDeep ∧ D := by
  by_cases hdeep : fault.cause = .tooDeep
  · refine .inr (.inr ⟨?_, h.deep hdeep⟩)
    rw [SourceFault.failure, hdeep]
  · rw [failure_of_shallow hdeep]
    exact (Failure.showing_cases h.numbers).imp_right .inl

theorem isShort_pred {n : Int} (hn : 0 ≤ n) (h : Number.isShort n = true) :
    Number.isShort (n - 1) = true := by
  have hone : Number.isShort (0 - 1) = true := by decide +kernel
  by_cases hzero : n = 0
  · subst hzero
    exact hone
  · have hbelow : ∀ k, n.natAbs < Nat.pow 10 k → (n - 1).natAbs < Nat.pow 10 k := by omega
    have hlt : n.natAbs < Nat.pow 10 Number.digitLimit := Number.isShort_iff.1 h
    exact Number.isShort_iff.2 (hbelow Number.digitLimit hlt)

theorem shortUnless_last {w : Nat} (hw : w ∈ wordSizes) : ShortUnless L ((w : Int) - 1) := by
  have hall : ∀ w ∈ wordSizes, Number.isShort ((w : Int) - 1) = true := by decide +kernel
  exact .inl (hall w hw)

namespace Parser

open Grammar Lexer

theorem covers_of_lexed (h : ∀ t ∈ ts, Lexed t.lexeme) (hlong : HasLong ts → L) :
    Covers (ShortUnless L) ts := by
  intro t ht n hn
  by_cases hshort : Number.isShort n = true
  · have hpos := h t ht
    rw [hn] at hpos
    exact ⟨.inl hshort, .inl (isShort_pred hpos hshort)⟩
  · have hL : L := hlong ⟨t, ht, n, hn, eq_false_of_ne_true hshort⟩
    exact ⟨.inr hL, .inr hL⟩

/-- The bits that tokens stand for have their numbers from them. -/
theorem uses_of_bits (h : ∀ t ∈ ts, Lexed t.lexeme) (hcovers : Covers (ShortUnless L) ts)
    {b : BitSpec} (hb : Grammar.bits.Reads ts b rest) : b.Uses (ShortUnless L) :=
  ⟨gives_bits _ _ _ h hb, fun _ hw => hcovers.bits (.inl isShort_zero) (shortUnless_last hw) hb⟩

theorem uses_of_field (h : ∀ t ∈ ts, Lexed t.lexeme) (hcovers : Covers (ShortUnless L) ts)
    {f : FieldDecl} (hf : Grammar.field.Reads ts f rest) : f.bit.Uses (ShortUnless L) := by
  refine ⟨(gives_field _ _ _ h hf).bit, fun _ hw => ?_⟩
  obtain ⟨before, _, hdocs, line, _, hhash, ⟨bit, policy, path⟩, _, hattribute, after, _, -, name,
    _, -, rfl, -⟩ := hf
  obtain ⟨_, _, hbefore, hbits⟩ := ((hcovers.of_reads hdocs).of_reads hhash).bitAttribute hattribute
  exact hbefore.bits (.inl isShort_zero) (shortUnless_last hw) hbits

theorem uses_of_list (h : ∀ t ∈ ts, Lexed t.lexeme) (hcovers : Covers (ShortUnless L) ts)
    {fs : List FieldDecl} (hfs : (Grammar.list Grammar.field).Reads ts fs rest) :
    ∀ f ∈ fs, f.bit.Uses (ShortUnless L) := by
  induction fs generalizing ts with
  | nil => exact nofun
  | cons f fs ih =>
    obtain ⟨between, hf, hrest⟩ := reads_list_cons.1 hfs
    refine List.forall_mem_cons.2 ⟨uses_of_field h hcovers hf, ?_⟩
    obtain ⟨rfl, -⟩ | ⟨line, next, hcomma, hmore⟩ := hrest
    · exact nofun
    · exact ih (lexed_rest (lexed_rest h hf) hcomma) ((hcovers.of_reads hf).of_reads hcomma) hmore

/-- A description is read from tokens, or its fault shows at one of them and shows numbers of them,
or is about how deep they are nested. -/
theorem description_ends [Machine] {source : String} {w : Nat} (hw : w ∈ wordSizes)
    (h : Ended ts ∧ ∀ t ∈ ts, Lexed t.lexeme) (hcovers : Covers (ShortUnless L) ts) :
    Ends (fun fault => AtToken ts fault ∧
        fault.Tells (ShortUnless L) (Machine.modules < depth ts))
      (fun d => ∀ f ∈ d.fields, f.bit.Uses (ShortUnless L)) (description source w ts) := by
  obtain ⟨hended, hlexed⟩ := h
  cases hread : description source w ts with
  | error fault =>
    have hblames := blames_of_description hended hread
    exact ⟨hblames.place, hblames.deep,
      shows_description (.inl isShort_zero) (shortUnless_last hw) hcovers fault hread⟩
  | ok d =>
    obtain ⟨⟨last, hdevice, -⟩, -⟩ := (description_eq_ok hended).1 hread
    obtain ⟨constants, _, hconstants, lines, _, hdocs, ps, _, hports, fs, _, hfs, rfl, -⟩ := hdevice
    have hlexed₁ := lexed_rest (lexed_rest (lexed_rest hlexed hconstants) hdocs) hports
    exact uses_of_list hlexed₁ (((hcovers.of_reads hconstants).of_reads hdocs).of_reads hports) hfs

end Parser

/-- A line and column of a text at which one of its tokens starts or stands what the lexer
rejects. -/
def MarksPlace (text : String) (line column : Nat) : Prop :=
  (∃ ts, Lexer.tokens text = .ok ts ∧ ∃ t ∈ ts, Lexer.Found text.toList t ∧
    t.line = line ∧ t.column = column) ∨
  ∃ rest, Text.StandsAt text.toList line column rest ∧ Lexer.Rejected rest

/-- One of the tokens of a text is a number with too many digits to be written in decimal. -/
def TextHasLong (text : String) : Prop :=
  ∃ ts, Lexer.tokens text = .ok ts ∧ HasLong ts

/-- More modules of a text are open at once than calls can be nested. -/
def TextTooDeep [Machine] (text : String) : Prop :=
  ∃ ts, Lexer.tokens text = .ok ts ∧ Machine.modules < Grammar.depth ts

theorem Parser.readConstants_deep [Machine] {text : String} {fault : SourceFault}
    (h : Parser.readConstants text = .error fault) (hdeep : fault.cause = .tooDeep) :
    TextTooDeep text := by
  rw [Parser.readConstants, Parser.tokens] at h
  cases htokens : Lexer.tokens text with
  | error lexical =>
    rw [htokens] at h
    cases h
    exact (SourceFault.tells_ofLexer (fun _ => True) _ lexical).deep hdeep
  | ok ts =>
    rw [htokens] at h
    exact ⟨ts, htokens, (blames_of_constantFile (Lexer.lexed_of_tokens htokens).1 h).deep hdeep⟩

/-- A description is read from a text, or its fault shows at a place of the text and shows numbers
of it, or is about how deep it is nested. -/
theorem Parser.readDescription_ends [Machine] (text source : String) {w : Nat}
    (hw : w ∈ wordSizes) :
    Ends (fun fault => MarksPlace text fault.line fault.column ∧
        fault.Tells (ShortUnless (TextHasLong text)) (TextTooDeep text))
      (fun d => ∀ f ∈ d.fields, f.bit.Uses (ShortUnless (TextHasLong text)))
      (Parser.readDescription text source w) := by
  have hlocated := Lexer.located_tokens text
  rw [Parser.readDescription, Parser.tokens]
  cases htokens : Lexer.tokens text with
  | error fault =>
    rw [htokens] at hlocated
    refine ⟨.inr ?_, SourceFault.tells_ofLexer _ _ fault⟩
    obtain ⟨cause, line, column⟩ := fault
    cases cause <;> exact hlocated
  | ok ts =>
    rw [htokens] at hlocated
    have hlexed := Lexer.lexed_of_tokens htokens
    have hcovers : Covers (ShortUnless (TextHasLong text)) ts :=
      covers_of_lexed hlexed.2 fun hlong => ⟨ts, htokens, hlong⟩
    refine (description_ends hw hlexed hcovers).imp ?_ fun _ => id
    rintro fault ⟨⟨t, ht, hline, hcolumn⟩, hdeep, hnumbers⟩
    exact ⟨.inl ⟨ts, htokens, t, ht, hlocated t ht, hline, hcolumn⟩,
      fun h => ⟨ts, htokens, hdeep h⟩, hnumbers⟩

end RegisterMap
