import RegisterMap.Proofs.Analysis.Refusals
import RegisterMap.Proofs.Description.JsonRefusals
import RegisterMap.Proofs.Description.JsonRoundTrip

/-!
# Bits that are read again

The bits that the parser returns can be written, and what can be written with short numbers is read
again from its text and from its form in JSON. The bits that faults quote are those that the parser
returned, or are the same in registers of every width, so a message says which bits it is about.
-/

namespace RegisterMap

open Number

namespace BitSpec

/-- Bits whose numbers have no more digits than can be written. -/
def IsShort (b : BitSpec) : Prop :=
  ∀ n ∈ b.numbers, n.natAbs < Nat.pow 10 digitLimit

/-- Bits that the parser returns at one of the tokens of a text. -/
def IsReturned (b : BitSpec) : Prop :=
  ∃ text before ts rest, Lexer.tokens text = .ok (before ++ ts) ∧ Parser.bits ts = .ok (b, rest)

/-- The text of bits and their form in JSON are read as these bits, which are then the same in
registers of every width. -/
structure Reread (b : BitSpec) : Prop where
  text : ∀ place, JsonForm.bit place (some (.text b.text)) = .ok b
  json : ∀ place, JsonForm.bit place (some b.toJson) = .ok b

variable {b : BitSpec}

theorem isShort_iff : b.IsShort ↔ ∀ n ∈ b.numbers, Number.isShort n = true :=
  forall₂_congr fun _ _ => Number.isShort_iff.symm

theorem Written.reread (h : b.Written) (hshort : b.IsShort) : b.Reread where
  text _ := mapError_eq_ok.2 (readBits_of_short h (isShort_iff.1 hshort))
  json place := (JsonForm.bit_toJson h place).2 fun _ => isShort_iff.1 hshort

theorem written_of_bits {ts rest : List Token} (hts : ∀ t ∈ ts, Lexer.Lexed t.lexeme)
    (h : Parser.bits ts = .ok (b, rest)) : b.Written :=
  Grammar.gives_bits _ _ _ hts (Parser.reads_of_bits h)

/-- Short bits are returned by the parser just when they can be written. -/
theorem isReturned_iff_written (hshort : b.IsShort) : b.IsReturned ↔ b.Written := by
  constructor
  · rintro ⟨text, before, ts, rest, htokens, hbits⟩
    obtain ⟨-, hlexed⟩ := Lexer.lexed_of_tokens htokens
    exact written_of_bits (fun t ht => hlexed t (List.mem_append_right _ ht)) hbits
  · intro hw
    obtain ⟨ts, htokens, hread⟩ := bind_eq_ok.1 (readBits_of_short hw (isShort_iff.1 hshort))
    obtain ⟨⟨c, rest⟩, hbits, hrest⟩ := bind_eq_ok.1 hread
    dsimp only at hrest
    split at hrest
    · cases hrest
      exact ⟨_, [], ts, rest, Parser.tokens_eq_ok.1 htokens, hbits⟩
    · cases hrest

end BitSpec

/-! ## Ranges that parsing quotes -/

namespace Parser

open Grammar

variable {ts : List Token} {fault : SourceFault}

/-- A fault that quotes bits only if they can be written. -/
def QuotesWritten (fault : SourceFault) : Prop :=
  ∀ b, fault.cause.quoted? = some b → b.Written

theorem tokens_quotes (s : String) :
    Ends QuotesWritten (fun ts => Ended ts ∧ ∀ t ∈ ts, Lexer.Lexed t.lexeme) (tokens s) := by
  rw [tokens]
  split
  · next ts hts => exact Lexer.lexed_of_tokens hts
  · next fault _ =>
    obtain ⟨cause, line, column⟩ := fault
    cases cause <;> rintro _ ⟨⟩

variable [Machine]

theorem quotesWritten_of_blames (hts : ∀ t ∈ ts, Lexer.Lexed t.lexeme) (h : Blames ts fault) :
    QuotesWritten fault := by
  intro b hb
  obtain ⟨us, rest, hamong, hbits⟩ := h.quoted b hb
  exact BitSpec.written_of_bits (fun t ht => hts t (hamong.subset ht)) hbits

theorem readDescription_quotes (text source : String) (wordBits : Int) :
    Ends QuotesWritten (fun _ => True) (readDescription text source wordBits) := by
  refine (tokens_quotes text).bind fun ts ⟨hended, hlexed⟩ => ?_
  cases hread : description source wordBits ts with
  | error fault => exact quotesWritten_of_blames hlexed (blames_of_description hended hread)
  | ok d => trivial

theorem readBits_quotes (s : String) : Ends QuotesWritten BitSpec.Written (readBits s) := by
  refine (tokens_quotes s).bind fun ts ⟨hended, hlexed⟩ => ?_
  have hbits := ends_bits ⟨hended, List.Subset.refl ts⟩
  refine (hbits.imp (fun _ => quotesWritten_of_blames hlexed) fun _ => id).bind ?_
  intro (b, rest) h
  obtain ⟨⟨us, _, hamong, hb⟩, hrest⟩ := h
  dsimp only
  split
  · exact BitSpec.written_of_bits (fun t ht => hlexed t (hamong.subset ht)) hb
  · exact quotesWritten_of_blames hlexed (hrest.fault ⟨rfl, nofun⟩)

end Parser

namespace JsonForm

/-- A fault that quotes bits only if they can be written. -/
def QuotesWritten (fault : JsonFormFault) : Prop :=
  ∀ b, fault.quoted? = some b → b.Written

theorem quotesWritten_of_isPlain {fault : JsonFormFault} (h : IsPlain fault) :
    QuotesWritten fault := by
  cases fault with
  | cause c =>
    cases c with
    | emptyRange name bit start stop =>
      have hnumbers : bit.numbers ++ [start, stop] = [] := h
      simp at hnumbers
    | _ => exact nofun
  | _ => exact h.elim

theorem quotes_of_plain {α : Type} {Q : α → Prop} {x : Except JsonFormFault α}
    (h : Ends IsPlain Q x) : Ends QuotesWritten Q x :=
  h.imp (fun _ => quotesWritten_of_isPlain) fun _ => id

theorem checkRange_quotes (wordBits : Int) (name : String) {b : BitSpec} (hb : b.Written) :
    Ends QuotesWritten (fun _ => True) (checkRange wordBits name b) := by
  rw [checkRange]
  dsimp only
  split
  · rintro _ ⟨⟩
    exact hb
  · trivial

variable [Machine]

theorem bit_quotes (place : String) (value : Option Json) :
    Ends QuotesWritten BitSpec.Written (bit place value) := by
  rw [bit.eq_def]
  split
  · next n =>
    refine (quotes_of_plain (unsigned_ends place n)).map ?_
    rintro _ ⟨rfl, hpos⟩
    exact hpos
  · exact (quotes_of_plain (text_ends place value)).bind fun s _ =>
      (Parser.readBits_quotes s).mapError fun _ => id

theorem field_quotes (wordBits : Int) (index : Nat) (value : Json) :
    Ends QuotesWritten (fun f => f.bit.Written) (field wordBits index value) := by
  rw [field.eq_def]
  split
  · refine (quotes_of_plain (fieldName_ends _ _)).bind fun name _ => ?_
    refine (bit_quotes _ _).bind fun b hb => ?_
    refine (checkRange_quotes wordBits name hb).bind fun _ _ => ?_
    refine (quotes_of_plain (policy_ends _ _)).bind fun policy _ => ?_
    refine (quotes_of_plain (docs_ends _ _)).bind fun docs _ => ?_
    exact (quotes_of_plain (path_ends _ _)).bind fun path _ => hb
  · rintro _ ⟨⟩

/-- The bits of a description made from JSON can be written, and so can those that a fault
quotes. -/
theorem ofJson_quotes (source : String) (wordBits : Int) (value : Json) :
    Ends QuotesWritten (fun d => ∀ f ∈ d.fields, f.bit.Written) (ofJson source wordBits value) := by
  have hfields : ∀ v, Ends QuotesWritten (fun fs => ∀ f ∈ fs, f.bit.Written)
      (fields wordBits v) := by
    intro v
    rw [fields.eq_def]
    split
    · exact Ends.mapM fun item _ => field_quotes wordBits item.2 item.1
    · rintro _ ⟨⟩
  rw [ofJson.eq_def]
  split
  · refine (quotes_of_plain (constants_ends _)).bind fun constants _ => ?_
    refine (quotes_of_plain (ports_ends _)).bind fun ports _ => ?_
    exact (hfields _).bind fun fields h => h
  · rintro _ ⟨⟩

theorem read_quotes (s source : String) (wordBits : Int) :
    Ends QuotesWritten (fun d => ∀ f ∈ d.fields, f.bit.Written) (read s source wordBits) := by
  rw [read]
  cases Json.read s with
  | error fault => exact nofun
  | ok value => exact ofJson_quotes source wordBits value

end JsonForm

/-! ## Bits that analysis quotes -/

/-- Bits that can be written and that are the bits `b` in registers of every width. -/
structure BitSpec.Means (c b : BitSpec) : Prop where
  written : c.Written
  resolve : ∀ w, c.resolve w = b.resolve w

namespace BitSpec

variable {b : BitSpec} {width start stop : Int}

/-- The first bit of a single one is that bit. -/
theorem means_of_single (hw : b.Written) (hsingle : b.isSingle = true)
    (hbits : b.resolve width = (start, stop)) : (BitSpec.single start).Means b := by
  cases b with
  | single index =>
    cases hbits
    exact ⟨hw, fun _ => rfl⟩
  | range lower upper => cases hsingle

/-- Bits that end outside a register have an end of their own. -/
theorem resolve_of_outside (h : width ≤ (b.resolve width).2) (w : Int) :
    b.resolve w = b.resolve width := by
  cases b with
  | single index => rfl
  | range start stop =>
    cases stop with
    | none =>
      have hlast : width ≤ width - 1 := h
      omega
    | some bound => rfl

/-- The range from the first bit to the last one is the same in registers of every width when it
ends outside one of them. -/
theorem means_of_outside (hw : b.Written) (hbits : b.resolve width = (start, stop))
    (hle : start ≤ stop) (houtside : width ≤ stop) :
    (BitSpec.range (some ⟨start, true⟩) (some ⟨stop, true⟩)).Means b where
  written := by
    have hstart := firstBit_nonneg hw width
    rw [hbits] at hstart
    refine ⟨?_, ?_⟩
    · rintro _ ⟨⟩
      exact ⟨hstart, rfl⟩
    · rintro _ ⟨⟩
      exact Int.le_trans hstart hle
  resolve w := by
    have hlast : width ≤ (b.resolve width).2 := by rwa [hbits]
    rw [resolve_of_outside hlast w, hbits]
    rfl

end BitSpec

namespace Analysis

variable {d : Description} {f : FieldDecl} {w : Nat}

/-- A fault that blames a field and quotes bits only if they are those of the field. -/
def QuotesField (f : FieldDecl) (fault : AnalysisFault) : Prop :=
  ∀ b, fault.quoted? = some b → fault.field = some f.name ∧ b.Means f.bit

/-- A failure that is no diagnostic, or that of a fault that quotes the bits of some field. -/
def Quotes (d : Description) (e : Failure) : Prop :=
  (∃ fault : AnalysisFault, e = fault.failure ∧
      ∀ b, fault.quoted? = some b → ∃ f ∈ d.fields, fault.field = some f.name ∧ b.Means f.bit) ∨
    ∀ diagnostic, e ≠ .diagnostic diagnostic

theorem quotes_of_none {fault : AnalysisFault} (h : fault.quoted? = none) :
    Quotes d fault.failure :=
  .inl ⟨fault, rfl, fun _ hb => nomatch h.symm.trans hb⟩

theorem quotes_of_field (hf : f ∈ d.fields) {fault : AnalysisFault} (h : QuotesField f fault) :
    Quotes d fault.failure :=
  .inl ⟨fault, rfl, fun b hb => ⟨f, hf, h b hb⟩⟩

/-- No range in a register is too wide for a type. -/
theorem widthFor_ne_none (hw : w ∈ wordSizes) {n : Int} (hn : n ≤ w) : Bits.widthFor n ≠ none := by
  have hmem : ∀ w ∈ wordSizes, Bits.unsigned w ∈ Bits.unsignedTypes := by decide
  exact fun hnone => List.find?_eq_none.1 hnone _ (hmem w hw) (decide_eq_true hn)

theorem rangeType_quotes (hw : w ∈ wordSizes) (hf : f.bit.Written) {start stop : Int}
    (hbits : f.bit.resolve w = (start, stop)) :
    Ends (QuotesField f) (fun _ => True) (rangeType (Bits.unsigned w) f start stop) := by
  have hself : f.bit.Means f.bit := ⟨hf, fun _ => rfl⟩
  rw [rangeType]
  split
  · rintro _ ⟨⟩
    exact ⟨rfl, hself⟩
  · next hlt =>
    split
    · next houtside =>
      rintro _ ⟨⟩
      exact ⟨rfl, BitSpec.means_of_outside hf hbits (by omega) houtside⟩
    · next hinside =>
      split
      · rintro _ ⟨⟩
        exact ⟨rfl, hself⟩
      · split
        · trivial
        · next hnone =>
          have hwide : stop - start + 1 ≤ w := by
            have hstart := BitSpec.firstBit_nonneg hf w
            have hlast : stop < w := Int.not_le.1 hinside
            rw [hbits] at hstart
            omega
          exact absurd hnone (widthFor_ne_none hw hwide)

theorem integer_quotes (value : Json) :
    Ends (Quotes d) (fun _ => True) (External.integer value) := by
  cases value with
  | int | bool => trivial
  | null | list | object => exact .inr nofun
  | text s =>
    rw [External.integer]
    cases Number.read .plain s with
    | error fault => exact .inr nofun
    | ok n => trivial
  | real written =>
    rw [External.integer.eq_def]
    split <;> rename_i heq <;> cases heq
    · exact .inr nofun
    · exact .inr nofun
    · exact .inr nofun
    · split
      · trivial
      · exact .inr nofun

theorem addExternal_quotes (external : External) :
    Step.Ends (Quotes d) (fun _ => True) (Filling.addExternal external) := by
  cases external with
  | items constants => exact addConstants_ends constants
  | mapping members =>
    refine .forM fun member _ => ?_
    rw [Filling.addMember]
    split
    · exact .fail (.inr nofun)
    · exact (Step.Ends.ofOutcome (integer_quotes _)).bind fun _ _ => .change _

variable [Machine]

theorem resolveField_quotes (hw : w ∈ wordSizes) (hf : f ∈ d.fields) (hbit : f.bit.Written) :
    Ends (Quotes d) (fun _ => True) (resolveField (Bits.unsigned w) f) := by
  have hmask : ∀ start stop, Ends (Quotes d) (fun _ => True)
      ((Bits.maskFor start stop).mapError Failure.bits) := by
    intro start stop
    cases Bits.maskFor start stop with
    | error fault => exact .inr nofun
    | ok mask => trivial
  have hword : ((Bits.unsigned w).bits : Int) = w := rfl
  rw [resolveField, hword]
  rcases hbits : f.bit.resolve w with ⟨start, stop⟩
  dsimp only
  split
  · next hsingle =>
    split
    · have hquotes : QuotesField f (.bitOutside f.name start w) := by
        rintro _ ⟨⟩
        exact ⟨rfl, BitSpec.means_of_single hbit hsingle hbits⟩
      exact quotes_of_field hf hquotes
    · exact (hmask start stop).bind fun _ _ => trivial
  · have htype : Ends (Quotes d) (fun _ => True)
        (((rangeType (Bits.unsigned w) f start stop).map some).mapError AnalysisFault.failure) :=
      ((rangeType_quotes hw hbit hbits).map fun _ _ => trivial).mapError
        fun fault => quotes_of_field hf
    exact htype.bind fun _ _ => (hmask start stop).bind fun _ _ => trivial

/-- A diagnostic of analysis quotes no bits but those of the field that it blames. -/
theorem analyze_quotes (wordBits : Int) (external : External)
    (h : ∀ f ∈ d.fields, f.bit.Written) :
    Step.Ends (Quotes d) (fun _ => True) (analyze d wordBits external) := by
  have hanalyze : Step.Ends (Quotes d) (fun m => m.word = Bits.unsigned wordBits.toNat)
      (analyze d wordBits external) :=
    analyze_ends_of (fun _ hplain => quotes_of_none hplain.quoted) (fun _ => quotes_of_none rfl)
      (table_ends (addExternal_quotes external) d.constants)
      fun hw f hf => resolveField_quotes hw hf (h f hf)
  exact hanalyze.imp (fun _ => id) fun _ _ => trivial

end Analysis

/-! ## What diagnostics say -/

section Diagnostics

variable {b : BitSpec} {diagnostic shown : Diagnostic} {source : String}

/-- The text of bits stands in a diagnostic and is read as these bits. -/
def Diagnostic.Tells (diagnostic : Diagnostic) (b : BitSpec) : Prop :=
  StandsIn b.text diagnostic.text ∧ b.Reread

theorem Failure.of_showing {numbers : List Int}
    (h : showing numbers shown = .diagnostic diagnostic) :
    shown = diagnostic ∧ ∀ n ∈ numbers, Number.isShort n = true := by
  rw [showing] at h
  split at h
  · next hall =>
    cases h
    exact ⟨rfl, List.all_eq_true.1 hall⟩
  · cases h

theorem Failure.tells_of_showing {numbers : List Int}
    (h : showing numbers shown = .diagnostic diagnostic) (hnumbers : b.numbers ⊆ numbers)
    (hw : b.Written) (hstands : StandsIn b.text shown.text) : diagnostic.Tells b := by
  obtain ⟨rfl, hshort⟩ := of_showing h
  exact ⟨hstands, hw.reread (BitSpec.isShort_iff.2 fun n hn => hshort n (hnumbers hn))⟩

theorem SourceFault.tells_of_quoted {fault : SourceFault} (hb : fault.cause.quoted? = some b)
    (hw : b.Written) (h : fault.failure source = .diagnostic diagnostic) : diagnostic.Tells b := by
  have hshallow : fault.cause ≠ .tooDeep := fun hdeep => by
    rw [hdeep] at hb
    cases hb
  rw [SourceFault.failure_of_shallow hshallow] at h
  exact Failure.tells_of_showing h (SourceCause.numbers_of_quoted hb) hw
    ((SourceCause.text_standsIn_message hb).prepend _)

theorem JsonFormFault.tells_of_quoted {fault : JsonFormFault} (hb : fault.quoted? = some b)
    (hw : b.Written) (h : fault.failure source = .diagnostic diagnostic) : diagnostic.Tells b := by
  cases fault with
  | cause c =>
    exact Failure.tells_of_showing h (JsonFormCause.numbers_of_quoted hb) hw
      ((JsonFormCause.text_standsIn_message hb).prepend _)
  | bits place f => exact SourceFault.tells_of_quoted hb hw h
  | json f => cases hb

theorem AnalysisFault.tells_of_quoted {fault : AnalysisFault} (hb : fault.quoted? = some b)
    (hw : b.Written) (h : fault.failure = .diagnostic diagnostic) : diagnostic.Tells b := by
  have hmessage := AnalysisFault.text_standsIn_message hb
  refine Failure.tells_of_showing h (AnalysisFault.numbers_of_quoted hb) hw ?_
  rw [AnalysisFault.diagnostic, Diagnostic.text.eq_def]
  dsimp only
  split
  · exact hmessage
  · split
    · exact hmessage
    · exact hmessage.prepend _

end Diagnostics

section

variable [Machine]

/-- A description that a text or a JSON value called `source` holds. -/
def Description.IsRead (d : Description) (source : String) (wordBits : Int) : Prop :=
  (∃ s, Parser.readDescription s source wordBits = .ok d) ∨
    ∃ s, JsonForm.read s source wordBits = .ok d

/-- What is written of the bits of descriptions that are called `source` and read for registers of
`wordBits` bits: it is read as the same bits. -/
structure KeepsBits (source : String) (wordBits : Int) : Prop where
  /-- The parser returns every index that is not negative, and every range whose bounds are not
  negative, with the lower one included. -/
  returned : ∀ b : BitSpec, b.IsShort → (b.IsReturned ↔ b.Written)
  reread : ∀ b : BitSpec, b.IsReturned → b.IsShort → b.Reread
  /-- So is every range that a diagnostic of a text quotes. -/
  text : ∀ s fault diagnostic b, Parser.readDescription s source wordBits = .error fault →
    fault.failure source = .diagnostic diagnostic → fault.cause.quoted? = some b →
      diagnostic.Tells b
  json : ∀ s fault diagnostic b, JsonForm.read s source wordBits = .error fault →
    fault.failure source = .diagnostic diagnostic → fault.quoted? = some b → diagnostic.Tells b
  /-- The bits that a diagnostic of analysis quotes are those of the field that it blames, in
  registers of every width. -/
  analysis : ∀ d : Description, d.IsRead source wordBits → ∀ width external,
    Step.Ends
      (fun e => ∀ diagnostic, e = .diagnostic diagnostic → ∃ fault : AnalysisFault,
        diagnostic = fault.diagnostic ∧ ∀ b, fault.quoted? = some b → diagnostic.Tells b ∧
          ∃ f ∈ d.fields, fault.field = some f.name ∧ ∀ w, b.resolve w = f.bit.resolve w)
      (fun _ => True) (Analysis.analyze d width external)

theorem Description.IsRead.bits {d : Description} {source : String} {wordBits : Int}
    (h : d.IsRead source wordBits) : ∀ f ∈ d.fields, f.bit.Written := by
  obtain ⟨s, h⟩ | ⟨s, h⟩ := h
  · exact fun f hf => ((Parser.written_of_readDescription h).1.fields f hf).bit
  · exact (JsonForm.read_quotes s source wordBits).of_ok h

/-- Bits are read again as they were written, and so are those that a diagnostic quotes. -/
theorem keepsBits_of_source (source : String) (wordBits : Int) : KeepsBits source wordBits where
  returned b hshort := BitSpec.isReturned_iff_written hshort
  reread b hreturned hshort := ((BitSpec.isReturned_iff_written hshort).1 hreturned).reread hshort
  text s fault diagnostic b hfault hshown hb :=
    have hw := (Parser.readDescription_quotes s source wordBits).of_error hfault b hb
    SourceFault.tells_of_quoted hb hw hshown
  json s fault diagnostic b hfault hshown hb :=
    have hw := (JsonForm.read_quotes s source wordBits).of_error hfault b hb
    JsonFormFault.tells_of_quoted hb hw hshown
  analysis d hd width external := by
    refine (Analysis.analyze_quotes width external hd.bits).imp ?_ fun _ => id
    rintro e (⟨fault, rfl, hfault⟩ | hnone) diagnostic hshown
    · refine ⟨fault, (Failure.of_showing hshown).1.symm, fun b hb => ?_⟩
      obtain ⟨f, hf, hname, hmeans⟩ := hfault b hb
      exact ⟨AnalysisFault.tells_of_quoted hb hmeans.written hshown, f, hf, hname, hmeans.resolve⟩
    · exact absurd hshown (hnone diagnostic)

end

example : Parser.readDescription "device_ports(); #[bit(7..=3, RW, A)] f" "d" 32 =
    .error ⟨.emptyRange "f" (.range (some ⟨7, true⟩) (some ⟨3, true⟩)) 7 3, 1, 17⟩ := by
  decide +kernel

end RegisterMap
