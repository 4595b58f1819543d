import RegisterMap.Proofs.Description.Spelling

/-!
# Bits as text

The text of bits is read as the bits when their numbers are short enough to be written. The text of
a range with a longer bound is not read at all.
-/

namespace RegisterMap

open Text Number

namespace Lexer

variable {line column : Nat} {c : Char} {cs rest : List Char}

/-- What may follow the bounds of a range: nothing or an operator. -/
def EndsBound (rest : List Char) : Prop :=
  rest = [] ∨ ∃ more, rest = '.' :: '.' :: more

theorem stops_of_endsBound (hrest : EndsBound rest) (n : Int) : Stops (.number n) rest := by
  obtain rfl | ⟨more, rfl⟩ := hrest
  · exact stops_nil _
  · refine ⟨?_, ?_⟩
    · rintro c ⟨⟩
      decide
    · rintro - c ⟨⟩
      rfl

theorem tokensFrom_long {n : Nat} (hn : isShort n = false) (hrest : EndsBound rest)
    (line column : Nat) :
    ∃ fault, tokensFrom line column (Nat.toDigits 10 n ++ rest) = .error fault := by
  obtain ⟨fault, hread⟩ := readLoose_of_long hn
  obtain ⟨c, cs, heq, hc, hcs⟩ := exists_toDigits n
  rw [heq] at hread ⊢
  have hpart : ∀ d ∈ cs, isDigitPart d = true := fun d hd => isDigitPart_of_isDigit (hcs d hd)
  have hfront : front? c (cs ++ rest) = some (.integer, cs.length) := by
    rw [front?_of_isDigit hc, numberFront_decimal hpart (stops_of_endsBound hrest n) c]
  have hl : lexeme? .integer (c :: cs) = .error (.badInteger (String.ofList (c :: cs))) := by
    rw [lexeme?, hread]
  rw [List.cons_append, tokensFrom]
  simp only [hfront, List.take_left, hl]
  exact ⟨_, rfl⟩

/-- The operator of a range and the bound behind it, which starts with a digit if there is one. -/
theorem tokensFrom_operator (line column : Nat) (included : Bool) (hrest : rest.head? ≠ some '=') :
    ∃ column', tokensFrom line column ((if included then "..=" else "..").toList ++ rest) =
      (tokensFrom line column' rest).map
        (⟨.mark (if included then .inclusiveRange else .openRange), line, column⟩ :: ·) := by
  cases included with
  | true =>
    have hstops : Stops (.mark .inclusiveRange) rest := trivial
    exact tokensFrom_mark hstops line column
  | false =>
    have hstops : Stops (.mark .openRange) rest := hrest
    exact tokensFrom_mark hstops line column

theorem toList_toString {v : Int} (h : 0 ≤ v) :
    (toString v).toList = Nat.toDigits 10 v.toNat := by
  obtain ⟨n, rfl⟩ := Int.eq_ofNat_of_zero_le h
  exact String.toList_ofList

/-- The digits of a bound, none when it is open. -/
def digits (o : Option Bound) : List Char :=
  match o with
  | none => []
  | some b => (toString b.value).toList

/-- A bound that can be written is read, and is a number or nothing. -/
theorem tokensFrom_digits {o : Option Bound} (ho : ∀ b ∈ o, 0 ≤ b.value ∧ isShort b.value = true)
    (hrest : EndsBound rest) (line column : Nat) :
    ∃ column' taken, tokensFrom line column (digits o ++ rest) =
        (tokensFrom line column' rest).map (taken ++ ·) ∧
      ∀ ts, (Grammar.Phrase.optional Grammar.number).Reads (taken ++ ts) (o.map Bound.value)
        ts := by
  cases o with
  | none =>
    refine ⟨column, [], ?_, fun ts => Grammar.Phrase.reads_optional.2 (.inl ⟨rfl, rfl⟩)⟩
    rw [digits, List.nil_append]
    cases tokensFrom line column rest <;> rfl
  | some b =>
    obtain ⟨hpos, hshort⟩ := ho b rfl
    obtain ⟨n, hn⟩ := Int.eq_ofNat_of_zero_le hpos
    rw [hn] at hshort
    obtain ⟨column', heq⟩ :=
      tokensFrom_numeral (isNumeral_toDigits n) hshort (stops_of_endsBound hrest n) line column
    refine ⟨column', [⟨.number n, line, column⟩], ?_, fun ts => ?_⟩
    · rw [digits, toList_toString hpos, hn]
      exact heq
    · rw [Option.map_some, hn]
      exact Grammar.Phrase.reads_optional.2 (.inr ⟨_, Parser.reads_number.2 ⟨rfl, rfl⟩, rfl⟩)

theorem tokensFrom_digits_long {b : Bound} (hpos : 0 ≤ b.value) (hlong : isShort b.value = false)
    (hrest : EndsBound rest) (line column : Nat) :
    ∃ fault, tokensFrom line column (digits (some b) ++ rest) = .error fault := by
  obtain ⟨n, hn⟩ := Int.eq_ofNat_of_zero_le hpos
  rw [hn] at hlong
  rw [digits, toList_toString hpos, hn]
  exact tokensFrom_long hlong hrest line column

end Lexer

namespace BitSpec

open Grammar Grammar.Phrase Lexer

/-- Whether the upper bound of a range is written as included. -/
def closes (stop : Option Bound) : Bool :=
  stop.any Bound.included

theorem toList_text (start stop : Option Bound) :
    (text (.range start stop)).toList =
      digits start ++ ((if closes stop then "..=" else "..").toList ++ digits stop) := by
  obtain _ | ⟨value, _ | _⟩ := stop <;> cases start <;>
    simp [text, digits, closes, operator, String.toList_append]

theorem endsBound_operator (included : Bool) (rest : List Char) :
    EndsBound ((if included then "..=" else "..").toList ++ rest) := by
  cases included <;> exact .inr ⟨_, rfl⟩

theorem head_digits {o : Option Bound} (ho : ∀ b ∈ o, 0 ≤ b.value) :
    (digits o).head? ≠ some '=' := by
  cases o with
  | none => exact nofun
  | some b =>
    obtain ⟨c, cs, heq, hc, -⟩ := exists_toDigits b.value.toNat
    rw [digits, toList_toString (ho b rfl), heq]
    rintro ⟨⟩
    cases hc

/-- The tokens of an operator between two bounds are those of the range. -/
theorem reads_range {start stop : Option Bound} (hw : (BitSpec.range start stop).Written)
    {line column : Nat} {lower upper rest : List Token}
    (hlower : ∀ ts, (optional number).Reads (lower ++ ts) (start.map Bound.value) ts)
    (hupper : (optional number).Reads upper (stop.map Bound.value) rest) :
    Grammar.bits.Reads
      (lower ++
        ⟨.mark (if closes stop then .inclusiveRange else .openRange), line, column⟩ :: upper)
      (.range start stop) rest := by
  have hstart : (start.map Bound.value).map (fun n => (⟨n, true⟩ : Bound)) = start := by
    obtain _ | ⟨value, included⟩ := start
    · rfl
    · obtain rfl : included = true := (hw.1 _ rfl).2
      rfl
  obtain _ | ⟨value, _ | _⟩ := stop
  · exact .inr (.inl ⟨_, _, hlower _, _, _, Parser.reads_mark.2 ⟨rfl, rfl, rfl⟩, none, _, hupper,
      by rw [hstart]; rfl, rfl⟩)
  · exact .inr (.inl ⟨_, _, hlower _, _, _, Parser.reads_mark.2 ⟨rfl, rfl, rfl⟩, some value, _,
      hupper, by rw [hstart]; rfl, rfl⟩)
  · obtain ⟨hnone, -⟩ | ⟨n, hn, hsome⟩ := reads_optional.1 hupper
    · cases hnone
    · cases hsome
      exact .inr (.inr ⟨_, _, hlower _, _, _, Parser.reads_mark.2 ⟨rfl, rfl, rfl⟩, value, _, hn,
        by rw [hstart], rfl⟩)

theorem shortBounds {start stop : Option Bound} (hw : (BitSpec.range start stop).Written)
    (hshort : ∀ n ∈ (BitSpec.range start stop).numbers, isShort n = true) :
    (∀ b ∈ start, 0 ≤ b.value ∧ isShort b.value = true) ∧
      ∀ b ∈ stop, 0 ≤ b.value ∧ isShort b.value = true := by
  constructor
  · rintro b rfl
    exact ⟨(hw.1 b rfl).1, hshort _ (by simp [numbers])⟩
  · rintro b rfl
    exact ⟨hw.2 b rfl, hshort _ (by simp [numbers])⟩

theorem readBits_of_reads {s : String} {b : BitSpec} {ts : List Token} {line column : Nat}
    (htokens : Lexer.tokens s = .ok ts)
    (h : Grammar.bits.Reads ts b [⟨.endOfInput, line, column⟩]) : Parser.readBits s = .ok b := by
  have hrest : Parser.peek [⟨.endOfInput, line, column⟩] = .endOfInput := rfl
  refine bind_eq_ok.2 ⟨ts, by rw [Parser.tokens, htokens], ?_⟩
  exact bind_eq_ok.2 ⟨_, Parser.bits_of_reads h (.inr hrest), if_pos hrest⟩

/-- A range whose bounds are short is what its text says. -/
theorem readBits_text {start stop : Option Bound} (hw : (BitSpec.range start stop).Written)
    (hshort : ∀ n ∈ (BitSpec.range start stop).numbers, isShort n = true) :
    Parser.readBits (text (.range start stop)) = .ok (.range start stop) := by
  obtain ⟨hstart, hstop⟩ := shortBounds hw hshort
  obtain ⟨column₁, lower, h₁, hlower⟩ :=
    tokensFrom_digits hstart (endsBound_operator (closes stop) (digits stop)) 1 1
  obtain ⟨column₂, h₂⟩ :=
    tokensFrom_operator 1 column₁ (closes stop) (head_digits fun b hb => (hstop b hb).1)
  obtain ⟨column₃, upper, h₃, hupper⟩ := tokensFrom_digits hstop (.inl rfl) 1 column₂
  rw [List.append_nil, tokensFrom] at h₃
  have htokens : Lexer.tokens (text (.range start stop)) = .ok (lower ++
      ⟨.mark (if closes stop then .inclusiveRange else .openRange), 1, column₁⟩ ::
        (upper ++ [⟨.endOfInput, 1, column₃⟩])) := by
    rw [Lexer.tokens, toList_text, h₁, h₂, h₃]
    rfl
  exact readBits_of_reads htokens (reads_range hw hlower (hupper _))

/-- A short index is what its text says. -/
theorem readBits_single {index : Int} (hw : (BitSpec.single index).Written)
    (hshort : isShort index = true) :
    Parser.readBits (text (.single index)) = .ok (.single index) := by
  obtain ⟨n, rfl⟩ := Int.eq_ofNat_of_zero_le hw
  obtain ⟨column, heq⟩ :=
    tokensFrom_numeral (isNumeral_toDigits n) hshort (stops_nil (.number n)) 1 1
  have hdigits : (text (.single n)).toList = Nat.toDigits 10 n := toList_toString hw
  have htokens : Lexer.tokens (text (.single n)) =
      .ok [⟨.number n, 1, 1⟩, ⟨.endOfInput, 1, column⟩] := by
    rw [Lexer.tokens, hdigits, ← List.append_nil (Nat.toDigits 10 n), heq, tokensFrom]
    rfl
  exact readBits_of_reads htokens (.inl ⟨n, _, Parser.reads_number.2 ⟨rfl, rfl⟩, rfl, rfl⟩)

/-- Bits are what their text says when their numbers are short. -/
theorem readBits_of_short {b : BitSpec} (hw : b.Written)
    (hshort : ∀ n ∈ b.numbers, isShort n = true) : Parser.readBits b.text = .ok b := by
  cases b with
  | single index => exact readBits_single hw (hshort index List.mem_cons_self)
  | range start stop => exact readBits_text hw hshort

theorem readBits_of_error {s : String} {fault : Lexer.Fault} (h : Lexer.tokens s = .error fault) :
    Parser.readBits s = .error (.ofLexer fault) := by
  rw [Parser.readBits, Parser.tokens, h]
  rfl

theorem readBits_text_long {start stop : Option Bound} (hw : (BitSpec.range start stop).Written)
    {n : Int} (hn : n ∈ (BitSpec.range start stop).numbers) (hlong : isShort n = false) :
    ∃ fault, Parser.readBits (text (.range start stop)) = .error fault := by
  suffices htokens : ∃ fault, Lexer.tokens (text (.range start stop)) = .error fault by
    obtain ⟨fault, htokens⟩ := htokens
    exact ⟨_, readBits_of_error htokens⟩
  rw [Lexer.tokens, toList_text]
  have hends := endsBound_operator (closes stop) (digits stop)
  by_cases hlower : ∃ b ∈ start, isShort b.value = false
  · obtain ⟨b, rfl, hb⟩ := hlower
    exact tokensFrom_digits_long (hw.1 b rfl).1 hb hends 1 1
  · have hstart : ∀ b ∈ start, 0 ≤ b.value ∧ isShort b.value = true := fun b hb =>
      ⟨(hw.1 b hb).1, eq_true_of_ne_false fun h => hlower ⟨b, hb, h⟩⟩
    obtain ⟨column₁, lower, h₁, -⟩ := tokensFrom_digits hstart hends 1 1
    obtain ⟨column₂, h₂⟩ := tokensFrom_operator 1 column₁ (closes stop) (head_digits hw.2)
    have hupper : ∃ b, stop = some b ∧ isShort b.value = false := by
      obtain hn | hn := List.mem_append.1 hn <;> obtain ⟨b, hb, rfl⟩ := List.mem_map.1 hn
      · exact absurd ⟨b, Option.mem_toList.1 hb, hlong⟩ hlower
      · exact ⟨b, Option.mem_toList.1 hb, hlong⟩
    obtain ⟨b, rfl, hb⟩ := hupper
    obtain ⟨fault, h₃⟩ := tokensFrom_digits_long (hw.2 b rfl) hb (.inl rfl) 1 column₂
    rw [List.append_nil] at h₃
    exact ⟨fault, by rw [h₁, h₂, h₃]; rfl⟩

end BitSpec

end RegisterMap
