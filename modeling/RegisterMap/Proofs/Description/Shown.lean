import RegisterMap.Proofs.Description.FaultPositions
import RegisterMap.Proofs.Description.Lexed

/-!
# The numbers that messages show

A fault of a description's text is told with the tokens that are in the way. The numbers in such a
message stand in the text, are one below the excluded end of a range, or belong to an open range. A
message gives way to the complaint about a long number only when one of those is long.
-/

namespace RegisterMap.Parser

open Grammar Grammar.Phrase

variable {α β : Type} {N : Int → Prop} {ts rest : List Token} {what : String}

/-- The message of a failure shows numbers of `N` only. -/
def Shows (N : Int → Prop) (x : Except SourceFault α) : Prop :=
  ∀ fault, x = .error fault → ∀ n ∈ fault.cause.numbers, N n

/-- `N` has the numbers of some tokens and the numbers one below them. -/
def Covers (N : Int → Prop) (ts : List Token) : Prop :=
  ∀ t ∈ ts, ∀ n, t.lexeme = .number n → N n ∧ N (n - 1)

namespace Shows

theorem ok (a : α) : Shows N (.ok a : Except SourceFault α) :=
  nofun

theorem error {fault : SourceFault} (h : ∀ n ∈ fault.cause.numbers, N n) :
    Shows N (.error fault : Except SourceFault α) := by
  rintro _ ⟨⟩
  exact h

theorem error_of_no_numbers {fault : SourceFault} (h : fault.cause.numbers = []) :
    Shows N (.error fault : Except SourceFault α) :=
  error (by simp [h])

/-- A failure is passed on. -/
theorem pass {x : Except SourceFault α} {fault : SourceFault} (hx : Shows N x)
    (h : x = .error fault) : Shows N (.error fault : Except SourceFault β) :=
  error (hx fault h)

theorem bind {x : Except SourceFault α} {f : α → Except SourceFault β} (hx : Shows N x)
    (hf : ∀ a, x = .ok a → Shows N (f a)) : Shows N (x >>= f) := by
  intro fault h
  cases x with
  | error _ =>
    cases h
    exact hx fault rfl
  | ok a => exact hf a rfl fault h

theorem map {x : Except SourceFault α} {f : α → β} (hx : Shows N x) : Shows N (x.map f) := by
  intro fault h
  cases x with
  | error _ =>
    cases h
    exact hx fault rfl
  | ok a => cases h

end Shows

namespace Covers

theorem tail (h : Covers N ts) : Covers N ts.tail :=
  fun t ht => h t (List.mem_of_mem_tail ht)

theorem of_reads {p : Phrase α} {a : α} (h : Covers N ts) (hp : p.Reads ts a rest) :
    Covers N rest := by
  obtain ⟨taken, rfl, -⟩ := p.takes hp
  exact fun t ht => h t (List.mem_append_right taken ht)

theorem expect {l : Lexeme} (h : Covers N ts) (he : expect l what ts = .ok rest) :
    Covers N rest := by
  obtain ⟨-, rfl⟩ := expect_eq_ok.1 he
  exact h.tail

theorem expectName {s : String} (h : Covers N ts) (he : expectName what ts = .ok (s, rest)) :
    Covers N rest := by
  obtain ⟨-, rfl⟩ := expectName_eq_ok.1 he
  exact h.tail

theorem of_peek (h : Covers N ts) {n : Int} (hn : peek ts = .number n) : N n ∧ N (n - 1) := by
  cases ts with
  | nil => cases hn
  | cons t ts => exact h t List.mem_cons_self n hn

theorem shown (h : Covers N ts) : ∀ n ∈ (peek ts).numbers, N n := by
  intro n hn
  cases hp : peek ts with
  | number m =>
    rw [hp] at hn
    obtain rfl := List.mem_singleton.1 hn
    exact (h.of_peek hp).1
  | _ =>
    rw [hp] at hn
    cases hn

end Covers

theorem shows_expect (h : Covers N ts) (l : Lexeme) : Shows N (expect l what ts) := by
  rw [expect]
  split
  · exact .ok _
  · exact .error h.shown

theorem shows_expectName (h : Covers N ts) : Shows N (expectName what ts) := by
  rw [expectName]
  split
  · exact .ok _
  · exact .error h.shown

theorem shows_pathTail (h : Covers N ts) : Shows N (pathTail what ts) := by
  fun_induction pathTail what ts with
  | case1 => exact .ok _
  | case2 => exact .error_of_no_numbers rfl
  | case3 t hs n ts word hw ih => exact (ih h.tail.tail).map
  | case4 t hs n ts hw => exact .error h.tail.shown
  | case5 => exact .ok _

theorem shows_path (h : Covers N ts) : Shows N (path what ts) := by
  rw [path]
  split
  · exact (shows_pathTail h.tail).map
  · exact .error h.shown

theorem shows_skipType (h : Covers N ts) : Shows N (skipType ts) := by
  rw [skipType]
  split
  · exact (shows_expectName h.tail).map
  · exact .ok _

theorem Covers.skipType (h : Covers N ts) (hs : skipType ts = .ok rest) : Covers N rest := by
  rw [Parser.skipType] at hs
  split at hs
  · obtain ⟨⟨s, last⟩, hname, rfl⟩ := map_eq_ok.1 hs
    exact h.tail.expectName hname
  · cases hs
    exact h

theorem shows_constant (h : Covers N ts) (modules lines : List String) :
    Shows N (constant modules lines ts) := by
  refine (shows_expect h _).bind fun ts₁ h₁ => ?_
  have hc₁ := h.expect h₁
  refine (shows_expectName hc₁).bind fun (name, ts₂) h₂ => ?_
  have hc₂ := hc₁.expectName h₂
  refine (shows_skipType hc₂).bind fun ts₃ h₃ => ?_
  have hc₃ := hc₂.skipType h₃
  refine (shows_expect hc₃ _).bind fun ts₄ h₄ => ?_
  have hc₄ := hc₃.expect h₄
  split
  · exact (shows_expect hc₄.tail _).bind fun _ _ => .ok _
  · exact .error hc₄.shown

theorem shows_moduleStart (h : Covers N ts) : Shows N (moduleStart ts) := by
  refine (shows_expect h _).bind fun ts₁ h₁ => ?_
  have hc₁ := h.expect h₁
  refine (shows_expectName hc₁).bind fun (name, ts₂) h₂ => ?_
  exact (shows_expect (hc₁.expectName h₂) _).bind fun _ _ => .ok _

theorem Covers.docs (h : Covers N ts) : Covers N (docs ts).2 :=
  h.of_reads (reads_docs ts)

theorem Covers.itemStart (h : Covers N ts) : Covers N (skipPub (Parser.docs ts).2) :=
  h.of_reads (reads_itemStart ts)

theorem shows_port (h : Covers N ts) : Shows N (port ts) := by
  rw [port]
  split
  · exact .ok _
  · exact (shows_path h).map
  · exact .error h.shown

theorem ReadsList.shows {stop : Lexeme} {item : List Token → Except SourceFault (α × List Token)}
    {readList : List Token → Except SourceFault (List α × List Token)}
    (h : ReadsList stop item readList) (hitem : ∀ {ts}, Covers N ts → Shows N (item ts))
    (hrest : ∀ {ts a rest}, item ts = .ok (a, rest) → rest.length < ts.length)
    {p : Phrase α} (hp : ∀ {ts a rest}, item ts = .ok (a, rest) → p.Reads ts a rest)
    (hts : Covers N ts) : Shows N (readList ts) := by
  induction hlength : ts.length using Nat.strongRecOn generalizing ts with
  | ind length ih =>
    subst hlength
    rw [h ts]
    split
    · exact .ok _
    · refine (hitem hts).bind fun (a, rest) ha => ?_
      dsimp only
      split
      · refine (ih rest.tail.length ?_ (hts.of_reads (hp ha)).tail rfl).map
        rw [List.length_tail]
        have := hrest ha
        omega
      · exact .ok _

theorem shows_ports (h : Covers N ts) : Shows N (ports ts) := by
  refine (shows_expect h _).bind fun ts₁ h₁ => ?_
  have hc₁ := h.expect h₁
  refine (shows_expect hc₁ _).bind fun ts₂ h₂ => ?_
  have hc₂ := hc₁.expect h₂
  refine (readsList_portList.shows shows_port length_port reads_of_port hc₂).bind
    fun (ps, ts₃) h₃ => ?_
  have hc₃ := hc₂.of_reads (readsList_portList.reads reads_of_port h₃)
  refine (shows_expect hc₃ _).bind fun ts₄ h₄ => ?_
  exact (shows_expect (hc₃.expect h₄) _).bind fun _ _ => .ok _

/-! ## Fields -/

theorem shows_rangeEnd (h : Covers N ts) (start : Option Bound) : Shows N (rangeEnd start ts) := by
  have hbound : ∀ l, peek ts.tail = l → ∀ n ∈ l.numbers, N n := by
    rintro _ rfl
    exact h.tail.shown
  rw [rangeEnd]
  split
  · exact .ok _
  · next hp => exact .error (hbound _ hp)
  · next hp => exact .error (hbound _ hp)
  · next hp => exact .error (hbound _ hp)
  · split
    · exact .error_of_no_numbers rfl
    · exact .ok _

theorem shows_bits (h : Covers N ts) : Shows N (bits ts) := by
  rw [bits]
  split
  · exact .error_of_no_numbers rfl
  · split
    · exact shows_rangeEnd h.tail _
    · exact .ok _
  · split
    · exact shows_rangeEnd h _
    · exact .error h.shown

theorem shows_policy (h : Covers N ts) : Shows N (policy ts) := by
  rw [policy]
  split
  · split
    · exact .ok _
    · exact .error h.shown
  · exact .error h.shown

theorem Covers.optional (h : Covers N ts) {o : Option Int}
    (ho : (optional number).Reads ts o rest) : ∀ n ∈ o, N n ∧ N (n - 1) := by
  rintro n rfl
  obtain ⟨hnone, -⟩ | ⟨m, hm, heq⟩ := reads_optional.1 ho
  · cases hnone
  · cases heq
    exact h.of_peek (reads_number.1 hm).1

/-- The numbers of the bits of a field, and their first and last bit. -/
theorem Covers.bits (h : Covers N ts) {wordBits : Int} (hzero : N 0) (hopen : N (wordBits - 1))
    {b : BitSpec} (hb : Grammar.bits.Reads ts b rest) :
    ∀ n ∈ b.numbers ++ [(b.resolve wordBits).1, (b.resolve wordBits).2], N n := by
  have hrange : ∀ {start stop : Option Int} {included : Bool}, (∀ n ∈ start, N n ∧ N (n - 1)) →
      (∀ n ∈ stop, N n ∧ N (n - 1)) →
      let b := BitSpec.range (lowerBound start) (stop.map fun n => ⟨n, included⟩)
      ∀ n ∈ b.numbers ++ [(b.resolve wordBits).1, (b.resolve wordBits).2], N n := by
    intro start stop included hstart hstop
    cases start <;> cases stop <;> cases included <;>
      simp_all [BitSpec.numbers, BitSpec.resolve, BitSpec.firstBit, BitSpec.lastBit, lowerBound]
  obtain ⟨value, _, hvalue, rfl, rfl⟩ | h' | h' := hb
  · have hn := (h.of_peek (reads_number.1 hvalue).1).1
    simp [BitSpec.numbers, BitSpec.resolve, hn]
  · obtain ⟨start, _, hstart, _, _, hmark, stop, _, hstop, rfl, rfl⟩ := h'
    exact hrange (h.optional hstart) (((h.of_reads hstart).of_reads hmark).optional hstop)
  · obtain ⟨start, _, hstart, _, _, hmark, stop, _, hstop, rfl, rfl⟩ := h'
    have hn := ((h.of_reads hstart).of_reads hmark).of_peek (reads_number.1 hstop).1
    have hsome : ∀ n ∈ some stop, N n ∧ N (n - 1) := by
      rintro n ⟨⟩
      exact hn
    exact hrange (h.optional hstart) hsome

theorem shows_bitAttribute (h : Covers N ts) : Shows N (bitAttribute ts) := by
  refine (shows_expect h _).bind fun ts₁ h₁ => ?_
  have hc₁ := h.expect h₁
  split
  · refine (shows_expect hc₁.tail _).bind fun ts₂ h₂ => ?_
    have hc₂ := hc₁.tail.expect h₂
    refine (shows_bits hc₂).bind fun (bit, ts₃) h₃ => ?_
    have hc₃ := hc₂.of_reads (reads_of_bits h₃)
    refine (shows_expect hc₃ _).bind fun ts₄ h₄ => ?_
    have hc₄ := hc₃.expect h₄
    refine (shows_policy hc₄).bind fun (policy, ts₅) h₅ => ?_
    have hc₅ := hc₄.of_reads (policy_eq_ok.1 h₅)
    refine (shows_expect hc₅ _).bind fun ts₆ h₆ => ?_
    have hc₆ := hc₅.expect h₆
    refine (shows_path hc₆).bind fun (path, ts₇) h₇ => ?_
    have hc₇ := hc₆.of_reads (reads_of_path h₇)
    refine (shows_expect hc₇ _).bind fun ts₈ h₈ => ?_
    exact (shows_expect (hc₇.expect h₈) _).bind fun _ _ => .ok _
  · exact .error hc₁.shown

theorem Covers.bitAttribute (h : Covers N ts) {bit : BitSpec} {policy : Policy} {path : Path}
    (ha : Grammar.bitAttribute.Reads ts (bit, policy, path) rest) :
    ∃ ts₁ ts₂, Covers N ts₁ ∧ Grammar.bits.Reads ts₁ bit ts₂ := by
  obtain ⟨_, _, hbracket, _, _, hword, _, _, hparen, _, _, hbits, _, _, -, _, _, -, _, _, -,
    _, _, -, _, _, -, _, _, -, heq, -⟩ := ha
  cases heq
  exact ⟨_, _, ((h.of_reads hbracket).of_reads hword).of_reads hparen, hbits⟩

theorem shows_checkRange {wordBits : Int} {name : String} {bit : BitSpec}
    (h : ∀ n ∈ bit.numbers ++ [(bit.resolve wordBits).1, (bit.resolve wordBits).2], N n) :
    Shows N (checkRange wordBits name bit ts) := by
  rw [checkRange]
  dsimp only
  split
  · exact .error h
  · exact .ok _

theorem shows_field {wordBits : Int} (hzero : N 0) (hopen : N (wordBits - 1)) (h : Covers N ts) :
    Shows N (field wordBits ts) := by
  refine (shows_expect h.docs _).bind fun ts₁ h₁ => ?_
  have hc₁ := h.docs.expect h₁
  refine (shows_bitAttribute hc₁).bind fun ((bit, policy, path), ts₂) h₂ => ?_
  have hattribute := bitAttribute_eq_ok.1 h₂
  have hc₂ := (hc₁.of_reads hattribute).docs
  dsimp only
  split
  · exact .error_of_no_numbers rfl
  · refine (shows_expectName hc₂).bind fun (name, ts₃) h₃ => ?_
    obtain ⟨_, _, hbefore, hbits⟩ := hc₁.bitAttribute hattribute
    exact (shows_checkRange (hbefore.bits hzero hopen hbits)).bind fun _ _ => .ok _

/-! ## Descriptions -/

/-- A number that a message about a text may show: one that stands in it, one below such a number,
or the last bit of a register. -/
def Shown (wordBits : Int) (ts : List Token) (n : Int) : Prop :=
  (∃ t ∈ ts, t.lexeme = .number n ∨ t.lexeme = .number (n + 1)) ∨ n = wordBits - 1

theorem isShort_zero : Number.isShort 0 = true := by
  have hpow : ∀ k, 0 < Nat.pow 10 k := fun k => Nat.pow_pos (by decide)
  exact Number.isShort_iff.2 (hpow Number.digitLimit)

section Description

variable [Machine]

theorem shows_items (h : Covers N ts) (inside : List String) : Shows N (items inside ts) := by
  fun_induction items inside ts with
  | case1 inside ts start body hmod fault =>
    rename_i hopens
    exact (shows_moduleStart h.itemStart).pass hopens
  | case2 inside ts start body hmod name rest =>
    rename_i hopens hroom ih
    exact ih (h.itemStart.of_reads (moduleStart_eq_ok.1 hopens))
  | case3 => exact .error_of_no_numbers rfl
  | case4 inside ts start body hmod hconst fault =>
    rename_i hfirst
    exact (shows_constant h.itemStart _ _).pass hfirst
  | case5 inside ts start body hmod hconst c rest =>
    rename_i hfirst ih
    exact (ih (h.itemStart.of_reads (constant_eq_ok.1 hfirst))).map
  | case6 ts => exact .ok _
  | case7 ts start body hmod hconst name outer fault =>
    rename_i hbrace
    exact (shows_expect h.docs _).pass hbrace
  | case8 ts start body hmod hconst name outer rest =>
    rename_i hbrace ih
    exact ih (h.docs.expect hbrace)

theorem shows_description {source : String} {wordBits : Int} (hzero : N 0)
    (hopen : N (wordBits - 1)) (h : Covers N ts) : Shows N (description source wordBits ts) := by
  have hfield : ∀ {ts}, Covers N ts → Shows N (field wordBits ts) := shows_field hzero hopen
  refine (shows_items h []).bind fun (constants, ts₁) h₁ => ?_
  have hc₁ : Covers N ts₁ := by
    cases inside_of_items h₁ with
    | file hconstants =>
      have hread : (Grammar.items []).Reads ts constants ts₁ := hconstants
      exact h.of_reads hread
  dsimp only
  split
  · refine (shows_ports hc₁.docs).bind fun (ps, ts₂) h₂ => ?_
    have hc₂ := hc₁.docs.of_reads (ports_eq_ok.1 h₂)
    refine ((readsList_fieldList wordBits).shows hfield length_field field_eq_ok.1 hc₂).bind
      fun (fs, ts₃) h₃ => ?_
    exact (shows_expect (hc₂.of_reads (reads_of_fieldList h₃).1) _).bind fun _ _ => .ok _
  · exact .error hc₁.docs.shown

theorem failure_description {source : String} {wordBits : Int} {fault : SourceFault}
    (hts : Ended ts) (h : description source wordBits ts = .error fault) :
    fault.failure source = .diagnostic (fault.diagnostic source) ∨
      (fault.failure source = .longNumber ∧
        ∃ n, Shown wordBits ts n ∧ Number.isShort n = false) ∨
      fault.failure source = .tooDeep ∧ Machine.modules < depth ts := by
  by_cases hdeep : fault.cause = .tooDeep
  · refine .inr (.inr ⟨?_, (blames_of_description hts h).deep hdeep⟩)
    rw [SourceFault.failure, hdeep]
  rw [SourceFault.failure_of_shallow hdeep, Failure.showing]
  by_cases hshort : fault.cause.numbers.all Number.isShort = true
  · exact .inl (if_pos hshort)
  · refine .inr (.inl ⟨if_neg hshort, ?_⟩)
    obtain ⟨n, hn, hlong⟩ := List.all_eq_false.1 (eq_false_of_ne_true hshort)
    have hcovers : Covers (fun n => n = 0 ∨ Shown wordBits ts n) ts := fun t ht n hn =>
      ⟨.inr (.inl ⟨t, ht, .inl hn⟩), .inr (.inl ⟨t, ht, .inr (by rw [hn, Int.sub_add_cancel])⟩)⟩
    obtain rfl | hshown := shows_description (.inl rfl) (.inr (.inr rfl)) hcovers fault h n hn
    · exact absurd isShort_zero hlong
    · exact ⟨n, hshown, eq_false_of_ne_true hlong⟩

/-- A long number at the start of a text is complained about, and not its place. -/
theorem failure_of_long_number {source : String} {wordBits n : Int} {line column : Nat}
    (hn : Number.isShort n = false) :
    ∃ fault, description source wordBits (⟨.number n, line, column⟩ :: ts) = .error fault ∧
      fault.failure source = .longNumber := by
  refine ⟨⟨.expected "'device_ports(...)'" (.number n), line, column⟩, ?_, ?_⟩
  · rw [description, items_eq]
    rfl
  · simp [SourceFault.failure, Failure.showing, SourceCause.numbers, Lexeme.numbers, hn]

/-- What reading a description has to do with the tokens `ts` of a text called `source`, for
registers of `wordBits` bits. -/
structure Obeys (source : String) (wordBits : Int) (ts : List Token) : Prop where
  /-- It gives what the grammar derives, if all ranges are in order and calls can be nested as deep
  as the modules are. -/
  accepts : ∀ d, description source wordBits ts = .ok d ↔
    File source ts d ∧ (∀ f ∈ d.fields, InOrder wordBits f) ∧ depth ts ≤ Machine.modules
  /-- Modules that are nested deeper end it. -/
  deep : ∀ d, File source ts d → Machine.modules < depth ts →
    ∃ fault, description source wordBits ts = .error fault ∧ fault.failure source = .tooDeep
  /-- It fails with a diagnostic of the text on all else. One that would show a number that is too
  long to be written becomes the complaint about that number, and modules that are nested too deep
  may end it before anything else shows. -/
  refuses : (∀ d, ¬(File source ts d ∧ ∀ f ∈ d.fields, InOrder wordBits f)) →
    ∃ fault, description source wordBits ts = .error fault ∧
      (fault.failure source = .diagnostic (fault.diagnostic source) ∨
        (fault.failure source = .longNumber ∧
          ∃ n, Shown wordBits ts n ∧ Number.isShort n = false) ∨
        fault.failure source = .tooDeep ∧ Machine.modules < depth ts)

/-- Reading a description obeys the grammar. -/
theorem description_obeys {source : String} {wordBits : Int} (hts : Ended ts) :
    Obeys source wordBits ts where
  accepts d := description_eq_ok hts
  deep d h hdeep := by
    obtain ⟨place, hfault⟩ := description_of_deep h hdeep
    exact ⟨_, hfault, rfl⟩
  refuses h := by
    cases hread : description source wordBits ts with
    | ok d =>
      obtain ⟨hfile, horder, -⟩ := (description_eq_ok hts).1 hread
      exact absurd ⟨hfile, horder⟩ (h d)
    | error fault => exact ⟨fault, rfl, failure_description hts hread⟩

end Description

/-- A serial port whose only constant stands in two modules. -/
def uartText : String :=
  "mod soc \x7b mod uart \x7b\n/// Control.\npub const CTRL: u32 = 8;\n\x7d \x7d\n" ++
  "device_ports(0x1000, soc::uart::CTRL);\n" ++
  "/// Switches it on.\n#[bit(0, RW, soc::uart::CTRL)]\n/// Off at reset.\nenable,\n" ++
  "#[bit(4..=7, RO, soc.uart.CTRL)] level,"

/-- What the text of the serial port describes. -/
def uart : Description :=
  let ctrl := Path.inModules ["soc", "uart"] "CTRL"
  ⟨[.address 0x1000, .named ctrl],
    [⟨"enable", .single 0, .readWrite, ctrl, ["Switches it on.", "Off at reset."], 7⟩,
      ⟨"level", .range (some ⟨4, true⟩) (some ⟨7, true⟩), .readOnly, ctrl, [], 10⟩],
    [⟨ctrl, 8, ["Control."], 3⟩], "uart"⟩

theorem description_obeys_uart :
    ∃ ts, Lexer.tokens uartText = .ok ts ∧ Obeys "uart" 32 ts ∧
      description "uart" 32 ts = .ok uart := by
  have hread : readDescription uartText "uart" 32 = .ok uart := by decide +kernel
  obtain ⟨ts, htokens, hdescription⟩ := bind_eq_ok.1 hread
  have hlexed := tokens_eq_ok.1 htokens
  exact ⟨ts, hlexed, description_obeys (Lexer.lexed_of_tokens hlexed).1, hdescription⟩

end RegisterMap.Parser
