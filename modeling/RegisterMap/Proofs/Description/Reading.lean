import RegisterMap.Proofs.Description.Modules

/-!
# Reading a description

Descriptions are read as the grammar derives them: what may follow bits and paths in a description
tells how far they go.
-/

namespace RegisterMap.Parser

open Grammar Grammar.Phrase

/-! ## Addresses -/

section Ports

variable {ts rest : List Token}

theorem peek_of_path {p : Path} (h : Grammar.path.Reads ts p rest) :
    ∃ s, peek ts = .name s := by
  obtain ⟨s, _, hs, -⟩ := h
  exact ⟨s, (reads_name.1 hs).1⟩

theorem reads_of_port {p : Port} (h : port ts = .ok (p, rest)) : Grammar.port.Reads ts p rest := by
  rw [port] at h
  split at h
  · next value hp =>
    cases h
    exact .inl ⟨value, _, reads_number.2 ⟨hp, rfl⟩, rfl, rfl⟩
  · obtain ⟨⟨q, last⟩, hq, he⟩ := map_eq_ok.1 h
    cases he
    exact .inr ⟨q, _, reads_of_path hq, rfl, rfl⟩
  · cases h

theorem port_of_reads {p : Port} (h : Grammar.port.Reads ts p rest)
    (hrest : isSeparator (peek rest) = false) : port ts = .ok (p, rest) := by
  obtain ⟨value, _, hvalue, rfl, rfl⟩ | ⟨q, _, hq, rfl, rfl⟩ := h
  · obtain ⟨hp, rfl⟩ := reads_number.1 hvalue
    rw [port, hp]
  · obtain ⟨s, hp⟩ := peek_of_path hq
    rw [port, hp]
    simp only [path_of_reads hq hrest]
    rfl

theorem peek_of_port {p : Port} (h : Grammar.port.Reads ts p rest) :
    peek ts ≠ .mark .rightParen := by
  obtain ⟨value, _, hvalue, -⟩ | ⟨q, _, hq, -⟩ := h
  · rw [(reads_number.1 hvalue).1]
    exact nofun
  · obtain ⟨s, hp⟩ := peek_of_path hq
    rw [hp]
    exact nofun

theorem readsList_portList : ReadsList (.mark .rightParen) port portList := by
  intro ts
  rw [portList.eq_def]
  split
  · rfl
  · split <;> next heq => rw [heq]; rfl

theorem ports_eq_ok {ps : List Port} :
    ports ts = .ok (ps, rest) ↔ Grammar.ports.Reads ts ps rest := by
  simp only [Grammar.ports, reads_bind, reads_pure, reads_word, reads_mark]
  constructor
  · intro h
    obtain ⟨_, hword, h⟩ := bind_eq_ok.1 h
    obtain ⟨_, hopen, h⟩ := bind_eq_ok.1 h
    obtain ⟨⟨qs, _⟩, hlist, h⟩ := bind_eq_ok.1 h
    obtain ⟨_, hclose, h⟩ := bind_eq_ok.1 h
    obtain ⟨_, hend, h⟩ := bind_eq_ok.1 h
    cases h
    obtain ⟨hw, rfl⟩ := expect_eq_ok.1 hword
    obtain ⟨ho, rfl⟩ := expect_eq_ok.1 hopen
    obtain ⟨hc, rfl⟩ := expect_eq_ok.1 hclose
    obtain ⟨he, rfl⟩ := expect_eq_ok.1 hend
    exact ⟨_, _, ⟨hw, rfl, rfl⟩, _, _, ⟨ho, rfl, rfl⟩, ps, _,
      readsList_portList.reads reads_of_port hlist, _, _, ⟨hc, rfl, rfl⟩, _, _, ⟨he, rfl, rfl⟩,
      rfl, rfl⟩
  · rintro ⟨_, _, ⟨hw, rfl, rfl⟩, _, _, ⟨ho, rfl, rfl⟩, qs, _, hlist, _, _, ⟨hc, rfl, rfl⟩, _, _,
      ⟨he, rfl, rfl⟩, rfl, rfl⟩
    have hport : ∀ {ts p rest}, Grammar.port.Reads ts p rest →
        peek rest = .mark .comma ∨ peek rest = .mark .rightParen → port ts = .ok (p, rest) := by
      rintro _ _ _ hp (hrest | hrest) <;> exact port_of_reads hp (by rw [hrest]; rfl)
    refine bind_eq_ok.2 ⟨_, expect_eq_ok.2 ⟨hw, rfl⟩, ?_⟩
    refine bind_eq_ok.2 ⟨_, expect_eq_ok.2 ⟨ho, rfl⟩, ?_⟩
    refine bind_eq_ok.2
      ⟨_, readsList_portList.of_reads (by decide) hport peek_of_port hlist hc, ?_⟩
    refine bind_eq_ok.2 ⟨_, expect_eq_ok.2 ⟨hc, rfl⟩, ?_⟩
    exact bind_eq_ok.2 ⟨_, expect_eq_ok.2 ⟨he, rfl⟩, rfl⟩

end Ports

/-! ## Fields -/

section Fields

variable {ts rest : List Token}

theorem isRange_iff {l : Lexeme} :
    isRange l = true ↔ l = .mark .openRange ∨ l = .mark .inclusiveRange := by
  simp [isRange]

/-- The lower bound that a number in front of a range stands for. -/
def lowerBound (start : Option Int) : Option Bound :=
  start.map fun n => ⟨n, true⟩

theorem reads_of_rangeEnd {start : Option Int} {ts₁ : List Token} {b : BitSpec}
    (hstart : (optional number).Reads ts start ts₁) (hrange : isRange (peek ts₁) = true)
    (h : rangeEnd (lowerBound start) ts₁ = .ok (b, rest)) : Grammar.bits.Reads ts b rest := by
  have hopen : ∀ {stop}, peek ts₁ = .mark .openRange → (optional number).Reads ts₁.tail stop rest →
      b = .range (lowerBound start) (stop.map fun n => ⟨n, false⟩) → Grammar.bits.Reads ts b rest :=
    fun hmark hstop hb => .inr (.inl
      ⟨start, _, hstart, _, _, reads_mark.2 ⟨hmark, rfl, rfl⟩, _, _, hstop, hb.symm, rfl⟩)
  rw [rangeEnd] at h
  obtain hmark | hmark := isRange_iff.1 hrange
  · have hinclusive : (peek ts₁ == Lexeme.mark .inclusiveRange) = false := by rw [hmark]; rfl
    simp only [hinclusive] at h
    split at h
    · next value hvalue =>
      cases h
      exact hopen hmark (reads_optional.2 (.inr ⟨value, reads_number.2 ⟨hvalue, rfl⟩, rfl⟩)) rfl
    · cases h
    · cases h
    · cases h
    · cases h
      exact hopen hmark (reads_optional.2 (.inl ⟨rfl, rfl⟩)) rfl
  · have hinclusive : (peek ts₁ == Lexeme.mark .inclusiveRange) = true := by rw [hmark]; rfl
    simp only [hinclusive] at h
    split at h
    · next value hvalue =>
      cases h
      exact .inr (.inr ⟨start, _, hstart, _, _, reads_mark.2 ⟨hmark, rfl, rfl⟩, value, _,
        reads_number.2 ⟨hvalue, rfl⟩, rfl, rfl⟩)
    all_goals cases h

theorem reads_of_bits {b : BitSpec} (h : bits ts = .ok (b, rest)) :
    Grammar.bits.Reads ts b rest := by
  rw [bits] at h
  split at h
  · cases h
  · next value hp =>
    have hnumber : number.Reads ts value ts.tail := reads_number.2 ⟨hp, rfl⟩
    split at h
    · next hrange =>
      have hsome : (optional number).Reads ts (some value) ts.tail :=
        reads_optional.2 (.inr ⟨value, hnumber, rfl⟩)
      exact reads_of_rangeEnd hsome hrange h
    · cases h
      exact .inl ⟨value, _, hnumber, rfl, rfl⟩
  · split at h
    · next hrange =>
      have hnone : (optional number).Reads ts none ts := reads_optional.2 (.inl ⟨rfl, rfl⟩)
      exact reads_of_rangeEnd hnone hrange h
    · cases h

theorem bits_range {start : Option Int} {ts₁ : List Token}
    (hstart : (optional number).Reads ts start ts₁) (hrange : isRange (peek ts₁) = true) :
    bits ts = rangeEnd (lowerBound start) ts₁ := by
  obtain ⟨rfl, rfl⟩ | ⟨value, hvalue, rfl⟩ := reads_optional.1 hstart
  · obtain hmark | hmark := isRange_iff.1 hrange <;> rw [bits, hmark] <;> rfl
  · obtain ⟨hp, rfl⟩ := reads_number.1 hvalue
    rw [bits, hp]
    exact if_pos hrange

/-- Behind bits there is a comma, or nothing when they stand alone. -/
theorem bits_of_reads {b : BitSpec} (h : Grammar.bits.Reads ts b rest)
    (hrest : peek rest = .mark .comma ∨ peek rest = .endOfInput) : bits ts = .ok (b, rest) := by
  obtain ⟨value, _, hvalue, rfl, rfl⟩ | h | h := h
  · obtain ⟨hp, rfl⟩ := reads_number.1 hvalue
    rw [bits, hp]
    exact if_neg (by obtain h | h := hrest <;> simp [h, isRange])
  · obtain ⟨start, ts₁, hstart, _, _, hopen, stop, _, hstop, rfl, rfl⟩ := h
    obtain ⟨hmark, -, rfl⟩ := reads_mark.1 hopen
    have hinclusive : (peek ts₁ == Lexeme.mark .inclusiveRange) = false := by rw [hmark]; rfl
    rw [bits_range hstart (isRange_iff.2 (.inl hmark)), rangeEnd, hinclusive]
    obtain ⟨rfl, rfl⟩ | ⟨value, hvalue, rfl⟩ := reads_optional.1 hstop
    · obtain h | h := hrest <;> rw [h] <;> rfl
    · obtain ⟨hp, rfl⟩ := reads_number.1 hvalue
      rw [hp]
      rfl
  · obtain ⟨start, ts₁, hstart, _, _, hincluded, value, _, hvalue, rfl, rfl⟩ := h
    obtain ⟨hmark, -, rfl⟩ := reads_mark.1 hincluded
    obtain ⟨hp, rfl⟩ := reads_number.1 hvalue
    have hinclusive : (peek ts₁ == Lexeme.mark .inclusiveRange) = true := by rw [hmark]; rfl
    rw [bits_range hstart (isRange_iff.2 (.inr hmark)), rangeEnd, hinclusive, hp]
    rfl

theorem bitAttribute_eq_ok {a : BitSpec × Policy × Path} :
    bitAttribute ts = .ok (a, rest) ↔ Grammar.bitAttribute.Reads ts a rest := by
  simp only [Grammar.bitAttribute, reads_bind, reads_pure, reads_word, reads_mark]
  constructor
  · intro h
    obtain ⟨_, hbracket, h⟩ := bind_eq_ok.1 h
    split at h
    · next hword =>
      obtain ⟨_, hparen, h⟩ := bind_eq_ok.1 h
      obtain ⟨⟨bit, _⟩, hbit, h⟩ := bind_eq_ok.1 h
      obtain ⟨_, hcomma, h⟩ := bind_eq_ok.1 h
      obtain ⟨⟨policy, _⟩, hpolicy, h⟩ := bind_eq_ok.1 h
      obtain ⟨_, hcomma', h⟩ := bind_eq_ok.1 h
      obtain ⟨⟨path, _⟩, hpath, h⟩ := bind_eq_ok.1 h
      obtain ⟨_, hclose, h⟩ := bind_eq_ok.1 h
      obtain ⟨_, hend, h⟩ := bind_eq_ok.1 h
      cases h
      obtain ⟨hb, rfl⟩ := expect_eq_ok.1 hbracket
      obtain ⟨hp, rfl⟩ := expect_eq_ok.1 hparen
      obtain ⟨hc, rfl⟩ := expect_eq_ok.1 hcomma
      obtain ⟨hc', rfl⟩ := expect_eq_ok.1 hcomma'
      obtain ⟨hl, rfl⟩ := expect_eq_ok.1 hclose
      obtain ⟨he, rfl⟩ := expect_eq_ok.1 hend
      exact ⟨_, _, ⟨hb, rfl, rfl⟩, _, _, ⟨hword, rfl, rfl⟩, _, _, ⟨hp, rfl, rfl⟩,
        bit, _, reads_of_bits hbit, _, _, ⟨hc, rfl, rfl⟩, policy, _, policy_eq_ok.1 hpolicy,
        _, _, ⟨hc', rfl, rfl⟩, path, _, reads_of_path hpath, _, _, ⟨hl, rfl, rfl⟩,
        _, _, ⟨he, rfl, rfl⟩, rfl, rfl⟩
    · cases h
  · rintro ⟨_, _, ⟨hb, rfl, rfl⟩, _, _, ⟨hword, rfl, rfl⟩, _, _, ⟨hp, rfl, rfl⟩,
      bit, _, hbit, _, _, ⟨hc, rfl, rfl⟩, policy, _, hpolicy, _, _, ⟨hc', rfl, rfl⟩,
      path, _, hpath, _, _, ⟨hl, rfl, rfl⟩, _, _, ⟨he, rfl, rfl⟩, rfl, rfl⟩
    refine bind_eq_ok.2 ⟨_, expect_eq_ok.2 ⟨hb, rfl⟩, ?_⟩
    rw [if_pos hword]
    refine bind_eq_ok.2 ⟨_, expect_eq_ok.2 ⟨hp, rfl⟩, ?_⟩
    refine bind_eq_ok.2 ⟨_, bits_of_reads hbit (.inl hc), ?_⟩
    refine bind_eq_ok.2 ⟨_, expect_eq_ok.2 ⟨hc, rfl⟩, ?_⟩
    refine bind_eq_ok.2 ⟨_, policy_eq_ok.2 hpolicy, ?_⟩
    refine bind_eq_ok.2 ⟨_, expect_eq_ok.2 ⟨hc', rfl⟩, ?_⟩
    refine bind_eq_ok.2 ⟨_, path_of_reads hpath (by rw [hl]; rfl), ?_⟩
    refine bind_eq_ok.2 ⟨_, expect_eq_ok.2 ⟨hl, rfl⟩, ?_⟩
    exact bind_eq_ok.2 ⟨_, expect_eq_ok.2 ⟨he, rfl⟩, rfl⟩

/-- A range of the field, if it has one, starts below its end in a register of `wordBits` bits. -/
def InOrder (wordBits : Int) (f : FieldDecl) : Prop :=
  f.bit.isSingle = false → (f.bit.resolve wordBits).1 < (f.bit.resolve wordBits).2

instance (wordBits : Int) : DecidablePred (InOrder wordBits) :=
  fun f => inferInstanceAs (Decidable
    (f.bit.isSingle = false → (f.bit.resolve wordBits).1 < (f.bit.resolve wordBits).2))

theorem checkRange_eq_ok {wordBits : Int} {f : FieldDecl} {u : Unit} :
    checkRange wordBits f.name f.bit ts = .ok u ↔ InOrder wordBits f := by
  rw [checkRange, InOrder]
  cases f.bit.resolve wordBits with
  | mk start stop =>
    simp only
    split
    · next h => exact ⟨nofun, fun h' => absurd (h' h.1) (by simpa using h.2)⟩
    · next h => exact ⟨fun _ hs => by simpa [hs] using h, fun _ => rfl⟩

theorem field_eq_ok {wordBits : Int} {f : FieldDecl} :
    field wordBits ts = .ok (f, rest) ↔
      (Grammar.field.such (InOrder wordBits)).Reads ts f rest := by
  constructor
  · intro h
    obtain ⟨_, hhash, h⟩ := bind_eq_ok.1 h
    obtain ⟨⟨⟨bit, policy, path⟩, between⟩, hattribute, h⟩ := bind_eq_ok.1 h
    dsimp only at h
    split at h
    · cases h
    · obtain ⟨⟨name, _⟩, hname, h⟩ := bind_eq_ok.1 h
      obtain ⟨_, hcheck, h⟩ := bind_eq_ok.1 h
      cases h
      obtain ⟨hh, rfl⟩ := expect_eq_ok.1 hhash
      refine ⟨?_, checkRange_eq_ok.1 hcheck⟩
      exact ⟨_, _, reads_docs ts, _, _, reads_mark.2 ⟨hh, rfl, rfl⟩, _, _,
        bitAttribute_eq_ok.1 hattribute, _, _, reads_docs between, name, _,
        reads_name.2 (expectName_eq_ok.1 hname), rfl, rfl⟩
  · rintro ⟨⟨before, start, hbefore, line, _, hhash, ⟨bit, policy, path⟩, between, hattribute,
      after, _, hafter, name, _, hname, rfl, rfl⟩, horder⟩
    obtain ⟨hh, rfl, rfl⟩ := reads_mark.1 hhash
    have hn := reads_name.1 hname
    have hstart := docs_of_reads hbefore (by simp [hh])
    have hend := docs_of_reads hafter (by simp [hn.1])
    rw [field, hstart]
    refine bind_eq_ok.2 ⟨_, expect_eq_ok.2 ⟨hh, rfl⟩, ?_⟩
    refine bind_eq_ok.2 ⟨_, bitAttribute_eq_ok.2 hattribute, ?_⟩
    dsimp only
    rw [hend]
    dsimp only
    rw [if_neg (by simp [hn.1])]
    refine bind_eq_ok.2 ⟨_, expectName_eq_ok.2 hn, ?_⟩
    exact bind_eq_ok.2 ⟨(), checkRange_eq_ok.2 horder, rfl⟩

theorem peek_of_field {f : FieldDecl} (h : Grammar.field.Reads ts f rest) :
    peek ts ≠ .endOfInput := by
  obtain ⟨before, start, hbefore, line, _, hhash, -⟩ := h
  obtain ⟨-, rfl⟩ | ⟨s, _, hdoc, -⟩ := reads_many.1 hbefore
  · rw [(reads_mark.1 hhash).1]
    exact nofun
  · rw [(reads_doc.1 hdoc).1]
    exact nofun

theorem readsList_fieldList (wordBits : Int) :
    ReadsList .endOfInput (field wordBits) (fieldList wordBits) := by
  intro ts
  rw [fieldList.eq_def]
  split
  · rfl
  · split <;> next heq => rw [heq]; rfl

theorem reads_of_fieldList {wordBits : Int} {fs : List FieldDecl}
    (h : fieldList wordBits ts = .ok (fs, rest)) :
    (Grammar.list Grammar.field).Reads ts fs rest ∧ ∀ f ∈ fs, InOrder wordBits f :=
  reads_list_such.1 ((readsList_fieldList wordBits).reads field_eq_ok.1 h)

theorem fieldList_of_reads {wordBits : Int} {fs : List FieldDecl}
    (h : (Grammar.list Grammar.field).Reads ts fs rest) (horder : ∀ f ∈ fs, InOrder wordBits f)
    (hrest : peek rest = .endOfInput) : fieldList wordBits ts = .ok (fs, rest) :=
  (readsList_fieldList wordBits).of_reads nofun (fun hf _ => field_eq_ok.2 hf)
    (fun hf => peek_of_field hf.1) (reads_list_such.2 ⟨h, horder⟩) hrest

end Fields

/-! ## Descriptions -/

section Description

variable {ts : List Token} {source : String} {wordBits : Int} {d : Description}

theorem peek_of_ports {rest : List Token} {ps : List Port} (h : Grammar.ports.Reads ts ps rest) :
    peek ts = .name "device_ports" := by
  obtain ⟨_, _, hw, -⟩ := h
  exact (reads_word.1 hw).1

variable [Machine]

/-- No module or constant is read where the addresses are next. -/
theorem items_of_ports (h : peek (docs ts).2 = .name "device_ports") :
    items [] ts = .ok ([], ts) := by
  have hpub : skipPub (docs ts).2 = (docs ts).2 := if_neg (by simp [h])
  rw [items_eq, hpub, if_neg (by simp [h]), if_neg (by simp [h])]

/-- Reading goes on to the addresses, or modules are nested too deep. -/
theorem items_of_front {rest : List Token} {cs : List Constant}
    (hconstants : (Grammar.items []).Reads ts cs rest)
    (h : peek (docs rest).2 = .name "device_ports") :
    items [] ts = .ok (cs, rest) ∨
      Machine.modules < depth ts ∧ ∃ place, items [] ts = .error (faultAt place .tooDeep) := by
  refine (items_of_reads hconstants List.reverse_nil).imp_left fun heq => ?_
  rw [heq, items_of_ports h]
  simp [Except.map]

/-- The tokens of a text that ends in its only end of input are read as a description exactly when
the grammar derives it from them, its ranges fit in order into a register and its modules are not
nested deeper than calls can be. -/
theorem description_eq_ok (hts : Ended ts) :
    description source wordBits ts = .ok d ↔
      File source ts d ∧ (∀ f ∈ d.fields, InOrder wordBits f) ∧ depth ts ≤ Machine.modules := by
  constructor
  · intro h
    obtain ⟨⟨constants, ts₁⟩, hitems, h⟩ := bind_eq_ok.1 h
    dsimp only at h
    split at h
    · obtain ⟨⟨ps, ts₂⟩, hports, h⟩ := bind_eq_ok.1 h
      obtain ⟨⟨fs, ts₃⟩, hfields, h⟩ := bind_eq_ok.1 h
      obtain ⟨_, hend, h⟩ := bind_eq_ok.1 h
      cases h
      obtain ⟨hlist, horder⟩ := reads_of_fieldList hfields
      have hdeep := deepest_of_items hitems (Nat.zero_le _)
      cases inside_of_items hitems with
      | file hconstants =>
        have hdevice : (device source).Reads ts ⟨ps, fs, constants, source⟩ ts₃ :=
          ⟨_, _, hconstants, _, _, reads_docs ts₁, _, _, ports_eq_ok.1 hports, _, _, hlist, rfl,
            rfl⟩
        obtain ⟨taken, heq, htaken⟩ := (device source).takes hdevice
        rw [heq] at hts
        obtain ⟨last, rfl, hlast⟩ := eq_singleton_of_ended hts htaken (expect_eq_ok.1 hend).1
        have hflat : depth ts₁ = 0 := (Flat.docs (reads_docs ts₁) 0).trans
          (depth_of_ports (ports_eq_ok.1 hports) hlist hlast)
        rw [hflat, Nat.max_zero] at hdeep
        exact ⟨⟨last, hdevice, hlast⟩, horder, hdeep⟩
    · cases h
  · rintro ⟨⟨last, hdevice, hlast⟩, horder, hdeep⟩
    obtain ⟨constants, ts₁, hconstants, lines, ts₂, hdocs, ps, ts₃, hports, fs, _, hlist, rfl, rfl⟩
      := hdevice
    have hpeek := peek_of_ports hports
    have hlines := docs_of_reads hdocs (by simp [hpeek])
    obtain hitems | ⟨hbeyond, -⟩ := items_of_front hconstants (by rw [hlines]; exact hpeek)
    · refine bind_eq_ok.2 ⟨_, hitems, ?_⟩
      dsimp only
      rw [hlines]
      dsimp only
      rw [if_pos hpeek]
      refine bind_eq_ok.2 ⟨_, ports_eq_ok.2 hports, ?_⟩
      refine bind_eq_ok.2 ⟨_, fieldList_of_reads hlist horder hlast, ?_⟩
      exact bind_eq_ok.2 ⟨_, expect_eq_ok.2 ⟨hlast, rfl⟩, rfl⟩
    · exact absurd hdeep (Nat.not_le_of_lt hbeyond)

/-- A description whose modules are nested deeper than calls can be is given up for that. -/
theorem description_of_deep (h : File source ts d) (hdeep : Machine.modules < depth ts) :
    ∃ place, description source wordBits ts = .error (faultAt place .tooDeep) := by
  obtain ⟨last, ⟨constants, ts₁, hconstants, lines, ts₂, hdocs, ps, _, hports, _, _, hlist, -, rfl⟩,
    hlast⟩ := h
  have hpeek := peek_of_ports hports
  have hlines := docs_of_reads hdocs (by simp [hpeek])
  obtain hitems | ⟨-, place, hitems⟩ := items_of_front hconstants (by rw [hlines]; exact hpeek)
  · have hflat : depth ts₁ = 0 :=
      (Flat.docs hdocs 0).trans (depth_of_ports hports hlist hlast)
    have hmost := deepest_of_items hitems (Nat.zero_le _)
    rw [hflat, Nat.max_zero] at hmost
    exact absurd hmost (Nat.not_le_of_lt hdeep)
  · exact ⟨place, by rw [description, hitems]; rfl⟩

end Description

end RegisterMap.Parser
