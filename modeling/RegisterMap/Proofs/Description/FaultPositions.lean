import RegisterMap.Proofs.Description.Quotes
import RegisterMap.Proofs.Description.Reading
import RegisterMap.Proofs.Endings

/-!
# Where faults of the parser show

The parser never goes past the end of input, so every fault shows at one of the tokens that it is
given: each phrase leaves tokens to the next one that still end in the end of input. A range that a
fault quotes was read from those tokens, and only tokens with too many braces open at once are
nested too deep.
-/

namespace RegisterMap.Parser

open Grammar

/-- A fault at the place of one of the tokens `whole`. -/
def AtToken (whole : List Token) (f : SourceFault) : Prop :=
  ∃ t ∈ whole, t.line = f.line ∧ t.column = f.column

/-- The last tokens of `whole`, with its end of input. -/
structure Among (whole ts : List Token) : Prop where
  ended : Ended ts
  subset : ts ⊆ whole

/-- Bits that are read at one of the tokens `whole`. -/
def HasBits (whole : List Token) (b : BitSpec) : Prop :=
  ∃ ts rest, Among whole ts ∧ bits ts = .ok (b, rest)

/-- A fault at the place of one of the tokens `whole` that quotes no bits but theirs, and that is
about their depth only where calls cannot be nested as deep. -/
structure Blames [Machine] (whole : List Token) (f : SourceFault) : Prop where
  place : AtToken whole f
  quoted : ∀ b, f.cause.quoted? = some b → HasBits whole b
  deep : f.cause = .tooDeep → Machine.modules < depth whole

/-- A cause that neither quotes bits nor is about the depth of modules. -/
def IsSimple (cause : SourceCause) : Prop :=
  cause.quoted? = none ∧ cause ≠ .tooDeep

/-- What was read, and the last tokens of `whole`. -/
def Leaves {α : Type} (whole : List Token) (r : α × List Token) : Prop :=
  Among whole r.2

variable {α : Type} {whole ts : List Token} {what : String}

namespace Among

theorem atToken (h : Among whole ts) (cause : SourceCause) : AtToken whole (faultAt ts cause) := by
  obtain ⟨⟨inner, last, rfl, -, -⟩, hsubset⟩ := h
  cases inner with
  | nil => exact ⟨last, hsubset (by simp), rfl, rfl⟩
  | cons t inner => exact ⟨t, hsubset (by simp), rfl, rfl⟩

theorem blames [Machine] (h : Among whole ts) {cause : SourceCause}
    (hquoted : ∀ b, cause.quoted? = some b → HasBits whole b)
    (hdeep : cause = .tooDeep → Machine.modules < depth whole) : Blames whole (faultAt ts cause) :=
  ⟨h.atToken cause, hquoted, hdeep⟩

theorem fault [Machine] (h : Among whole ts) {cause : SourceCause} (hcause : IsSimple cause) :
    Blames whole (faultAt ts cause) :=
  h.blames (by simp [hcause.1]) fun hdeep => absurd hdeep hcause.2

theorem tail (h : Among whole ts) (hp : peek ts ≠ .endOfInput) : Among whole ts.tail := by
  obtain ⟨⟨inner, last, rfl, hinner, hlast⟩, hsubset⟩ := h
  cases inner with
  | nil => exact absurd hlast hp
  | cons t inner =>
    exact ⟨⟨inner, last, rfl, fun u hu => hinner u (List.mem_cons_of_mem _ hu), hlast⟩,
      fun u hu => hsubset (List.mem_cons_of_mem _ hu)⟩

theorem tail_of_peek (h : Among whole ts) {l : Lexeme} (hp : peek ts = l)
    (hl : l ≠ .endOfInput) : Among whole ts.tail :=
  h.tail (hp ▸ hl)

theorem docs (h : Among whole ts) : Among whole (docs ts).2 := by
  induction ts with
  | nil => exact h
  | cons t ts ih =>
    rw [Parser.docs.eq_def]
    dsimp only
    split
    · next line hline => exact ih (h.tail_of_peek hline (by simp))
    · exact h

theorem skipPub (h : Among whole ts) : Among whole (skipPub ts) := by
  rw [Parser.skipPub]
  split
  · next hp => exact h.tail_of_peek hp (by simp)
  · exact h

end Among

theorem isSeparator_ne_end {l : Lexeme} (h : isSeparator l = true) : l ≠ .endOfInput := by
  rintro rfl
  cases h

theorem isRange_ne_end {l : Lexeme} (h : isRange l = true) : l ≠ .endOfInput := by
  rintro rfl
  cases h

variable [Machine]

theorem ends_expect (h : Among whole ts) (l : Lexeme) :
    Ends (Blames whole) (fun rest => l ≠ .endOfInput → Among whole rest) (expect l what ts) := by
  rw [expect]
  split
  · next hp => exact h.tail_of_peek hp
  · exact h.fault ⟨rfl, by simp⟩

theorem ends_word (h : Among whole ts) (word : String) :
    Ends (Blames whole) (Among whole) (expect (.name word) what ts) :=
  (ends_expect h _).imp (fun _ => id) fun _ hrest => hrest (by simp)

theorem ends_mark (h : Among whole ts) (m : Mark) :
    Ends (Blames whole) (Among whole) (expect (.mark m) what ts) :=
  (ends_expect h _).imp (fun _ => id) fun _ hrest => hrest (by simp)

theorem ends_expectName (h : Among whole ts) :
    Ends (Blames whole) (Leaves whole) (expectName what ts) := by
  rw [expectName]
  split
  · next hp => exact h.tail_of_peek hp (by simp)
  · exact h.fault ⟨rfl, by simp⟩

theorem ends_pathTail (h : Among whole ts) :
    Ends (Blames whole) (Leaves whole) (pathTail what ts) := by
  fun_induction pathTail what ts with
  | case1 => exact h
  | case2 t hs => exact (h.tail (isSeparator_ne_end hs)).fault ⟨rfl, by simp⟩
  | case3 t hs n ts word hw ih =>
    exact (ih ((h.tail (isSeparator_ne_end hs)).tail_of_peek hw (by simp))).map fun _ hrest => hrest
  | case4 t hs n ts hw => exact (h.tail (isSeparator_ne_end hs)).fault ⟨rfl, by simp⟩
  | case5 => exact h

theorem ends_path (h : Among whole ts) : Ends (Blames whole) (Leaves whole) (path what ts) := by
  rw [path]
  split
  · next hp => exact (ends_pathTail (h.tail_of_peek hp (by simp))).map fun _ hrest => hrest
  · exact h.fault ⟨rfl, by simp⟩

theorem ends_skipType (h : Among whole ts) :
    Ends (Blames whole) (Among whole) (skipType ts) := by
  rw [skipType]
  split
  · next hp => exact (ends_expectName (h.tail_of_peek hp (by simp))).map fun _ hrest => hrest
  · exact h

theorem ends_constant (h : Among whole ts) (modules lines : List String) :
    Ends (Blames whole) (Leaves whole) (constant modules lines ts) := by
  refine (ends_word h _).bind fun ts h => ?_
  refine (ends_expectName h).bind fun (name, ts) h => ?_
  refine (ends_skipType h).bind fun ts h => ?_
  refine (ends_mark h _).bind fun ts h => ?_
  split
  · next hp => exact (ends_mark (h.tail_of_peek hp (by simp)) _).bind fun _ h => h
  · exact h.fault ⟨rfl, by simp⟩

theorem ends_moduleStart (h : Among whole ts) :
    Ends (Blames whole) (Leaves whole) (moduleStart ts) := by
  refine (ends_word h _).bind fun ts h => ?_
  refine (ends_expectName h).bind fun (name, ts) h => ?_
  exact (ends_mark h _).bind fun _ h => h

theorem ends_items {inside : List String} (h : Among whole ts)
    (hdepth : deepest inside.length ts ≤ depth whole) :
    Ends (Blames whole) (Leaves whole) (items inside ts) := by
  fun_induction items inside ts with
  | case1 inside ts start body hmod fault hopens =>
    exact (ends_moduleStart h.docs.skipPub).of_error hopens
  | case2 inside ts start body hmod name rest hopens hroom ih =>
    refine ih ((ends_moduleStart h.docs.skipPub).of_ok hopens) ?_
    rwa [List.length_cons, ← deepest_of_moduleStart (moduleStart_eq_ok.1 hopens),
      ← Flat.itemStart (reads_itemStart ts)]
  | case3 inside ts start body hmod name rest hopens hroom =>
    have hrest : Among whole rest := (ends_moduleStart h.docs.skipPub).of_ok hopens
    refine hrest.blames (by simp [SourceCause.quoted?]) fun _ => Nat.lt_of_lt_of_le ?_ hdepth
    rw [Flat.itemStart (reads_itemStart ts), deepest_of_moduleStart (moduleStart_eq_ok.1 hopens)]
    exact Nat.lt_of_lt_of_le (Nat.lt_succ_of_le (Nat.le_of_not_lt hroom)) (le_deepest _ _)
  | case4 inside ts start body hmod hconst fault hfirst =>
    exact (ends_constant h.docs.skipPub _ _).of_error hfirst
  | case5 inside ts start body hmod hconst c rest hfirst ih =>
    refine (ih ((ends_constant h.docs.skipPub _ _).of_ok hfirst) ?_).map fun _ hrest => hrest
    rwa [← Flat.constant _ _ (constant_eq_ok.1 hfirst), ← Flat.itemStart (reads_itemStart ts)]
  | case6 ts => exact h
  | case7 ts start body hmod hconst name outer fault hbrace =>
    exact (ends_mark h.docs _).of_error hbrace
  | case8 ts start body hmod hconst name outer rest hbrace ih =>
    refine ih ((ends_mark h.docs _).of_ok hbrace) (Nat.le_trans ?_ hdepth)
    obtain ⟨hmark, rfl⟩ := expect_eq_ok.1 hbrace
    have hends := reads_mark.2 ⟨hmark, rfl, rfl⟩
    rw [List.length_cons, deepest_of_moduleEnd ⟨_, _, reads_docs ts, hends⟩]
    exact Nat.le_max_right _ _

theorem ends_port (h : Among whole ts) : Ends (Blames whole) (Leaves whole) (port ts) := by
  rw [port]
  split
  · next hp => exact h.tail_of_peek hp (by simp)
  · exact (ends_path h).map fun _ hrest => hrest
  · exact h.fault ⟨rfl, by simp⟩

theorem ReadsList.ends {stop : Lexeme} {item : List Token → Except SourceFault (α × List Token)}
    {readList : List Token → Except SourceFault (List α × List Token)}
    (h : ReadsList stop item readList)
    (hitem : ∀ {ts}, Among whole ts → Ends (Blames whole) (Leaves whole) (item ts))
    (hrest : ∀ {ts a rest}, item ts = .ok (a, rest) → rest.length < ts.length)
    (hts : Among whole ts) : Ends (Blames whole) (Leaves whole) (readList ts) := by
  induction hlength : ts.length using Nat.strongRecOn generalizing ts with
  | ind length ih =>
    subst hlength
    rw [h ts]
    split
    · exact hts
    · cases hfirst : item ts with
      | error fault => exact (hitem hts).of_error hfirst
      | ok r =>
        obtain ⟨a, rest⟩ := r
        have hamong : Among whole rest := (hitem hts).of_ok hfirst
        rw [ok_bind]
        dsimp only
        split
        · next hcomma =>
          have hshorter : rest.tail.length < ts.length := by
            have := hrest hfirst
            rw [List.length_tail]
            omega
          exact (ih _ hshorter (hamong.tail_of_peek hcomma (by simp)) rfl).map fun _ hrest => hrest
        · exact hamong

theorem ends_ports (h : Among whole ts) : Ends (Blames whole) (Leaves whole) (ports ts) := by
  refine (ends_word h _).bind fun ts h => ?_
  refine (ends_mark h _).bind fun ts h => ?_
  refine (readsList_portList.ends ends_port length_port h).bind fun (ps, ts) h => ?_
  refine (ends_mark h _).bind fun ts h => ?_
  exact (ends_mark h _).bind fun _ h => h

/-! ## Fields -/

theorem ends_rangeEnd (h : Among whole ts) (hrange : isRange (peek ts) = true)
    (start : Option Bound) : Ends (Blames whole) (Leaves whole) (rangeEnd start ts) := by
  have htail := h.tail (isRange_ne_end hrange)
  rw [rangeEnd]
  split
  · next hp => exact htail.tail_of_peek hp (by simp)
  · exact htail.fault ⟨rfl, by simp⟩
  · exact htail.fault ⟨rfl, by simp⟩
  · exact htail.fault ⟨rfl, by simp⟩
  · split
    · exact htail.fault ⟨rfl, by simp⟩
    · exact htail

theorem ends_bits (h : Among whole ts) :
    Ends (Blames whole) (fun r => HasBits whole r.1 ∧ Among whole r.2) (bits ts) := by
  have hends : Ends (Blames whole) (Leaves whole) (bits ts) := by
    rw [bits]
    split
    · exact h.fault ⟨rfl, by simp⟩
    · next hp =>
      split
      · next hrange => exact ends_rangeEnd (h.tail_of_peek hp (by simp)) hrange _
      · exact h.tail_of_peek hp (by simp)
    · split
      · next hrange => exact ends_rangeEnd h hrange _
      · exact h.fault ⟨rfl, by simp⟩
  cases hread : bits ts with
  | error fault => exact hends.of_error hread
  | ok r => exact ⟨⟨ts, r.2, h, hread⟩, hends.of_ok hread⟩

theorem ends_policy (h : Among whole ts) : Ends (Blames whole) (Leaves whole) (policy ts) := by
  rw [policy]
  split
  · next hp =>
    split
    · exact h.tail_of_peek hp (by simp)
    · exact h.fault ⟨rfl, by simp⟩
  · exact h.fault ⟨rfl, by simp⟩

theorem ends_bitAttribute (h : Among whole ts) :
    Ends (Blames whole) (fun r => HasBits whole r.1.1 ∧ Among whole r.2) (bitAttribute ts) := by
  refine (ends_mark h _).bind fun ts h => ?_
  split
  · next hp =>
    refine (ends_mark (h.tail_of_peek hp (by simp)) _).bind fun ts h => ?_
    refine (ends_bits h).bind fun (bit, ts) ⟨hbit, h⟩ => ?_
    refine (ends_mark h _).bind fun ts h => ?_
    refine (ends_policy h).bind fun (policy, ts) h => ?_
    refine (ends_mark h _).bind fun ts h => ?_
    refine (ends_path h).bind fun (path, ts) h => ?_
    refine (ends_mark h _).bind fun ts h => ?_
    exact (ends_mark h _).bind fun _ h => ⟨hbit, h⟩
  · exact h.fault ⟨rfl, by simp⟩

theorem ends_checkRange (h : Among whole ts) (wordBits : Int) (name : String) {bit : BitSpec}
    (hbit : HasBits whole bit) :
    Ends (Blames whole) (fun _ => True) (checkRange wordBits name bit ts) := by
  rw [checkRange]
  dsimp only
  split
  · refine h.blames ?_ (by simp)
    rintro _ ⟨⟩
    exact hbit
  · trivial

theorem ends_field (wordBits : Int) (h : Among whole ts) :
    Ends (Blames whole) (Leaves whole) (field wordBits ts) := by
  have hstart := h.docs
  refine (ends_mark hstart _).bind fun ts h => ?_
  refine (ends_bitAttribute h).bind fun ((bit, policy, path), ts) ⟨hbit, h⟩ => ?_
  have hname := h.docs
  dsimp only
  split
  · exact hname.fault ⟨rfl, by simp⟩
  · refine (ends_expectName hname).bind fun (name, ts) h => ?_
    exact (ends_checkRange hstart _ _ hbit).bind fun _ _ => h

/-- A fault of a description shows at one of its tokens and quotes bits of them. -/
theorem blames_of_description {source : String} {wordBits : Int} (h : Ended ts)
    {fault : SourceFault} (hfault : description source wordBits ts = .error fault) :
    Blames ts fault := by
  have hends : Ends (Blames ts) (fun _ => True) (description source wordBits ts) := by
    refine (ends_items ⟨h, List.Subset.refl ts⟩ (Nat.le_refl _)).bind fun (constants, ts) h => ?_
    have hports := h.docs
    dsimp only
    split
    · refine (ends_ports hports).bind fun (ps, ts) h => ?_
      refine ((readsList_fieldList wordBits).ends (ends_field wordBits) length_field h).bind
        fun (fs, ts) h => ?_
      exact (ends_expect h _).bind fun _ _ => trivial
    · exact hports.fault ⟨rfl, by simp⟩
  exact hends.of_error hfault

/-- A fault of a list of constants shows at one of its tokens. -/
theorem blames_of_constantFile (h : Ended ts) {fault : SourceFault}
    (hfault : constantFile ts = .error fault) : Blames ts fault := by
  have hends : Ends (Blames ts) (fun _ => True) (constantFile ts) := by
    refine (ends_items ⟨h, List.Subset.refl ts⟩ (Nat.le_refl _)).bind fun (constants, ts) h => ?_
    exact (ends_expect h _).bind fun _ _ => trivial
  exact hends.of_error hfault

end RegisterMap.Parser
