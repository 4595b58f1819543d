import RegisterMap.Compile
import RegisterMap.Proofs.Analysis.Constants
import RegisterMap.Proofs.Analysis.Placement
import RegisterMap.Proofs.Description.Quotes
import RegisterMap.Proofs.Description.Written
import RegisterMap.Proofs.Endings

/-!
# How analysis refuses a description

A description whose bits are written without a minus is analyzed, and code is made from it, or a
fault of analysis says why not. Nothing else goes wrong on the way: positions are checked before a
mask is formed, and constants that are given as items always enter the table.
-/

namespace RegisterMap

/-- A fault of analysis whose message shows numbers of `N` only. -/
def AnalysisFault.Tells (N : Int → Prop) (e : Failure) : Prop :=
  ∃ fault : AnalysisFault, e = fault.failure ∧ ∀ n ∈ fault.numbers, N n

/-- Bits without a negative bound whose text and places in registers are made of numbers of `N`. -/
structure BitSpec.Uses (N : Int → Prop) (b : BitSpec) : Prop where
  written : b.Written
  numbers : ∀ w ∈ wordSizes, ∀ n ∈ b.numbers ++ [(b.resolve w).1, (b.resolve w).2], N n

theorem BitSpec.firstBit_nonneg {b : BitSpec} (h : b.Written) (wordBits : Int) :
    0 ≤ (b.resolve wordBits).1 := by
  cases b with
  | single index => exact h
  | range start stop =>
    cases start with
    | none => exact Int.le_refl 0
    | some bound =>
      obtain ⟨hvalue, hincluded⟩ := h.1 bound rfl
      rw [BitSpec.resolve, firstBit, if_pos hincluded]
      exact hvalue

theorem AnalysisFault.tells {N : Int → Prop} {fault : AnalysisFault}
    (h : ∀ n ∈ fault.numbers, N n) : Tells N fault.failure :=
  ⟨fault, rfl, h⟩

namespace Analysis

variable {N : Int → Prop} {w : Nat}

theorem maskFor_ends [Machine] (hw : w ∈ wordSizes) {start stop : Int} (hstart : 0 ≤ start)
    (hle : start ≤ stop) (hstop : stop < w) :
    Ends (AnalysisFault.Tells N) (fun _ => True) ((Bits.maskFor start stop).mapError .bits) := by
  obtain ⟨first, rfl⟩ := Int.eq_ofNat_of_zero_le hstart
  obtain ⟨last, rfl⟩ := Int.eq_ofNat_of_zero_le (Int.le_trans hstart hle)
  have hmask := Bits.maskFor_unsigned (Bits.lt_bits_of_mem hw) (Int.ofNat_le.1 hle)
    (Int.ofNat_lt.1 hstop)
  rw [hmask]
  trivial

theorem rangeType_ends (word : Bits.IntType) {d : FieldDecl} {start stop : Int}
    (hbit : ∀ n ∈ d.bit.numbers, N n) (hstart : N start) (hstop : N stop) :
    Ends (fun fault => ∀ n ∈ fault.numbers, N n) (fun _ => start < stop ∧ stop < word.bits)
      (rangeType word d start stop) := by
  have hboth : ∀ n ∈ [start, stop], N n := by
    simp [hstart, hstop]
  rw [rangeType]
  split
  · exact hbit
  · next hlt =>
    split
    · exact hboth
    · next hinside =>
      split
      · exact hbit
      · split
        · exact ⟨by omega, by omega⟩
        · exact hboth

/-- A field is resolved, or a fault says why not: no mask is formed of bits outside a word. -/
theorem resolveField_ends [Machine] (hw : w ∈ wordSizes) {d : FieldDecl} (h : d.bit.Uses N) :
    Ends (AnalysisFault.Tells N) (fun _ => True) (resolveField (Bits.unsigned w) d) := by
  have hstart := BitSpec.firstBit_nonneg h.written w
  have hnumbers := h.numbers w hw
  have hbits : ((Bits.unsigned w).bits : Int) = w := rfl
  rw [resolveField, hbits]
  rcases hresolve : d.bit.resolve w with ⟨start, stop⟩
  rw [hresolve] at hnumbers hstart
  obtain ⟨hbit, hboth⟩ := List.forall_mem_append.1 hnumbers
  have hfirst : N start := hboth start (by simp)
  have hlast : N stop := hboth stop (by simp)
  dsimp only
  split
  · next hsingle =>
    split
    · exact AnalysisFault.tells (by simpa [AnalysisFault.numbers] using hfirst)
    · next hinside =>
      have hsame : start = stop := by
        cases hb : d.bit with
        | single index =>
          rw [hb] at hresolve
          cases hresolve
          rfl
        | range lower upper =>
          rw [hb] at hsingle
          cases hsingle
      rw [ok_bind]
      exact (maskFor_ends hw hstart (Int.le_of_eq hsame) (by omega)).bind fun _ _ => trivial
  · have hrange := (rangeType_ends (Bits.unsigned w) hbit hfirst hlast).map
      (f := some) (R := fun _ => start < stop ∧ stop < w) fun _ h => h
    refine (hrange.mapError fun _ => AnalysisFault.tells).bind fun _ h => ?_
    exact (maskFor_ends hw hstart (Int.le_of_lt h.1) h.2).bind fun _ _ => trivial

/-- A fault whose message shows no number and quotes no range. -/
structure IsPlain (fault : AnalysisFault) : Prop where
  numbers : fault.numbers = []
  quoted : fault.quoted? = none

theorem tells_of_isPlain {fault : AnalysisFault} (h : IsPlain fault) :
    AnalysisFault.Tells N fault.failure :=
  AnalysisFault.tells (by simp [h.numbers])

theorem checkName_ends (before : List FieldDecl) (d : FieldDecl) :
    Ends IsPlain (fun _ => True) (checkName before d) := by
  rw [checkName]
  split
  · exact ⟨rfl, rfl⟩
  · split
    · exact ⟨rfl, rfl⟩
    · dsimp only
      split
      · exact ⟨rfl, rfl⟩
      · trivial

theorem portValue_ends (t : ConstantTable) (p : Port) :
    Ends IsPlain (fun _ => True) (portValue t p) := by
  cases p with
  | address value => trivial
  | named path =>
    rw [portValue]
    split
    · trivial
    · exact ⟨rfl, rfl⟩

theorem note_ends {P : Failure → Prop} (n : Notice) :
    Step.Ends P (fun _ => True) (note n : Noting Failure Unit) :=
  .change _

section Stages

/-! ### Failures of the stages -/

variable {P : Failure → Prop} (hplain : ∀ fault, IsPlain fault → P fault.failure)
  {d : Description} {wordBits : Int} {external : External}

include hplain in
theorem ports_ends (t : ConstantTable) (known : List Int) (ps : List Port) :
    Step.Ends P (fun _ => True) (ports t known ps) := by
  induction ps generalizing known with
  | nil => exact .pure trivial
  | cons p ps ih =>
    refine (Step.Ends.ofOutcome ((portValue_ends t p).mapError hplain)).bind fun value _ => ?_
    split
    · exact (note_ends _).bind fun _ _ => ih known
    · exact ih _

theorem noteBinding_ends (before : List Placed) (p : Placed) :
    Step.Ends P (fun _ => True) (noteBinding before p) := by
  rw [noteBinding]
  split
  · split
    · exact .pure trivial
    · exact note_ends _
  · exact .pure trivial

theorem noteOverlaps_ends (f : Field) (others : List Field) :
    Step.Ends P (fun _ => True) (noteOverlaps f others) := by
  induction others with
  | nil => exact .pure trivial
  | cons other others ih =>
    rw [noteOverlaps]
    split
    · exact (note_ends _).bind fun _ _ => ih
    · exact ih

include hplain in
theorem place_ends [Machine] {word : Bits.IntType} (before : List Placed) {f : FieldDecl}
    (hfield : Ends P (fun _ => True) (resolveField word f)) :
    Step.Ends P (fun _ => True) (place word before f) := by
  refine (Step.Ends.ofOutcome ((checkName_ends _ f).mapError hplain)).bind fun _ _ => ?_
  refine (Step.Ends.ofOutcome hfield).bind fun field _ => ?_
  refine (noteBinding_ends before ⟨f, field⟩).bind fun _ _ => ?_
  exact (noteOverlaps_ends field _).bind fun _ _ => .pure trivial

theorem register_ends (t : ConstantTable) (word : Bits.IntType) (placed : List Placed)
    (p : Placed) : Ends IsPlain (fun _ => True) (register t word placed p) := by
  rw [register]
  split
  · exact ⟨rfl, rfl⟩
  · split
    · exact ⟨rfl, rfl⟩
    · split
      · exact ⟨rfl, rfl⟩
      · split
        · exact ⟨rfl, rfl⟩
        · trivial

include hplain in
/-- Analysis fails plainly, for the width, while the table is filled or at a field. -/
theorem analyze_ends_of [Machine]
    (hwidth : (wordSizes.map Int.ofNat).contains wordBits = false →
      P (AnalysisFault.badWidth wordBits).failure)
    (htable : Step.Ends P (fun _ => True) (ConstantTable.filledBy do
      Filling.addExternal external
      Filling.addConstants d.constants))
    (hfields : wordBits.toNat ∈ wordSizes → ∀ f ∈ d.fields,
      Ends P (fun _ => True) (resolveField (Bits.unsigned wordBits.toNat) f)) :
    Step.Ends P (fun m => m.word = Bits.unsigned wordBits.toNat)
      (analyze d wordBits external) := by
  rw [analyze]
  split
  · next hcontains => exact .fail (hwidth (by simpa using hcontains))
  · next hcontains =>
    have hword : wordBits.toNat ∈ wordSizes := by
      obtain ⟨w, hw, rfl⟩ : ∃ w ∈ wordSizes, (w : Int) = wordBits := by simpa using hcontains
      exact hw
    generalize Bits.unsigned wordBits.toNat = word at hfields ⊢
    have hplaced : Step.Ends P (fun _ => True) (d.fields.foldlM (place word) []) :=
      .foldlM trivial fun before _ f hf => place_ends hplain before (hfields hword f hf)
    have hregisters : ∀ table placed, Step.Ends P (fun _ => True)
        (Step.ofOutcome ((registers table word placed).mapError AnalysisFault.failure) :
          Noting Failure (List Register)) := fun table placed =>
      .ofOutcome <| Ends.mapError (Q := fun _ => True)
        ((Ends.mapM fun p _ => register_ends table _ placed p).imp (fun _ => id) fun _ _ => trivial)
        hplain
    have htail : ∀ table ports, Step.Ends P (fun m => m.word = word) (do
        let placed ← d.fields.foldlM (place word) []
        let registers ← Step.ofOutcome
          ((registers table word placed).mapError AnalysisFault.failure)
        note (.analyzed d.source placed.length registers.length)
        pure ⟨ports, registers, placed.map (·.field), word, d.source⟩ :
          Noting Failure Model) := fun table ports =>
      hplaced.bind fun placed _ => (hregisters table placed).bind fun registers _ =>
        (note_ends _).bind fun _ _ => .pure rfl
    split
    · exact .fail (hplain _ ⟨rfl, rfl⟩)
    · refine htable.bind fun table _ => ?_
      refine (ports_ends hplain table [] d.ports).bind fun ports _ => ?_
      split
      · exact (note_ends _).bind fun _ _ => htail table ports
      · exact htail table ports

end Stages

/-- Constants always enter a table. -/
theorem addConstants_ends {P : Failure → Prop} (constants : List Constant) :
    Step.Ends P (fun _ => True) (Filling.addConstants constants) :=
  .forM fun _ _ => .change _

/-- A table is made unless external constants cannot be added. -/
theorem table_ends {P : Failure → Prop} {external : External}
    (h : Step.Ends P (fun _ => True) (Filling.addExternal external)) (constants : List Constant) :
    Step.Ends P (fun _ => True) (ConstantTable.filledBy do
      Filling.addExternal external
      Filling.addConstants constants : Noting Failure ConstantTable) := by
  intro notices
  have hfilled := (h.bind fun _ _ => addConstants_ends constants) ⟨.empty, notices⟩
  rw [Step.run, ConstantTable.filledBy.eq_def]
  split
  · trivial
  · next heq =>
    rw [heq] at hfilled
    exact hfilled

/-- A description is analyzed, or a fault of analysis says why not. -/
theorem analyze_ends [Machine] (hw : w ∈ wordSizes) {d : Description}
    (h : ∀ f ∈ d.fields, f.bit.Uses N) (given : List Constant) :
    Step.Ends (AnalysisFault.Tells N) (fun m => m.word = Bits.unsigned w)
      (analyze d w (.items given)) := by
  have hwidth : (wordSizes.map Int.ofNat).contains (w : Int) = true :=
    List.contains_iff_mem.2 (List.mem_map_of_mem hw)
  exact analyze_ends_of (fun _ => tells_of_isPlain) (fun hnot => nomatch hwidth.symm.trans hnot)
    (table_ends (addConstants_ends given) d.constants) fun _ f hf => resolveField_ends hw (h f hf)

end Analysis

namespace Compile

open Analysis

variable {N : Int → Prop} {d : Description} {o : Options}

/-- Code is made from a model of the right width, or a fault of analysis says why not. -/
theorem code_ends {m : Model} (h : m.word = Bits.unsigned o.wordBits) :
    Ends (AnalysisFault.Tells N) (fun _ => True) (code m o) := by
  have hwidth : (o.wordBits : Int) = m.word.bits := by
    rw [h]
    rfl
  rw [code, if_neg (by simp [hwidth])]
  split
  · next fault hmembers =>
    rw [AccessorCode.checkMembers] at hmembers
    split at hmembers <;> cases hmembers
    exact tells_of_isPlain ⟨rfl, rfl⟩
  · trivial

/-- A description is compiled, or a fault of analysis says why not. -/
theorem compile_ends [Machine] (h : ∀ f ∈ d.fields, f.bit.Uses N) (given : List Constant) :
    Step.Ends (AnalysisFault.Tells N) (fun _ => True) (compile d o (.items given)) := by
  refine (analyze_ends o.wordBits_mem h given).bind fun m hm => ?_
  refine Step.Ends.bind (Q := fun _ => True) ?_ fun _ _ => .pure trivial
  exact (Step.Ends.ofOutcome (code_ends hm)).bind fun _ _ => (note_ends _).bind fun _ _ =>
    .pure trivial

end Compile

end RegisterMap
