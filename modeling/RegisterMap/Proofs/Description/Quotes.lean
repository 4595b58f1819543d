import RegisterMap.Analysis.Fault
import RegisterMap.Description.Failure

/-!
# The bits that messages quote

A message about bits that make no sense has the text of the bits in it, or of the range from their
first bit to their last.
-/

namespace RegisterMap

/-- A text stands somewhere in another one. -/
def StandsIn (part whole : String) : Prop :=
  ∃ before after, whole = before ++ part ++ after

namespace StandsIn

theorem behind (before part : String) : StandsIn part (before ++ part) :=
  ⟨before, "", by rw [String.append_empty]⟩

theorem prepend {part whole : String} (h : StandsIn part whole) (more : String) :
    StandsIn part (more ++ whole) := by
  obtain ⟨before, after, rfl⟩ := h
  exact ⟨more ++ before, after, by rw [String.append_assoc, String.append_assoc,
    String.append_assoc]⟩

theorem append {part whole : String} (h : StandsIn part whole) (more : String) :
    StandsIn part (whole ++ more) := by
  obtain ⟨before, after, rfl⟩ := h
  exact ⟨before, after ++ more, String.append_assoc⟩

end StandsIn

/-- The bits that the wording quotes. -/
def SourceCause.quoted? : SourceCause → Option BitSpec
  | emptyRange _ bit _ _ => some bit
  | _ => none

/-- The bits that the wording quotes. -/
def JsonFormCause.quoted? : JsonFormCause → Option BitSpec
  | emptyRange _ bit _ _ => some bit
  | _ => none

/-- The bits that the wording quotes. -/
def JsonFormFault.quoted? : JsonFormFault → Option BitSpec
  | cause c => c.quoted?
  | bits _ f => f.cause.quoted?
  | json _ => none

/-- The bits that the wording quotes. -/
def AnalysisFault.quoted? : AnalysisFault → Option BitSpec
  | bitOutside _ bit _ => some (.single bit)
  | emptyRange _ bit => some bit
  | rangeOutside _ start stop _ => some (.range (some ⟨start, true⟩) (some ⟨stop, true⟩))
  | rangeOfSingles _ _ bit => some bit
  | rangeTooWide _ start stop => some (.range (some ⟨start, true⟩) (some ⟨stop, true⟩))
  | _ => none

variable {b : BitSpec}

theorem SourceCause.text_standsIn_message {c : SourceCause} (h : c.quoted? = some b) :
    StandsIn b.text c.message := by
  cases c with
  | emptyRange field bit start stop =>
    cases h
    exact (((((StandsIn.behind _ b.text).append _).append _).append _).append _).append _
  | _ => cases h

theorem JsonFormCause.text_standsIn_message {c : JsonFormCause} (h : c.quoted? = some b) :
    StandsIn b.text c.message := by
  cases c with
  | emptyRange field bit start stop =>
    exact SourceCause.text_standsIn_message (c := .emptyRange field bit start stop) h
  | _ => cases h

/-- The range between two bits is told with its first and its last bit. -/
theorem StandsIn.range (start stop : Int) :
    StandsIn (BitSpec.text (.range (some ⟨start, true⟩) (some ⟨stop, true⟩)))
      ("bit range " ++ toString start ++ "..=" ++ toString stop) := by
  have htext : BitSpec.text (.range (some ⟨start, true⟩) (some ⟨stop, true⟩)) =
      toString start ++ "..=" ++ toString stop := rfl
  refine ⟨"bit range ", "", ?_⟩
  simp only [htext, String.append_empty, String.append_assoc]

theorem AnalysisFault.text_standsIn_message {f : AnalysisFault} (h : f.quoted? = some b) :
    StandsIn b.text f.message := by
  cases f with
  | bitOutside field bit wordBits =>
    cases h
    exact (((StandsIn.behind _ (BitSpec.single bit).text).append _).append _).append _
  | emptyRange field bit =>
    cases h
    exact (StandsIn.behind _ b.text).append _
  | rangeOutside field start stop wordBits =>
    cases h
    exact (((StandsIn.range start stop).append _).append _).append _
  | rangeOfSingles field policy bit =>
    cases h
    exact StandsIn.behind _ b.text
  | rangeTooWide field start stop =>
    cases h
    exact (((StandsIn.range start stop).append _).append _).append _
  | _ => cases h

theorem SourceCause.numbers_of_quoted {c : SourceCause} (h : c.quoted? = some b) :
    b.numbers ⊆ c.numbers := by
  cases c with
  | emptyRange field bit start stop =>
    cases h
    exact List.subset_append_left _ _
  | _ => cases h

theorem JsonFormCause.numbers_of_quoted {c : JsonFormCause} (h : c.quoted? = some b) :
    b.numbers ⊆ c.numbers := by
  cases c with
  | emptyRange field bit start stop =>
    exact SourceCause.numbers_of_quoted (c := .emptyRange field bit start stop) h
  | _ => cases h

theorem AnalysisFault.numbers_of_quoted {f : AnalysisFault} (h : f.quoted? = some b) :
    b.numbers ⊆ f.numbers := by
  cases f with
  | bitOutside | emptyRange | rangeOutside | rangeOfSingles | rangeTooWide =>
    cases h
    exact List.Subset.refl _
  | _ => cases h

end RegisterMap
