import RegisterMap.Number.Format

/-!
# Spans

Runs of addresses: those of a memory, of a region of a bus, or of memory pages.
-/

namespace RegisterMap.Memory

/-- Addresses from `base` up to, but not including, `stop`. -/
structure Span where
  base : Int
  stop : Int
  deriving DecidableEq, Repr

/-- Whether a span holds an address. -/
def Span.has (s : Span) (address : Int) : Bool :=
  s.base ≤ address && address < s.stop

def Span.meets (s t : Span) : Bool :=
  s.base < t.stop && t.base < s.stop

def Span.text (s : Span) : String :=
  Number.prefixedHex 8 s.base ++ "-" ++ Number.prefixedHex 8 s.stop

namespace Span

theorem has_iff {s : Span} {address : Int} :
    s.has address = true ↔ s.base ≤ address ∧ address < s.stop := by
  simp [has]

theorem meets_eq_false_iff {s t : Span} :
    s.meets t = false ↔ t.stop ≤ s.base ∨ s.stop ≤ t.base := by
  simp only [meets, Bool.and_eq_false_iff, decide_eq_false_iff_not, Int.not_lt]

theorem meets_comm (s t : Span) : s.meets t = t.meets s :=
  Bool.and_comm _ _

/-- Spans that do not meet share no address. -/
theorem not_has_of_meets_eq_false {s t : Span} (h : s.meets t = false) (address : Int) :
    ¬(s.has address = true ∧ t.has address = true) := by
  rw [meets_eq_false_iff] at h
  rw [has_iff, has_iff]
  omega

end Span

end RegisterMap.Memory
