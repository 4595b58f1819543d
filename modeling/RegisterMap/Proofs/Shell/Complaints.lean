import RegisterMap.Proofs.Memory.Mapped
import RegisterMap.Proofs.Shell.Printing

/-!
# Complaints

Lines that were not carried out are answered with a complaint. A command minds the memory when it
leaves all of it as it was in case it fails or complains: because it only reads, or because what it
changes comes last and is answered with a text that is no complaint.
-/

namespace RegisterMap

open Memory

namespace Shell

/-- How the messages start that tell of a line that was not carried out. -/
def complaints : List String :=
  ["error: ", "usage: ", "unknown command: ", "parse error: "]

/-- Whether a text tells of a line that was not carried out. -/
def complains (s : String) : Bool :=
  complaints.any (startsWith s)

theorem complains_eq_true {s : String} :
    complains s = true ↔ ∃ start ∈ complaints, start.toList <+: s.toList := by
  simp only [complains, List.any_eq_true, startsWith, List.isPrefixOf_iff_prefix]

/-- Each complaint has a colon. -/
theorem complains_of_plain {s : String} (h : ':' ∉ s.toList) : complains s = false := by
  rw [← Bool.not_eq_true, complains_eq_true]
  rintro ⟨start, hstart, hstarts⟩
  have hcolon : ∀ start ∈ complaints, ':' ∈ start.toList := by decide
  exact h (hstarts.subset (hcolon start hstart))

section

variable [Machine]

/-- What a command may do with a bus of buffers: it fails only as its user is told, and changes
nothing when it fails or complains. -/
structure Minds (ref : Ref) (x : Step Space Failure String) : Prop where
  failsOnly : x.FailsOnly (Space.HasBuffers ref) IsTold
  spares : ∀ s outcome t, s.HasBuffers ref → x.run s = (outcome, t) →
    (∀ answer, outcome = .ok answer → complains answer = true) → s.Alike t

namespace Minds

variable {ref : Ref} {α : Type}

/-- A command that leaves all memories as they are. -/
theorem of_reads {x : Step Space Failure String}
    (h : ∀ s : Space, s.HasBuffers ref → x.FailsOnly (fun t => s.Alike t) IsTold) :
    Minds ref x where
  failsOnly := {
    keeps := fun s hs => hs.of_alike ((h s hs).keeps s (.refl s))
    fails := fun s e t hs hrun => (h s hs).fails s e t (.refl s) hrun }
  spares := by
    intro s outcome t hs hrun _
    have halike := (h s hs).keeps s (.refl s)
    rwa [hrun] at halike

theorem pure (answer : String) : Minds ref (Pure.pure answer) :=
  of_reads fun _ _ => .pure answer

theorem bind_outcome {x : Except Failure α} {f : α → Step Space Failure String}
    (hx : ∀ e, x = .error e → IsTold e) (hf : ∀ a, x = .ok a → Minds ref (f a)) :
    Minds ref (Step.ofOutcome x >>= f) := by
  cases x with
  | error e => exact of_reads fun _ _ => .fail (hx e rfl)
  | ok a => exact hf a rfl

/-- A command that changes memory as the last thing it does, and then has no complaint. -/
theorem of_change {x : Step Space Failure α} {f : α → String}
    (hfails : x.FailsOnly (Space.HasBuffers ref) IsTold)
    (hkeeps : ∀ s : Space, x.KeepsIfFails fun t => s.Alike t)
    (hf : ∀ a, ':' ∉ (f a).toList) : Minds ref (x >>= fun a => Pure.pure (f a)) where
  failsOnly := hfails.bind fun a => .pure (f a)
  spares := by
    intro s outcome t hs hrun hcomplains
    cases outcome with
    | error e => exact (hkeeps s).bind_pure f s e t (.refl s) hrun
    | ok answer =>
      obtain ⟨a, u, -, hlast⟩ := Step.run_bind_eq_ok.1 hrun
      cases hlast
      cases (complains_of_plain (hf a)).symm.trans (hcomplains _ rfl)

end Minds

end

/-! ### Texts without a colon -/

theorem colon_not_mem_prefixedHex (width : Nat) (v : Int) :
    ':' ∉ (Number.prefixedHex width v).toList := by
  have hdigits : ∀ width n, ':' ∉ Number.padZeros width (Number.hexDigits n) := by
    intro width n hmem
    have hall := Number.isDigitOf_padZeros width
      (Number.isDigitOf_hexDigitsBefore n (fun c hc => absurd hc List.not_mem_nil))
    exact absurd (hall _ hmem) (by decide)
  rw [Number.toList_prefixedHex]
  cases v with
  | ofNat n => simpa [Number.hexChars] using hdigits width n
  | negSucc n => simpa [Number.hexChars] using hdigits (width - 1) (n + 1)

theorem colon_not_mem_append {s t : String} (hs : ':' ∉ s.toList) (ht : ':' ∉ t.toList) :
    ':' ∉ (s ++ t).toList := by
  rw [String.toList_append, List.mem_append]
  exact not_or.2 ⟨hs, ht⟩

theorem colon_not_mem_setterName {f : Field} (h : Text.isIdentifier f.name = true) :
    ':' ∉ f.setterName.toList := by
  have hname := Text.not_mem_of_isIdentifier (d := ':') (by decide) (by decide) h
  unfold Field.setterName
  split <;> exact colon_not_mem_append (by decide) hname

end Shell

end RegisterMap
