import RegisterMap.Description.JsonForm
import RegisterMap.Proofs.Description.LongNumbers
import RegisterMap.Proofs.Json.Integers

/-!
# How a description in JSON is refused

Every value where another one is needed is told of by a cause of its own, whatever the JSON holds.
Only the numbers of bits are shown, and those come from short integers or from texts.
-/

namespace RegisterMap

variable {L : Prop}

/-- A fault in the shape of a JSON value that shows short numbers, unless `L` holds. -/
def JsonFormFault.Tells (L : Prop) : JsonFormFault → Prop
  | cause c => ∀ n ∈ c.numbers, ShortUnless L n
  | bits _ f => f.Tells (ShortUnless L) False
  | json _ => False

/-- A fault that is not about how deep modules are nested. -/
def SourceFault.IsShallow (f : SourceFault) : Prop :=
  f.cause ≠ .tooDeep

theorem Parser.isShallow_faultAt {ts : List Token} {cause : SourceCause} (h : cause ≠ .tooDeep) :
    (faultAt ts cause).IsShallow :=
  h

/-- Bits are not nested. -/
theorem Parser.shallow_bits (ts : List Token) :
    Ends SourceFault.IsShallow (fun _ => True) (Parser.bits ts) := by
  have hrange : ∀ start ts,
      Ends SourceFault.IsShallow (fun _ => True) (Parser.rangeEnd start ts) := by
    intro start ts
    rw [Parser.rangeEnd]
    split
    · trivial
    · exact isShallow_faultAt (by simp)
    · exact isShallow_faultAt (by simp)
    · exact isShallow_faultAt (by simp)
    · split
      · exact isShallow_faultAt (by simp)
      · trivial
  rw [Parser.bits]
  split
  · exact isShallow_faultAt (by simp)
  · split
    · exact hrange _ _
    · trivial
  · split
    · exact hrange _ _
    · exact isShallow_faultAt (by simp)

/-- The bits that a text holds are read, or a fault shows numbers of the text. -/
theorem Parser.readBits_ends {s : String} (hL : TextHasLong s → L) :
    Ends (SourceFault.Tells (ShortUnless L) False) (fun b => b.Uses (ShortUnless L))
      (Parser.readBits s) := by
  rw [Parser.readBits, Parser.tokens]
  cases htokens : Lexer.tokens s with
  | error fault => exact SourceFault.tells_ofLexer _ _ fault
  | ok ts =>
    obtain ⟨-, hlexed⟩ := Lexer.lexed_of_tokens htokens
    have hcovers : Covers (ShortUnless L) ts :=
      covers_of_lexed hlexed fun hlong => hL ⟨ts, htokens, hlong⟩
    rw [ok_bind, Parser.bitsOnly]
    cases hbits : Parser.bits ts with
    | error fault =>
      exact ⟨(Parser.shallow_bits ts).of_error hbits, shows_bits hcovers fault hbits⟩
    | ok r =>
      obtain ⟨b, rest⟩ := r
      have hreads := reads_of_bits hbits
      rw [ok_bind]
      dsimp only
      split
      · exact uses_of_bits hlexed hcovers hreads
      · have hshallow : (faultAt rest (.afterBit (peek rest))).IsShallow :=
          isShallow_faultAt (by simp)
        exact ⟨hshallow, (hcovers.of_reads hreads).shown⟩

namespace JsonForm

open Json (IsPart)

/-- A fault whose message shows no number. -/
def IsPlain : JsonFormFault → Prop
  | .cause c => c.numbers = []
  | _ => False

theorem tells_of_isPlain {f : JsonFormFault} (h : IsPlain f) : f.Tells L := by
  cases f with
  | cause c => exact fun n hn => absurd (h ▸ hn) List.not_mem_nil
  | _ => exact h.elim

theorem ends_of_plain {α : Type} {Q : α → Prop} {x : Except JsonFormFault α}
    (h : Ends IsPlain Q x) : Ends (JsonFormFault.Tells L) (fun _ => True) x :=
  h.imp (fun _ => tells_of_isPlain) fun _ _ => trivial

theorem text_ends (place : String) (value : Option Json) :
    Ends IsPlain (fun s => value = some (.text s)) (text place value) := by
  rw [text.eq_def]
  split
  · rfl
  · rfl

theorem unsigned_ends (place : String) (n : Int) :
    Ends IsPlain (fun m => m = n ∧ 0 ≤ n) (unsigned place n) := by
  rw [unsigned]
  split
  · rfl
  · next h => exact ⟨rfl, Int.not_lt.1 h⟩

theorem number_ends (place : String) (v : Json) :
    Ends IsPlain (fun _ => True) (number place v) := by
  have hunsigned : ∀ n, Ends IsPlain (fun _ => True) (unsigned place n) := fun n =>
    (unsigned_ends place n).imp (fun _ => id) fun _ _ => trivial
  rw [number.eq_def]
  split
  · exact hunsigned _
  · split
    · exact hunsigned _
    · rfl
  · rfl

theorem path_ends (place : String) (value : Option Json) :
    Ends IsPlain (fun _ => True) (path place value) := by
  refine (text_ends place value).bind fun written _ => ?_
  dsimp only
  split
  · rfl
  · split
    · rfl
    · split
      · trivial
      · rfl

theorem fieldName_ends (place : String) (value : Option Json) :
    Ends IsPlain (fun _ => True) (fieldName place value) := by
  refine (text_ends place value).bind fun name _ => ?_
  split
  · trivial
  · rfl

theorem policy_ends (name : String) (value : Option Json) :
    Ends IsPlain (fun _ => True) (policy name value) := by
  refine (text_ends _ value).bind fun access _ => ?_
  split
  · trivial
  · rfl

theorem docs_ends (name : String) (value : Option Json) :
    Ends IsPlain (fun _ => True) (docs name value) := by
  rw [docs.eq_def]
  split
  · trivial
  · trivial
  · have hline : ∀ v : Json, Ends IsPlain (fun _ => True)
        ((text (name ++ ".doc") (some v)).map Text.strip) :=
      fun v => (text_ends _ (some v)).map fun _ _ => trivial
    exact (Ends.mapM fun v _ => hline v).imp (fun _ => id) fun _ _ => trivial
  · rfl

theorem constants_ends (value : Option Json) : Ends IsPlain (fun _ => True) (constants value) := by
  have hconstant : ∀ member, Ends IsPlain (fun _ => True) (constant member) := by
    intro member
    rw [constant]
    generalize some (Json.text member.1) = key
    refine (path_ends _ key).bind fun path _ => ?_
    exact (number_ends _ _).bind fun value _ => trivial
  rw [constants.eq_def]
  split
  · trivial
  · exact (Ends.mapM fun member _ => hconstant member).imp (fun _ => id) fun _ _ => trivial
  · rfl

theorem port_ends (index : Nat) (v : Json) : Ends IsPlain (fun _ => True) (port index v) := by
  rw [port.eq_def]
  generalize "ports[" ++ toString index ++ "]" = place
  have hnumber : ∀ v, Ends IsPlain (fun _ => True) ((number place v).map Port.address) :=
    fun v => (number_ends place v).map fun _ _ => trivial
  have hpath : ∀ v, Ends IsPlain (fun _ => True) ((path place v).map Port.named) :=
    fun v => (path_ends place v).map fun _ _ => trivial
  dsimp only
  split
  · split
    · exact hpath _
    · exact hnumber _
  · exact hnumber _

theorem ports_ends (value : Option Json) : Ends IsPlain (fun _ => True) (ports value) := by
  rw [ports.eq_def]
  split
  · trivial
  · exact (Ends.mapM fun v _ => port_ends v.2 v.1).imp (fun _ => id) fun _ _ => trivial
  · rfl

/-! ## Fields -/

section Fields

variable {v : Json} {w : Nat}

theorem bit_ends (place : String) {value : Option Json} (hvalue : ∀ u ∈ value, IsPart u v)
    (hv : v.IsShort) (hL : ∀ s, IsPart (.text s) v → TextHasLong s → L) :
    Ends (JsonFormFault.Tells L) (fun b => b.Uses (ShortUnless L)) (bit place value) := by
  rw [bit.eq_def]
  split
  · next n =>
    have hshort : ShortUnless L n := .inl (hv n (hvalue _ rfl))
    refine ((unsigned_ends place n).imp (fun _ => tells_of_isPlain) fun _ => id).map ?_
    rintro _ ⟨rfl, hpos⟩
    exact ⟨hpos, by simp [BitSpec.numbers, BitSpec.resolve, hshort]⟩
  · refine ((text_ends place value).imp (fun _ => tells_of_isPlain) fun _ => id).bind fun s hs => ?_
    have hpart : IsPart (.text s) v := hvalue _ hs
    exact (Parser.readBits_ends (hL s hpart)).mapError fun _ => id

theorem checkRange_ends (hw : w ∈ wordSizes) (name : String) {b : BitSpec}
    (hb : b.Uses (ShortUnless L)) :
    Ends (JsonFormFault.Tells L) (fun _ => True) (checkRange w name b) := by
  rw [checkRange]
  dsimp only
  split
  · exact hb.numbers w hw
  · trivial

theorem field_ends (hw : w ∈ wordSizes) (index : Nat) {value : Json} (hvalue : IsPart value v)
    (hv : v.IsShort) (hL : ∀ s, IsPart (.text s) v → TextHasLong s → L) :
    Ends (JsonFormFault.Tells L) (fun f => f.bit.Uses (ShortUnless L)) (field w index value) := by
  rw [field.eq_def]
  split
  · next members =>
    refine (ends_of_plain (fieldName_ends _ _)).bind fun name _ => ?_
    refine (bit_ends _ (fun u hu => (Json.isPart_of_get? hu).trans hvalue) hv hL).bind
      fun b hb => ?_
    refine (checkRange_ends hw name hb).bind fun _ _ => ?_
    refine (ends_of_plain (policy_ends _ _)).bind fun policy _ => ?_
    refine (ends_of_plain (docs_ends _ _)).bind fun docs _ => ?_
    exact (ends_of_plain (path_ends _ _)).bind fun path _ => hb
  · exact tells_of_isPlain (f := .cause _) rfl

theorem fields_ends (hw : w ∈ wordSizes) {value : Option Json} (hvalue : ∀ u ∈ value, IsPart u v)
    (hv : v.IsShort) (hL : ∀ s, IsPart (.text s) v → TextHasLong s → L) :
    Ends (JsonFormFault.Tells L) (fun fs => ∀ f ∈ fs, f.bit.Uses (ShortUnless L))
      (fields w value) := by
  rw [fields.eq_def]
  split
  · next items =>
    refine Ends.mapM fun item hitem => ?_
    have hmem : item.1 ∈ items := List.fst_mem_of_mem_zipIdx hitem
    exact field_ends hw item.2 ((IsPart.item hmem (.self _)).trans (hvalue _ rfl)) hv hL
  · exact tells_of_isPlain (f := .cause _) rfl

/-- A description is made from a JSON value, or a fault shows numbers of its texts. -/
theorem ofJson_ends (source : String) (hw : w ∈ wordSizes) (hv : v.IsShort)
    (hL : ∀ s, IsPart (.text s) v → TextHasLong s → L) :
    Ends (JsonFormFault.Tells L) (fun d => ∀ f ∈ d.fields, f.bit.Uses (ShortUnless L))
      (ofJson source w v) := by
  rw [ofJson.eq_def]
  split
  · next members =>
    refine (ends_of_plain (constants_ends _)).bind fun constants _ => ?_
    refine (ends_of_plain (ports_ends _)).bind fun ports _ => ?_
    exact (fields_ends hw (fun _ => Json.isPart_of_get?) hv hL).bind fun fields hfields => hfields
  · exact tells_of_isPlain (f := .cause _) rfl

end Fields

end JsonForm

end RegisterMap
