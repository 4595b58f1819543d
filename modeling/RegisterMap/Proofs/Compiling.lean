import RegisterMap.Proofs.Analysis.WellFormed
import RegisterMap.Proofs.Description.JsonRefusals
import RegisterMap.Proofs.Json.Nesting

/-!
# How compiling ends

Compiling a text or a file ends with code or with a diagnostic: the text cannot be read, which shows
at a token or at what the lexer rejects, or it makes no sense. Only a number with more digits than
can be written in decimal puts the complaint about it in the place of a diagnostic, and only modules
or brackets that are nested deeper than calls can be end the run without one.
-/

namespace RegisterMap

/-- A text of a JSON value has a number with too many digits to be written in decimal. -/
def JsonHasLong [Machine] (s : String) : Prop :=
  ∃ v, Json.read s = .ok v ∧ ∃ t, Json.IsPart (.text t) v ∧ TextHasLong t

namespace Compile

section Endings

variable [Machine]

/-- Compiles a description in the language of descriptions. -/
def compileText (text : String) (o : Options) : Noting Failure (Model × AccessorCode) := do
  let d ← readText text o.sourceName o.wordBits
  compile d o .none

/-- Compiles a description in JSON that is read for registers of `wordBits` bits. -/
def compileJson (content : List UInt8) (source : String) (wordBits : Int) (o : Options) :
    Noting Failure (Model × AccessorCode) := do
  let d ← Step.ofOutcome do
    let s ← textOfBytes content
    readJson s source wordBits
  compile d o .none

/-- A failure that compiling a text may end with. -/
inductive TextFailure (text source : String) : Failure → Prop where
  | misread (message : String) {line column : Nat} (place : MarksPlace text line column) :
    TextFailure text source (.diagnostic (.parse message line column source))
  | refused (message : String) (field : Option String) (kind : ErrorKind) :
    TextFailure text source (.diagnostic (.analysis message field kind))
  | longNumber (long : TextHasLong text) : TextFailure text source .longNumber
  | tooDeep (deep : TextTooDeep text) : TextFailure text source .tooDeep

/-- A failure that compiling a description in JSON may end with. -/
inductive FormFailure (s : String) : Failure → Prop where
  | misread (message : String) (line column : Int) (source : String) :
    FormFailure s (.diagnostic (.parse message line column source))
  | refused (message : String) (field : Option String) (kind : ErrorKind) :
    FormFailure s (.diagnostic (.analysis message field kind))
  | longNumber (long : JsonHasLong s) : FormFailure s .longNumber
  | longLiteral {count : Nat} (run : Json.HasRun s.toList count) :
    FormFailure s (.badLiteral .plain "" (.tooLong count))
  | tooDeep (deep : Machine.brackets < Json.depth s) : FormFailure s .tooDeep

/-- A failure that compiling the bytes of a file in JSON may end with. -/
inductive FileFailure (content : List UInt8) : Failure → Prop where
  | undecodable {fault : Text.Utf8.DecodeFault} (bytes : Text.Utf8.decode content = .error fault) :
    FileFailure content (.undecodable fault)
  | form {s : String} {e : Failure} (text : textOfBytes content = .ok s)
    (failure : FormFailure s e) : FileFailure content e

/-- How compiling ends with the options `o`, from a text or from a file that is read for registers
of `wordBits` bits: with code, or with a failure of these kinds. -/
structure Endings (o : Options) (wordBits : Nat) : Prop where
  text : ∀ text, Step.Ends (TextFailure text o.sourceName) (fun _ => True) (compileText text o)
  file : ∀ content source,
    Step.Ends (FileFailure content) (fun _ => True) (compileJson content source wordBits o)

variable {L : Prop} {o : Options}

omit [Machine] in
/-- A fault of analysis is told in full, or shows a long number. -/
theorem refused_or_long {e : Failure} (h : AnalysisFault.Tells (ShortUnless L) e) :
    (∃ message field kind, e = .diagnostic (.analysis message field kind)) ∨
      e = .longNumber ∧ L := by
  obtain ⟨fault, rfl, hnumbers⟩ := h
  exact (Failure.showing_cases hnumbers).imp_left fun hshown => ⟨_, _, _, hshown⟩

/-- A description is read from a text, or the place is told where it cannot be, or a number is too
long. -/
theorem readText_ends (text source : String) {wordBits : Nat} (h : wordBits ∈ wordSizes) :
    Step.Ends (TextFailure text source)
      (fun d => ∀ f ∈ d.fields, f.bit.Uses (ShortUnless (TextHasLong text)))
      (readText text source wordBits) := by
  have hread : Ends (TextFailure text source)
      (fun d => ∀ f ∈ d.fields, f.bit.Uses (ShortUnless (TextHasLong text)))
      ((Parser.readDescription text source wordBits).mapError (SourceFault.failure source)) := by
    refine (Parser.readDescription_ends text source h).mapError ?_
    rintro fault ⟨hplace, htells⟩
    obtain hshown | ⟨hlong, htext⟩ | ⟨hdeep, htext⟩ := htells.failure_cases source
    · rw [hshown]
      exact .misread _ hplace
    · rw [hlong]
      exact .longNumber htext
    · rw [hdeep]
      exact .tooDeep htext
  exact (Step.Ends.ofOutcome hread).bind fun d hd => (Analysis.note_ends _).bind fun _ _ => .pure hd

theorem compileText_ends (text : String) (o : Options) :
    Step.Ends (TextFailure text o.sourceName) (fun _ => True) (compileText text o) := by
  refine (readText_ends text o.sourceName o.wordBits_mem).bind fun d hd => ?_
  refine (compile_ends hd []).imp (fun e he => ?_) fun _ => id
  obtain ⟨message, field, kind, rfl⟩ | ⟨rfl, hlong⟩ := refused_or_long he
  · exact .refused message field kind
  · exact .longNumber hlong

/-- The failure of a fault in the shape of a JSON value. -/
theorem formFailure_of_tells {s source : String} {fault : JsonFormFault}
    (h : fault.Tells (JsonHasLong s)) : FormFailure s (fault.failure source) := by
  cases fault with
  | cause c =>
    obtain hshown | ⟨hlong, hjson⟩ := Failure.showing_cases h
    · rw [JsonFormFault.failure, hshown]
      exact .misread _ _ _ _
    · rw [JsonFormFault.failure, hlong]
      exact .longNumber hjson
  | bits place f =>
    obtain hshown | ⟨hlong, hjson⟩ | ⟨-, hnever⟩ := SourceFault.Tells.failure_cases h place
    · rw [JsonFormFault.failure, hshown]
      exact .misread _ _ _ _
    · rw [JsonFormFault.failure, hlong]
      exact .longNumber hjson
    · exact hnever.elim
  | json f => exact h.elim

/-- A description is read from JSON, or its fault is told, or a number is too long. -/
theorem readJson_ends (s source : String) {wordBits : Nat} (h : wordBits ∈ wordSizes) :
    Ends (FormFailure s) (fun d => ∀ f ∈ d.fields, f.bit.Uses (ShortUnless (JsonHasLong s)))
      (readJson s source wordBits) := by
  have hvalue := Json.read_ends s
  rw [readJson, JsonForm.read]
  cases hread : Json.read s with
  | error fault =>
    have hrun := hvalue.of_error hread
    change FormFailure s (JsonFormFault.failure source (.json fault))
    rw [JsonFormFault.failure]
    split
    · next count hreason => exact .longLiteral (hrun count hreason)
    · next hreason => exact .tooDeep (Json.lt_depth_of_tooDeep hread hreason)
    · exact .misread _ _ _ _
  | ok v =>
    have hlong : ∀ t, Json.IsPart (.text t) v → TextHasLong t → JsonHasLong s :=
      fun t hpart htext => ⟨v, hread, t, hpart, htext⟩
    exact (JsonForm.ofJson_ends source h (hvalue.of_ok hread) hlong).mapError
      fun _ => formFailure_of_tells

omit [Machine] in
theorem textOfBytes_ends (content : List UInt8) :
    Ends (fun e => ∃ fault, Text.Utf8.decode content = .error fault ∧ e = .undecodable fault)
      (fun s => textOfBytes content = .ok s) (textOfBytes content) := by
  rw [textOfBytes]
  cases hbytes : Text.Utf8.decode content with
  | ok s => rfl
  | error fault => exact ⟨fault, rfl, rfl⟩

/-- A description is read from a file in JSON, or the fault of its bytes or of its text is told. -/
theorem jsonOfFile_ends (content : List UInt8) (source : String) {wordBits : Nat}
    (h : wordBits ∈ wordSizes) :
    Ends (FileFailure content)
      (fun d => ∃ s, textOfBytes content = .ok s ∧
        ∀ f ∈ d.fields, f.bit.Uses (ShortUnless (JsonHasLong s)))
      (textOfBytes content >>= fun s => readJson s source wordBits) := by
  have htext : Ends (FileFailure content) (fun s => textOfBytes content = .ok s)
      (textOfBytes content) := by
    refine (textOfBytes_ends content).imp ?_ fun _ => id
    rintro _ ⟨fault, hbytes, rfl⟩
    exact .undecodable hbytes
  exact htext.bind fun s hs => (readJson_ends s source h).imp (fun _ he => .form hs he)
    fun d hd => ⟨s, hs, hd⟩

theorem compileJson_ends (content : List UInt8) (source : String) {wordBits : Nat}
    (h : wordBits ∈ wordSizes) (o : Options) :
    Step.Ends (FileFailure content) (fun _ => True) (compileJson content source wordBits o) := by
  refine (Step.Ends.ofOutcome (jsonOfFile_ends content source h)).bind fun d hd => ?_
  obtain ⟨s, hs, huses⟩ := hd
  refine (compile_ends huses []).imp (fun e he => .form hs ?_) fun _ => id
  obtain ⟨message, field, kind, rfl⟩ | ⟨rfl, hlong⟩ := refused_or_long he
  · exact .refused message field kind
  · exact .longNumber hlong

/-- Compiling ends with code or a diagnostic, whatever text or file it is given, unless a number is
too long to be written or calls cannot be nested as deep as what it is given. -/
theorem endings_of_options (o : Options) {wordBits : Nat} (h : wordBits ∈ wordSizes) :
    Endings o wordBits where
  text text := compileText_ends text o
  file content source := compileJson_ends content source h o

end Endings

def timerText : String :=
  "const CTRL: u16 = 8;\ndevice_ports(0x1000);\n#[bit(0, RW, CTRL)] enable,\n"

/-- The description of the text in JSON. -/
def timerJson : String :=
  "\x7b\"constants\": \x7b\"CTRL\": 8\x7d, \"ports\": [\"0x1000\"], \"fields\": " ++
  "[\x7b\"name\": \"enable\", \"bit\": 0, \"access\": \"RW\", \"register\": \"CTRL\"\x7d]\x7d"

/-- The timer compiles from a text and from a file that is read for the usual 32 bits. A text that
ends too early, a file that does and one that is no text are told of. -/
theorem endings_timer : 32 ∈ wordSizes ∧ Endings .timer 32 ∧
    ((compileText timerText .timer).run []).1.map (·.2.className) = .ok "Timer" ∧
    ((compileText "device_ports()" .timer).run []).1.map (·.2.className) =
      .error (.diagnostic (.parse
        "expected ';' after device_ports(...), found end of input" 1 15 "timer")) ∧
    ((compileJson timerJson.toUTF8.toList "t.json" 32 .timer).run []).1.map
      (·.2.className) = .ok "Timer" ∧
    ((compileJson "[".toUTF8.toList "t.json" 32 .timer).run []).1.map (·.2.className) =
      .error (.diagnostic (.parse "invalid JSON: Expecting value" 1 2 "t.json")) ∧
    ((compileJson [0xFF] "t.json" 32 .timer).run []).1.map (·.2.className) =
      .error (.undecodable ⟨0xFF, 0, 1, .invalidStart⟩) := by
  refine ⟨by decide, endings_of_options .timer (by decide), ?_, ?_, ?_, ?_, ?_⟩
  all_goals decide +kernel

end Compile

end RegisterMap
