import RegisterMap.Accessor.Text
import RegisterMap.Proofs.Accessor.Calls

/-!
# Calls of accessor code

What the emitted lines call. The body of a method calls the primitive of its action with the type of
its word as the last argument, and otherwise only what is its own. The lines that build a device
call the makers of the handles in their order, each with that type.
-/

namespace RegisterMap

/-- The field that an action names in the message of a check. -/
def Action.guarded? : Action → Option String
  | .writeRange _ _ _ field _ _ => some field
  | _ => none

namespace AccessorCode

open Code

/-- The module of the primitives and of the types of their words. -/
def bitsSource : String := "regforge.runtime.bits"

def handlesSource : String := "regforge.runtime.handles"

/-- The name by which a handle of a capability is made. -/
def makerName (k : Capability) : String :=
  k.handleName ++ ".new"

/-- A call of something that a method has of its own, or of the function that checks conditions. -/
def IsOwn (call : Call) : Prop :=
  call.callee = guardName ∨ ∃ rest, call.callee = "self." ++ rest

theorem isOwn_member (register rest last : String) :
    IsOwn ⟨"self." ++ register ++ rest, last⟩ :=
  .inr ⟨register ++ rest, String.append_assoc⟩

/-- Lines call a primitive, with the type of its word as the last argument, and otherwise only what
is their own. -/
def CallsOnly (p : Primitive) (word : Bits.IntType) (xs : List Writing) : Prop :=
  ∃ front back, (linesOf xs).flatMap calls = front ++ ⟨p.name, word.capitalName⟩ :: back ∧
    ∀ call ∈ front ++ back, IsOwn call

/-! ### The texts in lines -/

theorem all_isNameChar_capitalName (t : Bits.IntType) :
    t.capitalName.toList.all isNameChar = true := by
  have hletter : (if t.signed then "I" else "U").toList.all isNameChar = true := by
    cases t.signed <;> decide
  rw [Bits.IntType.capitalName, String.toList_append, List.all_append, hletter,
    all_isNameChar_toString]
  rfl

theorem all_isNameChar_name (p : Primitive) : p.name.toList.all isNameChar = true := by
  cases p <;> decide

theorem all_isNameChar_handleName (k : Capability) :
    k.handleName.toList.all isNameChar = true := by
  cases k <;> decide

/-- The texts of numbers open nothing and have no brackets. -/
theorem all_prefixedHex (width : Nat) (v : Int) :
    (Number.prefixedHex width v).toList.all (fun c => isStill c && isEven c) = true := by
  have hdigit : ∀ c, Number.isDigitOf 16 c = true → (isStill c && isEven c) = true := by
    intro c hc
    have hname := isNameChar_of_isAlphanum (Number.isAlphanum_of_isDigitOf hc)
    have hflat := isFlat_of_isNameChar hname
    rw [isFlat, Bool.and_eq_true] at hflat
    rw [isStill_of_isNameChar hname, hflat.1]
    rfl
  have hdigits : ∀ width n, ∀ c ∈ Number.padZeros width (Number.hexDigits n),
      (isStill c && isEven c) = true := by
    intro width n c hc
    have hall := Number.isDigitOf_padZeros width
      (Number.isDigitOf_hexDigitsBefore n fun c hc => absurd hc List.not_mem_nil)
    exact hdigit c (hall c hc)
  rw [Number.toList_prefixedHex, List.all_eq_true]
  refine List.forall_mem_cons.2 ⟨by decide, List.forall_mem_cons.2 ⟨by decide, ?_⟩⟩
  cases v with
  | ofNat n => exact hdigits width n
  | negSucc n => exact List.forall_mem_cons.2 ⟨by decide, hdigits (width - 1) (n + 1)⟩

theorem all_isStill_prefixedHex (width : Nat) (v : Int) :
    (Number.prefixedHex width v).toList.all isStill = true :=
  List.all_eq_true.2 fun c hc =>
    (Bool.and_eq_true_iff.1 (List.all_eq_true.1 (all_prefixedHex width v) c hc)).1

theorem name_ne_empty (p : Primitive) : p.name ≠ "" := by
  cases p <;> decide

/-- What stands at the end of the call of a primitive opens nothing. -/
theorem all_isStill_ending (word : Bits.IntType) :
    (", " ++ word.capitalName ++ ")").toList.all isStill = true := by
  rw [String.toList_append, String.toList_append, List.all_append, List.all_append,
    all_isStill_of_isNameChar (all_isNameChar_capitalName word)]
  decide

/-- The text of a place in a word: an argument in which nothing is called. -/
structure IsPlace (place : String) : Prop where
  closed : Closed place.toList
  quiet : ∀ cs : List Char, cs.all isStill = true → callsFrom false [] (place.toList ++ cs) = []

theorem isPlace_toString (n : Nat) : IsPlace (toString n) where
  closed := .plain (all_isEven_of_isNameChar (all_isNameChar_toString n))
  quiet cs hcs := by
    refine callsFrom_still ?_ _
    rw [List.all_append, all_isStill_of_isNameChar (all_isNameChar_toString n), hcs]
    rfl

theorem isPlace_rangeText (start stop : Nat) : IsPlace (rangeText start stop) := by
  have hstart := all_isNameChar_toString start
  have hstop := all_isNameChar_toString stop
  have hcomma : Closed ", ".toList := .plain (by decide)
  have htext : (rangeText start stop).toList =
      '(' :: ((toString start).toList ++ (", ".toList ++ (toString stop).toList) ++ [')']) := by
    simp [rangeText]
  constructor
  · rw [htext]
    exact ((Closed.plain (all_isEven_of_isNameChar hstart)).append
      (hcomma.append (.plain (all_isEven_of_isNameChar hstop)))).bracket
  · intro cs hcs
    rw [htext, List.cons_append, callsFrom_bracket]
    refine callsFrom_still ?_ _
    rw [List.all_append, List.all_append, List.all_append, List.all_append,
      all_isStill_of_isNameChar hstart, all_isStill_of_isNameChar hstop, hcs]
    rfl

/-! ### The calls of methods -/

section Methods

variable {word : Bits.IntType} {register : String}

/-- The checks of a condition call nothing but the function that checks it. -/
theorem calls_guard {condition message : String} (hc : condition.toList.all isStill = true)
    (hm : '"' ∉ message.toList) :
    (linesOf (guard condition message)).flatMap calls = [⟨guardName, ""⟩] := by
  have hopen : calls (guardName ++ "(") = [⟨guardName, ""⟩] := by decide
  have hcondition : calls (condition ++ ",") = [] := by
    refine callsFrom_still ?_ _
    rw [String.toList_append, List.all_append, hc]
    rfl
  have hmessage : calls ("f\"" ++ message ++ "\",") = [] := by
    have hline :
        ("f\"" ++ message ++ "\",").toList = 'f' :: '"' :: (message.toList ++ ['"', ',']) := by
      simp
    rw [calls, hline]
    exact callsFrom_quoted hm ['f'] [',']
  have hclose : calls ")" = [] := by decide
  simp [guard, linesOf, linesIn, hopen, hcondition, hmessage, hclose]

section Register

variable (hname : register.toList.all isNameChar = true)
include hname

theorem all_isNameChar_member (rest : String) (hrest : rest.toList.all isNameChar = true) :
    ("self." ++ register ++ rest).toList.all isNameChar = true := by
  have hself : "self.".toList.all isNameChar = true := by decide
  rw [String.toList_append, String.toList_append, List.all_append, List.all_append, hself, hname,
    hrest]
  rfl

/-- A word to be changed is read, or nothing is called. -/
theorem isOwn_seedLine (hmask : (maskConstantOf register).toList.all isStill = true) (seed : Seed) :
    ∀ call ∈ (linesIn (seedLine register seed)).flatMap calls, IsOwn call := by
  cases seed with
  | zero =>
    have hline : calls "value = 0" = [] := by decide
    rw [seedLine, linesIn, List.flatMap_singleton, hline]
    exact fun call hcall => absurd hcall List.not_mem_nil
  | preserved =>
    have hline : ("value = self." ++ register ++ ".read() & self." ++
        maskConstantOf register).toList =
        "value =".toList ++ ' ' :: (("self." ++ register ++ ".read").toList ++ '(' ::
          (") & self.".toList ++ (maskConstantOf register).toList)) := by
      simp
    have hfront : "value =".toList.all isStill = true := by decide
    have hread := all_isNameChar_member hname ".read" (by decide)
    have hrest : (") & self.".toList ++ (maskConstantOf register).toList).all isStill = true := by
      rw [List.all_append, hmask]
      rfl
    rw [seedLine, linesIn, List.flatMap_singleton, calls, hline, callsFrom_blank hfront,
      callsFrom_call hread (by simp), callsFrom_still hrest]
    exact List.forall_mem_singleton.2 (isOwn_member _ _ _)

/-- A getter calls its primitive on what it reads. -/
theorem calls_reading (p : Primitive) {place : String} (hp : IsPlace place) : ∃ last,
    calls ("return " ++ p.name ++ "(self." ++ register ++ ".read(), " ++ place ++ ", "
        ++ word.capitalName ++ ")") =
      [⟨p.name, word.capitalName⟩, ⟨"self." ++ register ++ ".read", last⟩] := by
  have hword := all_isNameChar_capitalName word
  have hread := all_isNameChar_member hname ".read" (by decide)
  have hline : ("return " ++ p.name ++ "(self." ++ register ++ ".read(), " ++ place ++ ", "
      ++ word.capitalName ++ ")").toList = "return".toList ++ ' ' :: (p.name.toList ++ '(' ::
        ((("self." ++ register ++ ".read").toList ++ ('(' :: ([] ++ [')'])) ++ ", ".toList ++
          place.toList) ++ (", " ++ word.capitalName).toList ++ ')' :: [])) := by
    simp
  have hargs : Closed (("self." ++ register ++ ".read").toList ++ ('(' :: ([] ++ [')'])) ++
      ", ".toList ++ place.toList) := by
    have hempty : Closed [] := .plain rfl
    have hcomma : Closed ", ".toList := .plain (by decide)
    exact (((Closed.plain (all_isEven_of_isNameChar hread)).append hempty.bracket).append
      hcomma).append hp.closed
  have hbody : (("self." ++ register ++ ".read").toList ++ ('(' :: ([] ++ [')'])) ++ ", ".toList ++
      place.toList) ++ (", " ++ word.capitalName).toList ++ ')' :: [] =
        ("self." ++ register ++ ".read").toList ++ '(' :: ("),".toList ++ ' ' :: (place.toList ++
          (", " ++ word.capitalName ++ ")").toList)) := by
    simp
  have hfront : "return".toList.all isStill = true := by decide
  have hclose : "),".toList.all isStill = true := by decide
  rw [calls, hline, callsFrom_blank hfront,
    callsFrom_call_last (all_isNameChar_name p) (name_ne_empty p) hargs hword, hbody,
    callsFrom_call hread (by simp), callsFrom_blank hclose, hp.quiet _ (all_isStill_ending word)]
  exact ⟨_, rfl⟩

/-- A setter calls its primitive on the word to change and writes what it answers. -/
theorem calls_writing (p : Primitive) {place given : String} (hp : IsPlace place)
    (hgiven : given.toList.all isNameChar = true) : ∃ last,
    (linesIn (writeLine register (p.name ++ "(value, " ++ place ++ ", " ++ given ++ ", "
      ++ word.capitalName ++ ")"))).flatMap calls =
      [⟨"self." ++ register ++ ".write", last⟩, ⟨p.name, word.capitalName⟩] := by
  have hword := all_isNameChar_capitalName word
  have hwrite := all_isNameChar_member hname ".write" (by decide)
  have hline : ("self." ++ register ++ ".write(" ++ (p.name ++ "(value, " ++ place ++ ", " ++ given
      ++ ", " ++ word.capitalName ++ ")") ++ ")").toList =
        ("self." ++ register ++ ".write").toList ++ '(' :: (p.name.toList ++ '(' ::
          (("value, ".toList ++ place.toList ++ (", " ++ given).toList) ++
            (", " ++ word.capitalName).toList ++ ')' :: [')'])) := by
    simp
  have hargs : Closed ("value, ".toList ++ place.toList ++ (", " ++ given).toList) := by
    have hvalue : Closed "value, ".toList := .plain (by decide)
    have hcomma : Closed ", ".toList := .plain (by decide)
    rw [String.toList_append]
    exact (hvalue.append hp.closed).append
      (hcomma.append (.plain (all_isEven_of_isNameChar hgiven)))
  have hbody : ("value, ".toList ++ place.toList ++ (", " ++ given).toList) ++
      (", " ++ word.capitalName).toList ++ ')' :: [')'] = "value,".toList ++ ' ' ::
        (place.toList ++ ((", " ++ given).toList ++
          ((", " ++ word.capitalName ++ ")").toList ++ [')']))) := by
    simp
  have hvalue : "value,".toList.all isStill = true := by decide
  have hrest : ((", " ++ given).toList ++ ((", " ++ word.capitalName ++ ")").toList ++
      [')'])).all isStill = true := by
    rw [List.all_append, List.all_append, String.toList_append, List.all_append,
      all_isStill_of_isNameChar hgiven, all_isStill_ending word]
    rfl
  rw [writeLine, linesIn, List.flatMap_singleton, calls, hline,
    callsFrom_call hwrite (by simp),
    callsFrom_call_last (all_isNameChar_name p) (name_ne_empty p) hargs hword, hbody,
    callsFrom_blank hvalue, hp.quiet _ hrest]
  exact ⟨_, rfl⟩

theorem callsOnly_reading (p : Primitive) {place : String} (hp : IsPlace place) :
    CallsOnly p word [.line ("return " ++ p.name ++ "(self." ++ register ++ ".read(), " ++ place
      ++ ", " ++ word.capitalName ++ ")")] := by
  obtain ⟨last, hcalls⟩ := calls_reading hname p hp
  refine ⟨[], [⟨"self." ++ register ++ ".read", last⟩], ?_,
    List.forall_mem_singleton.2 (isOwn_member _ _ _)⟩
  rw [linesOf, linesOf, List.append_nil, linesIn, List.flatMap_singleton, hcalls]
  rfl

theorem callsOnly_writing (hmask : (maskConstantOf register).toList.all isStill = true)
    {before : List Writing} (hbefore : ∀ call ∈ (linesOf before).flatMap calls, IsOwn call)
    (seed : Seed) (p : Primitive) {place given : String} (hp : IsPlace place)
    (hgiven : given.toList.all isNameChar = true) :
    CallsOnly p word (before ++ [seedLine register seed, writeLine register (p.name ++ "(value, "
      ++ place ++ ", " ++ given ++ ", " ++ word.capitalName ++ ")")]) := by
  obtain ⟨last, hcalls⟩ := calls_writing hname p hp hgiven
  refine ⟨(linesOf before).flatMap calls ++ (linesIn (seedLine register seed)).flatMap calls ++
    [⟨"self." ++ register ++ ".write", last⟩], [], ?_, ?_⟩
  · rw [linesOf_append, linesOf, linesOf, linesOf, List.append_nil, List.flatMap_append,
      List.flatMap_append, hcalls]
    simp
  · rw [List.append_nil]
    exact List.forall_mem_append.2 ⟨List.forall_mem_append.2
      ⟨hbefore, isOwn_seedLine hname hmask seed⟩, List.forall_mem_singleton.2 (isOwn_member _ _ _)⟩

/-- What a method does calls the primitive of its action. -/
theorem callsOnly_actionLines (hmask : (maskConstantOf register).toList.all isStill = true)
    (a : Action) (hfield : ∀ field ∈ a.guarded?, '"' ∉ field.toList) :
    CallsOnly a.primitive word (actionLines word register a) := by
  have hnone : ∀ call ∈ (linesOf []).flatMap calls, IsOwn call :=
    fun call hcall => absurd hcall List.not_mem_nil
  cases a with
  | readBit bit =>
    have hline : "return get_bit(self." = "return " ++ Primitive.getBit.name ++ "(self." := by
      decide
    rw [actionLines, hline]
    exact callsOnly_reading hname .getBit (isPlace_toString bit)
  | readRange start stop =>
    have hline : "return get_bit_range(self." =
        "return " ++ Primitive.getRange.name ++ "(self." := by decide
    rw [actionLines, hline]
    exact callsOnly_reading hname .getRange (isPlace_rangeText start stop)
  | raiseBit seed bit =>
    have hchange : "set_bit(value, " ++ toString bit ++ ", True, " ++ word.capitalName ++ ")" =
        Primitive.setBit.name ++ "(value, " ++ toString bit ++ ", " ++ "True" ++ ", " ++
          word.capitalName ++ ")" := by
      rw [← String.toList_inj]
      simp [Primitive.name]
    rw [actionLines, hchange]
    exact callsOnly_writing hname hmask hnone seed .setBit (isPlace_toString bit) (by decide)
  | writeBit seed bit =>
    have hchange : "set_bit(value, " ++ toString bit ++ ", flag, " ++ word.capitalName ++ ")" =
        Primitive.setBit.name ++ "(value, " ++ toString bit ++ ", " ++ "flag" ++ ", " ++
          word.capitalName ++ ")" := by
      rw [← String.toList_inj]
      simp [Primitive.name]
    rw [actionLines, hchange]
    exact callsOnly_writing hname hmask hnone seed .setBit (isPlace_toString bit) (by decide)
  | writeRange seed start stop field width greatest =>
    have hchange : "set_bit_range(value, " ++ rangeText start stop ++ ", bits, " ++
        word.capitalName ++ ")" = Primitive.setRange.name ++ "(value, " ++ rangeText start stop ++
          ", " ++ "bits" ++ ", " ++ word.capitalName ++ ")" := by
      rw [← String.toList_inj]
      simp [Primitive.name]
    have hcondition :
        ("0 <= bits <= " ++ Number.prefixedHex 0 greatest).toList.all isStill = true := by
      rw [String.toList_append, List.all_append, all_isStill_prefixedHex]
      rfl
    have hmessage : '"' ∉ (field ++ " holds " ++ toString width ++
        " bits, got 0x\x7bbits:X\x7d").toList := by
      have hdigits : '"' ∉ (toString width).toList := fun hmem =>
        absurd (List.all_eq_true.1 (all_isNameChar_toString width) _ hmem) (by decide)
      have hquote := hfield field rfl
      simp only [String.toList_append, List.mem_append, not_or]
      exact ⟨⟨⟨hquote, by decide⟩, hdigits⟩, by decide⟩
    rw [actionLines, hchange]
    refine callsOnly_writing hname hmask ?_ seed .setRange (isPlace_rangeText start stop)
      (by decide)
    rw [calls_guard hcondition hmessage]
    exact List.forall_mem_singleton.2 (.inl rfl)

end Register

end Methods

theorem slotLine_eq (word : Bits.IntType) (s : Slot) :
    ∃ rest, slotLine word s = .line ("self." ++ s.register ++ " = " ++ rest) :=
  ⟨_, by rw [slotLine]; simp only [String.append_assoc]; rfl⟩

/-! ### The calls of the construction -/

theorem all_text (l : Literal) : l.text.toList.all (fun c => isStill c && isEven c) = true := by
  cases l with
  | hex width v => exact all_prefixedHex width v
  | decimal n =>
    have hname := all_isNameChar_toString n
    refine List.all_eq_true.2 fun c hc => ?_
    rw [List.all_eq_true.1 (all_isStill_of_isNameChar hname) c hc,
      List.all_eq_true.1 (all_isEven_of_isNameChar hname) c hc]
    rfl

/-- A slot is filled by its kind of handle, with the type of the words as the last argument. -/
theorem calls_slotLine (word : Bits.IntType) {s : Slot}
    (hname : s.register.toList.all isNameChar = true) :
    (linesIn (slotLine word s)).flatMap calls = [⟨makerName s.capability, word.capitalName⟩] := by
  have hoffset := all_text s.offset
  have hline : ("self." ++ s.register ++ " = " ++ s.capability.handleName
      ++ ".new(memory, base_address, " ++ s.offset.text ++ ", " ++ word.capitalName ++ ")").toList =
        ("self." ++ s.register ++ " =").toList ++ ' ' :: ((makerName s.capability).toList ++ '(' ::
          (("memory, base_address, ".toList ++ s.offset.text.toList) ++
            (", " ++ word.capitalName).toList ++ ')' :: [])) := by
    simp [makerName]
  have hfront : ("self." ++ s.register ++ " =").toList.all isStill = true := by
    rw [String.toList_append, String.toList_append, List.all_append, List.all_append,
      all_isStill_of_isNameChar hname]
    decide
  have hmaker : (makerName s.capability).toList.all isNameChar = true := by
    cases s.capability <;> decide
  have hne : makerName s.capability ≠ "" := by
    cases s.capability <;> decide
  have hargs : Closed ("memory, base_address, ".toList ++ s.offset.text.toList) := by
    have hmemory : Closed "memory, base_address, ".toList := .plain (by decide)
    exact hmemory.append (.plain (List.all_eq_true.2 fun c hc =>
      (Bool.and_eq_true_iff.1 (List.all_eq_true.1 hoffset c hc)).2))
  have hrest : (("memory, base_address, ".toList ++ s.offset.text.toList) ++
      (", " ++ word.capitalName).toList ++ ')' :: []).all isStill = true := by
    have hword := all_isStill_of_isNameChar (all_isNameChar_capitalName word)
    have hstill : s.offset.text.toList.all isStill = true := List.all_eq_true.2 fun c hc =>
      (Bool.and_eq_true_iff.1 (List.all_eq_true.1 hoffset c hc)).1
    rw [List.all_append, List.all_append, List.all_append, String.toList_append, List.all_append,
      hstill, hword]
    decide
  rw [slotLine, linesIn, List.flatMap_singleton, calls, hline, callsFrom_blank hfront,
    callsFrom_call_last hmaker hne hargs (all_isNameChar_capitalName word), callsFrom_still hrest]

/-- The body of the function that builds a device. -/
def buildingLines (c : AccessorCode) : List Writing :=
  (if c.ports.isEmpty then []
    else guard "base_address in self.PORTS"
      ("0x\x7bbase_address:08X\x7d is not a device port of " ++ c.className)) ++
    c.slots.map (slotLine c.word)

/-- Building a device calls the handles of its slots, after a check. -/
theorem calls_buildingLines {c : AccessorCode} (hclass : '"' ∉ c.className.toList)
    (hslots : ∀ s ∈ c.slots, s.register.toList.all isNameChar = true) : ∃ front,
    (linesOf (buildingLines c)).flatMap calls =
        front ++ c.slots.map (fun s => ⟨makerName s.capability, c.word.capitalName⟩) ∧
      ∀ call ∈ front, IsOwn call := by
  have hslotCalls : ∀ slots : List Slot, (∀ s ∈ slots, s.register.toList.all isNameChar = true) →
      (linesOf (slots.map (slotLine c.word))).flatMap calls =
        slots.map fun s => ⟨makerName s.capability, c.word.capitalName⟩ := by
    intro slots h
    induction slots with
    | nil => rfl
    | cons s slots ih =>
      obtain ⟨hs, hrest⟩ := List.forall_mem_cons.1 h
      rw [List.map_cons, linesOf, List.flatMap_append, calls_slotLine c.word hs, ih hrest]
      rfl
  have hmessage : '"' ∉
      ("0x\x7bbase_address:08X\x7d is not a device port of " ++ c.className).toList := by
    simp only [String.toList_append, List.mem_append, not_or]
    exact ⟨by decide, hclass⟩
  have hcondition : "base_address in self.PORTS".toList.all isStill = true := by decide
  rw [buildingLines, linesOf_append, List.flatMap_append, hslotCalls c.slots hslots]
  cases c.ports.isEmpty with
  | true => exact ⟨[], rfl, fun call hcall => absurd hcall List.not_mem_nil⟩
  | false =>
    refine ⟨[⟨guardName, ""⟩], ?_, List.forall_mem_singleton.2 (.inl rfl)⟩
    rw [if_neg Bool.false_ne_true, calls_guard hcondition hmessage]

end AccessorCode

end RegisterMap
