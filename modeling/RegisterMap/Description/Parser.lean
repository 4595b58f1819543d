import RegisterMap.Description.Fault
import RegisterMap.Description.Basic
import RegisterMap.Machine
import RegisterMap.Outcome

/-!
# Reading a description

A description is a list of modules and constants, the addresses of the device, and its fields:

    file     = items docs ports [field { "," field } [","]]
    items    = { docs ["pub"] (module | constant) }
    module   = "mod" NAME "{" items docs "}"
    constant = "const" NAME [":" NAME] "=" NUMBER ";"
    ports    = "device_ports" "(" [port { "," port } [","]] ")" ";"
    port     = NUMBER | path
    field    = docs "#" "[" "bit" "(" bits "," POLICY "," path ")" "]" docs NAME
    bits     = NUMBER | [NUMBER] ".." [NUMBER] | [NUMBER] "..=" NUMBER
    path     = NAME { ("::" | ".") NAME }

Each function reads one phrase from the front of a list of tokens and returns what it stands for
and the tokens that follow. The list ends with the end of input, which no function passes.
-/

namespace RegisterMap.Parser

def current (ts : List Token) : Token :=
  ts.headD Token.absent

def peek (ts : List Token) : Lexeme :=
  (current ts).lexeme

/-- A fault that shows at the front. -/
def faultAt (ts : List Token) (cause : SourceCause) : SourceFault :=
  ⟨cause, (current ts).line, (current ts).column⟩

/-- The failure to find `what` at the front. -/
def missing (what : String) (ts : List Token) : SourceFault :=
  faultAt ts (.expected what (peek ts))

/-- Reads one given lexeme; `what` names it in messages. -/
def expect (lexeme : Lexeme) (what : String) (ts : List Token) : Except SourceFault (List Token) :=
  if peek ts = lexeme then .ok ts.tail else .error (missing what ts)

def expectName (what : String) (ts : List Token) : Except SourceFault (String × List Token) :=
  match peek ts with
  | .name word => .ok (word, ts.tail)
  | _ => .error (missing what ts)

/-- The lines of documentation at the front, and what follows them. -/
def docs : List Token → List String × List Token
  | [] => ([], [])
  | t :: ts =>
    match t.lexeme with
    | .doc line => (line :: (docs ts).1, (docs ts).2)
    | _ => ([], t :: ts)

/-- A list without the word `pub` in front. -/
def skipPub (ts : List Token) : List Token :=
  if peek ts = .name "pub" then ts.tail else ts

/-- Whether a lexeme stands between the segments of a path. -/
def isSeparator (l : Lexeme) : Bool :=
  l == .mark .pathSeparator || l == .mark .dot

/-- Reads the segments of a path after the first. -/
def pathTail (what : String) : List Token → Except SourceFault (List String × List Token)
  | [] => .ok ([], [])
  | t :: ts =>
    if isSeparator t.lexeme then
      match ts with
      | [] => .error (faultAt [] (.constantRequired what (peek [])))
      | n :: rest =>
        match n.lexeme with
        | .name word => (pathTail what rest).map fun (words, rest) => (word :: words, rest)
        | found => .error (faultAt (n :: rest) (.constantRequired what found))
    else .ok ([], t :: ts)

def path (what : String) (ts : List Token) : Except SourceFault (Path × List Token) :=
  match peek ts with
  | .name word =>
    (pathTail what ts.tail).map fun (words, rest) =>
      (⟨word :: words, List.cons_ne_nil word words⟩, rest)
  | found => .error (faultAt ts (.constantRequired what found))

/-- Reads the type after a colon, if there is one. -/
def skipType (ts : List Token) : Except SourceFault (List Token) :=
  if peek ts = .mark .colon then (expectName "type name" ts.tail).map (·.2) else .ok ts

/-- Reads a constant in the modules `modules`, outermost first, after its documentation. -/
def constant (modules docs : List String) (ts : List Token) :
    Except SourceFault (Constant × List Token) := do
  let line := (current ts).line
  let ts ← expect (.name "const") "'const'" ts
  let (name, ts) ← expectName "constant name" ts
  let ts ← skipType ts
  let ts ← expect (.mark .equals) "'='" ts
  match peek ts with
  | .number value =>
    let ts ← expect (.mark .semicolon) "';'" ts.tail
    .ok (⟨.inModules modules name, value, docs, line⟩, ts)
  | found => .error (faultAt ts (.notANumber name found))

/-- Reads the start of a module, up to its brace. -/
def moduleStart (ts : List Token) : Except SourceFault (String × List Token) := do
  let ts ← expect (.name "mod") "'mod'" ts
  let (name, ts) ← expectName "module name" ts
  let ts ← expect (.mark .leftBrace) "'\x7b'" ts
  .ok (name, ts)

theorem length_tail_lt_of_peek {ts : List Token} {l : Lexeme} (h : peek ts = l)
    (hl : l ≠ .endOfInput) : ts.tail.length < ts.length := by
  cases ts with
  | nil => exact absurd h (Ne.symm hl)
  | cons t ts => simp

theorem length_expect {lexeme : Lexeme} {what : String} {ts rest : List Token}
    (h : expect lexeme what ts = .ok rest) (hl : lexeme ≠ .endOfInput) :
    rest.length < ts.length := by
  unfold expect at h
  split at h
  · next hp =>
    cases h
    exact length_tail_lt_of_peek hp hl
  · cases h

theorem length_expectName {what word : String} {ts rest : List Token}
    (h : expectName what ts = .ok (word, rest)) : rest.length < ts.length := by
  unfold expectName at h
  split at h
  · next hp =>
    cases h
    exact length_tail_lt_of_peek hp (by simp)
  · cases h

theorem length_docs (ts : List Token) : (docs ts).2.length ≤ ts.length := by
  induction ts with
  | nil => simp [docs]
  | cons t ts ih =>
    unfold docs
    split
    · simpa using Nat.le_succ_of_le ih
    · simp

theorem length_skipPub (ts : List Token) : (skipPub ts).length ≤ ts.length := by
  unfold skipPub
  split
  · simp
  · simp

theorem length_pathTail {what : String} {ts rest : List Token} {words : List String}
    (h : pathTail what ts = .ok (words, rest)) : rest.length ≤ ts.length := by
  fun_induction pathTail what ts generalizing words rest with
  | case1 => cases h; simp
  | case2 => cases h
  | case3 t hs n ts word hw ih =>
    obtain ⟨⟨ws, rs⟩, hr, he⟩ := map_eq_ok.1 h
    cases he
    have := ih hr
    simp only [List.length_cons]
    omega
  | case4 => cases h
  | case5 => cases h; simp

theorem length_path {what : String} {ts rest : List Token} {p : Path}
    (h : path what ts = .ok (p, rest)) : rest.length < ts.length := by
  unfold path at h
  split at h
  · next word hp =>
    obtain ⟨⟨ws, rs⟩, hr, he⟩ := map_eq_ok.1 h
    cases he
    exact Nat.lt_of_le_of_lt (length_pathTail hr) (length_tail_lt_of_peek hp (by simp))
  · cases h

theorem length_skipType {ts rest : List Token} (h : skipType ts = .ok rest) :
    rest.length ≤ ts.length := by
  unfold skipType at h
  split at h
  · next hp =>
    obtain ⟨⟨word, rs⟩, hr, he⟩ := map_eq_ok.1 h
    cases he
    have := length_expectName hr
    have := length_tail_lt_of_peek hp (by simp)
    simp only at *
    omega
  · cases h
    simp

theorem length_constant {modules docs : List String} {ts rest : List Token} {c : Constant}
    (h : constant modules docs ts = .ok (c, rest)) : rest.length < ts.length := by
  obtain ⟨ts₁, h₁, h⟩ := bind_eq_ok.1 h
  obtain ⟨⟨name, ts₂⟩, h₂, h⟩ := bind_eq_ok.1 h
  obtain ⟨ts₃, h₃, h⟩ := bind_eq_ok.1 h
  obtain ⟨ts₄, h₄, h⟩ := bind_eq_ok.1 h
  split at h
  · next value hp =>
    obtain ⟨ts₅, h₅, h⟩ := bind_eq_ok.1 h
    cases h
    have := length_expect h₁ (by simp)
    have := length_expectName h₂
    have := length_skipType h₃
    have := length_expect h₄ (by simp)
    have := length_tail_lt_of_peek hp (by simp)
    have := length_expect h₅ (by simp)
    omega
  · cases h

theorem length_moduleStart {ts rest : List Token} {name : String}
    (h : moduleStart ts = .ok (name, rest)) : rest.length < ts.length := by
  obtain ⟨ts₁, h₁, h⟩ := bind_eq_ok.1 h
  obtain ⟨⟨name, ts₂⟩, h₂, h⟩ := bind_eq_ok.1 h
  obtain ⟨ts₃, h₃, h⟩ := bind_eq_ok.1 h
  cases h
  have := length_expect h₁ (by simp)
  have := length_expectName h₂
  have := length_expect h₃ (by simp)
  omega

/-- Reads modules and constants inside the open modules `inside`, innermost first, until neither
follows and all those modules are closed. Documentation and `pub` in front of anything else are
left in place. Each open module is a call that has not come back yet, and calls can nest only so
deep. -/
def items [Machine] (inside : List String) (ts : List Token) :
    Except SourceFault (List Constant × List Token) :=
  let start := docs ts
  let body := skipPub start.2
  if peek body = .name "mod" then
    match _h : moduleStart body with
    | .error fault => .error fault
    | .ok (name, rest) =>
      if inside.length < Machine.modules then items (name :: inside) rest
      else .error (faultAt rest .tooDeep)
  else if peek body = .name "const" then
    match _h : constant inside.reverse start.1 body with
    | .error fault => .error fault
    | .ok (c, rest) => (items inside rest).map fun (cs, rest) => (c :: cs, rest)
  else
    match inside with
    | [] => .ok ([], ts)
    | name :: outer =>
      match _h : expect (.mark .rightBrace) ("'\x7d' closing mod " ++ name) start.2 with
      | .error fault => .error fault
      | .ok rest => items outer rest
termination_by ts.length
decreasing_by
  all_goals
    have := length_docs ts
    have := length_skipPub (docs ts).2
  · have := length_moduleStart _h
    simp only [start, body] at *
    omega
  · have := length_constant _h
    simp only [start, body] at *
    omega
  · have := length_expect _h (by simp)
    simp only [start] at *
    omega

def port (ts : List Token) : Except SourceFault (Port × List Token) :=
  match peek ts with
  | .number value => .ok (.address value, ts.tail)
  | .name _ => (path "device port" ts).map fun (p, rest) => (.named p, rest)
  | _ => .error (missing "a port address or constant" ts)

theorem length_port {ts rest : List Token} {p : Port} (h : port ts = .ok (p, rest)) :
    rest.length < ts.length := by
  unfold port at h
  split at h
  · next hp =>
    cases h
    exact length_tail_lt_of_peek hp (by simp)
  · obtain ⟨⟨q, rs⟩, hr, he⟩ := map_eq_ok.1 h
    cases he
    exact length_path hr
  · cases h

/-- Reads addresses with commas between them, up to the closing parenthesis. -/
def portList (ts : List Token) : Except SourceFault (List Port × List Token) :=
  if peek ts = .mark .rightParen then .ok ([], ts)
  else
    match _h : port ts with
    | .error fault => .error fault
    | .ok (p, rest) =>
      if peek rest = .mark .comma then
        (portList rest.tail).map fun (ps, rest) => (p :: ps, rest)
      else .ok ([p], rest)
termination_by ts.length
decreasing_by
  have := length_port _h
  simp only [List.length_tail]
  omega

/-- Reads the addresses of the device. -/
def ports (ts : List Token) : Except SourceFault (List Port × List Token) := do
  let ts ← expect (.name "device_ports") "'device_ports'" ts
  let ts ← expect (.mark .leftParen) "'(' after device_ports" ts
  let (ps, ts) ← portList ts
  let ts ← expect (.mark .rightParen) "')' closing device_ports" ts
  let ts ← expect (.mark .semicolon) "';' after device_ports(...)" ts
  .ok (ps, ts)

/-- Whether a lexeme separates the bounds of a range. -/
def isRange (l : Lexeme) : Bool :=
  l == .mark .openRange || l == .mark .inclusiveRange

/-- Reads a range from its operator on. -/
def rangeEnd (start : Option Bound) (ts : List Token) : Except SourceFault (BitSpec × List Token) :=
  let inclusive := peek ts == .mark .inclusiveRange
  match peek ts.tail with
  | .number value => .ok (.range start (some ⟨value, inclusive⟩), ts.tail.tail)
  | .fraction written => .error (faultAt ts.tail (.badBound (.fraction written)))
  | .name word => .error (faultAt ts.tail (.badBound (.name word)))
  | .mark .minus => .error (faultAt ts.tail (.badBound (.mark .minus)))
  | _ =>
    if inclusive then .error (faultAt ts.tail .openInclusiveRange)
    else .ok (.range start none, ts.tail)

def bits (ts : List Token) : Except SourceFault (BitSpec × List Token) :=
  match peek ts with
  | .fraction written => .error (faultAt ts (.badBound (.fraction written)))
  | .number value =>
    if isRange (peek ts.tail) then rangeEnd (some ⟨value, true⟩) ts.tail
    else .ok (.single value, ts.tail)
  | found => if isRange found then rangeEnd none ts else .error (missing "a bit index or range" ts)

def policy (ts : List Token) : Except SourceFault (Policy × List Token) :=
  let unknown := faultAt ts (.unknownPolicy (peek ts))
  match peek ts with
  | .name word =>
    match Policy.ofKeyword? word with
    | some p => .ok (p, ts.tail)
    | none => .error unknown
  | _ => .error unknown

/-- Fails at `ts` when a range of the field `name` holds no two bits of a register. -/
def checkRange (wordBits : Int) (name : String) (bit : BitSpec) (ts : List Token) :
    Except SourceFault Unit :=
  let (start, stop) := bit.resolve wordBits
  if bit.isSingle = false ∧ stop ≤ start then
    .error (faultAt ts (.emptyRange name bit start stop))
  else .ok ()

/-- Reads the attribute of a field, behind its `#`. -/
def bitAttribute (ts : List Token) :
    Except SourceFault ((BitSpec × Policy × Path) × List Token) := do
  let ts ← expect (.mark .leftBracket) "'[' after '#'" ts
  if peek ts = .name "bit" then
    let ts ← expect (.mark .leftParen) "'(' after bit" ts.tail
    let (bit, ts) ← bits ts
    let ts ← expect (.mark .comma) "',' after the bit specification" ts
    let (policy, ts) ← policy ts
    let ts ← expect (.mark .comma) "',' after the access policy" ts
    let (path, ts) ← path "backing register" ts
    let ts ← expect (.mark .rightParen) "')' closing bit(...)" ts
    let ts ← expect (.mark .rightBracket) "']' closing the attribute" ts
    .ok ((bit, policy, path), ts)
  else .error (faultAt ts (.unknownAttribute (peek ts)))

/-- Reads a field of a register of `wordBits` bits. -/
def field (wordBits : Int) (ts : List Token) : Except SourceFault (FieldDecl × List Token) := do
  let (before, start) := docs ts
  let ts ← expect (.mark .hash) "'#[bit(...)]' attribute" start
  let ((bit, policy, path), ts) ← bitAttribute ts
  let (after, ts) := docs ts
  if peek ts = .mark .hash then .error (faultAt ts .secondAttribute)
  else
    let (name, ts) ← expectName "field name" ts
    checkRange wordBits name bit start
    .ok (⟨name, bit, policy, path, before ++ after, (current start).line⟩, ts)

theorem length_rangeEnd {start : Option Bound} {ts rest : List Token} {b : BitSpec}
    (h : rangeEnd start ts = .ok (b, rest)) : rest.length ≤ ts.length := by
  unfold rangeEnd at h
  simp only at h
  split at h
  · cases h; simp only [List.length_tail]; omega
  · cases h
  · cases h
  · cases h
  · split at h
    · cases h
    · cases h; simp

theorem length_bits {ts rest : List Token} {b : BitSpec} (h : bits ts = .ok (b, rest)) :
    rest.length ≤ ts.length := by
  unfold bits at h
  split at h
  · cases h
  · split at h
    · have := length_rangeEnd h
      simp only [List.length_tail] at this
      omega
    · cases h; simp
  · split at h
    · exact length_rangeEnd h
    · cases h

theorem length_policy {ts rest : List Token} {p : Policy} (h : policy ts = .ok (p, rest)) :
    rest.length ≤ ts.length := by
  unfold policy at h
  simp only at h
  split at h
  · split at h
    · cases h; simp
    · cases h
  · cases h

theorem length_bitAttribute {ts rest : List Token} {a : BitSpec × Policy × Path}
    (h : bitAttribute ts = .ok (a, rest)) : rest.length ≤ ts.length := by
  obtain ⟨ts₁, h₁, h⟩ := bind_eq_ok.1 h
  split at h
  · obtain ⟨ts₂, h₂, h⟩ := bind_eq_ok.1 h
    obtain ⟨⟨b, ts₃⟩, h₃, h⟩ := bind_eq_ok.1 h
    obtain ⟨ts₄, h₄, h⟩ := bind_eq_ok.1 h
    obtain ⟨⟨p, ts₅⟩, h₅, h⟩ := bind_eq_ok.1 h
    obtain ⟨ts₆, h₆, h⟩ := bind_eq_ok.1 h
    obtain ⟨⟨q, ts₇⟩, h₇, h⟩ := bind_eq_ok.1 h
    obtain ⟨ts₈, h₈, h⟩ := bind_eq_ok.1 h
    obtain ⟨ts₉, h₉, h⟩ := bind_eq_ok.1 h
    cases h
    have := length_expect h₁ (by simp)
    have := length_expect h₂ (by simp)
    have := length_bits h₃
    have := length_expect h₄ (by simp)
    have := length_policy h₅
    have := length_expect h₆ (by simp)
    have := length_path h₇
    have := length_expect h₈ (by simp)
    have := length_expect h₉ (by simp)
    simp only [List.length_tail] at *
    omega
  · cases h

theorem length_field {wordBits : Int} {ts rest : List Token} {f : FieldDecl}
    (h : field wordBits ts = .ok (f, rest)) : rest.length < ts.length := by
  obtain ⟨ts₁, h₁, h⟩ := bind_eq_ok.1 h
  obtain ⟨⟨a, ts₂⟩, h₂, h⟩ := bind_eq_ok.1 h
  simp only at h
  split at h
  · cases h
  · obtain ⟨⟨name, ts₃⟩, h₃, h⟩ := bind_eq_ok.1 h
    obtain ⟨_, h₄, h⟩ := bind_eq_ok.1 h
    cases h
    have := length_docs ts
    have := length_expect h₁ (by simp)
    have := length_bitAttribute h₂
    have := length_docs ts₂
    have := length_expectName h₃
    change ts₃.length < ts.length
    omega

/-- Reads fields with commas between them, up to the end of input or a field without a comma. -/
def fieldList (wordBits : Int) (ts : List Token) :
    Except SourceFault (List FieldDecl × List Token) :=
  if peek ts = .endOfInput then .ok ([], ts)
  else
    match _h : field wordBits ts with
    | .error fault => .error fault
    | .ok (f, rest) =>
      if peek rest = .mark .comma then
        (fieldList wordBits rest.tail).map fun (fs, rest) => (f :: fs, rest)
      else .ok ([f], rest)
termination_by ts.length
decreasing_by
  have := length_field _h
  simp only [List.length_tail]
  omega

variable [Machine]

/-- Reads a whole description of a device with registers of `wordBits` bits. -/
def description (source : String) (wordBits : Int) (ts : List Token) :
    Except SourceFault Description := do
  let (constants, ts) ← items [] ts
  let (_, ts) := docs ts
  if peek ts = .name "device_ports" then
    let (ports, ts) ← ports ts
    let (fields, ts) ← fieldList wordBits ts
    let _ ← expect .endOfInput "end of input after the field list" ts
    .ok ⟨ports, fields, constants, source⟩
  else .error (missing "'device_ports(...)'" ts)

/-- Reads a list of modules and constants and nothing else. -/
def constantFile (ts : List Token) : Except SourceFault (List Constant) := do
  let (constants, ts) ← items [] ts
  let _ ← expect .endOfInput "'mod' or 'const'" ts
  .ok constants

/-- Reads a bit specification and nothing else. -/
def bitsOnly (ts : List Token) : Except SourceFault BitSpec := do
  let (bit, ts) ← bits ts
  if peek ts = .endOfInput then .ok bit else .error (faultAt ts (.afterBit (peek ts)))

def tokens (s : String) : Except SourceFault (List Token) :=
  match Lexer.tokens s with
  | .ok ts => .ok ts
  | .error fault => .error (.ofLexer fault)

def readDescription (text source : String) (wordBits : Int) : Except SourceFault Description := do
  description source wordBits (← tokens text)

def readConstants (text : String) : Except SourceFault (List Constant) := do
  constantFile (← tokens text)

def readBits (text : String) : Except SourceFault BitSpec := do
  bitsOnly (← tokens text)

end RegisterMap.Parser
