import RegisterMap.Text.Case

/-!
# Logs

Messages about a run: each has a level and the topic it belongs to. A console shows those from
some level on.
-/

namespace RegisterMap.Log

/-- The levels with a name of their own. -/
inductive Severity where
  | debug
  | info
  | warning
  | error
  | critical
  deriving DecidableEq, Repr

namespace Severity

/-- The number of a level; higher is graver. -/
def level : Severity → Int
  | debug => 10
  | info => 20
  | warning => 30
  | error => 40
  | critical => 50

def name : Severity → String
  | debug => "DEBUG"
  | info => "INFO"
  | warning => "WARNING"
  | error => "ERROR"
  | critical => "CRITICAL"

def all : List Severity :=
  [debug, info, warning, error, critical]

end Severity

/-- The name of the level that shows all. -/
def unsetName : String := "NOTSET"

def otherNames : List (String × Int) :=
  [(unsetName, 0), ("WARN", Severity.warning.level), ("FATAL", Severity.critical.level)]

/-- The level that a name in capitals stands for. -/
def levelOfName? (name : String) : Option Int :=
  match Severity.all.find? (·.name == name) with
  | some s => some s.level
  | none => otherNames.lookup name

/-- The name of a level by its number. -/
def levelName (level : Int) : String :=
  if level = 0 then unsetName
  else
    match Severity.all.find? (·.level == level) with
    | some s => s.name
    | none => "Level " ++ toString level

/-- A message. -/
structure Record where
  level : Int
  topic : String
  text : String
  deriving DecidableEq, Repr

def record (severity : Severity) (topic text : String) : Record :=
  ⟨severity.level, topic, text⟩

/-- The parts of consoles that a level may be mistaken for. -/
inductive Part where
  | pattern
  | styles
  deriving DecidableEq, Repr

namespace Part

def all : List Part :=
  [pattern, styles]

def name : Part → String
  | pattern => "BASIC_FORMAT"
  | styles => "_STYLES"

def text : Part → String
  | pattern => "%(levelname)s:%(name)s:%(message)s"
  | styles =>
    "\x7b'%': (<class 'logging.PercentStyle'>, '%(levelname)s:%(name)s:%(message)s'), "
      ++ "'\x7b': (<class 'logging.StrFormatStyle'>, "
      ++ "'\x7blevelname\x7d:\x7bname\x7d:\x7bmessage\x7d'), "
      ++ "'$': (<class 'logging.StringTemplateStyle'>, "
      ++ "'$\x7blevelname\x7d:$\x7bname\x7d:$\x7bmessage\x7d')\x7d"

/-- The complaint about a part in the place of a level. -/
def message : Part → String
  | pattern => "Unknown level: '" ++ pattern.text ++ "'"
  | styles => "Level not an integer or a valid string: " ++ styles.text

end Part

/-- What a console shows: the messages from `threshold` on, by themselves when `quiet`. -/
structure Console where
  threshold : Int
  quiet : Bool
  deriving DecidableEq, Repr

namespace Console

/-- The level of a console that nobody set up. -/
def usualLevel : Severity := .warning

/-- The level of a word in any case. A word that names a part of the console is none, and any other
word that is no name stands for `INFO`. -/
def levelOf (word : String) : Except Part Int :=
  let name := Text.upper word
  match Part.all.find? (·.name == name) with
  | some part => .error part
  | none => .ok ((levelOfName? name).getD Severity.info.level)

/-- A console for a level given by name. -/
def ofName (word : String) (quiet : Bool) : Except Part Console :=
  (levelOf word).map fun threshold => ⟨threshold, quiet⟩

/-- Whether a message is shown. Messages below the first level are never shown. -/
def shows (c : Console) (r : Record) : Bool :=
  0 < r.level && c.threshold ≤ r.level

def line (c : Console) (r : Record) : String :=
  if c.quiet then r.text ++ "\n"
  else "[" ++ levelName r.level ++ "] " ++ r.topic ++ ": " ++ r.text ++ "\n"

/-- All that a console shows of a list of messages. -/
def output (c : Console) (records : List Record) : String :=
  String.join ((records.filter c.shows).map c.line)

end Console

end RegisterMap.Log
