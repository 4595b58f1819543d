import RegisterMap.Failure
import RegisterMap.Files.Name
import RegisterMap.Text.Blank
import RegisterMap.Text.Case

/-!
# Settings

What a run is set to: whether checks are made and how wide registers usually are. Checks can be
switched for a while, and then return to what they were.
-/

namespace RegisterMap

structure Settings where
  validate : Bool := true
  wordBits : Int := 32
  deriving DecidableEq, Repr

namespace Settings

/-- A text as the environment of a run holds it: in bytes, as it would hold the name of a file, and
without a null character. -/
def held (written : String) : Except Failure String :=
  match Files.Name.fault? written with
  | some fault => .error (.unencodable fault)
  | none => if (Files.Name.ofText written).contains 0 then .error .nullByte else .ok written

/-- The words that switch something on. -/
def onWords : List String :=
  ["1", "true", "yes", "on"]

/-- The value of a switch given as text, in any case and with white space around it. -/
def switch (written : Option String) (usual : Bool) : Bool :=
  match written with
  | none => usual
  | some s => onWords.contains (Text.lower (Text.strip s))

inductive Change where
  | validate (on : Bool)
  | wordBits (bits : Int)
  | unknown (name : String)
  deriving DecidableEq, Repr

def apply (s : Settings) : Change → Except Failure Settings
  | .validate on => .ok { s with validate := on }
  | .wordBits bits => .ok { s with wordBits := bits }
  | .unknown name => .error (.unknownSetting name)

/-- The settings after all changes; nothing changes when one of them is unknown. -/
def configure (s : Settings) (changes : List Change) : Except Failure Settings :=
  changes.foldlM apply s

/-- Fails with `message` when checks are made and the condition does not hold. -/
def assert (s : Settings) (condition : Bool) (message : String) : Except Failure Unit :=
  if !condition && s.validate then .error (.asserted message) else .ok ()

end Settings

/-- Settings and, innermost first, what checks return to when the open scopes end. -/
structure Scopes where
  settings : Settings := {}
  saved : List Bool := []
  deriving DecidableEq, Repr

namespace Scopes

/-- Opens a scope in which checks are on or off. -/
def enter (s : Scopes) (on : Bool) : Scopes :=
  ⟨{ s.settings with validate := on }, s.settings.validate :: s.saved⟩

def leave (s : Scopes) : Scopes :=
  match s.saved with
  | [] => s
  | on :: saved => ⟨{ s.settings with validate := on }, saved⟩

/-- Changes the settings inside the open scopes. -/
def configure (s : Scopes) (changes : List Settings.Change) : Except Failure Scopes :=
  (s.settings.configure changes).map fun settings => { s with settings := settings }

end Scopes

end RegisterMap
