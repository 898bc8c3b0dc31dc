import DynSeq.Files
import DynSeq.Text.Lowercase
import DynSeq.Toml.Reader

namespace DynSeq

inductive OutputFormat where
  | text
  | json
deriving DecidableEq, Inhabited

namespace OutputFormat

def name : OutputFormat → String
  | .text => "text"
  | .json => "json"

def ofName? : String → Option OutputFormat
  | "text" => some .text
  | "json" => some .json
  | _ => none

theorem ofName?_name (f : OutputFormat) : ofName? f.name = some f := by
  cases f <;> rfl

def unknown (name : String) : String :=
  s!"expected 'text' or 'json', got '{name}'"

def parse (s : String) : Except String OutputFormat :=
  let name := Text.lowercase s
  match ofName? name with
  | some format => .ok format
  | none => .error (unknown name)

end OutputFormat

structure Settings where
  output : OutputFormat
  log : String
  untyped : Bool
deriving DecidableEq, Inhabited

/-- Settings that one source gives; what it leaves open is `none`. -/
structure Settings.Layer where
  output : Option OutputFormat
  log : Option String
  untyped : Option Bool
deriving DecidableEq, Inhabited

structure Settings.Environment where
  output : Option String
  log : Option String
  untyped : Option String
deriving DecidableEq, Inhabited

inductive SettingsError where
  | notFound (path : String)
  | unreadable (reason : ReadError)
  | invalidToml (file : String)
  | invalidValue (field reason : String)
deriving DecidableEq

namespace SettingsError

def message : SettingsError → String
  | .notFound path => s!"Configuration file not found: {path}"
  | .unreadable reason => s!"Failed to read configuration file: {reason.message}"
  | .invalidToml file => s!"Invalid TOML in {file}"
  | .invalidValue field reason => s!"Invalid value for '{field}': {reason}"

def chain (e : SettingsError) : List String :=
  e.message :: match e with
    | .unreadable reason => [reason.message]
    | _ => []

end SettingsError

namespace Settings

def outputVariable : String := "TMPLFUNC_OUTPUT"
def logVariable : String := "TMPLFUNC_LOG"
def untypedVariable : String := "TMPLFUNC_UNTYPED"

def defaultFile : String := "tmplfunc.toml"

def defaults : Settings := ⟨.text, "warn", false⟩

def overlaidBy (s : Settings) (l : Layer) : Settings :=
  ⟨l.output.getD s.output, l.log.getD s.log, l.untyped.getD s.untyped⟩

namespace Layer

def empty : Layer := ⟨none, none, none⟩

/-- A format in a file is named exactly, either as a text or as the only key of a table that has
nothing below it. -/
def format? : Toml → Option OutputFormat
  | .string name => OutputFormat.ofName? name
  | .table [(name, .table [])] => OutputFormat.ofName? name
  | .table [(name, .array [])] => OutputFormat.ofName? name
  | _ => none

def add (l : Layer) : String × Toml → Option Layer
  | ("output", v) => (format? v).map fun format ↦ { l with output := some format }
  | ("log", .string s) => some { l with log := some s }
  | ("untyped", .boolean b) => some { l with untyped := some b }
  | _ => none

def ofMembers (members : List (String × Toml)) : Option Layer :=
  members.foldl (fun l member ↦ l.bind (·.add member)) (some empty)

def ofFile (path : String) (content : Except ReadError String) : Except SettingsError Layer :=
  match content with
  | .error .notFound => .error (.notFound path)
  | .error reason => .error (.unreadable reason)
  | .ok text =>
    match (Toml.read text).bind ofMembers with
    | some l => .ok l
    | none => .error (.invalidToml path)

end Layer

def fileLayer (read : Reading) : Option String → Except SettingsError Layer
  | some path => Layer.ofFile path (read.text path)
  | none =>
    if read.isThere defaultFile then Layer.ofFile defaultFile (read.text defaultFile)
    else .ok .empty

def isYes (s : String) : Bool :=
  ["1", "true", "yes"].contains (Text.lowercase s)

def Environment.layer (e : Environment) : Except SettingsError Layer :=
  let rest : Layer := ⟨none, e.log, e.untyped.map isYes⟩
  match e.output with
  | none => .ok rest
  | some s =>
    match OutputFormat.parse s with
    | .ok format => .ok { rest with output := some format }
    | .error reason => .error (.invalidValue outputVariable reason)

def load (read : Reading) (path : Option String) (e : Environment) :
    Except SettingsError Settings := do
  let file ← fileLayer read path
  let environment ← e.layer
  return (defaults.overlaidBy file).overlaidBy environment

end Settings

end DynSeq
