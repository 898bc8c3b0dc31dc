import DynSeq.Host
import DynSeq.Json.Printer
import DynSeq.Json.Reader
import DynSeq.Settings
import DynSeq.Value.Json
import DynSeq.Value.Text

namespace DynSeq.CommandLine

structure Application where
  op : Operation
  func : String
  values : List String
  data : Option String
  untyped : Bool
  output : OutputFormat
deriving DecidableEq, Inhabited

inductive ApplicationError where
  | unknownFunction (name : String)
  | unreadableData (path : String) (reason : ReadError)
  | invalidJson (path : String)
  | notConvertible (reason : ConversionError)
  | failed (op : Operation) (func : String) (failure : Failure)
  | notPrintable (reason : ConversionError)
deriving DecidableEq

namespace ApplicationError

def knownFunctions : String :=
  ", ".intercalate (Demo.all.map Demo.name)

def chain : ApplicationError → List String
  | .unknownFunction name => [s!"Unknown function '{name}' (available: {knownFunctions})"]
  | .unreadableData path reason => [s!"Failed to read data file: {path}", reason.message]
  | .invalidJson path => [s!"Invalid JSON in data file: {path}"]
  | .notConvertible reason => ["Input cannot be converted", reason.message]
  | .failed op func failure =>
    s!"{op.name}({func}) failed" :: failure.message :: failure.sources
  | .notPrintable reason => [reason.message]

end ApplicationError

/-- A value given as an argument is a JSON document if it can be read as one, and otherwise a
text. -/
def literal (raw : String) : Json :=
  (Json.read raw).getD (.string raw)

def render (format : OutputFormat) (v : Value) : Except ConversionError String :=
  match format with
  | .text => .ok v.text
  | .json => v.toJson.map Json.print

namespace Application

def document (read : Reading) (a : Application) : Except ApplicationError Json :=
  match a.data with
  | none => .ok (.array (a.values.map literal))
  | some path =>
    match read.text path with
    | .error reason => .error (.unreadableData path reason)
    | .ok text =>
      match Json.read text with
      | some json => .ok json
      | none => .error (.invalidJson path)

def input (read : Reading) (a : Application) : Except ApplicationError Value := do
  let json ← a.document read
  (Value.ofJson a.untyped json).mapError .notConvertible

def result (read : Reading) (a : Application) : Except ApplicationError Value := do
  match Demo.ofName? a.func with
  | none => .error (.unknownFunction a.func)
  | some demo =>
    let v ← a.input read
    let (result, _) := a.op.apply Host.alone.calls v (.function (demo.callable 0)) 1
    result.mapError (.failed a.op a.func)

def execute (read : Reading) (a : Application) : Except ApplicationError String := do
  let v ← a.result read
  (render a.output v).mapError .notPrintable

end Application

end DynSeq.CommandLine
