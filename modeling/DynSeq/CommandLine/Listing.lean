import DynSeq.FunctionTable
import DynSeq.Json.Printer
import DynSeq.Settings
import DynSeq.Ty.Json

namespace DynSeq.CommandLine

def callables (t : FunctionTable) : List (String × Callable) :=
  t.toList.filterMap fun (name, v) ↦ v.callable?.map (name, ·)

def padded (width : Nat) (s : String) : String :=
  s ++ "".pushn ' ' (width - s.length)

def listingText (entries : List (String × Callable)) : String :=
  let width := (entries.map (·.1.length)).foldl max 0
  String.join (entries.map fun (name, f) ↦
    padded width name ++ "  " ++ f.signature.text ++ "\n")

def listingEntry (name : String) (s : Signature) : Json :=
  .object ([("name", .string name), ("signature", .string s.text)] ++ s.toMembers)

def listingJson (entries : List (String × Callable)) : String :=
  (Json.array (entries.map fun (name, f) ↦ listingEntry name f.signature)).pretty 0 ++ "\n"

def listing (format : OutputFormat) : String :=
  let entries := callables (FunctionTable.listed 0)
  match format with
  | .text => listingText entries
  | .json => listingJson entries

end DynSeq.CommandLine
