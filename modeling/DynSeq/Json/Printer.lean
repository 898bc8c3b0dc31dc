import DynSeq.Double.Text
import DynSeq.Json
import DynSeq.Text.Hex

namespace DynSeq.Json

def printChar (c : Char) : String :=
  if c = '"' then "\\\""
  else if c = '\\' then "\\\\"
  else if c = '\x08' then "\\b"
  else if c = '\x0c' then "\\f"
  else if c = '\n' then "\\n"
  else if c = '\r' then "\\r"
  else if c = '\t' then "\\t"
  else if c.toNat < 0x20 then "\\u" ++ Text.hex 4 c.toNat
  else c.toString

def printString (s : String) : String :=
  "\"" ++ String.join (s.toList.map printChar) ++ "\""

def Number.print : Number → String
  | .integer n => if n < 0 then "-" ++ n.natAbs.repr else n.natAbs.repr
  | .float x => Double.json.text x

mutual
def print : Json → String
  | .null => "null"
  | .bool b => if b then "true" else "false"
  | .number n => n.print
  | .string s => printString s
  | .array items => "[" ++ ",".intercalate (printItems items) ++ "]"
  | .object members => "\x7b" ++ ",".intercalate (printMembers members) ++ "\x7d"
def printItems : List Json → List String
  | [] => []
  | item :: items => print item :: printItems items
def printMembers : List (String × Json) → List String
  | [] => []
  | (key, value) :: members => (printString key ++ ":" ++ print value) :: printMembers members
end

def block (indent : Nat) (opening closing : String) (lines : List String) : String :=
  let newline (indent : Nat) := "\n" ++ "".pushn ' ' indent
  if lines.isEmpty then opening ++ closing
  else
    opening ++ ",".intercalate (lines.map (newline (indent + 2) ++ ·)) ++ newline indent ++ closing

mutual
def pretty (indent : Nat) : Json → String
  | .array items => block indent "[" "]" (prettyItems (indent + 2) items)
  | .object members => block indent "\x7b" "\x7d" (prettyMembers (indent + 2) members)
  | scalar => scalar.print
def prettyItems (indent : Nat) : List Json → List String
  | [] => []
  | item :: items => pretty indent item :: prettyItems indent items
def prettyMembers (indent : Nat) : List (String × Json) → List String
  | [] => []
  | (key, value) :: members =>
    (printString key ++ ": " ++ pretty indent value) :: prettyMembers indent members
end

end DynSeq.Json
