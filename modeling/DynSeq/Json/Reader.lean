import DynSeq.Json.Number
import DynSeq.Text.Hex

namespace DynSeq.Json

def isBlank (c : Char) : Bool :=
  c = ' ' || c = '\t' || c = '\n' || c = '\r'

def skipBlank (cs : List Char) : List Char :=
  cs.dropWhile isBlank

namespace Number

def readExponent : List Char → Option (Option Int × List Char)
  | 'e' :: cs | 'E' :: cs =>
    let (negative, rest) : Bool × List Char :=
      match cs with
      | '-' :: rest => (true, rest)
      | '+' :: rest => (false, rest)
      | rest => (false, rest)
    let digits := rest.takeWhile Char.isDigit
    let value : Int := digits.foldl (fun n c ↦ 10 * n + digitValue c) 0
    if digits.isEmpty then none
    else some (some (if negative then -value else value), rest.dropWhile Char.isDigit)
  | cs => some (none, cs)

def readDecimals : List Char → Option (Option (List Char) × List Char)
  | '.' :: cs =>
    let digits := cs.takeWhile Char.isDigit
    if digits.isEmpty then none else some (some digits, cs.dropWhile Char.isDigit)
  | cs => some (none, cs)

def readUnsigned (negative : Bool) (cs : List Char) : Option (Number × List Char) :=
  let whole := cs.takeWhile Char.isDigit
  if whole.isEmpty || (whole.head? == some '0' && 1 < whole.length) then none
  else do
    let (decimals, cs) ← readDecimals (cs.dropWhile Char.isDigit)
    let (exponent, cs) ← readExponent cs
    let n ← ofWritten ⟨negative, whole, decimals, exponent⟩
    some (n, cs)

def read : List Char → Option (Number × List Char)
  | '-' :: cs => readUnsigned true cs
  | cs => readUnsigned false cs

end Number

/-- What follows `\u`: one unit, or the two halves of a surrogate pair, which never stand alone. -/
def readCodePoint (cs : List Char) : Option (Char × List Char) := do
  let (unit, rest) ← Text.readHex 4 cs
  if 0xd800 ≤ unit ∧ unit < 0xdc00 then
    match rest with
    | '\\' :: 'u' :: rest =>
      let (low, rest) ← Text.readHex 4 rest
      if 0xdc00 ≤ low ∧ low < 0xe000 then
        some (Char.ofNat (0x10000 + (unit - 0xd800) * 0x400 + (low - 0xdc00)), rest)
      else none
    | _ => none
  else if 0xdc00 ≤ unit ∧ unit < 0xe000 then none
  else some (Char.ofNat unit, rest)

def simpleEscape? : Char → Option Char
  | '"' => some '"'
  | '\\' => some '\\'
  | '/' => some '/'
  | 'b' => some '\x08'
  | 'f' => some '\x0c'
  | 'n' => some '\n'
  | 'r' => some '\r'
  | 't' => some '\t'
  | _ => none

def readChar : List Char → Option (Char × List Char)
  | '\\' :: 'u' :: rest => readCodePoint rest
  | '\\' :: c :: rest => (simpleEscape? c).map (·, rest)
  | c :: rest => if c.toNat < 0x20 then none else some (c, rest)
  | [] => none

def readChars : Nat → List Char → Option (List Char × List Char)
  | 0, _ => none
  | _ + 1, '"' :: rest => some ([], rest)
  | steps + 1, cs => do
    let (c, rest) ← readChar cs
    let (text, rest) ← readChars steps rest
    some (c :: text, rest)

def readString (cs : List Char) : Option (String × List Char) := do
  let (text, rest) ← readChars cs.length cs
  some (String.ofList text, rest)

def readScalar : List Char → Option (Json × List Char)
  | 'n' :: 'u' :: 'l' :: 'l' :: rest => some (.null, rest)
  | 't' :: 'r' :: 'u' :: 'e' :: rest => some (.bool true, rest)
  | 'f' :: 'a' :: 'l' :: 's' :: 'e' :: rest => some (.bool false, rest)
  | '"' :: rest => do
    let (s, rest) ← readString rest
    some (.string s, rest)
  | cs => do
    let (n, rest) ← Number.read cs
    some (.number n, rest)

mutual
/-- A value after any blanks, with at most `depth` arrays and objects inside each other. -/
def readValue : Nat → Nat → List Char → Option (Json × List Char)
  | 0, _, _ => none
  | steps + 1, depth, cs =>
    match skipBlank cs, depth with
    | '[' :: _, 0 => none
    | '[' :: rest, depth + 1 =>
      match skipBlank rest with
      | ']' :: rest => some (.array [], rest)
      | rest => do
        let (items, rest) ← readItems steps depth rest
        some (.array items, rest)
    | '\x7b' :: _, 0 => none
    | '\x7b' :: rest, depth + 1 =>
      match skipBlank rest with
      | '\x7d' :: rest => some (.object [], rest)
      | rest => do
        let (members, rest) ← readMembers steps depth rest
        some (.object members, rest)
    | cs, _ => readScalar cs
def readItems : Nat → Nat → List Char → Option (List Json × List Char)
  | 0, _, _ => none
  | steps + 1, depth, cs => do
    let (item, rest) ← readValue steps depth cs
    match skipBlank rest with
    | ',' :: rest =>
      let (items, rest) ← readItems steps depth rest
      some (item :: items, rest)
    | ']' :: rest => some ([item], rest)
    | _ => none
def readMembers : Nat → Nat → List Char → Option (List (String × Json) × List Char)
  | 0, _, _ => none
  | steps + 1, depth, cs =>
    match skipBlank cs with
    | '"' :: rest => do
      let (key, rest) ← readString rest
      match skipBlank rest with
      | ':' :: rest =>
        let (value, rest) ← readValue steps depth rest
        match skipBlank rest with
        | ',' :: rest =>
          let (members, rest) ← readMembers steps depth rest
          some ((key, value) :: members, rest)
        | '\x7d' :: rest => some ([(key, value)], rest)
        | _ => none
      | _ => none
    | _ => none
end

def maxDepth : Nat := 127

/-- A document is one value with nothing but blanks around it. Each reader above either reads a
character or hands on to one that does, so that two steps for each character are enough. -/
def read (text : String) : Option Json := do
  let cs := text.toList
  let (value, rest) ← readValue (2 * cs.length + 1) maxDepth cs
  if (skipBlank rest).isEmpty then some value else none

end DynSeq.Json
