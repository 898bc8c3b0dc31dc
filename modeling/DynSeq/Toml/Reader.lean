import DynSeq.Text.Hex
import DynSeq.Toml

namespace DynSeq.Toml

def isBlank (c : Char) : Bool :=
  c = ' ' || c = '\t'

def skipBlank (cs : List Char) : List Char :=
  cs.dropWhile isBlank

def isAllowed (c : Char) : Bool :=
  c = '\t' || (0x20 ≤ c.toNat && c.toNat != 0x7f)

def newline? : List Char → Option (List Char)
  | '\n' :: rest => some rest
  | '\r' :: '\n' :: rest => some rest
  | _ => none

def skipComment : List Char → List Char
  | '#' :: rest => rest.dropWhile isAllowed
  | cs => cs

def skipLines : Nat → List Char → List Char
  | 0, cs => cs
  | steps + 1, cs =>
    let cs := skipComment (skipBlank cs)
    match newline? cs with
    | some rest => skipLines steps rest
    | none => cs

def character? (n : Nat) : Option Char :=
  if h : n.isValidChar then some (Char.ofNatAux n h) else none

def readEscape : List Char → Option (Char × List Char)
  | 'b' :: rest => some ('\x08', rest)
  | 't' :: rest => some ('\t', rest)
  | 'n' :: rest => some ('\n', rest)
  | 'f' :: rest => some ('\x0c', rest)
  | 'r' :: rest => some ('\r', rest)
  | '"' :: rest => some ('"', rest)
  | '\\' :: rest => some ('\\', rest)
  | 'u' :: rest => do
    let (n, rest) ← Text.readHex 4 rest
    return (← character? n, rest)
  | 'U' :: rest => do
    let (n, rest) ← Text.readHex 8 rest
    return (← character? n, rest)
  | _ => none

def readLine (quote : Char) : Nat → List Char → Option (List Char × List Char)
  | 0, _ => none
  | _, [] => none
  | steps + 1, c :: cs =>
    if c = quote then some ([], cs)
    else do
      let (c, rest) ←
        if c = '\\' && quote = '"' then readEscape cs
        else if isAllowed c then some (c, cs)
        else none
      let (text, rest) ← readLine quote steps rest
      some (c :: text, rest)

def skipBlankLines : List Char → List Char
  | [] => []
  | '\r' :: '\n' :: rest => skipBlankLines rest
  | c :: rest => if isBlank c || c = '\n' then skipBlankLines rest else c :: rest

def joined? (cs : List Char) : Option (List Char) :=
  (newline? (skipBlank cs)).map skipBlankLines

/-- A text on several lines, up to its three closing quotes, before which up to two quotes belong
to the text. Line breaks are all alike. -/
def readLongText (quote : Char) : Nat → List Char → Option (List Char × List Char)
  | 0, _ => none
  | _, [] => none
  | steps + 1, c :: cs =>
    let quotes := ((c :: cs).takeWhile (· = quote)).length
    if 3 ≤ quotes then
      if quotes ≤ 5 then some (List.replicate (quotes - 3) quote, cs.drop (quotes - 1)) else none
    else
      let joined := if c = '\\' && quote = '"' then joined? cs else none
      match joined, newline? (c :: cs) with
      | some rest, _ => readLongText quote steps rest
      | none, some rest => do
        let (text, rest) ← readLongText quote steps rest
        some ('\n' :: text, rest)
      | none, none => do
        let (c, rest) ←
          if c = '\\' && quote = '"' then readEscape cs
          else if isAllowed c then some (c, cs)
          else none
        let (text, rest) ← readLongText quote steps rest
        some (c :: text, rest)

def readText (allowLong : Bool) : List Char → Option (String × List Char)
  | q :: cs => do
    if q != '"' && q != '\'' then none
    else
      let (text, rest) ←
        match cs with
        | q' :: q'' :: rest =>
          if q' = q && q'' = q then
            if allowLong then
              let rest := (newline? rest).getD rest
              readLongText q (rest.length + 1) rest
            else some ([], q'' :: rest)
          else readLine q (cs.length + 1) cs
        | cs => readLine q (cs.length + 1) cs
      some (String.ofList text, rest)
  | [] => none

def isBareKey (c : Char) : Bool :=
  c.isAlphanum || c = '_' || c = '-'

def readSimpleKey (cs : List Char) : Option (String × List Char) :=
  match readText false cs with
  | some key => some key
  | none =>
    let key := cs.takeWhile isBareKey
    if key.isEmpty then none else some (String.ofList key, cs.dropWhile isBareKey)

def readKey : Nat → List Char → Option (List String × List Char)
  | 0, _ => none
  | steps + 1, cs => do
    let (key, rest) ← readSimpleKey (skipBlank cs)
    match skipBlank rest with
    | '.' :: rest =>
      let (keys, rest) ← readKey steps rest
      some (key :: keys, rest)
    | rest => some ([key], rest)

def readInteger (cs : List Char) : Option (Int × List Char) :=
  let (negative, digits) : Bool × List Char :=
    match cs with
    | '-' :: rest => (true, rest)
    | '+' :: rest => (false, rest)
    | rest => (false, rest)
  let isPart (c : Char) : Bool := c.isDigit || c = '_'
  let groups := (digits.takeWhile isPart).splitOn '_'
  let whole := groups.flatten
  if groups.any (·.isEmpty) || (whole.head? == some '0' && 1 < whole.length) then none
  else
    let n := whole.foldl (fun n c ↦ 10 * n + (c.toNat - '0'.toNat)) 0
    some (if negative then -(n : Int) else n, digits.dropWhile isPart)

def readScalar : List Char → Option (Toml × List Char)
  | 't' :: 'r' :: 'u' :: 'e' :: rest => some (.boolean true, rest)
  | 'f' :: 'a' :: 'l' :: 's' :: 'e' :: rest => some (.boolean false, rest)
  | c :: cs =>
    if c = '"' || c = '\'' then (readText true (c :: cs)).map fun (s, rest) ↦ (.string s, rest)
    else (readInteger (c :: cs)).map fun (n, rest) ↦ (.integer n, rest)
  | [] => none

mutual
def readValue : Nat → List Char → Option (Toml × List Char)
  | 0, _ => none
  | steps + 1, cs =>
    match cs with
    | '[' :: rest => do
      let (items, rest) ← readItems steps rest
      some (.array items, rest)
    | '\x7b' :: rest =>
      match skipBlank rest with
      | '\x7d' :: rest => some (.table [], rest)
      | rest => do
        let (lines, rest) ← readMembers steps rest
        let members ← ofLines lines
        some (.table members, rest)
    | cs => readScalar cs
def readItems : Nat → List Char → Option (List Toml × List Char)
  | 0, _ => none
  | steps + 1, cs =>
    match skipLines cs.length cs with
    | ']' :: rest => some ([], rest)
    | cs => do
      let (item, rest) ← readValue steps cs
      match skipLines rest.length rest with
      | ',' :: rest =>
        let (items, rest) ← readItems steps rest
        some (item :: items, rest)
      | ']' :: rest => some ([item], rest)
      | _ => none
def readMembers : Nat → List Char → Option (List Line × List Char)
  | 0, _ => none
  | steps + 1, cs => do
    let (line, rest) ← readAssign steps cs
    match skipBlank rest with
    | ',' :: rest =>
      let (lines, rest) ← readMembers steps rest
      some (line :: lines, rest)
    | '\x7d' :: rest => some ([line], rest)
    | _ => none
def readAssign : Nat → List Char → Option (Line × List Char)
  | 0, _ => none
  | steps + 1, cs => do
    let (path, rest) ← readKey (cs.length + 1) cs
    match rest with
    | '=' :: rest =>
      let (value, rest) ← readValue steps (skipBlank rest)
      some (.assign path value, rest)
    | _ => none
end

def readHeader (cs : List Char) : Option (Line × List Char) := do
  let (path, rest) ← readKey (cs.length + 1) cs
  match rest with
  | ']' :: rest => some (.header path, rest)
  | _ => none

def readLines : Nat → List Char → Option (List Line)
  | 0, _ => none
  | steps + 1, cs =>
    match skipLines cs.length cs with
    | [] => some []
    | c :: cs => do
      let (line, rest) ← if c = '[' then readHeader cs else readAssign steps (c :: cs)
      match skipComment (skipBlank rest) with
      | [] => some [line]
      | rest =>
        let rest ← newline? rest
        let lines ← readLines steps rest
        some (line :: lines)

/-- The members of a document, before which a byte order mark may stand. Every reader above reads
a character or hands on to one that does, so that four steps for each character are enough. -/
def read (text : String) : Option (List (String × Toml)) := do
  let cs := match text.toList with
    | '\ufeff' :: cs => cs
    | cs => cs
  let lines ← readLines (4 * cs.length + 4) cs
  ofLines lines

end DynSeq.Toml
