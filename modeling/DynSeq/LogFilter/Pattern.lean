import DynSeq.Text.Alphanumeric
import DynSeq.Text.Hex

namespace DynSeq.LogFilter.Pattern

def character? (digits : Nat) (cs : List Char) : Option (List Char) :=
  match Text.readHex digits cs with
  | some (n, rest) => if n.isValidChar then some rest else none
  | none => none

/-- What follows an escape, from behind its backslash. There are no escapes for classes of
characters or word boundaries, and none for other letters and digits. -/
def skipEscape : List Char → Option (List Char)
  | [] => none
  | 'x' :: rest => character? 2 rest
  | 'u' :: rest => character? 4 rest
  | 'U' :: rest => character? 8 rest
  | c :: rest =>
    if c.isAlphanum then if "aftnrvAz".contains c then some rest else none
    else if c.toNat < 0x80 && c != '<' && c != '>' then some rest
    else none

def skipSetStart (cs : List Char) : List Char :=
  (match cs with
    | '^' :: rest => rest
    | rest => rest).dropWhile (· = '-')

def skipSet : Nat → Nat → Bool → List Char → Option (List Char)
  | 0, _, _, _ => none
  | _, _, _, [] => none
  | steps + 1, depth, _, '[' :: rest => skipSet steps (depth + 1) true (skipSetStart rest)
  | steps + 1, depth, atStart, ']' :: rest =>
    if atStart then skipSet steps depth false rest
    else if depth = 0 then some rest
    else skipSet steps (depth - 1) false rest
  | steps + 1, depth, _, '\\' :: rest => (skipEscape rest).bind (skipSet steps depth false)
  | steps + 1, depth, _, first :: '-' :: last :: rest =>
    if last = ']' || last = '-' || last = '\\' then skipSet steps depth false ('-' :: last :: rest)
    else if first ≤ last then skipSet steps depth false rest
    else none
  | steps + 1, depth, _, _ :: rest => skipSet steps depth false rest

def areSwitches (cs : List Char) : Bool :=
  cs.all ("imsUuRx-".contains ·) && cs.eraseDups == cs && cs.getLast? != some '-'

def skipName (cs : List Char) : Option (List Char) :=
  let name := cs.takeWhile (· != '>')
  let isPart (c : Char) : Bool := c = '_' || Text.isAlphanumeric c
  if name.isEmpty || !name.all isPart || name.head?.any (·.isDigit) then none
  else match cs.dropWhile (· != '>') with
    | '>' :: rest => some rest
    | _ => none

def openGroup : List Char → Option (Bool × List Char)
  | '?' :: 'P' :: '<' :: rest => (skipName rest).map (true, ·)
  | '?' :: '<' :: rest => (skipName rest).map (true, ·)
  | '?' :: rest =>
    let switches := rest.takeWhile fun c ↦ c != ':' && c != ')'
    if !areSwitches switches then none
    else match rest.drop switches.length with
      | ':' :: rest => some (true, rest)
      | ')' :: rest => if switches.isEmpty then none else some (false, rest)
      | _ => none
  | rest => some (true, rest)

/-- Whether the rest of a pattern is well formed inside `depth` groups. A sign of repetition needs
something before it, and a counted one would need a closing brace, which no pattern of a filter can
hold. -/
def scan : Nat → Nat → Bool → List Char → Bool
  | 0, _, _, _ => false
  | _, depth, _, [] => depth = 0
  | steps + 1, depth, repeatable, c :: rest =>
    if c = '(' then
      match openGroup rest with
      | some (isOpen, rest) => scan steps (if isOpen then depth + 1 else depth) false rest
      | none => false
    else if c = ')' then depth != 0 && scan steps (depth - 1) true rest
    else if c = '|' then scan steps depth false rest
    else if c = '*' || c = '+' || c = '?' then repeatable && scan steps depth true rest
    else if c = '\x7b' then false
    else if c = '[' then
      let after := skipSet (rest.length + 1) 0 true (skipSetStart rest)
      (after.map (scan steps depth true)).getD false
    else if c = '\\' then ((skipEscape rest).map (scan steps depth true)).getD false
    else scan steps depth true rest

def isWellFormed (cs : List Char) : Bool :=
  scan (cs.length + 1) 0 false cs

end DynSeq.LogFilter.Pattern
