import DynSeq.LogFilter.Pattern
import DynSeq.Text.Space

namespace DynSeq.LogFilter

/-- Why a filter cannot be used: it is none, or a cut through one of its characters has stopped the
reading. -/
inductive Fault where
  | refused
  | torn
deriving DecidableEq, Inhabited

def dropBytes : Nat → List Char → Option (List Char)
  | 0, cs => some cs
  | _ + 1, [] => none
  | n + 1, c :: cs => if c.utf8Size ≤ n + 1 then dropBytes (n + 1 - c.utf8Size) cs else none

def takeBytes : Nat → List Char → Option (List Char)
  | 0, _ => some []
  | _ + 1, [] => none
  | n + 1, c :: cs =>
    if c.utf8Size ≤ n + 1 then (takeBytes (n + 1 - c.utf8Size) cs).map (c :: ·) else none

def cut (text : List Char) (first last : Nat) : Except Fault (List Char) :=
  match (dropBytes first text).bind (takeBytes (last - first)) with
  | some piece => .ok piece
  | none => .error .torn

def isLevel (cs : List Char) : Bool :=
  let digits := match cs with
    | '+' :: rest => rest
    | _ => cs
  let isSmall := match digits.dropWhile (· = '0') with
    | [] => !digits.isEmpty
    | [digit] => '1' ≤ digit && digit ≤ '5'
    | _ => false
  cs.isEmpty || isSmall ||
    ["error", "warn", "info", "debug", "trace", "off"].contains
      (String.ofList (cs.map Char.toLower))

def isNumber (cs : List Char) : Bool :=
  let whole := cs.takeWhile Char.isDigit
  let (fraction, rest) := match cs.dropWhile Char.isDigit with
    | '.' :: rest => (rest.takeWhile Char.isDigit, rest.dropWhile Char.isDigit)
    | rest => ([], rest)
  let isExponent : List Char → Bool
    | [] => true
    | e :: rest =>
      let digits := match rest with
        | '+' :: digits => digits
        | '-' :: digits => digits
        | digits => digits
      (e = 'e' || e = 'E') && !digits.isEmpty && digits.all Char.isDigit
  (!(whole ++ fraction).isEmpty && isExponent rest) ||
    ["inf", "infinity", "nan"].contains (String.ofList (cs.map Char.toLower))

def isValue : List Char → Bool
  | '+' :: rest => isNumber rest
  | cs => Pattern.isWellFormed cs

def isField (cs : List Char) : Bool :=
  !cs.isEmpty && match cs.dropWhile (· != '=') with
    | [] => true
    | _ :: rest => isValue (rest.takeWhile (· != '='))

inductive Progress where
  | start
  | name
  | span (first : Nat)
  | field (first : Nat)
  | fields
  | closed
  | level (first : Nat)
deriving DecidableEq

def Progress.step (text : List Char) (position : Nat) (c : Char) :
    Progress → Except Fault Progress
  | .start =>
    if c = '[' then .ok (.span (position + 1))
    else if c = '-' || c = ':' || c = '_' || Text.isAlphanumeric c then .ok .name
    else .error .refused
  | .name => do
    if c = '=' then
      let _ ← cut text 0 position
      return .level (position + 1)
    else if c = '[' then
      let _ ← cut text 0 position
      return .span (position + 1)
    else return .name
  | .span first => do
    if c = ']' then
      let _ ← cut text first position
      return .closed
    else if c = '\x7b' then
      let _ ← cut text first position
      return .field (position + 1)
    else return .span first
  | .field first => do
    if c = '\x7d' then
      if isField (← cut text first position) then return .fields else .error .refused
    else return .field first
  | .fields => if c = ']' then .ok .closed else .error .refused
  | .closed => if c = '=' then .ok (.level (position + 1)) else .error .refused
  | .level first => .ok (.level first)

def Progress.advance (text : List Char) :
    Nat → List Char → Progress → Except Fault Progress
  | _, [], p => .ok p
  | position, c :: cs, p => do advance text (position + c.utf8Size) cs (← p.step text position c)

def Progress.finish (text : List Char) : Progress → Except Fault Unit
  | .name | .closed => .ok ()
  | .level first =>
    match dropBytes first text with
    | none => .error .torn
    | some piece => if isLevel piece then .ok () else .error .refused
  | _ => .error .refused

/-- Judges a directive: a name or a span, fields in the span, and a level. White space around it is
passed over. The positions are counted without it and the pieces cut out of the text with it, so
that white space in front moves every piece. -/
def checkDirective (text : List Char) : Except Fault Unit := do
  (← Progress.start.advance text 0 (Text.trim text)).finish text

def check (filter : String) : Except Fault Unit :=
  ((filter.splitOn ",").filter (!·.isEmpty)).forM fun directive ↦ checkDirective directive.toList

def isTorn (filter : String) : Bool :=
  match check filter with
  | .error .torn => true
  | _ => false

end DynSeq.LogFilter
