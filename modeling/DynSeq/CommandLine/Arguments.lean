import DynSeq.Operation

namespace DynSeq.CommandLine

inductive Command where
  | apply (op : Operation) (func : String) (values : List String) (data : Option String)
    (untyped json : Bool)
  | list (json : Bool)
deriving DecidableEq, Inhabited

namespace Command

def json : Command → Bool
  | .apply _ _ _ _ _ json => json
  | .list json => json

def untyped : Command → Bool
  | .apply _ _ _ _ untyped _ => untyped
  | .list _ => false

end Command

structure Invocation where
  config : Option String
  log : Option String
  command : Command
deriving DecidableEq, Inhabited

inductive Stop where
  | version (name : String)
  | help
  | misuse
deriving DecidableEq, Inhabited

inductive Flag where
  | config
  | log
  | data
  | untyped
  | json
  | help
  | version
deriving DecidableEq, Inhabited

namespace Flag

def takesValue : Flag → Bool
  | .config | .log | .data => true
  | _ => false

def accepts : Flag → String → Bool
  | .config, value | .data, value => !value.isEmpty
  | _, _ => true

end Flag

inductive Level where
  | program
  | apply
  | list
deriving DecidableEq, Inhabited

namespace Level

def name : Level → String
  | .program => "tmplfunc"
  | .apply => "tmplfunc-apply"
  | .list => "tmplfunc-list"

def ofName? : String → Option Level
  | "apply" | "a" => some .apply
  | "list" | "ls" => some .list
  | _ => none

def long? : Level → String → Option Flag
  | _, "config" => some .config
  | _, "log" => some .log
  | _, "help" => some .help
  | _, "version" => some .version
  | .apply, "data" => some .data
  | .apply, "untyped" => some .untyped
  | .apply, "json" | .list, "json" => some .json
  | _, _ => none

def short? : Level → Char → Option Flag
  | _, 'h' => some .help
  | _, 'V' => some .version
  | .apply, 'd' => some .data
  | _, _ => none

end Level

inductive Form where
  | terminator
  | long (name : String) (value : Option String)
  | short (letters : List Char)
  | word
deriving DecidableEq

def Form.of (arg : String) : Form :=
  match arg.toList with
  | ['-', '-'] => .terminator
  | '-' :: '-' :: rest =>
    let name := String.ofList (rest.takeWhile (· != '='))
    match rest.dropWhile (· != '=') with
    | '=' :: value => .long name (some (String.ofList value))
    | _ => .long name none
  | '-' :: c :: rest => .short (c :: rest)
  | _ => .word

/-- What follows the minus of a negative number: digits, with at most one point and one exponent
behind the first, and something behind the exponent. The flags say whether a digit or point may
have come before, and whether a point and an exponent are still to come. -/
def isNumber (first point exponent : Bool) : List Char → Bool
  | [] => true
  | ['e'] | ['E'] => false
  | c :: cs =>
    if c.isDigit then isNumber false point exponent cs
    else if c = '.' && point && exponent && !first then isNumber false false exponent cs
    else if (c = 'e' || c = 'E') && exponent && !first then isNumber false point false cs
    else false

structure Given where
  flags : List (Flag × String)
  words : List String

namespace Given

def empty : Given := ⟨[], []⟩

def has (g : Given) (f : Flag) : Bool :=
  g.flags.any (·.1 == f)

def value? (g : Given) (f : Flag) : Option String :=
  (g.flags.find? (·.1 == f)).map (·.2)

def flag (level : Level) (f : Flag) (value : String) (g : Given) : Except Stop Given :=
  match f with
  | .help => .error .help
  | .version => .error (.version level.name)
  | f =>
    if g.has f || !f.accepts value then .error .misuse
    else .ok { g with flags := (f, value) :: g.flags }

def word (level : Level) (g : Given) (w : String) : Except Stop Given :=
  if level = .apply ∧ (g.words ≠ [] ∨ (Operation.ofName? w).isSome) then
    .ok { g with words := g.words ++ [w] }
  else .error .misuse

def takesNumber (level : Level) (g : Given) : Bool :=
  level = .apply && 2 ≤ g.words.length

def isWord (level : Level) (g : Given) (arg : String) : Bool :=
  match Form.of arg with
  | .word => true
  | .short letters => g.takesNumber level && isNumber true true true letters
  | _ => false

/-- Adds the options of an argument like `-xyz`. What follows an option that takes a value is its
value; if nothing follows, the option waits for the next argument. -/
def letters (level : Level) (g : Given) : List Char → Except Stop (Given × Option Flag)
  | [] => .ok (g, none)
  | c :: rest =>
    match level.short? c with
    | none => .error .misuse
    | some f =>
      if f.takesValue then
        match rest with
        | [] => .ok (g, some f)
        | '=' :: value => do return (← g.flag level f (String.ofList value), none)
        | value => do return (← g.flag level f (String.ofList value), none)
      else do letters level (← g.flag level f "") rest

def long (level : Level) (g : Given) (name : String) (value : Option String) :
    Except Stop (Given × Option Flag) :=
  match level.long? name, value with
  | none, _ => .error .misuse
  | some f, none =>
    if f.takesValue then .ok (g, some f) else do return (← g.flag level f "", none)
  | some f, some value =>
    if f.takesValue then do return (← g.flag level f value, none) else .error .misuse

/-- Reads arguments for the program or a command, where an option may wait for its value. The
arguments of the program end with the name of a command, which has the rest for itself. -/
def read (level : Level) :
    Option Flag → Given → List String → Except Stop (Given × Option (String × List String))
  | none, g, [] => .ok (g, none)
  | some _, _, [] => .error .misuse
  | some f, g, arg :: rest =>
    if g.isWord level arg then do read level none (← g.flag level f arg) rest
    else .error .misuse
  | none, g, arg :: rest =>
    if g.isWord level arg then
      if level = .program then .ok (g, some (arg, rest))
      else do read level none (← g.word level arg) rest
    else
      match Form.of arg with
      | .terminator => do return (← rest.foldlM (word level) g, none)
      | .long name value => do
        let (g, waiting) ← g.long level name value
        read level waiting g rest
      | .short cs => do
        let (g, waiting) ← g.letters level cs
        read level waiting g rest
      | .word => .error .misuse

def command? (level : Level) (g : Given) : Except Stop Command :=
  match level, g.words with
  | .apply, op :: func :: values =>
    match Operation.ofName? op with
    | none => .error .misuse
    | some op =>
      if g.has .data ∧ values ≠ [] then .error .misuse
      else .ok (.apply op func values (g.value? .data) (g.has .untyped) (g.has .json))
  | .list, _ => .ok (.list (g.has .json))
  | _, _ => .error .misuse

end Given

def help? : List String → Stop
  | [] => .help
  | [name] => if (Level.ofName? name).isSome || name = "help" then .help else .misuse
  | _ => .misuse

namespace Invocation

/-- Reads all arguments. An option for all commands may stand before the command and behind it;
the latter wins. -/
def ofArguments (args : List String) : Except Stop Invocation := do
  let (general, command) ← Given.empty.read .program none args
  match command with
  | none => .error .misuse
  | some (name, rest) =>
    match Level.ofName? name with
    | none => .error (if name = "help" then help? rest else .misuse)
    | some level =>
      let (special, _) ← Given.empty.read level none rest
      let command ← special.command? level
      return ⟨(special.value? .config).or (general.value? .config),
        (special.value? .log).or (general.value? .log), command⟩

end Invocation

end DynSeq.CommandLine
