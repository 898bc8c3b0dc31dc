import DynSeq.CommandLine.Apply
import DynSeq.CommandLine.Arguments
import DynSeq.CommandLine.Listing
import DynSeq.LogFilter
import DynSeq.Version

namespace DynSeq.CommandLine

structure Ending where
  code : UInt32
  stdout : String
  stderr : String
deriving DecidableEq, Inhabited

def indented (mark : String) (message : String) : String :=
  ("\n" ++ "".pushn ' ' mark.length).intercalate (message.splitOn "\n") |> (mark ++ ·)

def causes : List String → List String
  | [] => []
  | [cause] => ["", "Caused by:", indented "    " cause]
  | many => "" :: "Caused by:" :: many.mapIdx fun i cause ↦ indented s!"    {i}: " cause

def report : List String → String
  | [] => ""
  | message :: rest => "\n".intercalate (("Error: " ++ message) :: causes rest) ++ "\n"

def usage : String :=
  "Usage: tmplfunc [--config FILE] [--log FILTER] COMMAND\n\n" ++
  "  apply OPERATION FUNCTION [VALUE...] [--data FILE] [--untyped] [--json]\n" ++
  "  list [--json]\n"

/-- The layer of the options, which can only ask for JSON and for untyped arrays, not against
them. -/
def Invocation.layer (i : Invocation) : Settings.Layer where
  output := if i.command.json then some .json else none
  log := i.log
  untyped := if i.command.untyped then some true else none

def settings (read : Reading) (environment : Settings.Environment) (i : Invocation) :
    Except SettingsError Settings := do
  return (← Settings.load read i.config environment).overlaidBy i.layer

def perform (read : Reading) (s : Settings) : Command → Except (List String) String
  | .apply op func values data _ _ =>
    match Application.execute read ⟨op, func, values, data, s.untyped, s.output⟩ with
    | .ok text => .ok (text ++ "\n")
    | .error e => .error e.chain
  | .list _ => .ok (listing s.output)

def failed (chain : List String) : Ending :=
  ⟨1, "", report chain⟩

/-- Loads the settings and performs the command. A log filter that is none is passed over, but one
that stops the reading stops the program. -/
def answer (read : Reading) (environment : Settings.Environment) (i : Invocation) : Ending :=
  match settings read environment i with
  | .error e => failed ("Failed to load configuration" :: e.chain)
  | .ok s =>
    if LogFilter.isTorn s.log then ⟨101, "", s!"The log filter '{s.log}' is torn\n"⟩
    else match perform read s i.command with
      | .ok text => ⟨0, text, ""⟩
      | .error chain => failed chain

def run (read : Reading) (environment : Settings.Environment) (args : List String) : Ending :=
  match Invocation.ofArguments args with
  | .error (.version name) => ⟨0, s!"{name} {version}\n", ""⟩
  | .error .help => ⟨0, usage, ""⟩
  | .error .misuse => ⟨2, "", usage⟩
  | .ok i => answer read environment i

def Invocation.files (i : Invocation) : List String :=
  i.config.getD Settings.defaultFile :: match i.command with
    | .apply _ _ _ data _ _ => data.toList
    | .list _ => []

end DynSeq.CommandLine
