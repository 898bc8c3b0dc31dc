import DynSeq.CommandLine

namespace DynSeq.Main

/-- The number of an error of the operating system, which may come negated. -/
def errorNumber (code : UInt32) : UInt32 :=
  if code < 0x80000000 then code else 0 - code

def readError : IO.Error → ReadError
  | .noFileOrDirectory .. => .notFound
  | .inappropriateType _ code _ =>
    if errorNumber code = 20 then .notADirectory else .isADirectory
  | .invalidArgument _ code details =>
    if errorNumber code = 36 then .nameTooLong
    else .other s!"{details} (os error {errorNumber code})"
  | .permissionDenied _ code _ => .other s!"Permission denied (os error {errorNumber code})"
  | e => .other (toString e)

def readFile (path : String) : IO (Except ReadError String) := do
  try
    return FileTree.decoded (← IO.FS.readBinFile path)
  catch e => return .error (readError e)

def isThere (path : String) : IO Bool := do
  try
    let _ ← IO.FS.realPath path
    return true
  catch _ => return false

def environment : IO Settings.Environment := do
  return ⟨← IO.getEnv Settings.outputVariable, ← IO.getEnv Settings.logVariable,
    ← IO.getEnv Settings.untypedVariable⟩

end DynSeq.Main

open DynSeq in
def main (args : List String) : IO UInt32 := do
  let paths := match CommandLine.Invocation.ofArguments args with
    | .ok i => i.files
    | .error _ => []
  let found ← paths.filterM Main.isThere
  let contents ← paths.mapM fun path ↦ return (path, ← Main.readFile path)
  let read : Reading :=
    ⟨found.contains, fun path ↦ (contents.lookup path).getD (.error .notFound)⟩
  let ending := CommandLine.run read (← Main.environment) args
  IO.print ending.stdout
  IO.eprint ending.stderr
  return ending.code
