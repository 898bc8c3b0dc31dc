namespace DynSeq

inductive ReadError where
  | notFound
  | notADirectory
  | isADirectory
  | nameTooLong
  | nulInName
  | notUtf8
  | other (message : String)
deriving DecidableEq, Inhabited

def ReadError.message : ReadError → String
  | .notFound => "No such file or directory (os error 2)"
  | .notADirectory => "Not a directory (os error 20)"
  | .isADirectory => "Is a directory (os error 21)"
  | .nameTooLong => "File name too long (os error 36)"
  | .nulInName => "file name contained an unexpected NUL byte"
  | .notUtf8 => "stream did not contain valid UTF-8"
  | .other message => message

/-- What can be learnt of a file by its name: whether it is there, and the text that it holds. The
two are asked apart, since a file that is there may still refuse to be read. -/
structure Reading where
  isThere : String → Bool
  text : String → Except ReadError String

def Reading.empty : Reading :=
  ⟨fun _ ↦ false, fun _ ↦ .error .notFound⟩

inductive FileTree where
  | file (content : ByteArray)
  | directory (entries : List (String × FileTree))
deriving Inhabited

namespace FileTree

def decoded (content : ByteArray) : Except ReadError String :=
  match String.fromUTF8? content with
  | some text => .ok text
  | none => .error .notUtf8

def unknown : FileTree :=
  .directory []

/-- What is known of the file system from its root: the usual directories, and the null device,
which is always empty. -/
def root : FileTree :=
  .directory (("dev", .directory [("null", .file .empty)]) ::
    ["etc", "home", "proc", "sys", "tmp", "usr", "var"].map (·, unknown))

def surroundings : List FileTree :=
  [unknown, root]

/-- Follows the parts of a path, `above` being the directories above this one, nearest first. The
root, which has none above it, is its own parent. -/
def follow : List FileTree → FileTree → List String → Except ReadError FileTree
  | _, tree, [] => .ok tree
  | _, .file _, _ :: _ => .error .notADirectory
  | above, .directory entries, name :: rest =>
    if name = "" ∨ name = "." then follow above (.directory entries) rest
    else if name = ".." then
      match above with
      | [] => follow [] (.directory entries) rest
      | parent :: above => follow above parent rest
    else if 255 < name.utf8ByteSize then .error .nameTooLong
    else match entries.find? (·.1 == name) with
      | some (_, tree) => follow (.directory entries :: above) tree rest
      | none => .error .notFound

def find (tree : FileTree) (path : String) : Except ReadError FileTree :=
  let parts := path.splitOn "/"
  if path.startsWith "/" then follow [] root parts else follow surroundings tree parts

def locate (tree : FileTree) (path : String) : Except ReadError FileTree :=
  if path.contains '\x00' then .error .nulInName
  else if 4095 < path.utf8ByteSize then .error .nameTooLong
  else if path.isEmpty then .error .notFound
  else tree.find path

def text : FileTree → Except ReadError String
  | .directory _ => .error .isADirectory
  | .file content => decoded content

def read (tree : FileTree) : Reading where
  isThere path := (tree.locate path).isOk
  text path := (tree.locate path).bind text

end FileTree

end DynSeq
