namespace DynSeq

/-- What a settings file can hold. Numbers with a point and dates are left out, since no setting
takes them. -/
inductive Toml where
  | string (s : String)
  | boolean (b : Bool)
  | integer (n : Int)
  | array (items : List Toml)
  | table (members : List (String × Toml))
deriving Inhabited

namespace Toml

inductive Line where
  | assign (path : List String) (value : Toml)
  | header (path : List String)
deriving Inhabited

/-- What a key stands for while a document is read. A table is implicit when it has only been
named on the way to something in it, and dotted when that was inside a key and not a header. -/
inductive Node where
  | value (value : Toml)
  | table (isImplicit isDotted : Bool) (members : List (String × Node))
deriving Inhabited

abbrev Members := List (String × Node)

namespace Members

def get? (ms : Members) (key : String) : Option Node :=
  (ms.find? (·.1 == key)).map (·.2)

def put (ms : Members) (key : String) (node : Node) : Members :=
  ms.filter (·.1 != key) ++ [(key, node)]

/-- Gives a key its value, which it must not have yet. A dotted key makes the tables on its way,
and only adds to tables that were made in the same manner. -/
def assign (value : Toml) : List String → Members → Option Members
  | [], _ => none
  | [key], ms => if (ms.get? key).isSome then none else some (ms.put key (.value value))
  | key :: next :: path, ms =>
    match ms.get? key with
    | none => (assign value (next :: path) []).map fun sub ↦ ms.put key (.table true true sub)
    | some (.table true isDotted sub) =>
      if path.isEmpty && !isDotted then none
      else (assign value (next :: path) sub).map fun sub ↦ ms.put key (.table true isDotted sub)
    | some _ => none

def open? : List String → Members → Option Members
  | [], _ => none
  | [key], ms =>
    match ms.get? key with
    | none => some (ms.put key (.table false false []))
    | some (.table true false sub) => some (ms.put key (.table false false sub))
    | some _ => none
  | key :: path, ms =>
    match ms.get? key with
    | none => (open? path []).map fun sub ↦ ms.put key (.table true false sub)
    | some (.table isImplicit isDotted sub) =>
      (open? path sub).map fun sub ↦ ms.put key (.table isImplicit isDotted sub)
    | some (.value _) => none

def within (change : Members → Option Members) : List String → Members → Option Members
  | [], ms => change ms
  | key :: path, ms =>
    match ms.get? key with
    | some (.table isImplicit isDotted sub) =>
      (within change path sub).map fun sub ↦ ms.put key (.table isImplicit isDotted sub)
    | _ => none

end Members

abbrev Draft := List String × Members

def Line.add : Line → Draft → Option Draft
  | .assign path value, (current, ms) =>
    (ms.within (Members.assign value path) current).map (current, ·)
  | .header path, (_, ms) => (ms.open? path).map (path, ·)

mutual
def ofNode : Node → Toml
  | .value v => v
  | .table _ _ members => .table (ofMembers members)
def ofMembers : List (String × Node) → List (String × Toml)
  | [] => []
  | (key, node) :: rest => (key, ofNode node) :: ofMembers rest
end

def ofLines (lines : List Line) : Option (List (String × Toml)) :=
  (lines.foldl (fun draft line ↦ draft.bind line.add) (some ([], []))).map (ofMembers ·.2)

end Toml

end DynSeq
