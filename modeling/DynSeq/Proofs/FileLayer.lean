import DynSeq.Proofs.TomlKeys
import DynSeq.Settings

namespace DynSeq.Settings

namespace Layer

/-- What a member of a file says holds in a layer. -/
inductive Gives (l : Layer) : String × Toml → Prop
  | output {v : Toml} {format : OutputFormat} (hv : format? v = some format)
      (hl : l.output = some format) : Gives l ("output", v)
  | log {s : String} (hl : l.log = some s) : Gives l ("log", .string s)
  | untyped {b : Bool} (hl : l.untyped = some b) : Gives l ("untyped", .boolean b)

/-- Two layers give the same under all keys but some. -/
structure SameBut (keys : List String) (l l' : Layer) : Prop where
  output : "output" ∉ keys → l'.output = l.output
  log : "log" ∉ keys → l'.log = l.log
  untyped : "untyped" ∉ keys → l'.untyped = l.untyped

variable {l l' next : Layer} {key : String} {keys : List String} {member : String × Toml}
  {members : List (String × Toml)}

theorem SameBut.cons (h : SameBut [key] l next) (h' : SameBut keys next l') :
    SameBut (key :: keys) l l' := by
  constructor
  all_goals
    intro hkey
    obtain ⟨hne, hkeys⟩ := not_or.1 (mt List.mem_cons.2 hkey)
  · rw [h'.output hkeys, h.output (by simpa using hne)]
  · rw [h'.log hkeys, h.log (by simpa using hne)]
  · rw [h'.untyped hkeys, h.untyped (by simpa using hne)]

end Layer

variable {read : Reading} {path : Option String} {file : String} {l : Layer}

end DynSeq.Settings
