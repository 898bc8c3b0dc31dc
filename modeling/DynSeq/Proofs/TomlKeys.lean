import DynSeq.Toml.Reader
import Mathlib.Data.List.Basic

namespace DynSeq.Toml

namespace Members

variable {ms ms' : Members} {change : Members → Option Members} {value : Toml}
  {path : List String}

end Members

end DynSeq.Toml
