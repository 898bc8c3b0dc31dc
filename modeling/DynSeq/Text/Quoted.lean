import DynSeq.Text.Printable
import DynSeq.Text.Extending
import DynSeq.Text.Hex
import DynSeq.Text.Ignorable

namespace DynSeq.Text

def codePoint (c : Char) : String :=
  "\\u\x7b" ++ hex 1 c.toNat ++ "\x7d"

def quotedChar (c : Char) : String :=
  if c = '\u0000' then "\\0"
  else if c = '\t' then "\\t"
  else if c = '\r' then "\\r"
  else if c = '\n' then "\\n"
  else if c = '\\' then "\\\\"
  else if c = '"' then "\\\""
  else if isExtending c || isIgnorable c || !isPrintable c then codePoint c
  else c.toString

def quoted (s : String) : String :=
  "\"" ++ String.join (s.toList.map quotedChar) ++ "\""

end DynSeq.Text
