import ScriptHost.Text.Hidden

/-!
# Quoted text

A text between double quotes in which every character can be seen: quotes,
backslashes and the common controls have short escapes, other hidden characters
are written by their code.
-/

namespace ScriptHost.Text

/-- A number in hexadecimal, lower case, without leading zeros. -/
def hexText (n : Nat) : String :=
  String.ofList (Nat.toDigits 16 n)

/-- One character inside quotes. -/
def quotedChar (c : Char) : String :=
  if c = '"' then "\\\""
  else if c = '\\' then "\\\\"
  else if c = '\n' then "\\n"
  else if c = '\r' then "\\r"
  else if c = '\t' then "\\t"
  else if c.toNat = 0 then "\\0"
  else if isHidden c then "\\u\x7b" ++ hexText c.toNat ++ "\x7d"
  else String.singleton c

/-- A text between quotes. -/
def quoted (text : String) : String :=
  text.foldl (fun written c => written ++ quotedChar c) "\"" ++ "\""

end ScriptHost.Text
