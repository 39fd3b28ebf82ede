import ScriptHost.Json.Basic
import ScriptHost.Number.Shortest

/-!
# Writing JSON

Two layouts: compact, with no blank at all, and indented, with one item or
member a line and two spaces a level.  Numbers are written with the fewest
digits that read back.
-/

namespace ScriptHost.Json

/-- The lower-case hexadecimal digit of a number below sixteen. -/
def hexDigit (n : Nat) : Char :=
  if n < 10 then Char.ofNat (0x30 + n) else Char.ofNat (0x57 + n)

/-- A character inside a string: quotes, backslashes and controls are escaped. -/
def escapeChar (c : Char) : String :=
  if c = '"' then "\\\""
  else if c = '\\' then "\\\\"
  else if c = '\n' then "\\n"
  else if c = '\r' then "\\r"
  else if c = '\t' then "\\t"
  else if c.toNat = 8 then "\\b"
  else if c.toNat = 12 then "\\f"
  else if c.toNat < 32 then
    "\\u00" ++ String.ofList [hexDigit (c.toNat / 16), hexDigit (c.toNat % 16)]
  else String.singleton c

/-- A string between quotes. -/
def quote (text : String) : String :=
  text.foldl (fun written c => written ++ escapeChar c) "\"" ++ "\""

/-- A text of `count` zeros. -/
def zeros (count : Nat) : String :=
  String.ofList (List.replicate count '0')

/-- The point stands at most this far to the right of the first digit in plain
notation. -/
def plainDigits : Int := 16

/-- At most this many zeros follow the point in plain notation. -/
def plainZeros : Int := 4

/-- A decimal in plain notation while the point is near its digits, otherwise
in scientific notation with the sign of the exponent always written. -/
def writeDecimal (decimal : Decimal) : String :=
  let digits := toString decimal.digits
  let count := digits.length
  let point : Int := count + decimal.exponent
  if 0 < point ∧ point ≤ plainDigits then
    if count ≤ point then
      digits ++ zeros (point.toNat - count) ++ ".0"
    else
      let chars := digits.toList
      String.ofList (chars.take point.toNat) ++ "." ++ String.ofList (chars.drop point.toNat)
  else if -plainZeros ≤ point ∧ point ≤ 0 then
    "0." ++ zeros (-point).toNat ++ digits
  else
    let chars := digits.toList
    let tail := chars.drop 1
    let exponent := point - 1
    String.ofList (chars.take 1)
      ++ (if tail.isEmpty then "" else "." ++ String.ofList tail)
      ++ (if exponent < 0 then "e-" else "e+") ++ toString exponent.natAbs

/-- A finite number. -/
def writeNumber (x : Binary64) : String :=
  (if x.isNegative then "-" else "") ++
    if x.isZero then "0.0" else writeDecimal x.shortest

mutual

/-- The text of a document without blanks. -/
def compact : Json → String
  | null => "null"
  | bool value => if value then "true" else "false"
  | number value => writeNumber value
  | string value => quote value
  | array items => "[" ++ compactItems items ++ "]"
  | object entries => "\x7b" ++ compactMembers entries ++ "\x7d"

/-- The items of an array, with commas between them. -/
def compactItems : List Json → String
  | [] => ""
  | [item] => compact item
  | item :: rest => compact item ++ "," ++ compactItems rest

/-- The members of an object, with commas between them. -/
def compactMembers : List (String × Json) → String
  | [] => ""
  | [(key, item)] => quote key ++ ":" ++ compact item
  | (key, item) :: rest => quote key ++ ":" ++ compact item ++ "," ++ compactMembers rest

end

/-- A new line indented by `level` steps. -/
def newline (level : Nat) : String :=
  "\n" ++ String.ofList (List.replicate (2 * level) ' ')

mutual

/-- The text of a document laid out over lines, inside `level` brackets. -/
def indented (level : Nat) : Json → String
  | null => "null"
  | bool value => if value then "true" else "false"
  | number value => writeNumber value
  | string value => quote value
  | array [] => "[]"
  | array (item :: rest) =>
      "[" ++ indentedItems (level + 1) (item :: rest) ++ newline level ++ "]"
  | object [] => "\x7b\x7d"
  | object (entry :: rest) =>
      "\x7b" ++ indentedMembers (level + 1) (entry :: rest) ++ newline level ++ "\x7d"

/-- The items of an array, each on a line of its own. -/
def indentedItems (level : Nat) : List Json → String
  | [] => ""
  | [item] => newline level ++ indented level item
  | item :: rest => newline level ++ indented level item ++ "," ++ indentedItems level rest

/-- The members of an object, each on a line of its own. -/
def indentedMembers (level : Nat) : List (String × Json) → String
  | [] => ""
  | [(key, item)] => newline level ++ quote key ++ ": " ++ indented level item
  | (key, item) :: rest =>
      newline level ++ quote key ++ ": " ++ indented level item ++ "," ++
        indentedMembers level rest

end

/-- The text of a document laid out over lines. -/
def pretty (json : Json) : String :=
  indented 0 json

end ScriptHost.Json
