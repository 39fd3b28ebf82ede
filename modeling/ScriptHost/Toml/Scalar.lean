import ScriptHost.Number.Binary64

/-!
# Keys, strings, numbers and dates

Readers for the parts of a TOML line.  Each takes the characters that are left
and gives what it read with the characters after it, or nothing when they do
not start with such a part.
-/

namespace ScriptHost.Toml

/-- A reader of something at the start of some characters. -/
abbrev Read (α : Type) := List Char → Option (α × List Char)

/-- A space or a tab. -/
def isBlank (c : Char) : Bool :=
  c = ' ' || c = '\t'

/-- The characters after any blanks. -/
def skipBlank (input : List Char) : List Char :=
  input.dropWhile isBlank

/-- A decimal digit. -/
def isDigit (c : Char) : Bool :=
  '0' ≤ c && c ≤ '9'

/-- The value of a digit in some base up to sixteen. -/
def digitValue? (base : Nat) (c : Char) : Option Nat :=
  let value :=
    if '0' ≤ c ∧ c ≤ '9' then c.toNat - '0'.toNat
    else if 'a' ≤ c ∧ c ≤ 'f' then c.toNat - 'a'.toNat + 10
    else if 'A' ≤ c ∧ c ≤ 'F' then c.toNat - 'A'.toNat + 10
    else 16
  if value < base then some value else none

/-- Whether a character may stand in a comment or a literal string. -/
def isPlain (c : Char) : Bool :=
  c = '\t' || (0x20 ≤ c.toNat && c.toNat ≤ 0x7E) || 0x80 ≤ c.toNat

/-- A line end: a newline, or a carriage return with one. -/
def newline? : List Char → Option (List Char)
  | '\n' :: rest => some rest
  | '\r' :: '\n' :: rest => some rest
  | _ => none

/-- The characters after a comment, if one starts here. -/
def skipComment : List Char → List Char
  | '#' :: rest => rest.dropWhile isPlain
  | input => input

/-- The rest of a line that holds nothing more: blanks, a comment, its end. -/
def lineEnd? (input : List Char) : Option (List Char) :=
  match skipComment (skipBlank input) with
  | [] => some []
  | rest => newline? rest

/-! ## Strings -/

/-- A number of so many hexadecimal digits. -/
def hexNumber : Nat → Nat → Read Nat
  | 0, value, input => some (value, input)
  | _ + 1, _, [] => none
  | count + 1, value, c :: rest =>
      (digitValue? 16 c).bind fun digit => hexNumber count (value * 16 + digit) rest

/-- The character of a code, unless it is a surrogate or too large. -/
def scalar? (code : Nat) : Option Char :=
  if code < 0xD800 ∨ (0xDFFF < code ∧ code < 0x110000) then some (Char.ofNat code) else none

/-- The character that an escape stands for, after its backslash. -/
def escape : Read Char
  | 'b' :: rest => some (Char.ofNat 8, rest)
  | 't' :: rest => some ('\t', rest)
  | 'n' :: rest => some ('\n', rest)
  | 'f' :: rest => some (Char.ofNat 12, rest)
  | 'r' :: rest => some ('\r', rest)
  | '"' :: rest => some ('"', rest)
  | '\\' :: rest => some ('\\', rest)
  | 'u' :: rest => do
      let (code, rest) ← hexNumber 4 0 rest
      (scalar? code).map fun c => (c, rest)
  | 'U' :: rest => do
      let (code, rest) ← hexNumber 8 0 rest
      (scalar? code).map fun c => (c, rest)
  | _ => none

/-- A string on one line after its opening quote. -/
def basicBody : Nat → List Char → Read String
  | 0, _, _ => none
  | fuel + 1, seen, input =>
      match input with
      | '"' :: rest => some (String.ofList seen.reverse, rest)
      | '\\' :: rest => do
          let (c, rest) ← escape rest
          basicBody fuel (c :: seen) rest
      | c :: rest => if isPlain c then basicBody fuel (c :: seen) rest else none
      | [] => none

/-- A string without escapes on one line after its opening quote. -/
def literalBody : List Char → Read String
  | _, [] => none
  | seen, c :: rest =>
      if c = '\'' then some (String.ofList seen.reverse, rest)
      else if isPlain c then literalBody (c :: seen) rest
      else none

/-- The characters after the blanks and line ends that an escaped line end
swallows. -/
def skipLines : Nat → List Char → List Char
  | 0, input => input
  | fuel + 1, input =>
      match skipBlank input with
      | '\n' :: rest => skipLines fuel rest
      | '\r' :: '\n' :: rest => skipLines fuel rest
      | rest => rest

/-- Three quotes close a string of several lines; up to two more belong to it. -/
def closing? (quote : Char) (input : List Char) : Option (List Char × List Char) :=
  let quotes := (input.takeWhile (· = quote)).length
  if quotes < 3 then none
  else
    let kept := min (quotes - 3) 2
    some (List.replicate kept quote, input.drop (kept + 3))

/-- A string of several lines after its opening quotes. -/
def basicLines : Nat → List Char → Read String
  | 0, _, _ => none
  | fuel + 1, seen, input =>
      match input with
      | [] => none
      | '"' :: rest =>
          match closing? '"' input with
          | some (kept, rest) => some (String.ofList (kept ++ seen).reverse, rest)
          | none => basicLines fuel ('"' :: seen) rest
      | '\\' :: rest =>
          match newline? (skipBlank rest) with
          | some after => basicLines fuel seen (skipLines (after.length + 1) after)
          | none => do
              let (c, rest) ← escape rest
              basicLines fuel (c :: seen) rest
      | '\n' :: rest => basicLines fuel ('\n' :: seen) rest
      | '\r' :: '\n' :: rest => basicLines fuel ('\n' :: seen) rest
      | c :: rest => if isPlain c then basicLines fuel (c :: seen) rest else none

/-- A string of several lines without escapes after its opening quotes. -/
def literalLines : Nat → List Char → Read String
  | 0, _, _ => none
  | fuel + 1, seen, input =>
      match input with
      | [] => none
      | '\n' :: rest => literalLines fuel ('\n' :: seen) rest
      | '\r' :: '\n' :: rest => literalLines fuel ('\n' :: seen) rest
      | c :: rest =>
          if c = '\'' then
            match closing? '\'' input with
            | some (kept, rest) => some (String.ofList (kept ++ seen).reverse, rest)
            | none => literalLines fuel (c :: seen) rest
          else if isPlain c then literalLines fuel (c :: seen) rest
          else none

/-- A line end right after the opening quotes is not part of the string. -/
def firstLine (input : List Char) : List Char :=
  (newline? input).getD input

/-- A string in any of the four notations. -/
def string : Read String
  | '"' :: '"' :: '"' :: rest => basicLines (rest.length + 1) [] (firstLine rest)
  | '"' :: rest => basicBody (rest.length + 1) [] rest
  | '\'' :: '\'' :: '\'' :: rest => literalLines (rest.length + 1) [] (firstLine rest)
  | '\'' :: rest => literalBody [] rest
  | _ => none

/-! ## Keys -/

/-- A character of a bare key. -/
def isBare (c : Char) : Bool :=
  ('a' ≤ c && c ≤ 'z') || ('A' ≤ c && c ≤ 'Z') || isDigit c || c = '_' || c = '-'

/-- One part of a key. -/
def keyPart : Read String
  | '"' :: rest => basicBody (rest.length + 1) [] rest
  | '\'' :: rest => literalBody [] rest
  | input =>
      let bare := input.takeWhile isBare
      if bare.isEmpty then none else some (String.ofList bare, input.dropWhile isBare)

/-- The parts of a key, with blanks around each and dots between them. -/
def keyParts : Nat → Read (List String)
  | 0, _ => none
  | fuel + 1, input => do
      let (part, rest) ← keyPart (skipBlank input)
      match skipBlank rest with
      | '.' :: rest =>
          let (parts, rest) ← keyParts fuel rest
          some (part :: parts, rest)
      | rest => some ([part], rest)

/-- Keys and values are nested less deep than this. -/
def maxNesting : Nat := 80

/-- A key. -/
def key (input : List Char) : Option (List String × List Char) := do
  let (parts, rest) ← keyParts (input.length + 1) input
  if parts.length < maxNesting then some (parts, rest) else none

/-! ## Numbers -/

/-- The sign in front of a number; true for a minus. -/
def sign : List Char → Bool × List Char
  | '-' :: rest => (true, rest)
  | '+' :: rest => (false, rest)
  | input => (false, input)

/-- The value of further digits in a base, each perhaps after an underscore, and
how many there are. -/
def moreDigits (base : Nat) (value count : Nat) : List Char → Option ((Nat × Nat) × List Char)
  | '_' :: c :: rest =>
      (digitValue? base c).bind fun digit =>
        moreDigits base (value * base + digit) (count + 1) rest
  | '_' :: [] => none
  | c :: rest =>
      match digitValue? base c with
      | some digit => moreDigits base (value * base + digit) (count + 1) rest
      | none => some ((value, count), c :: rest)
  | [] => some ((value, count), [])

/-- Digits in a base with underscores between them: their value and number. -/
def digits (base : Nat) : Read (Nat × Nat)
  | c :: rest => (digitValue? base c).bind fun digit => moreDigits base digit 1 rest
  | [] => none

/-- A decimal natural without leading zeros. -/
def natural : Read Nat
  | '0' :: rest => some (0, rest)
  | input => (digits 10 input).map fun ((value, _), rest) => (value, rest)

/-- An integer that fits a signed word. -/
def integer (input : List Char) : Option (Int × List Char) :=
  let based (base : Nat) (rest : List Char) : Option (Int × List Char) :=
    (digits base rest).bind fun ((value, _), rest) =>
      if value < Nat.pow 2 63 then some ((value : Int), rest) else none
  match input with
  | '0' :: 'x' :: rest => based 16 rest
  | '0' :: 'o' :: rest => based 8 rest
  | '0' :: 'b' :: rest => based 2 rest
  | _ => do
      let (negative, rest) := sign input
      let (value, rest) ← natural rest
      if negative then
        if value ≤ Nat.pow 2 63 then some (-(value : Int), rest) else none
      else if value < Nat.pow 2 63 then some ((value : Int), rest)
      else none

/-- Whether `digits · 10^exponent` is past the largest number. -/
def overflows (digits : Nat) (exponent : Int) : Bool :=
  let size : Int := (toString digits).length + exponent
  if digits = 0 ∨ size < 300 then false
  else if 310 < size then true
  else if 0 ≤ exponent then
    !(Binary64.ofRatio false (digits * Nat.pow 10 exponent.toNat) 1).isFinite
  else
    !(Binary64.ofRatio false digits (Nat.pow 10 (-exponent).toNat)).isFinite

/-- The exponent of a float, after its letter. -/
def exponentPart : Read Int
  | c :: rest =>
      if c = 'e' ∨ c = 'E' then do
        let (negative, rest) := sign rest
        let ((value, _), rest) ← digits 10 rest
        some (if negative then -(value : Int) else value, rest)
      else none
  | [] => none

/-- A float; numbers too large to be told from infinity are refused. -/
def float (input : List Char) : Option (Unit × List Char) := do
  let (negative, rest) := sign input
  match rest with
  | 'i' :: 'n' :: 'f' :: rest => some ((), rest)
  | 'n' :: 'a' :: 'n' :: rest => some ((), rest)
  | _ =>
      let (whole, rest) ← natural rest
      let (significand, shift, rest) ←
        match rest with
        | '.' :: rest =>
            (digits 10 rest).map fun ((value, count), rest) =>
              (whole * Nat.pow 10 count + value, -(count : Int), rest)
        | c :: _ => if c = 'e' ∨ c = 'E' then some (whole, 0, rest) else none
        | [] => none
      let (exponent, rest) :=
        match exponentPart rest with
        | some (exponent, rest) => (exponent, rest)
        | none => (0, rest)
      if !negative ∧ overflows significand (shift + exponent) then none else some ((), rest)

/-! ## Dates and times -/

/-- A number of exactly so many decimal digits. -/
def fixedDigits : Nat → Nat → Read Nat
  | 0, value, input => some (value, input)
  | _ + 1, _, [] => none
  | count + 1, value, c :: rest =>
      if isDigit c then fixedDigits count (value * 10 + (c.toNat - '0'.toNat)) rest else none

/-- A certain character. -/
def expect (c : Char) : List Char → Option (List Char)
  | d :: rest => if c = d then some rest else none
  | [] => none

/-- The days of a month. -/
def daysIn (year month : Nat) : Nat :=
  if month = 2 then
    if year % 4 = 0 ∧ (year % 100 ≠ 0 ∨ year % 400 = 0) then 29 else 28
  else if month = 4 ∨ month = 6 ∨ month = 9 ∨ month = 11 then 30
  else 31

/-- A date that the calendar has. -/
def date (input : List Char) : Option (List Char) := do
  let (year, rest) ← fixedDigits 4 0 input
  let rest ← expect '-' rest
  let (month, rest) ← fixedDigits 2 0 rest
  let rest ← expect '-' rest
  let (day, rest) ← fixedDigits 2 0 rest
  if 1 ≤ month ∧ month ≤ 12 ∧ 1 ≤ day ∧ day ≤ daysIn year month then some rest else none

/-- A time of day, perhaps with fractions of a second; the last minute of a day
may have a leap second. -/
def time (input : List Char) : Option (List Char) := do
  let (hour, rest) ← fixedDigits 2 0 input
  let rest ← expect ':' rest
  let (minute, rest) ← fixedDigits 2 0 rest
  let rest ← expect ':' rest
  let (second, rest) ← fixedDigits 2 0 rest
  if 23 < hour ∨ 59 < minute ∨ 60 < second then none
  else
    match rest with
    | '.' :: c :: fraction => if isDigit c then some (fraction.dropWhile isDigit) else none
    | '.' :: [] => none
    | _ => some rest

/-- The distance of a time from that of Greenwich, if it is given. -/
def offset (input : List Char) : Option (List Char) :=
  match input with
  | [] => some []
  | c :: rest =>
      if c = 'Z' ∨ c = 'z' then some rest
      else if c = '+' ∨ c = '-' then do
        let (hour, rest) ← fixedDigits 2 0 rest
        let rest ← expect ':' rest
        let (minute, rest) ← fixedDigits 2 0 rest
        if 23 < hour ∨ 59 < minute then none else some rest
      else some input

/-- A date, a time, or both. -/
def dateTime (input : List Char) : Option (Unit × List Char) :=
  match date input with
  | some rest =>
      match rest with
      | c :: after =>
          if c = 'T' ∨ c = 't' ∨ (c = ' ' ∧ (time after).isSome) then do
            let rest ← time after
            let rest ← offset rest
            some ((), rest)
          else some ((), rest)
      | [] => some ((), [])
  | none => (time input).map fun rest => ((), rest)

end ScriptHost.Toml
