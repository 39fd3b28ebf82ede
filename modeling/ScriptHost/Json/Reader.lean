import ScriptHost.Json.Basic
import ScriptHost.Json.Fault
import ScriptHost.Number.Decimal
import ScriptHost.Text.Utf8

/-!
# Reading JSON

Each reader takes the bytes that are left and returns what it read with the
bytes after it.  A refusal keeps the bytes that were left when it was noticed,
which fixes the place of the fault: just after the last byte taken, or one byte
further when the offending byte was only looked at.

Nesting is limited to `maxDepth` open brackets.
-/

namespace ScriptHost.Json.Reader

/-- Why and where a reader stopped. -/
structure Refusal where
  /-- What is wrong. -/
  cause : Cause
  /-- The bytes that had not been taken. -/
  left : List UInt8
  /-- Whether the next byte was looked at and belongs to the fault. -/
  looked : Bool

/-- What was read at the start of some bytes, and the bytes after it. -/
abbrev Taken (α : Type) := α × List UInt8

/-- Stop after the bytes already taken. -/
def refuse {α : Type} (cause : Cause) (left : List UInt8) : Except Refusal α :=
  .error ⟨cause, left, false⟩

/-- Stop at the next byte, which was only looked at. -/
def refuseAt {α : Type} (cause : Cause) (left : List UInt8) : Except Refusal α :=
  .error ⟨cause, left, true⟩

/-- Space, newline, tab and carriage return separate tokens. -/
def isBlank (b : UInt8) : Bool :=
  b = 0x20 || b = 0x0A || b = 0x09 || b = 0x0D

/-- The bytes from the next token on. -/
def skipBlank (input : List UInt8) : List UInt8 :=
  input.dropWhile isBlank

/-- A decimal digit. -/
def isDigit (b : UInt8) : Bool :=
  0x30 ≤ b && b ≤ 0x39

/-- The value of a decimal digit. -/
def digitValue (b : UInt8) : Nat :=
  b.toNat - 0x30

/-- The value of a hexadecimal digit. -/
def hexValue? (b : UInt8) : Option Nat :=
  if 0x30 ≤ b && b ≤ 0x39 then some (b.toNat - 0x30)
  else if 0x41 ≤ b && b ≤ 0x46 then some (b.toNat - 0x37)
  else if 0x61 ≤ b && b ≤ 0x66 then some (b.toNat - 0x57)
  else none

/-- The rest of a word whose first byte has been taken. -/
def word : List UInt8 → List UInt8 → Except Refusal (List UInt8)
  | [], input => .ok input
  | _ :: _, [] => refuse .endInValue []
  | expected :: more, b :: rest =>
      if b = expected then word more rest else refuse .expectedIdent rest

/-! ## Numbers -/

/-- The largest significand that is kept; further digits only move the point. -/
def maxSignificand : Nat := Nat.pow 2 64 - 1

/-- The largest exponent that is read, and the smallest. -/
def maxExponent : Int := 2147483647

/-- Exponents stop at the ends of their range. -/
def saturate (exponent : Int) : Int :=
  max (-2147483648) (min maxExponent exponent)

/-- Digits that still fit the significand: its value, how many were taken, and
the bytes left. -/
def takeDigits (significand taken : Nat) : List UInt8 → Nat × Nat × List UInt8
  | [] => (significand, taken, [])
  | b :: rest =>
      if isDigit b ∧ significand * 10 + digitValue b ≤ maxSignificand then
        takeDigits (significand * 10 + digitValue b) (taken + 1) rest
      else
        (significand, taken, b :: rest)

/-- How many digits come next, and the bytes after them. -/
def skipDigits (input : List UInt8) : Nat × List UInt8 :=
  ((input.takeWhile isDigit).length, input.dropWhile isDigit)

/-- A number from its sign, significand and exponent. -/
def assemble (negative : Bool) (significand : Nat) (exponent : Int) (left : List UInt8) :
    Except Refusal (Taken Binary64) :=
  match Decimal.read? significand (saturate exponent) with
  | some value => .ok (if negative then value.negate else value, left)
  | none => refuse .numberOutOfRange left

/-- The digits of an explicit exponent after its first. -/
def exponentDigits (negative down : Bool) (significand : Nat) (base value : Int) :
    List UInt8 → Except Refusal (Taken Binary64)
  | b :: rest =>
      if isDigit b then
        let next := value * 10 + digitValue b
        if next ≤ maxExponent then
          exponentDigits negative down significand base next rest
        else if significand ≠ 0 ∧ !down then
          refuse .numberOutOfRange rest
        else
          .ok (Binary64.ofParts negative 0, (skipDigits rest).2)
      else
        assemble negative significand (if down then base - value else base + value) (b :: rest)
  | [] => assemble negative significand (if down then base - value else base + value) []

/-- What follows the letter of an explicit exponent. -/
def explicitExponent (negative : Bool) (significand : Nat) (base : Int)
    (input : List UInt8) : Except Refusal (Taken Binary64) :=
  let (down, digits) :=
    match input with
    | 0x2B :: rest => (false, rest)
    | 0x2D :: rest => (true, rest)
    | _ => (false, input)
  match digits with
  | [] => refuse .endInValue []
  | b :: rest =>
      if isDigit b then exponentDigits negative down significand base (digitValue b) rest
      else refuse .invalidNumber rest

/-- The explicit exponent, if there is one. -/
def afterDigits (negative : Bool) (significand : Nat) (exponent : Int)
    (input : List UInt8) : Except Refusal (Taken Binary64) :=
  match input with
  | b :: rest =>
      if b = 0x65 ∨ b = 0x45 then explicitExponent negative significand exponent rest
      else assemble negative significand exponent input
  | [] => assemble negative significand exponent []

/-- The digits after a point.  Those that no longer fit are skipped. -/
def decimals (negative : Bool) (significand : Nat) (exponent : Int)
    (input : List UInt8) : Except Refusal (Taken Binary64) :=
  let (kept, taken, rest) := takeDigits significand 0 input
  let (skipped, rest) := skipDigits rest
  if taken + skipped = 0 then
    match rest with
    | [] => refuseAt .endInValue []
    | _ => refuseAt .invalidNumber rest
  else
    afterDigits negative kept (exponent - taken) rest

/-- What follows the digits before the point. -/
def afterInteger (negative : Bool) (significand : Nat) (exponent : Int)
    (input : List UInt8) : Except Refusal (Taken Binary64) :=
  match input with
  | 0x2E :: rest => decimals negative significand exponent rest
  | _ => afterDigits negative significand exponent input

/-- A number after its sign. -/
def unsigned (negative : Bool) (input : List UInt8) : Except Refusal (Taken Binary64) :=
  match input with
  | [] => refuse .endInValue []
  | 0x30 :: rest =>
      match rest with
      | b :: _ => if isDigit b then refuseAt .invalidNumber rest else afterInteger negative 0 0 rest
      | [] => afterInteger negative 0 0 []
  | b :: rest =>
      if isDigit b then
        let (significand, _, more) := takeDigits (digitValue b) 1 rest
        let (skipped, left) := skipDigits more
        afterInteger negative significand skipped left
      else
        refuse .invalidNumber rest

/-! ## Strings -/

/-- Four hexadecimal digits. -/
def fourHex (input : List UInt8) : Except Refusal (Taken Nat) :=
  match input with
  | a :: b :: c :: d :: rest =>
      match hexValue? a, hexValue? b, hexValue? c, hexValue? d with
      | some a, some b, some c, some d => .ok (((a * 16 + b) * 16 + c) * 16 + d, rest)
      | _, _, _, _ => refuse .invalidEscape rest
  | _ => refuse .endInString []

/-- A byte that must come next inside a pair of escapes. -/
def pairByte (expected : UInt8) (input : List UInt8) : Except Refusal (List UInt8) :=
  match input with
  | [] => refuse .endInString []
  | b :: rest => if b = expected then .ok rest else refuse .unfinishedSurrogate rest

/-- The character of a numeric escape.  A high surrogate needs a low one after it. -/
def numericEscape (input : List UInt8) : Except Refusal (Taken Char) := do
  let (unit, rest) ← fourHex input
  if 0xDC00 ≤ unit ∧ unit ≤ 0xDFFF then
    refuse .loneSurrogate rest
  else if 0xD800 ≤ unit ∧ unit ≤ 0xDBFF then
    let rest ← pairByte 0x5C rest
    let rest ← pairByte 0x75 rest
    let (low, rest) ← fourHex rest
    if 0xDC00 ≤ low ∧ low ≤ 0xDFFF then
      .ok (Char.ofNat (0x10000 + (unit - 0xD800) * 0x400 + (low - 0xDC00)), rest)
    else
      refuse .loneSurrogate rest
  else
    .ok (Char.ofNat unit, rest)

/-- The byte that a letter after a backslash stands for. -/
def shortEscape? (letter : UInt8) : Option UInt8 :=
  if letter = 0x22 ∨ letter = 0x5C ∨ letter = 0x2F then some letter
  else if letter = 0x62 then some 0x08
  else if letter = 0x66 then some 0x0C
  else if letter = 0x6E then some 0x0A
  else if letter = 0x72 then some 0x0D
  else if letter = 0x74 then some 0x09
  else none

/-- The bytes of a string after its opening quote, collected in reverse. -/
def stringBytes : Nat → List UInt8 → List UInt8 → Except Refusal (Taken (List UInt8))
  | 0, _, input => refuse .endInString input
  | fuel + 1, seen, input =>
      match input with
      | [] => refuse .endInString []
      | 0x22 :: rest => .ok (seen, rest)
      | 0x5C :: [] => refuse .endInString []
      | 0x5C :: 0x75 :: rest => do
          let (c, rest) ← numericEscape rest
          stringBytes fuel ((String.singleton c).toUTF8.toList.reverse ++ seen) rest
      | 0x5C :: letter :: rest =>
          match shortEscape? letter with
          | some b => stringBytes fuel (b :: seen) rest
          | none => refuse .invalidEscape rest
      | b :: rest =>
          if b < 0x20 then refuse .controlCharacter rest else stringBytes fuel (b :: seen) rest

/-- A string after its opening quote. -/
def string (input : List UInt8) : Except Refusal (Taken String) := do
  let (reversed, rest) ← stringBytes (input.length + 1) [] input
  .ok (Text.Utf8.textLossy ⟨reversed.reverse.toArray⟩, rest)

/-! ## Values -/

/-- How many brackets may be open at once. -/
def maxDepth : Nat := 127

mutual

/-- A value.  `depth` brackets may still be opened. -/
def value (fuel depth : Nat) (input : List UInt8) : Except Refusal (Taken Json) :=
  match fuel with
  | 0 => refuseAt .expectedValue input
  | fuel + 1 =>
      match skipBlank input with
      | [] => refuseAt .endInValue []
      | 0x6E :: rest => do
          let rest ← word [0x75, 0x6C, 0x6C] rest
          .ok (.null, rest)
      | 0x74 :: rest => do
          let rest ← word [0x72, 0x75, 0x65] rest
          .ok (.bool true, rest)
      | 0x66 :: rest => do
          let rest ← word [0x61, 0x6C, 0x73, 0x65] rest
          .ok (.bool false, rest)
      | 0x2D :: rest => do
          let (x, rest) ← unsigned true rest
          .ok (.number x, rest)
      | 0x22 :: rest => do
          let (s, rest) ← string rest
          .ok (.string s, rest)
      | 0x5B :: rest =>
          match depth with
          | 0 => refuseAt .tooDeep (0x5B :: rest)
          | depth + 1 => do
              let (items, rest) ← elements fuel depth true [] rest
              .ok (.array items, rest)
      | 0x7B :: rest =>
          match depth with
          | 0 => refuseAt .tooDeep (0x7B :: rest)
          | depth + 1 => do
              let (entries, rest) ← members fuel depth true [] rest
              .ok (.object entries, rest)
      | b :: rest =>
          if isDigit b then do
            let (x, rest) ← unsigned false (b :: rest)
            .ok (.number x, rest)
          else
            refuseAt .expectedValue (b :: rest)

/-- The items of an array after those already read, which are kept in reverse. -/
def elements (fuel depth : Nat) (first : Bool) (seen : List Json) (input : List UInt8) :
    Except Refusal (Taken (List Json)) :=
  match fuel with
  | 0 => refuseAt .endInList input
  | fuel + 1 =>
      match skipBlank input with
      | [] => refuseAt .endInList []
      | 0x5D :: rest => .ok (seen.reverse, rest)
      | b :: rest =>
          if first then do
            let (item, rest) ← value fuel depth (b :: rest)
            elements fuel depth false (item :: seen) rest
          else if b = 0x2C then
            match skipBlank rest with
            | [] => refuseAt .endInValue []
            | 0x5D :: rest => refuseAt .trailingComma (0x5D :: rest)
            | rest => do
                let (item, rest) ← value fuel depth rest
                elements fuel depth false (item :: seen) rest
          else
            refuseAt .expectedListEnd (b :: rest)

/-- The members of an object after those already read. -/
def members (fuel depth : Nat) (first : Bool) (seen : List (String × Json))
    (input : List UInt8) : Except Refusal (Taken (List (String × Json))) :=
  match fuel with
  | 0 => refuseAt .endInObject input
  | fuel + 1 =>
      match skipBlank input with
      | [] => refuseAt .endInObject []
      | 0x7D :: rest => .ok (seen, rest)
      | b :: rest =>
          if first then
            member fuel depth seen (b :: rest)
          else if b = 0x2C then
            match skipBlank rest with
            | [] => refuseAt .endInValue []
            | 0x7D :: rest => refuseAt .trailingComma (0x7D :: rest)
            | rest => member fuel depth seen rest
          else
            refuseAt .expectedObjectEnd (b :: rest)

/-- One member, and those after it. -/
def member (fuel depth : Nat) (seen : List (String × Json)) (input : List UInt8) :
    Except Refusal (Taken (List (String × Json))) :=
  match fuel with
  | 0 => refuseAt .endInObject input
  | fuel + 1 =>
      match input with
      | 0x22 :: rest => do
          let (key, rest) ← string rest
          match skipBlank rest with
          | 0x3A :: rest =>
              let (item, rest) ← value fuel depth rest
              members fuel depth false (insertMember key item seen) rest
          | [] => refuseAt .endInObject []
          | rest => refuseAt .expectedColon rest
      | rest => refuseAt .keyNotString rest

end

/-- A value with nothing but blanks around it. -/
def document (input : List UInt8) : Except Refusal Json := do
  let (json, rest) ← value (3 * input.length + 3) maxDepth input
  match skipBlank rest with
  | [] => .ok json
  | rest => refuseAt .trailingCharacters rest

end Reader

/-- The document that a text spells, or the first fault in it. -/
def parse (text : String) : Except Fault Json :=
  let input := text.toUTF8.toList
  match Reader.document input with
  | .ok json => .ok json
  | .error refusal =>
      let consumed := input.length - refusal.left.length + (if refusal.looked then 1 else 0)
      .error (Fault.after refusal.cause (input.take consumed))

end ScriptHost.Json
