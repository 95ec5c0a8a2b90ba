/-
This file reads the words, numbers and strings of JSON texts. A text is a byte string; only what a
string holds has to be UTF-8. What is skipped has to be well formed and need not have a value.
-/

import WorkflowEngine.Json.Basic
import WorkflowEngine.Text.Hexadecimal
import WorkflowEngine.Text.Utf8

namespace WorkflowEngine.Json.Reader

open Number Text

namespace Mark

@[match_pattern] abbrev quote : UInt8 := 0x22

@[match_pattern] abbrev plus : UInt8 := 0x2B

@[match_pattern] abbrev comma : UInt8 := 0x2C

@[match_pattern] abbrev minus : UInt8 := 0x2D

@[match_pattern] abbrev point : UInt8 := 0x2E

@[match_pattern] abbrev colon : UInt8 := 0x3A

@[match_pattern] abbrev openBracket : UInt8 := 0x5B

@[match_pattern] abbrev backslash : UInt8 := 0x5C

@[match_pattern] abbrev closeBracket : UInt8 := 0x5D

@[match_pattern] abbrev letterU : UInt8 := 0x75

@[match_pattern] abbrev openBrace : UInt8 := 0x7B

@[match_pattern] abbrev closeBrace : UInt8 := 0x7D

end Mark

/-- JSON knows four blanks. -/
def skipBlanks : List UInt8 → List UInt8 :=
  List.dropWhile fun byte => byte == 0x20 || byte == 0x0A || byte == 0x09 || byte == 0x0D

def word? : List UInt8 → List UInt8 → Option (List UInt8)
  | [], rest => some rest
  | expected :: word, byte :: rest => if expected = byte then word? word rest else none
  | _ :: _, [] => none

def digit? (byte : UInt8) : Option Nat :=
  if 0x30 ≤ byte ∧ byte ≤ 0x39 then some (byte.toNat - 0x30) else none

/-- All digits after the first that does not fit are refused. -/
structure DigitRun where
  significand : Nat
  taken : Nat
  refused : Nat
  rest : List UInt8

def digitRun (significand taken refused : Nat) : List UInt8 → DigitRun
  | [] => ⟨significand, taken, refused, []⟩
  | byte :: rest =>
    match digit? byte with
    | none => ⟨significand, taken, refused, byte :: rest⟩
    | some digit =>
      let grown := significand * 10 + digit
      if refused ≠ 0 ∨ UInt64.size ≤ grown then digitRun significand taken (refused + 1) rest
      else digitRun grown (taken + 1) refused rest

/-- Superfluous leading zeros are refused. -/
def integerPart? : List UInt8 → Option DigitRun
  | [] => none
  | byte :: rest =>
    match digit? byte with
    | none => none
    | some 0 =>
      if (rest.head?.bind digit?).isSome then none else some ⟨0, 1, 0, rest⟩
    | some digit => some (digitRun digit 1 0 rest)

/-- A plain numeral has neither fraction nor exponent. -/
structure Numeral where
  negative : Bool
  significand : Nat
  scale : Int
  plain : Bool

/-- The significand takes the digits behind the point as well. -/
def fraction? (negative : Bool) (whole : DigitRun) : Option (Numeral × List UInt8) :=
  match whole.rest with
  | Mark.point :: digits =>
    let run := digitRun whole.significand 0 0 digits
    if run.taken = 0 ∧ run.refused = 0 then none
    else some (⟨negative, run.significand, (whole.refused : Int) - run.taken, false⟩, run.rest)
  | rest => some (⟨negative, whole.significand, whole.refused, true⟩, rest)

def exponent? (numeral : Numeral) (text : List UInt8) : Option (Numeral × List UInt8) :=
  match text with
  | [] => some (numeral, [])
  | mark :: rest =>
    if mark = 0x65 ∨ mark = 0x45 then
      let signed : Bool × List UInt8 :=
        match rest with
        | Mark.plus :: digits => (false, digits)
        | Mark.minus :: digits => (true, digits)
        | digits => (false, digits)
      let digits := signed.2.takeWhile fun byte => (digit? byte).isSome
      if digits.isEmpty then none
      else
        let size : Nat := digits.foldl (fun total byte => total * 10 + (digit? byte).getD 0) 0
        let power : Int := if signed.1 then -(size : Int) else size
        some ({ numeral with scale := numeral.scale + power, plain := false },
          signed.2.dropWhile fun byte => (digit? byte).isSome)
    else some (numeral, text)

def numeral? (text : List UInt8) : Option (Numeral × List UInt8) := do
  let (negative, digits) :=
    match text with
    | Mark.minus :: rest => (true, rest)
    | _ => (false, text)
  let (numeral, rest) ← fraction? negative (← integerPart? digits)
  exponent? numeral rest

/-- Negative zero is a floating number, and overflow has no value. -/
def Numeral.value? (numeral : Numeral) : Option JsonNumber :=
  let size := numeral.significand
  let float := (Binary64.ofDecimal? size numeral.scale).map fun magnitude =>
    JsonNumber.float (if numeral.negative then magnitude.negate else magnitude)
  if !numeral.plain || numeral.scale != 0 then float
  else if !numeral.negative then some (.integer size)
  else if size = 0 ∨ Nat.pow 2 63 < size then float
  else some (.integer (-(size : Int)))

def number? (text : List UInt8) : Option (JsonNumber × List UInt8) := do
  let (numeral, rest) ← numeral? text
  some (← numeral.value?, rest)

def codeUnit? (digits : List UInt8) : Option Nat :=
  Hexadecimal.number? (digits.map fun byte => Char.ofNat byte.toNat)

def escaped? (byte : UInt8) : Option UInt8 :=
  match byte with
  | 0x22 => some 0x22
  | 0x5C => some 0x5C
  | 0x2F => some 0x2F
  | 0x62 => some 0x08
  | 0x66 => some 0x0C
  | 0x6E => some 0x0A
  | 0x72 => some 0x0D
  | 0x74 => some 0x09
  | _ => none

def isHighSurrogate (unit : Nat) : Bool :=
  0xD800 ≤ unit && unit < 0xDC00

def isLowSurrogate (unit : Nat) : Bool :=
  0xDC00 ≤ unit && unit < 0xE000

def reversedBytes (scalar : Nat) : List UInt8 :=
  (Utf8.encode (String.singleton (Char.ofNat scalar))).reverse

/-- A high surrogate needs a low one behind it. -/
def stringBytes? (read : List UInt8) : List UInt8 → Option (List UInt8 × List UInt8)
  | [] => none
  | Mark.quote :: rest => some (read.reverse, rest)
  | Mark.backslash :: Mark.letterU :: a :: b :: c :: d :: rest =>
    match codeUnit? [a, b, c, d] with
    | none => none
    | some unit =>
      if isLowSurrogate unit then none
      else if isHighSurrogate unit then
        match rest with
        | Mark.backslash :: Mark.letterU :: a :: b :: c :: d :: rest =>
          match codeUnit? [a, b, c, d] with
          | none => none
          | some low =>
            if isLowSurrogate low then
              stringBytes?
                (reversedBytes (0x10000 + (unit - 0xD800) * 0x400 + (low - 0xDC00)) ++ read) rest
            else none
        | _ => none
      else stringBytes? (reversedBytes unit ++ read) rest
  | Mark.backslash :: byte :: rest =>
    match escaped? byte with
    | some meant => stringBytes? (meant :: read) rest
    | none => none
  | byte :: rest =>
    if byte < 0x20 ∨ byte = Mark.backslash then none else stringBytes? (byte :: read) rest

def string? (text : List UInt8) : Option (String × List UInt8) := do
  let (bytes, rest) ← stringBytes? [] text
  some (String.ofList (← Utf8.decode? bytes), rest)

/-- The escapes and bytes of a skipped string need not make characters. -/
def skipString? : List UInt8 → Option (List UInt8)
  | [] => none
  | Mark.quote :: rest => some rest
  | Mark.backslash :: Mark.letterU :: a :: b :: c :: d :: rest =>
    if (codeUnit? [a, b, c, d]).isSome then skipString? rest else none
  | Mark.backslash :: byte :: rest => if (escaped? byte).isSome then skipString? rest else none
  | byte :: rest => if byte < 0x20 ∨ byte = Mark.backslash then none else skipString? rest

def name? (text : List UInt8) : Option (Json × List UInt8) :=
  match text with
  | 0x6E :: rest => (word? [0x75, 0x6C, 0x6C] rest).map fun rest => (null, rest)
  | 0x74 :: rest => (word? [0x72, 0x75, 0x65] rest).map fun rest => (bool true, rest)
  | 0x66 :: rest => (word? [0x61, 0x6C, 0x73, 0x65] rest).map fun rest => (bool false, rest)
  | _ => none

def scalar? (text : List UInt8) : Option (Json × List UInt8) :=
  match text with
  | Mark.quote :: rest => (string? rest).map fun result => (string result.1, result.2)
  | _ =>
    match name? text with
    | some result => some result
    | none => (number? text).map fun result => (number result.1, result.2)

def skipScalar? (text : List UInt8) : Option (List UInt8) :=
  match text with
  | Mark.quote :: rest => skipString? rest
  | _ =>
    match name? text with
    | some result => some result.2
    | none => (numeral? text).map Prod.snd

end WorkflowEngine.Json.Reader
