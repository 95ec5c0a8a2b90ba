/-
This file writes JSON values. Numbers show a point or an exponent exactly when they are floating
numbers; the exponent carries its sign.
-/

import WorkflowEngine.Json.Basic
import WorkflowEngine.Number.ShortestDecimal
import WorkflowEngine.Text.Hexadecimal

namespace WorkflowEngine.Json

open Number Text

/-- This structure fixes how a floating number is laid out around its point. -/
structure FloatLayout where
  leastPositional : Int
  greatestPositional : Int

/-- Numbers from 10^-5 up to 10^16 are written positionally. -/
def floatLayout : FloatLayout := ⟨-5, 15⟩

def stripZeros : Nat → Decimal → Decimal
  | 0, decimal => decimal
  | fuel + 1, decimal =>
    if decimal.digits ≠ 0 ∧ decimal.digits % 10 = 0 then
      stripZeros fuel ⟨decimal.digits / 10, decimal.exponent + 1⟩
    else decimal

def scientific (digits : List Char) (leading : Int) : List Char :=
  let mantissa :=
    match digits with
    | first :: second :: rest => first :: '.' :: second :: rest
    | short => short
  let size := (toString leading.natAbs).toList
  mantissa ++ 'e' :: (if leading < 0 then '-' else '+') :: size

def positional (digits : List Char) (leading : Int) : List Char :=
  if leading < 0 then
    '0' :: '.' :: List.replicate (-leading - 1).toNat '0' ++ digits
  else
    let count := leading.toNat + 1
    if count < digits.length then digits.take count ++ '.' :: digits.drop count
    else digits ++ List.replicate (count - digits.length) '0' ++ ['.', '0']

/-- The text has the fewest digits that read back. -/
def floatText (value : Binary64) : List Char :=
  let sign := if value.negative then ['-'] else []
  if value.significand = 0 then sign ++ ['0', '.', '0']
  else
    let decimal := stripZeros 20 (ShortestDecimal.ofBinary value)
    let digits := (toString decimal.digits).toList
    let leading := decimal.exponent + (digits.length : Int) - 1
    let positionally :=
      decide (floatLayout.leastPositional ≤ leading ∧ leading ≤ floatLayout.greatestPositional)
    sign ++ (if positionally then positional digits leading else scientific digits leading)

def numberText : JsonNumber → List Char
  | .integer value => (toString value).toList
  | .float value => floatText value

/-- The layout tells which characters are escaped beyond the necessary ones. -/
structure StringLayout where
  asciiOnly : Bool

def unitEscape (unit : Nat) : List Char :=
  ['\\', 'u'] ++ Hexadecimal.fixedWidth 4 unit

def characterText (layout : StringLayout) (c : Char) : List Char :=
  if c = '"' then ['\\', '"']
  else if c = '\\' then ['\\', '\\']
  else if c = '\x08' then ['\\', 'b']
  else if c = '\x0c' then ['\\', 'f']
  else if c = '\n' then ['\\', 'n']
  else if c = '\r' then ['\\', 'r']
  else if c = '\t' then ['\\', 't']
  else if c.toNat < 0x20 then unitEscape c.toNat
  else if layout.asciiOnly ∧ 0x7F ≤ c.toNat then
    if c.toNat < 0x10000 then unitEscape c.toNat
    else
      let offset := c.toNat - 0x10000
      unitEscape (0xD800 + offset / 0x400) ++ unitEscape (0xDC00 + offset % 0x400)
  else [c]

def stringText (layout : StringLayout) (value : String) : List Char :=
  '"' :: value.toList.flatMap (characterText layout) ++ ['"']

mutual

def compact (layout : StringLayout) : Json → List Char
  | null => ['n', 'u', 'l', 'l']
  | bool true => ['t', 'r', 'u', 'e']
  | bool false => ['f', 'a', 'l', 's', 'e']
  | number value => numberText value
  | string value => stringText layout value
  | array [] => ['[', ']']
  | array (first :: rest) => '[' :: compact layout first ++ compactItems layout rest
  | object [] => ['\x7b', '\x7d']
  | object ((key, value) :: rest) =>
    '\x7b' :: stringText layout key ++ ':' :: compact layout value ++ compactMembers layout rest

def compactItems (layout : StringLayout) : List Json → List Char
  | [] => [']']
  | item :: rest => ',' :: compact layout item ++ compactItems layout rest

def compactMembers (layout : StringLayout) : List (String × Json) → List Char
  | [] => ['\x7d']
  | (key, value) :: rest =>
    ',' :: stringText layout key ++ ':' :: compact layout value ++ compactMembers layout rest

end

def lineBreak (depth : Nat) : List Char :=
  '\n' :: List.replicate (2 * depth) ' '

mutual

/-- Every level is indented by two blanks. -/
def indented (layout : StringLayout) (depth : Nat) : Json → List Char
  | array (first :: rest) =>
    '[' :: lineBreak (depth + 1) ++ indented layout (depth + 1) first ++
      indentedItems layout depth rest
  | object ((key, value) :: rest) =>
    '\x7b' :: lineBreak (depth + 1) ++ stringText layout key ++ ':' :: ' ' ::
      indented layout (depth + 1) value ++ indentedMembers layout depth rest
  | value => compact layout value

def indentedItems (layout : StringLayout) (depth : Nat) : List Json → List Char
  | [] => lineBreak depth ++ [']']
  | item :: rest =>
    ',' :: lineBreak (depth + 1) ++ indented layout (depth + 1) item ++
      indentedItems layout depth rest

def indentedMembers (layout : StringLayout) (depth : Nat) : List (String × Json) → List Char
  | [] => lineBreak depth ++ ['\x7d']
  | (key, value) :: rest =>
    ',' :: lineBreak (depth + 1) ++ stringText layout key ++ ':' :: ' ' ::
      indented layout (depth + 1) value ++ indentedMembers layout depth rest

end

def render (value : Json) : String :=
  String.ofList (compact ⟨false⟩ value)

def renderAscii (value : Json) : String :=
  String.ofList (compact ⟨true⟩ value)

def renderIndented (value : Json) : String :=
  String.ofList (indented ⟨false⟩ 0 value)

end WorkflowEngine.Json
