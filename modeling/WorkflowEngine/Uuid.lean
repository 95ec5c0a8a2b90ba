/-
This file holds universally unique identifiers of 128 bits and their texts.
-/

import WorkflowEngine.Text.Blank
import WorkflowEngine.Text.Hexadecimal

namespace WorkflowEngine

/-- Identifiers are ordered as numbers. -/
structure Uuid where
  value : BitVec 128
  deriving DecidableEq, Repr, Inhabited

namespace Uuid

open Text

def nil : Uuid := ⟨0⟩

def compare (left right : Uuid) : Ordering :=
  Ord.compare left.value.toNat right.value.toNat

def hyphenate (digits : List Char) : List Char :=
  digits.take 8 ++ '-' :: (digits.drop 8).take 4 ++ '-' :: (digits.drop 12).take 4 ++
    '-' :: (digits.drop 16).take 4 ++ '-' :: digits.drop 20

def characters (id : Uuid) : List Char :=
  hyphenate (Hexadecimal.fixedWidth 32 id.value.toNat)

def text (id : Uuid) : String :=
  String.ofList id.characters

def ofDigits? (digits : List Char) : Option Uuid :=
  if digits.length = 32 then (Hexadecimal.number? digits).map fun number => ⟨BitVec.ofNat 128 number⟩
  else none

def withoutHyphens? (text : List Char) : Option (List Char) :=
  let digits := text.filter fun c => c != '-'
  if text = hyphenate digits then some digits else none

def ofHyphenated? (text : List Char) : Option Uuid :=
  (withoutHyphens? text).bind ofDigits?

/-- The words that open a uniform resource name may be written in letters of either case. -/
def resourceStart : List Char := "urn:uuid:".toList

/-- An identifier is written bare, in braces, or as a uniform resource name. -/
inductive Wrapping where
  | bare
  | braces
  | resourceName
  deriving DecidableEq, Repr

def Wrapping.start : Wrapping → Nat
  | .bare => 0
  | .braces => 1
  | .resourceName => resourceStart.length

def unwrap (text : List Char) : Wrapping × List Char :=
  if (text.take resourceStart.length).map lowerAsciiChar = resourceStart then
    (.resourceName, text.drop resourceStart.length)
  else
    match text with
    | '\x7b' :: rest =>
      if rest.getLast? = some '\x7d' then (.braces, rest.dropLast) else (.bare, text)
    | _ => (.bare, text)

/-- Digits without hyphens may not be wrapped. -/
def parse? (text : List Char) : Option Uuid :=
  match unwrap text with
  | (.bare, text) => if text.length = 32 then ofDigits? text else ofHyphenated? text
  | (_, text) => ofHyphenated? text

def ofText? (text : String) : Option Uuid :=
  parse? text.toList

/-- A character, the length or the groups between the hyphens are at fault. -/
inductive TextFault where
  | character (c : Char) (position : Nat)
  | length (found : Nat)
  | groupCount (found : Nat)
  | groupLength (group found : Nat)
  deriving DecidableEq, Repr

namespace TextFault

def message : TextFault → String
  | character c position =>
    "invalid character: expected an optional prefix of `urn:uuid:` followed by " ++
      "[0-9a-fA-F-], found `" ++ String.singleton c ++ "` at " ++ toString position
  | length found =>
    "invalid length: expected length 32 for simple format, found " ++ toString found
  | groupCount found => "invalid group count: expected 5, found " ++ toString found
  | groupLength group found =>
    "invalid group length in group " ++ toString group ++ ": expected " ++
      toString ([8, 4, 4, 4, 12].getD group 0) ++ ", found " ++ toString found

end TextFault

/-- The number counts the bytes before the character. -/
def strangeCharacter? (position : Nat) : List Char → Option (Char × Nat)
  | [] => none
  | c :: rest =>
    if c = '-' ∨ (Hexadecimal.value? c).isSome then
      strangeCharacter? (position + c.utf8Size) rest
    else some (c, position)

def wrongGroup (whole : Nat) (groups : List (List Char)) : TextFault :=
  match ((groups.map List.length).zip [8, 4, 4, 4]).findIdx? fun lengths => lengths.1 != lengths.2 with
  | some group => .groupLength group ((groups.getD group []).length)
  | none => .groupLength 4 (whole - 24)

def fault (text : List Char) : TextFault :=
  let (wrapping, inner) := unwrap text
  let groups := cutAt '-' inner
  match strangeCharacter? (wrapping.start + 1) inner with
  | some (c, position) => .character c position
  | none =>
    let hyphens := inner.count '-'
    if hyphens = 0 ∧ wrapping = .bare then .length text.length
    else if hyphens ≠ 4 then .groupCount (hyphens + 1)
    else wrongGroup text.length groups

end Uuid

end WorkflowEngine
