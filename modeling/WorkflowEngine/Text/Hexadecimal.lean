/-
This file writes bytes as lower-case hexadecimal digits and reads digits of either case.
-/

namespace WorkflowEngine.Text.Hexadecimal

def digit (value : Nat) : Char :=
  if value < 10 then Char.ofNat (value + 48) else Char.ofNat (value + 87)

/-- Digits of either case count. -/
def value? (c : Char) : Option Nat :=
  if '0' ≤ c ∧ c ≤ '9' then some (c.toNat - 48)
  else if 'a' ≤ c ∧ c ≤ 'f' then some (c.toNat - 87)
  else if 'A' ≤ c ∧ c ≤ 'F' then some (c.toNat - 55)
  else none

def encode : List UInt8 → List Char
  | [] => []
  | byte :: rest => digit (byte.toNat / 16) :: digit (byte.toNat % 16) :: encode rest

def decode? : List Char → Option (List UInt8)
  | [] => some []
  | [_] => none
  | high :: low :: rest =>
    match value? high, value? low, decode? rest with
    | some h, some l, some bytes => some (UInt8.ofNat (h * 16 + l) :: bytes)
    | _, _, _ => none

def number? (digits : List Char) : Option Nat :=
  digits.foldl (fun total c =>
    match total, value? c with
    | some n, some d => some (n * 16 + d)
    | _, _ => none) (some 0)

def fixedWidth : Nat → Nat → List Char
  | 0, _ => []
  | count + 1, value => fixedWidth count (value / 16) ++ [digit (value % 16)]

def shortest (value : Nat) : List Char :=
  fixedWidth (value.log2 / 4 + 1) value

end WorkflowEngine.Text.Hexadecimal
