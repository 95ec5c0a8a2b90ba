/-
This file writes timestamps and reads them. A written time has the form of RFC 3339 with the
shortest fraction of zero, three, six or nine digits. A read one may have blanks between its parts.
-/

import WorkflowEngine.Text.Blank
import WorkflowEngine.Time.Timestamp

namespace WorkflowEngine.Time.Timestamp

open Text

/-- A year outside 0000 to 9999 carries a sign. -/
def yearText (year : Int) : List Char :=
  let size := year.natAbs
  let digits := (toString size).toList
  let padded := List.replicate (4 - digits.length) '0' ++ digits
  if year < 0 then '-' :: padded
  else if 9999 < year then '+' :: padded
  else padded

/-- A fraction has zero, three, six or nine digits. -/
def fractionText (nanoseconds : Nat) : List Char :=
  if nanoseconds = 0 then []
  else if nanoseconds % 1000000 = 0 then '.' :: Duration.digits 3 (nanoseconds / 1000000)
  else if nanoseconds % 1000 = 0 then '.' :: Duration.digits 6 (nanoseconds / 1000)
  else '.' :: Duration.digits 9 nanoseconds

def characters (time : Timestamp) : List Char :=
  let date := Date.ofDays (time.seconds / 86400)
  let second := time.secondOfDay.toNat
  let leap := if billion ≤ time.fraction then 1 else 0
  yearText date.year ++ '-' :: Duration.digits 2 date.month ++ '-' :: Duration.digits 2 date.day ++
    'T' :: Duration.digits 2 (second / 3600) ++ ':' :: Duration.digits 2 (second / 60 % 60) ++
    ':' :: Duration.digits 2 (second % 60 + leap) ++ fractionText (time.fraction % billion) ++ ['Z']

def text (time : Timestamp) : String :=
  String.ofList time.characters

def isDigit (c : Char) : Bool :=
  '0' ≤ c && c ≤ '9'

def digitsValue (digits : List Char) : Nat :=
  digits.foldl (fun total c => total * 10 + (c.toNat - 48)) 0

def digits? (most : Nat) (text : List Char) : Option (List Char × List Char) :=
  let found := (text.takeWhile isDigit).take most
  if found.isEmpty then none else some (found, text.drop found.length)

def pair? (text : List Char) : Option (Nat × List Char) :=
  (digits? 2 (text.dropWhile isBlank)).map fun result => (digitsValue result.1, result.2)

def mark? (expected : Char) (text : List Char) : Option (List Char) :=
  match text.dropWhile isBlank with
  | c :: rest => if c = expected then some rest else none
  | [] => none

/-- A signed year may have any number of digits. -/
def year? (text : List Char) : Option (Int × List Char) :=
  match text.dropWhile isBlank with
  | '-' :: rest => (digits? rest.length rest).map fun result => (-(digitsValue result.1 : Int), result.2)
  | '+' :: rest => (digits? rest.length rest).map fun result => ((digitsValue result.1 : Int), result.2)
  | rest => (digits? 4 rest).map fun result => ((digitsValue result.1 : Int), result.2)

def separator? : List Char → Option (List Char)
  | 'T' :: rest => some rest
  | 't' :: rest => some rest
  | ' ' :: rest => some rest
  | _ => none

/-- Digits beyond the ninth are dropped. -/
def fraction? : List Char → Option (Nat × List Char)
  | '.' :: text =>
    (digits? 9 text).map fun result =>
      (digitsValue result.1 * Nat.pow 10 (9 - result.1.length), result.2.dropWhile isDigit)
  | text => some (0, text)

def offsetSize? : List Char → Option (Int × List Char)
  | h1 :: h2 :: rest =>
    match (rest.dropWhile fun c => c == ':' || isBlank c) with
    | m1 :: m2 :: rest =>
      if isDigit h1 && isDigit h2 && isDigit m1 && isDigit m2 then
        let hours := digitsValue [h1, h2]
        let minutes := digitsValue [m1, m2]
        if hours < 24 ∧ minutes < 60 then some ((hours * 3600 + minutes * 60 : Nat), rest) else none
      else none
    | _ => none
  | _ => none

def universal? : List Char → Option (List Char)
  | u :: t :: c :: rest =>
    if lowerAscii (String.ofList [u, t, c]) = "utc" then some rest else none
  | _ => none

def offset? (text : List Char) : Option (Int × List Char) :=
  match universal? text with
  | some rest => some (0, rest)
  | none =>
    match text with
    | 'Z' :: rest => some (0, rest)
    | 'z' :: rest => some (0, rest)
    | '+' :: rest => offsetSize? rest
    | '-' :: rest => (offsetSize? rest).map fun result => (-result.1, result.2)
    | '−' :: rest => (offsetSize? rest).map fun result => (-result.1, result.2)
    | _ => none

def parse? (text : List Char) : Option Timestamp := do
  let (year, rest) ← year? text
  let (month, rest) ← (mark? '-' rest).bind pair?
  let (day, rest) ← (mark? '-' rest).bind pair?
  let rest ← separator? rest
  let (hour, rest) ← pair? rest
  let (minute, rest) ← (mark? ':' rest).bind pair?
  let (second, rest) ← (mark? ':' rest).bind pair?
  let (fraction, rest) ← fraction? rest
  let (offset, rest) ← offset? (rest.dropWhile isBlank)
  let date : Date := ⟨year, month, day⟩
  if !(rest.dropWhile isBlank).isEmpty then none
  else if !date.isValid then none
  else if 23 < hour ∨ 59 < minute ∨ 60 < second then none
  else
    let leap := second = 60
    let seconds := date.toDays * 86400 + hour * 3600 + minute * 60 +
      (if leap then 59 else second) - offset
    let utc := Date.ofDays (seconds / 86400)
    if utc.year < Date.leastYear ∨ Date.greatestYear < utc.year then none
    else some ⟨seconds, if leap then billion + fraction else fraction⟩

def ofText? (text : String) : Option Timestamp :=
  parse? text.toList

end WorkflowEngine.Time.Timestamp
