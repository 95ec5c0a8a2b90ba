/-
This file holds the characters of the Unicode property White_Space, and trims and cuts texts.
-/

namespace WorkflowEngine.Text

/-- The property holds for twenty-five characters. -/
def isBlank (c : Char) : Bool :=
  let code := c.toNat
  (0x9 ≤ code && code ≤ 0xD) || code == 0x20 || code == 0x85 || code == 0xA0 || code == 0x1680 ||
    (0x2000 ≤ code && code ≤ 0x200A) || code == 0x2028 || code == 0x2029 || code == 0x202F ||
    code == 0x205F || code == 0x3000

def trim (text : List Char) : List Char :=
  ((text.dropWhile isBlank).reverse.dropWhile isBlank).reverse

/-- Only the letters A to Z are changed. -/
def lowerAsciiChar (c : Char) : Char :=
  if 'A' ≤ c ∧ c ≤ 'Z' then Char.ofNat (c.toNat + 32) else c

def lowerAscii (text : String) : String :=
  text.map lowerAsciiChar

/-- The blanks are space, tab, line feed, form feed and carriage return. -/
def isAsciiBlank (byte : UInt8) : Bool :=
  byte == 0x20 || byte == 0x9 || byte == 0xA || byte == 0xC || byte == 0xD

/-- The mark itself belongs to no piece. -/
def cutAt (mark : Char) (text : List Char) : List (List Char) :=
  text.foldr (fun c pieces =>
    if c = mark then [] :: pieces
    else match pieces with
      | first :: rest => (c :: first) :: rest
      | [] => [[c]]) [[]]

def withoutStart : List Char → List Char → Option (List Char)
  | [], text => some text
  | _ :: _, [] => none
  | expected :: start, c :: text => if expected = c then withoutStart start text else none

end WorkflowEngine.Text
