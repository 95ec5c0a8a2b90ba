/-
This file quotes a text between double quotes, so that every character of it can be seen.
-/

import WorkflowEngine.Text.Hexadecimal
import WorkflowEngine.Text.Visible

namespace WorkflowEngine.Text.Quoted

def codePoint (c : Char) : List Char :=
  ['\\', 'u', '\x7b'] ++ Hexadecimal.shortest c.toNat ++ ['\x7d']

/-- Invisible characters without a short escape show their code. -/
def character (c : Char) : List Char :=
  if c = '\x00' then ['\\', '0']
  else if c = '\t' then ['\\', 't']
  else if c = '\n' then ['\\', 'n']
  else if c = '\r' then ['\\', 'r']
  else if c = '"' then ['\\', '"']
  else if c = '\\' then ['\\', '\\']
  else if c.toNat < 0x7F then (if 0x20 ≤ c.toNat then [c] else codePoint c)
  else if isVisible c then [c]
  else codePoint c

def text (value : String) : String :=
  String.ofList ('"' :: value.toList.flatMap character ++ ['"'])

def list (values : List String) : String :=
  "[" ++ ", ".intercalate (values.map text) ++ "]"

end WorkflowEngine.Text.Quoted
