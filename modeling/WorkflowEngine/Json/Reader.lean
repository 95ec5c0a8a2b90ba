/-
This file reads JSON texts whose shape is known. The first fault in the order of the text decides:
the text is malformed, or a value has another shape than the place where it stands. The members of a
record that no field names are skipped; every other value is read with at most 127 nested arrays and
objects, and keeps repeated members.
-/

import WorkflowEngine.Json.Lexeme
import WorkflowEngine.Json.Shape

namespace WorkflowEngine.Json

/-- A text breaks the rules of JSON, or it holds a value of another shape than expected. -/
inductive ReadFault where
  | malformed
  | mismatched
  deriving DecidableEq, Repr

namespace Reader

/-- A reading takes a value from the front of a text and gives the rest of the text. -/
abbrev Reading (A : Type) : Type := List UInt8 → Except ReadFault (A × List UInt8)

def orMalformed {A : Type} : Option A → Except ReadFault A
  | some value => .ok value
  | none => .error .malformed

def expected (accepts : Json → Bool) (value : Json) : Except ReadFault Json :=
  if accepts value then .ok value else .error .mismatched

/-- Each further entry stands behind a comma. -/
def furtherEntries {S : Type} (close : UInt8) (entry : S → Reading S) : Nat → S → Reading S
  | 0, _, _ => .error .malformed
  | size + 1, state, text =>
    match skipBlanks text with
    | [] => .error .malformed
    | byte :: rest =>
      if byte = close then .ok (state, rest)
      else if byte = Mark.comma then do
        let (state, rest) ← entry state rest
        furtherEntries close entry size state rest
      else .error .malformed

/-- There are at most as many entries as the size tells. -/
def entries {S : Type} (size : Nat) (close : UInt8) (entry : S → Reading S) (start : S)
    (text : List UInt8) : Except ReadFault (S × List UInt8) :=
  match skipBlanks text with
  | [] => .error .malformed
  | byte :: rest =>
    if byte = close then .ok (start, rest)
    else do
      let (state, rest) ← entry start (byte :: rest)
      furtherEntries close entry size state rest

/-- The last item comes first. -/
def items {A : Type} (size : Nat) (item : Reading A) (text : List UInt8) :
    Except ReadFault (List A × List UInt8) :=
  entries size Mark.closeBracket (fun items text => do
    let (item, rest) ← item text
    .ok (item :: items, rest)) [] text

/-- A member is read by its key first. -/
def members {K S : Type} (size : Nat) (key : List UInt8 → Option (K × List UInt8))
    (member : S → K → Reading S) (start : S) (text : List UInt8) :
    Except ReadFault (S × List UInt8) :=
  entries size Mark.closeBrace (fun state text =>
    match skipBlanks text with
    | Mark.quote :: rest => do
      let (key, rest) ← orMalformed (key rest)
      member state key rest
    | _ => .error .malformed) start text

def behindColon {A : Type} (value : Reading A) (text : List UInt8) :
    Except ReadFault (A × List UInt8) :=
  match skipBlanks text with
  | Mark.colon :: rest => value rest
  | _ => .error .malformed

def value (size : Nat) : Nat → Reading Json
  | depth, text =>
    match skipBlanks text with
    | Mark.openBracket :: rest =>
      match depth with
      | 0 => .error .malformed
      | depth + 1 => do
        let (items, rest) ← items size (value size depth) rest
        .ok (array items.reverse, rest)
    | Mark.openBrace :: rest =>
      match depth with
      | 0 => .error .malformed
      | depth + 1 => do
        let (members, rest) ← members size string? (fun members key text => do
          let (value, rest) ← behindColon (value size depth) text
          .ok ((key, value) :: members, rest)) [] rest
        .ok (object members.reverse, rest)
    | text => orMalformed (scalar? text)

/-- Nothing of a skipped value is kept. -/
def skipped (size : Nat) : Nat → Reading Unit
  | depth, text =>
    match skipBlanks text with
    | Mark.openBracket :: rest =>
      match depth with
      | 0 => .error .malformed
      | depth + 1 =>
        entries size Mark.closeBracket (fun _ text => skipped size depth text) () rest
    | Mark.openBrace :: rest =>
      match depth with
      | 0 => .error .malformed
      | depth + 1 =>
        members size (fun text => (skipString? text).map fun rest => ((), rest))
          (fun _ _ text => behindColon (skipped size depth) text) () rest
    | text => do
      let rest ← orMalformed (skipScalar? text)
      .ok ((), rest)

/-- Some values are a mismatch before they have been read. -/
def misplaced (text : List UInt8) : Except ReadFault (Json × List UInt8) :=
  match skipBlanks text with
  | Mark.openBracket :: _ => .error .mismatched
  | Mark.openBrace :: _ => .error .mismatched
  | text => do
    let _ ← orMalformed (scalar? text)
    .error .mismatched

def scalar (accepts : Json → Bool) (text : List UInt8) : Except ReadFault (Json × List UInt8) :=
  match skipBlanks text with
  | Mark.openBracket :: _ => .error .mismatched
  | Mark.openBrace :: _ => .error .mismatched
  | text => do
    let (value, rest) ← orMalformed (scalar? text)
    .ok (← expected accepts value, rest)

/-- Null stands for an absent value where the field allows it. -/
def fieldValue (read : Shape → Reading Json) (field : Field) (text : List UInt8) :
    Except ReadFault (Json × List UInt8) :=
  match skipBlanks text with
  | 0x6E :: rest =>
    if field.presence.allowsNull then orMalformed (name? (0x6E :: rest))
    else read field.shape (0x6E :: rest)
  | text => read field.shape text

def complete (positional : Bool) (fields : List Field) (isPresent : Field → Bool) : Bool :=
  fields.all fun field => isPresent field || field.presence.allowsAbsence positional

/-- A field that occurs twice is refused at its second key. -/
def namedFields (size : Nat) (read : Shape → Reading Json) (fields : List Field)
    (text : List UInt8) : Except ReadFault (Json × List UInt8) := do
  let (found, rest) ← members size string? (fun (found : List (String × Json)) key text =>
    match fields.find? fun field => field.isNamed key with
    | none => do
      let (_, rest) ← behindColon (skipped size size) text
      .ok (found, rest)
    | some field =>
      if found.any fun member => field.isNamed member.1 then .error .mismatched
      else do
        let (value, rest) ← behindColon (fieldValue read field) text
        .ok ((key, value) :: found, rest)) [] text
  if complete false fields fun field => found.any fun member => field.isNamed member.1 then
    .ok (object found.reverse, rest)
  else .error .mismatched

/-- An item behind the last field has no place in the text. -/
def orderedFields (size : Nat) (read : Shape → Reading Json) (fields : List Field)
    (text : List UInt8) : Except ReadFault (Json × List UInt8) := do
  let ((missing, found), rest) ← entries size Mark.closeBracket
    (fun (state : List Field × List Json) text =>
      match state.1 with
      | [] => .error .malformed
      | field :: fields => do
        let (value, rest) ← fieldValue read field text
        .ok ((fields, value :: state.2), rest)) (fields, []) text
  if complete true missing fun _ => false then .ok (array found.reverse, rest)
  else .error .mismatched

def isCase (cases : List String) : Json → Bool
  | string name => cases.contains name
  | _ => false

def taggedMembers (size : Nat) (read : Reading Json) (key : String) (cases : List String)
    (text : List UInt8) : Except ReadFault (Json × List UInt8) := do
  let (found, rest) ← members size string? (fun (found : List (String × Json)) name text =>
    if name = key then
      if found.any fun member => member.1 == key then .error .mismatched
      else do
        let (tag, rest) ← behindColon (scalar (isCase cases)) text
        .ok ((name, tag) :: found, rest)
    else do
      let (value, rest) ← behindColon read text
      .ok ((name, value) :: found, rest)) [] text
  .ok (object found.reverse, rest)

def taggedItems (size : Nat) (read : Reading Json) (cases : List String)
    (text : List UInt8) : Except ReadFault (Json × List UInt8) := do
  let (found, rest) ← entries size Mark.closeBracket (fun (found : List Json) text => do
    let (value, rest) ← if found.isEmpty then scalar (isCase cases) text else read text
    .ok (value :: found, rest)) [] text
  .ok (array found.reverse, rest)

def shaped (size : Nat) : Nat → Shape → Reading Json
  | depth, .free accepts, text => do
    let (value, rest) ← value size depth text
    .ok (← expected accepts value, rest)
  | _, .scalar accepts, text => scalar accepts text
  | depth, shape, text =>
    match skipBlanks text with
    | Mark.openBracket :: rest =>
      match depth, shape with
      | 0, _ => .error .malformed
      | depth + 1, .list item => do
        let (items, rest) ← items size (shaped size depth item) rest
        .ok (array items.reverse, rest)
      | depth + 1, .record fields => orderedFields size (shaped size depth) fields rest
      | depth + 1, .tagged _ cases accepts => do
        let (value, rest) ← taggedItems size (value size depth) cases rest
        .ok (← expected accepts value, rest)
      | _, _ => .error .mismatched
    | Mark.openBrace :: rest =>
      match depth, shape with
      | _, .list _ => .error .mismatched
      | 0, _ => .error .malformed
      | depth + 1, .record fields => namedFields size (shaped size depth) fields rest
      | depth + 1, .tagged key cases accepts => do
        let (value, rest) ← taggedMembers size (value size depth) key cases rest
        .ok (← expected accepts value, rest)
      | _, _ => .error .mismatched
    | text => misplaced text

end Reader

/-- The greatest number of nested arrays and objects of a text. -/
def nestingLimit : Nat := 127

def readBytes (shape : Shape) (bytes : List UInt8) : Except ReadFault Json := do
  let (value, rest) ← Reader.shaped bytes.length nestingLimit shape bytes
  if (Reader.skipBlanks rest).isEmpty then .ok value else .error .malformed

def parseBytes? (bytes : List UInt8) : Option Json :=
  (readBytes .any bytes).toOption

def parseText? (text : String) : Option Json :=
  parseBytes? (Text.Utf8.encode text)

/-- A format has a shape and decodes the values of this shape. -/
structure Format (A : Type) where
  shape : Shape
  decode? : Json → Option A

namespace Format

variable {A : Type}

def ofBytes (format : Format A) (bytes : List UInt8) : Except ReadFault A := do
  let value ← readBytes format.shape bytes
  match format.decode? value with
  | some content => .ok content
  | none => .error .mismatched

def ofText? (format : Format A) (text : String) : Option A :=
  (format.ofBytes (Text.Utf8.encode text)).toOption

end Format

end WorkflowEngine.Json
