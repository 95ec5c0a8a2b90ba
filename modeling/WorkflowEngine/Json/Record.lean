/-
This file reads records and tagged records out of JSON values. A record is an object with named
members or an array of its fields in order. A tagged record begins with the name of its case.
-/

import WorkflowEngine.Json.Reader
import WorkflowEngine.Time.TimestampText
import WorkflowEngine.Uuid

namespace WorkflowEngine.Json

open Time

/-- A record holds the values of the fields that are present. -/
structure Record where
  positional : Bool
  values : List (String × Json)

namespace Record

def occurrences (members : List (String × Json)) (isNamed : String → Bool) : List Json :=
  (members.filter fun member => isNamed member.1).map Prod.snd

/-- A field that occurs twice is refused. -/
def ofMembers? (members : List (String × Json)) : List Field → Option (List (String × Json))
  | [] => some []
  | field :: rest =>
    match occurrences members field.isNamed, ofMembers? members rest with
    | [], some values => some values
    | [value], some values => some ((field.name, value) :: values)
    | _, _ => none

/-- More items than fields are refused. -/
def ofItems? : List Field → List Json → Option (List (String × Json))
  | _, [] => some []
  | [], _ :: _ => none
  | field :: fields, item :: items =>
    (ofItems? fields items).map fun values => (field.name, item) :: values

/-- Unknown members of an object are ignored. -/
def read? (fields : List Field) : Json → Option Record
  | object members => (ofMembers? members fields).map fun values => ⟨false, values⟩
  | array items => (ofItems? fields items).map fun values => ⟨true, values⟩
  | _ => none

def required {A : Type} (record : Record) (name : String) (decode : Json → Option A) : Option A :=
  (record.values.lookup name).bind decode

def defaulted {A : Type} (record : Record) (name : String) (default : A)
    (decode : Json → Option A) : Option A :=
  match record.values.lookup name with
  | none => some default
  | some value => decode value

def nullable {A : Type} (decode : Json → Option A) : Json → Option (Option A)
  | null => some none
  | value => (decode value).map some

def optional {A : Type} (record : Record) (name : String) (decode : Json → Option A) :
    Option (Option A) :=
  record.defaulted name none (nullable decode)

def present {A : Type} (record : Record) (name : String) (decode : Json → Option A) :
    Option (Option A) :=
  if record.positional then record.required name (nullable decode) else record.optional name decode

end Record

/-- A tagged value gives the name of its case and the record of the case's fields. -/
structure Tagged where
  tag : String
  content : Json

namespace Tagged

/-- Inside another tagged value the position of a case may stand for its name. -/
inductive TagForm where
  | name
  | nameOrPosition

def case? (form : TagForm) (cases : List String) : Json → Option String
  | string name => if cases.contains name then some name else none
  | value =>
    match form with
    | .name => none
    | .nameOrPosition => value.nat?.bind fun position => cases[position]?

/-- A tagged value is an object with a tag, or an array that begins with it. -/
def read? (form : TagForm) (key : String) (cases : List String) : Json → Option Tagged
  | object members =>
    match Record.occurrences members fun other => other == key with
    | [tag] =>
      (case? form cases tag).map fun name =>
        ⟨name, object (members.filter fun member => member.1 != key)⟩
    | _ => none
  | array (tag :: items) => (case? form cases tag).map fun name => ⟨name, array items⟩
  | _ => none

/-- Members beside the tag of a case without fields are ignored. -/
def isUnit (tagged : Tagged) : Bool :=
  match tagged.content with
  | array items => items.isEmpty
  | _ => true

end Tagged

def natBelow? (bound : Nat) (value : Json) : Option Nat :=
  value.nat?.bind fun number => if number < bound then some number else none

def uint32? (value : Json) : Option UInt32 :=
  (natBelow? UInt32.size value).map UInt32.ofNat

def uint64? (value : Json) : Option UInt64 :=
  (natBelow? UInt64.size value).map UInt64.ofNat

def int32? (value : Json) : Option Int32 :=
  value.int?.bind fun number =>
    if -2147483648 ≤ number ∧ number < 2147483648 then some (Int32.ofInt number) else none

def uuid? (value : Json) : Option Uuid :=
  value.text?.bind Uuid.ofText?

def timestamp? (value : Json) : Option Timestamp :=
  value.text?.bind Timestamp.ofText?

namespace Shape

/-- A text has this shape. -/
def text : Shape :=
  .scalar fun value => value.text?.isSome

/-- A truth value has this shape. -/
def bool : Shape :=
  .scalar fun value => value.bool?.isSome

/-- An unsigned integer of 32 bits has this shape. -/
def uint32 : Shape :=
  .scalar fun value => (uint32? value).isSome

/-- An unsigned integer of 64 bits has this shape. -/
def uint64 : Shape :=
  .scalar fun value => (uint64? value).isSome

/-- A signed integer of 32 bits has this shape. -/
def int32 : Shape :=
  .scalar fun value => (int32? value).isSome

/-- An identifier has this shape. -/
def uuid : Shape :=
  .scalar fun value => (uuid? value).isSome

/-- A timestamp has this shape. -/
def timestamp : Shape :=
  .scalar fun value => (timestamp? value).isSome

end Shape

def list? {A : Type} (decode : Json → Option A) (value : Json) : Option (List A) :=
  value.items?.bind fun items => items.mapM decode

def any? (value : Json) : Option Json :=
  some value.normalize

def ofUInt32 (value : UInt32) : Json :=
  ofNat value.toNat

def ofUInt64 (value : UInt64) : Json :=
  ofNat value.toNat

def ofInt32 (value : Int32) : Json :=
  ofInt value.toInt

def ofUuid (id : Uuid) : Json :=
  string id.text

def ofTimestamp (time : Timestamp) : Json :=
  string time.text

def ofDuration (duration : Duration) : Json :=
  object [("secs", ofNat duration.seconds), ("nanos", ofNat duration.subsecond)]

def optionalMember (key : String) : Option Json → List (String × Json)
  | some value => [(key, value)]
  | none => []

end WorkflowEngine.Json
