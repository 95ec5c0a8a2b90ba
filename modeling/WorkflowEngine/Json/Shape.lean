/-
This file describes how the values of a type look in a JSON text. A reader that knows the shape of
what it reads finds a value of another shape at the place where it begins.
-/

import WorkflowEngine.Json.Basic

namespace WorkflowEngine.Json

/-- A field may be absent or null, and absent perhaps only from an object. -/
inductive Presence where
  | required
  | defaulted
  | optional
  | nullable
  deriving DecidableEq, Repr

namespace Presence

/-- Null may stand for an absent value. -/
def allowsNull : Presence → Bool
  | required => false
  | defaulted => false
  | optional => true
  | nullable => true

/-- A nullable field may be absent only from an object. -/
def allowsAbsence (positional : Bool) : Presence → Bool
  | required => false
  | defaulted => true
  | optional => true
  | nullable => !positional

end Presence

/-- A field may be written under further names. -/
structure FieldOf (S : Type) where
  name : String
  aliases : List String := []
  presence : Presence
  shape : S

/-- A scalar is no array and no object. -/
inductive Shape where
  | free (accepts : Json → Bool)
  | scalar (accepts : Json → Bool)
  | list (item : Shape)
  | record (fields : List (FieldOf Shape))
  | tagged (key : String) (cases : List String) (accepts : Json → Bool)

abbrev Field := FieldOf Shape

namespace Field

def isNamed (field : Field) (key : String) : Bool :=
  key == field.name || field.aliases.contains key

/-- This field has to be present. -/
def required (name : String) (shape : Shape) : Field :=
  { name := name, presence := .required, shape := shape }

/-- This field has a default. -/
def defaulted (name : String) (shape : Shape) : Field :=
  { name := name, presence := .defaulted, shape := shape }

/-- This field may be absent or null. -/
def optional (name : String) (shape : Shape) : Field :=
  { name := name, presence := .optional, shape := shape }

/-- This field may be null, and absent only from an object. -/
def nullable (name : String) (shape : Shape) : Field :=
  { name := name, presence := .nullable, shape := shape }

end Field

/-- Every value has this shape. -/
def Shape.any : Shape :=
  .free fun _ => true

end WorkflowEngine.Json
