/-
This file holds JSON values. A value read from a text keeps its members in the written order;
`normalize` sorts them by key and keeps the last of several members with one key.
-/

import WorkflowEngine.Number.Binary64

namespace WorkflowEngine

open Number

/-- Only an integer of 64 bits keeps its value exactly. -/
inductive JsonNumber where
  | integer (value : Int)
  | float (value : Binary64)
  deriving DecidableEq, Repr

inductive Json where
  | null
  | bool (value : Bool)
  | number (value : JsonNumber)
  | string (value : String)
  | array (items : List Json)
  | object (members : List (String × Json))
  deriving Repr, Inhabited

namespace Json

mutual

/-- Members have to stand in the same order. -/
def same : Json → Json → Bool
  | null, null => true
  | bool left, bool right => left == right
  | number left, number right => left == right
  | string left, string right => left == right
  | array left, array right => sameItems left right
  | object left, object right => sameMembers left right
  | _, _ => false

def sameItems : List Json → List Json → Bool
  | [], [] => true
  | left :: lefts, right :: rights => same left right && sameItems lefts rights
  | _, _ => false

def sameMembers : List (String × Json) → List (String × Json) → Bool
  | [], [] => true
  | (leftKey, left) :: lefts, (rightKey, right) :: rights =>
    leftKey == rightKey && same left right && sameMembers lefts rights
  | _, _ => false

end

mutual

theorem sameIff : (left right : Json) → (same left right = true ↔ left = right)
  | null, right => by cases right <;> simp [same]
  | bool _, right => by cases right <;> simp [same]
  | number _, right => by cases right <;> simp [same]
  | string _, right => by cases right <;> simp [same]
  | array items, right => by cases right <;> simp [same, sameItemsIff items]
  | object members, right => by cases right <;> simp [same, sameMembersIff members]

theorem sameItemsIff : (left right : List Json) → (sameItems left right = true ↔ left = right)
  | [], right => by cases right <;> simp [sameItems]
  | first :: rest, right => by
    cases right <;> simp [sameItems, sameIff first, sameItemsIff rest]

theorem sameMembersIff : (left right : List (String × Json)) →
    (sameMembers left right = true ↔ left = right)
  | [], right => by cases right <;> simp [sameMembers]
  | (key, first) :: rest, right => by
    cases right with
    | nil => simp [sameMembers]
    | cons member members =>
      cases member
      simp [sameMembers, sameIff first, sameMembersIff rest, and_assoc]

end

instance : DecidableEq Json := fun left right =>
  decidable_of_iff (same left right = true) (sameIff left right)

/-- The list stays sorted, and a member of the same key is replaced. -/
def insertMember (key : String) (value : Json) : List (String × Json) → List (String × Json)
  | [] => [(key, value)]
  | (other, old) :: rest =>
    if key < other then (key, value) :: (other, old) :: rest
    else if key = other then (key, value) :: rest
    else (other, old) :: insertMember key value rest

/-- A later member replaces an earlier one. -/
def ofMembers (members : List (String × Json)) : Json :=
  object (members.foldl (fun sorted member => insertMember member.1 member.2 sorted) [])

mutual

/-- Members are sorted, and the last one of each key is kept. -/
def normalize : Json → Json
  | array items => array (normalizeItems items)
  | object members => ofMembers (normalizeMembers members)
  | null => null
  | bool value => bool value
  | number value => number value
  | string value => string value

def normalizeItems : List Json → List Json
  | [] => []
  | item :: rest => normalize item :: normalizeItems rest

def normalizeMembers : List (String × Json) → List (String × Json)
  | [] => []
  | (key, value) :: rest => (key, normalize value) :: normalizeMembers rest

end

def get? (value : Json) (key : String) : Option Json :=
  match value with
  | object members => members.lookup key
  | _ => none

def members? : Json → Option (List (String × Json))
  | object members => some members
  | _ => none

/-- Members of the same keys are replaced. -/
def merged (base additions : List (String × Json)) : Json :=
  ofMembers (base ++ additions)

def ofInt (value : Int) : Json :=
  number (.integer value)

def ofNat (value : Nat) : Json :=
  number (.integer value)

def ofOption : Option Json → Json
  | some value => value
  | none => null

def int? : Json → Option Int
  | number (.integer value) => some value
  | _ => none

def nat? (value : Json) : Option Nat :=
  match value.int? with
  | some size => if 0 ≤ size then some size.toNat else none
  | none => none

def text? : Json → Option String
  | string value => some value
  | _ => none

def items? : Json → Option (List Json)
  | array items => some items
  | _ => none

def bool? : Json → Option Bool
  | bool value => some value
  | _ => none

end Json

end WorkflowEngine
