/-
This file holds the requests and responses of the HTTP interface.
-/

import WorkflowEngine.Json.Printer
import WorkflowEngine.Json.Reader
import WorkflowEngine.Text.Blank

namespace WorkflowEngine

/-- The path is written with escapes, and may carry a query and a fragment. -/
structure HttpRequest where
  method : String
  path : String
  headers : List (String × String) := []
  body : List UInt8 := []
  deriving DecidableEq, Repr

/-- A response without a JSON body has none here. -/
structure HttpResponse where
  status : Nat
  body : Option Json := none
  retryAfter : Option Nat := none
  deriving DecidableEq, Repr

namespace HttpRequest

open Text

/-- A body of more bytes is not read. -/
def bodyLimit : Nat := 2097152

def isTooLong (request : HttpRequest) : Bool :=
  bodyLimit < request.body.length

def isReadable (value : String) : Bool :=
  value.toList.all fun c => c == '\t' || (32 ≤ c.toNat && c.toNat < 127)

def readableHeaders (request : HttpRequest) : List (String × String) :=
  request.headers.filter fun header => isReadable header.2

def header? (request : HttpRequest) (name : String) : Option String :=
  (request.headers.find? fun header => lowerAscii header.1 == name).map Prod.snd

end HttpRequest

namespace PercentCoding

/-- What is no escape stands for itself. -/
def bytes : List UInt8 → List UInt8
  | 37 :: high :: low :: rest =>
    match Text.Hexadecimal.value? (Char.ofNat high.toNat),
        Text.Hexadecimal.value? (Char.ofNat low.toNat) with
    | some first, some second => UInt8.ofNat (first * 16 + second) :: bytes rest
    | _, _ => 37 :: bytes (high :: low :: rest)
  | byte :: rest => byte :: bytes rest
  | [] => []

def decode? (text : String) : Option String :=
  (Text.Utf8.decode? (bytes (Text.Utf8.encode text))).map String.ofList

end PercentCoding

namespace MediaType

def isToken (c : Char) : Bool :=
  c.isAlphanum || "!#$%&'*+-.^_`|~".toList.contains c

/-- A quote is quotable as well, but only at the beginning. -/
def isQuotable (c : Char) : Bool :=
  32 ≤ c.toNat && c.toNat < 127

/-- The places in a list of parameters. -/
inductive Place where
  | beforeName
  | inName
  | beforeValue
  | inValue
  | inQuotes (filled : Bool)
  | afterQuotes
  deriving DecidableEq, Repr

def Place.after? (c : Char) : Place → Option Place
  | .beforeName =>
    if c = ' ' then some .beforeName else if isToken c then some .inName else none
  | .inName =>
    if c = '=' then some .beforeValue else if isToken c then some .inName else none
  | .beforeValue =>
    if c = '"' then some (.inQuotes false) else if isToken c then some .inValue else none
  | .inValue =>
    if c = ';' then some .beforeName else if isToken c then some .inValue else none
  | .inQuotes filled =>
    if c = '"' ∧ filled then some .afterQuotes
    else if isQuotable c then some (.inQuotes true) else none
  | .afterQuotes =>
    if c = ';' then some .beforeName else if c = ' ' then some .afterQuotes else none

/-- A list of parameters may end in front of a name or behind a value. -/
def Place.isFinal : Place → Bool
  | .beforeName => true
  | .inName => false
  | .beforeValue => true
  | .inValue => true
  | .inQuotes _ => false
  | .afterQuotes => true

def parametersHold (place : Place) : List Char → Bool
  | [] => place.isFinal
  | c :: rest =>
    match place.after? c with
    | some place => parametersHold place rest
    | none => false

/-- A subtype may carry a suffix behind its last plus sign. -/
def subtypeAndSuffix (subtype : List Char) : List Char × List Char :=
  let reversed := subtype.reverse
  let suffix := (reversed.takeWhile fun c => c != '+').reverse
  if suffix.length + 1 < subtype.length then
    (subtype.take (subtype.length - suffix.length - 1), suffix)
  else (subtype, [])

/-- A subtype or a suffix makes a media type that of JSON. -/
def isJson (value : String) : Bool :=
  let text := (Text.lowerAscii value).toList
  let type := text.takeWhile fun c => c != '/'
  let behind := (text.dropWhile fun c => c != '/').drop 1
  let subtype := behind.takeWhile fun c => c != ';'
  let parameters := (behind.dropWhile fun c => c != ';').drop 1
  let (name, suffix) := subtypeAndSuffix subtype
  type == "application".toList && subtype.all isToken &&
    (name == "json".toList || suffix == "json".toList) && parametersHold .beforeName parameters

end MediaType

end WorkflowEngine
