/-
This file holds the routes of the interface and the methods that each of them allows.
-/

import WorkflowEngine.Http.Message

namespace WorkflowEngine

/-- A parameter of a route is a piece of the path as it is written. -/
inductive Route where
  | health
  | workflows
  | workflow (id : String)
  | execute (id : String)
  | execution (id : String)
  | cancellation (id : String)
  | webhook (id : String)
  deriving DecidableEq, Repr

namespace Route

def isEnd (c : Char) : Bool :=
  c == '?' || c == '#'

/-- A scheme, a host, a query and a fragment are no part of the path. -/
def pathOf (address : List Char) : List Char :=
  let scheme := address.takeWhile fun c => c.isAlphanum || "+-.".toList.contains c
  let path := match Text.withoutStart "://".toList (address.drop scheme.length) with
    | some behind => if scheme.isEmpty then address
      else behind.dropWhile fun c => c != '/' && !isEnd c
    | none => address
  path.takeWhile fun c => !isEnd c

def parameter? (piece : String) (route : String → Route) : Option Route :=
  if piece.isEmpty then none else some (route piece)

def ofAddress? (address : String) : Option Route :=
  match (Text.cutAt '/' (pathOf address.toList)).map String.ofList with
  | ["", "health"] => some .health
  | ["", "api", "v1", "workflows"] => some .workflows
  | ["", "api", "v1", "workflows", id] => parameter? id .workflow
  | ["", "api", "v1", "workflows", id, "execute"] => parameter? id .execute
  | ["", "api", "v1", "executions", id] => parameter? id .execution
  | ["", "api", "v1", "executions", id, "cancel"] => parameter? id .cancellation
  | ["", "api", "v1", "webhook", id] => parameter? id .webhook
  | _ => none

/-- What may be read may also be asked for without its body. -/
def methods : Route → List String
  | .health => ["GET", "HEAD"]
  | .workflows => ["GET", "HEAD", "POST"]
  | .workflow _ => ["GET", "HEAD", "DELETE"]
  | .execute _ => ["POST"]
  | .execution _ => ["GET", "HEAD"]
  | .cancellation _ => ["POST"]
  | .webhook _ => ["POST"]

end Route

end WorkflowEngine
