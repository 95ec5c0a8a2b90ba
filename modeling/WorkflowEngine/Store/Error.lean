/-
This file holds the errors of the database and of the stores of executions.
-/

namespace WorkflowEngine

/-- A statement finds no row, or the server refuses it. -/
inductive DatabaseError where
  | rowNotFound
  | server (detail : String)
  deriving DecidableEq, Repr

namespace DatabaseError

def message : DatabaseError → String
  | .rowNotFound => "row not found"
  | .server detail => "sqlx error: error returned from database: " ++ detail

def isNotFound : DatabaseError → Bool
  | .rowNotFound => true
  | .server _ => false

end DatabaseError

/-- A store that cannot answer says why. -/
inductive StoreError where
  | notFound (subject : String)
  | database (error : DatabaseError)
  | serialization
  | corrupt (detail : String)
  | unavailable (detail : String)
  deriving DecidableEq, Repr

namespace StoreError

def message : StoreError → String
  | .notFound subject => subject ++ " not found"
  | .database error => "database error: " ++ error.message
  | .serialization => "serialization error"
  | .corrupt detail => "corrupt record: " ++ detail
  | .unavailable detail => "store unavailable: " ++ detail

def isNotFound : StoreError → Bool
  | .notFound _ => true
  | .database error => error.isNotFound
  | .serialization => false
  | .corrupt _ => false
  | .unavailable _ => false

end StoreError

end WorkflowEngine
