import GridQuery.Field.Kind
import GridQuery.Request.Code

/-!
# Errors

What can go wrong with a grid request, the messages that say so, and what of it is told to a client.
-/

namespace GridQuery

/-- A failure of the store. -/
inductive StoreError where
  | custom (detail : String)
  | recordNotFound (detail : String)
  | query (detail : String)
  /-- A row holds no value in a column that is read. -/
  | missingValue (column : String)
deriving DecidableEq

def StoreError.message : StoreError → String
  | custom detail => "Custom Error: " ++ detail
  | recordNotFound detail => "RecordNotFound Error: " ++ detail
  | query detail => "Query Error: " ++ detail
  | missingValue column =>
      "Type Error: A null value was encountered while decoding \"" ++ column ++ "\""

/-- Why a request has no answer. -/
inductive GridError where
  /-- No field of the record type has the name. -/
  | fieldNotFound (record field : String)
  /-- A filter of the category cannot be applied to a field of the kind. -/
  | typeMismatch (field : String) (category : FilterCategory) (kind : FieldKind)
  | unsupportedOperator (field : String) (category : FilterCategory) (operator : FilterOperator)
  /-- The value of a filter cannot be read. -/
  | parseFailure (field value : String)
  /-- A range does not have two parts. -/
  | malformedRange (field value : String)
  /-- The query string cannot be decoded. -/
  | invalidQuery (detail : String)
  /-- The parsing options cannot be used. -/
  | invalidOptions (detail : String)
  /-- A predicate without a query condition was given to a database. -/
  | pushdownUnavailable
  | cancelled
  | database (cause : StoreError)
deriving DecidableEq

namespace GridError

/-- The name of the kind of an error. -/
def name : GridError → String
  | fieldNotFound .. => "FieldNotFound"
  | typeMismatch .. => "TypeMismatch"
  | unsupportedOperator .. => "UnsupportedOperator"
  | parseFailure .. => "ParseFailure"
  | malformedRange .. => "MalformedRange"
  | invalidQuery .. => "InvalidQuery"
  | invalidOptions .. => "InvalidOptions"
  | pushdownUnavailable => "PushdownUnavailable"
  | cancelled => "Cancelled"
  | database .. => "Database"

def message : GridError → String
  | fieldNotFound record field => "Field '" ++ field ++ "' not found on " ++ record
  | typeMismatch field category kind =>
      "Cannot apply a " ++ category.label ++ " filter to field '" ++ field ++ "' of type " ++ kind.name
  | unsupportedOperator field category operator =>
      "Operator " ++ operator.name ++ " is not supported by the " ++ category.label ++
        " filter on '" ++ field ++ "'"
  | parseFailure field value => "Could not parse '" ++ value ++ "' for field '" ++ field ++ "'"
  | malformedRange field value =>
      "Range '" ++ value ++ "' for field '" ++ field ++ "' must have exactly two parts"
  | invalidQuery detail => "Invalid query string: " ++ detail
  | invalidOptions detail => "Invalid parsing options: " ++ detail
  | pushdownUnavailable => "Predicate cannot be translated into a query condition"
  | cancelled => "Request was cancelled"
  | database cause => "Database error: " ++ cause.message

/-- The message of the failure behind an error. -/
def cause? : GridError → Option String
  | database cause => some cause.message
  | _ => none

def status : GridError → Nat
  | cancelled => 408
  | invalidOptions _ => 500
  | pushdownUnavailable => 500
  | database _ => 500
  | _ => 400

/-- The message for a client, which tells nothing of the store or the set-up. -/
def publicMessage : GridError → String
  | database _ => "A database error occurred"
  | invalidOptions _ => "The listing is not configured correctly"
  | pushdownUnavailable => "The listing is not configured correctly"
  | error => error.message

end GridError

end GridQuery
