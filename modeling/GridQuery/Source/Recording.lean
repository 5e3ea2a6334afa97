import GridQuery.Sql.Select
import GridQuery.Source.Database

/-!
# Recorded databases

A database that answers from a recording: each statement takes the next answer, whatever it asks. The
statements are kept in the order in which they were sent.
-/

namespace GridQuery

/-- An answer of a recorded database. -/
inductive RecordedAnswer (μ : Type) where
  /-- A number of rows, in a column of 32 bits. -/
  | count (rows : Int32)
  | rows (models : List μ)
  | failure (error : StoreError)

/-- The answers still to be given and the statements sent so far. -/
structure Recording (μ : Type) where
  answers : List (RecordedAnswer μ)
  statements : List Sql.Statement

namespace Recording

variable {μ : Type}

/-- The failure of a database without answers. -/
def exhausted : StoreError :=
  .query "`query_results` buffer is empty."

/-- Sends a statement and takes the next answer. -/
def send (statement : Sql.Statement) (recording : Recording μ) :
    Except StoreError (RecordedAnswer μ) × Recording μ :=
  let statements := recording.statements ++ [statement]
  match recording.answers with
  | [] => (.error exhausted, ⟨[], statements⟩)
  | .failure error :: answers => (.error error, ⟨answers, statements⟩)
  | answer :: answers => (.ok answer, ⟨answers, statements⟩)

/-- The number that an answer to a count gives, as a word of 64 bits. An answer without rows counts
none. -/
def readCount : RecordedAnswer μ → Except StoreError Nat
  | .count rows => .ok rows.toInt64.toUInt64.toNat
  | .rows [] => .ok 0
  | .rows (_ :: _) => .error (.missingValue "num_items")
  | .failure error => .error error

/-- The models that an answer gives. -/
def readModels : RecordedAnswer μ → Except StoreError (List μ)
  | .count _ => .error (.missingValue "id")
  | .rows models => .ok models
  | .failure error => .error error

end Recording

/-- Sends a statement to the recording and reads the answer. -/
def sendRecorded {m : Type → Type} {μ α : Type} [Monad m] [MonadStateOf (Recording μ) m]
    [MonadExceptOf GridError m] (statement : Sql.Statement)
    (read : RecordedAnswer μ → Except StoreError α) : m α := do
  let (answer, recording) := (← getThe (Recording μ)).send statement
  set recording
  match answer.bind read with
  | .ok value => return value
  | .error error => throw (.database error)

instance {m : Type → Type} {μ : Type} [Monad m] [MonadStateOf (Recording μ) m]
    [MonadExceptOf GridError m] : Database m μ where
  count select := sendRecorded (μ := μ) (.count select) Recording.readCount
  rows select := sendRecorded (.rows select) Recording.readModels

end GridQuery
