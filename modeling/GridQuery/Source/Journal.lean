import GridQuery.Number.Digits
import GridQuery.Source.Basic

/-!
# Journals of sources

A source around another one that keeps a journal of the calls made on it. A call that may fail can be
made to fail, and after the success of a call a request can be given up.
-/

namespace GridQuery

/-- The kinds of calls on a source. -/
inductive CallKind where
  | filter
  | order
  | paginate
  | project
  | count
  | fetch
deriving DecidableEq

namespace CallKind

def name : CallKind → String
  | filter => "filter"
  | order => "order"
  | paginate => "paginate"
  | project => "project"
  | count => "count"
  | fetch => "fetch"

/-- Whether calls of a kind can fail. Cutting a page out and projecting always succeed. -/
def canFail : CallKind → Bool
  | paginate => false
  | project => false
  | _ => true

end CallKind

/-- A call: its kind, its number among the calls of its kind, and what else is told of it. -/
structure Call where
  kind : CallKind
  number : Nat
  detail : String
deriving DecidableEq

/-- A number as text. -/
def numberText (n : Nat) : String :=
  String.ofList (Number.digits n)

/-- The name of a call: kind and number. There is at most one projection, which has no number. -/
def Call.name (call : Call) : String :=
  match call.kind with
  | .project => call.kind.name
  | kind => kind.name ++ ":" ++ numberText call.number

/-- A call as it is told: its name and the details. -/
def Call.text (call : Call) : String :=
  call.name ++ call.detail

/-- The calls made so far, and what is to happen at calls to come. -/
structure Journal where
  calls : List Call
  failAt : Option String
  /-- The call after which the request is given up. -/
  cancelAfter : Option String
  cancelled : Bool

namespace Journal

/-- The next call of a kind. -/
def next (journal : Journal) (kind : CallKind) (detail : String) : Call :=
  ⟨kind, (journal.calls.filter (·.kind == kind)).length + 1, detail⟩

def add (journal : Journal) (call : Call) : Journal :=
  { journal with calls := journal.calls ++ [call] }

/-- Notes that a call has succeeded. -/
def succeed (journal : Journal) (call : Call) : Journal :=
  { journal with
    cancelled := journal.cancelled || journal.cancelAfter == some call.name }

end Journal

section

variable {m : Type → Type} [Monad m] [MonadStateOf Journal m] [MonadExceptOf GridError m]

/-- Makes a call: writes it down, fails if it is to fail, and else does what it asks. -/
def makeCall {α : Type} (kind : CallKind) (detail : String) (action : m α) : m α := do
  let journal ← getThe Journal
  let call := journal.next kind detail
  set (journal.add call)
  if kind.canFail ∧ journal.failAt = some call.name then
    throw (.database (.custom ("failed at " ++ call.name)))
  let result ← action
  modifyThe Journal (·.succeed call)
  return result

end

/-- A source whose calls go into the journal. -/
structure Journaled (σ : Type) where
  inner : σ

instance {m : Type → Type} {σ ρ : Type} [Monad m] [MonadStateOf Journal m]
    [MonadExceptOf GridError m] [Source m σ ρ] : Source m (Journaled σ) ρ where
  filter predicate source :=
    makeCall .filter "" (Journaled.mk <$> Source.filter predicate source.inner)
  order order source :=
    makeCall .order (" keys=" ++ numberText order.keys.length)
      (Journaled.mk <$> Source.order order source.inner)
  paginate skip take source :=
    makeCall .paginate (" skip=" ++ numberText skip.toNat ++ " take=" ++ numberText take.toNat)
      (Journaled.mk <$> Source.paginate skip take source.inner)
  count source := makeCall .count "" (Source.count source.inner)
  fetch source := makeCall .fetch "" (Source.fetch source.inner)

/-- Whether the request has been given up. -/
def isCancelled {m : Type → Type} [Monad m] [MonadStateOf Journal m] : m Bool :=
  return (← getThe Journal).cancelled

end GridQuery
