/-!
# Responses

The answer to a grid request: the records of the page and how many there are.
-/

namespace GridQuery

/-- The answer to a grid request. -/
structure GridResponse (α β : Type) where
  data : List α
  /-- The token of the request. -/
  draw : Option String
  /-- The number of records before any filter. -/
  recordsTotal : Nat
  /-- The number of records that pass the filters. -/
  recordsFiltered : Nat
  /-- What the caller adds, such as totals. -/
  footerData : Option β

namespace GridResponse

variable {α β γ : Type}

def empty (draw : Option String) (recordsTotal : Nat) : GridResponse α β :=
  ⟨[], draw, recordsTotal, 0, none⟩

/-- Sets what the caller adds. -/
def withFooter (response : GridResponse α β) (footer : γ) : GridResponse α γ :=
  { response with footerData := some footer }

end GridResponse

end GridQuery
