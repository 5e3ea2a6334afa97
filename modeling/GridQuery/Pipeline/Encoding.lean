import GridQuery.Json.Decoding
import GridQuery.Pipeline.Response
import GridQuery.Number.Integer

/-!
# Responses as JSON

How responses are exchanged as JSON. The footer is left out where there is none.
-/

namespace GridQuery.GridResponse

open Json

variable {α β : Type}

def toJson (encodeRecord : α → Json) (encodeFooter : β → Json) (response : GridResponse α β) :
    Json :=
  .object ([("data", .ofList encodeRecord response.data),
    ("draw", .ofOption .string response.draw),
    ("recordsTotal", .integer response.recordsTotal),
    ("recordsFiltered", .integer response.recordsFiltered)] ++
    match response.footerData with
    | some footer => [("footerData", encodeFooter footer)]
    | none => [])

def ofDocument? (decodeRecord : Document → Option α) (decodeFooter : Document → Option β)
    (document : Document) : Option (GridResponse α β) := do
  let member ← document.members?
    ["data", "draw", "recordsTotal", "recordsFiltered", "footerData"]
  return {
    data := ← (member "data").required (Document.list? decodeRecord)
    draw := ← (member "draw").optional Document.text?
    recordsTotal := (← (member "recordsTotal").required Document.unsigned?).toNat
    recordsFiltered := (← (member "recordsFiltered").required Document.unsigned?).toNat
    footerData := ←
      (member "footerData").withDefault none (Document.nullable? decodeFooter) }

/-- The response of a document, with records and a footer of any form. -/
def ofAnyDocument? (document : Document) : Option (GridResponse Json Json) :=
  ofDocument? (Document.value? (maxDepth - 2)) (Document.value? (maxDepth - 1)) document

end GridQuery.GridResponse
