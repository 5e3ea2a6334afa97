import GridQuery.Error
import GridQuery.Pipeline.Encoding

/-!
# Replies

What is sent back for a request over HTTP: the response, or a message that tells nothing of the inner
workings.
-/

namespace GridQuery.Http

/-- A reply. -/
structure Reply where
  status : Nat
  contentType : String
  body : Json

namespace Reply

/-- A reply with a JSON body. -/
def ofJson (status : Nat) (body : Json) : Reply :=
  ⟨status, "application/json", body⟩

def ofError (error : GridError) : Reply :=
  ofJson error.status (.object [("error", .string error.publicMessage)])

def ofResponse {α β : Type} (encodeRecord : α → Json) (encodeFooter : β → Json)
    (response : GridResponse α β) : Reply :=
  ofJson 200 (response.toJson encodeRecord encodeFooter)

def ofResult {α β : Type} (encodeRecord : α → Json) (encodeFooter : β → Json) :
    Except GridError (GridResponse α β) → Reply
  | .ok response => ofResponse encodeRecord encodeFooter response
  | .error error => ofError error

end Reply

end GridQuery.Http
