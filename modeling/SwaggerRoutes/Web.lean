/-
The web as a run meets it: which locations are addresses, and what comes back from one. A reply has a
status and brings a text, but its transfer can fail as well as the request.
-/
import SwaggerRoutes.Url

namespace SwaggerRoutes

namespace Web

/-- Why a request or a transfer failed, in the words of its client, and what lies below, outermost
first. -/
structure Fault where
  message : String
  causes : List String := []
deriving DecidableEq, Repr

/-- The status of a reply: its number, and the words that go with the number. -/
structure Status where
  code : Nat
  reason : String
deriving DecidableEq, Repr

namespace Status

def isSuccess (status : Status) : Bool := 200 ≤ status.code && status.code < 300

/-- The status as it is written. -/
def text (status : Status) : String := toString status.code ++ " " ++ status.reason

end Status

/-- What comes back from an address. -/
structure Reply where
  status : Status
  /-- The text, unless its transfer fails. -/
  text : Except Fault String

end Web

/-- A web: what its addresses are, and what comes back from them. -/
structure Web where
  isAddress : String → Bool
  get : String → Except Web.Fault Web.Reply

/-- A web that no request reaches. -/
def Web.unreachable : Web where
  isAddress := Url.isRemote
  get _ := .error { message := "the address could not be fetched" }

end SwaggerRoutes
