/-
ContentDelivery.Host.Identity — what the identity service knows of the visitor.

The state of an id comes as a whole number: 1 is authenticated, 2 is
logged out, every other one is unknown. Missing parts of the identity
are as in `Identity.empty`.
-/
import ContentDelivery.Json.Decoding

namespace ContentDelivery

open Json (Syntax)

inductive AuthenticatedState where
  | unknown
  | authenticated
  | loggedOut
deriving DecidableEq, Repr, Inhabited

namespace AuthenticatedState

def ofCode (code : Int64) : AuthenticatedState :=
  if code = 1 then authenticated else if code = 2 then loggedOut else unknown

def name : AuthenticatedState → String
  | unknown => "unknown"
  | authenticated => "authenticated"
  | loggedOut => "logged_out"

def ofName? : String → Option AuthenticatedState
  | "unknown" => some unknown
  | "authenticated" => some authenticated
  | "logged_out" => some loggedOut
  | _ => none

def ofSyntax? (s : Syntax) : Option AuthenticatedState := s.readName?.bind ofName?

theorem ofName?_name (s : AuthenticatedState) : ofName? s.name = some s := by cases s <;> rfl

end AuthenticatedState

/-- An id of the visitor that was synced with the identity service. -/
structure VisitorId where
  id : String
  idType : String
  state : AuthenticatedState
deriving DecidableEq

/-- The facts of the identity service. -/
structure Identity where
  marketingCloudId : Option String
  blob : Option String
  locationHint : Option String
  visitorIds : List VisitorId
deriving DecidableEq

namespace VisitorId

def fieldNames : List String := ["id", "id.type", "authentication.state"]

def ofSyntax? (s : Syntax) : Option VisitorId := do
  let r ← s.readRecord? fieldNames
  return {
    id := ← r.required? "id" Syntax.readText?
    idType := ← r.required? "id.type" Syntax.readText?
    state := ← r.optional? "authentication.state"
      (fun code => code.readInt64?.map AuthenticatedState.ofCode) .unknown
  }

end VisitorId

namespace Identity

def empty : Identity :=
  { marketingCloudId := none, blob := none, locationHint := none, visitorIds := [] }

def fieldNames : List String := ["mid", "blob", "locationhint", "visitorids"]

def ofSyntax? (s : Syntax) : Option Identity := do
  let r ← s.readRecord? fieldNames
  return {
    marketingCloudId := ← r.nullable? "mid" Syntax.readText?
    blob := ← r.nullable? "blob" Syntax.readText?
    locationHint := ← r.nullable? "locationhint" Syntax.readText?
    visitorIds := ← r.optional? "visitorids" (Syntax.readList? VisitorId.ofSyntax?) []
  }

end Identity

end ContentDelivery
