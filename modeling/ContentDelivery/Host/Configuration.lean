/-
ContentDelivery.Host.Configuration — the configuration that the host puts in effect.

A configuration is written with every field: the network timeout as a
floating-point number of seconds, the session timeout in whole seconds.
Only the client code must be there when it is read.
-/
import ContentDelivery.Json.Decoding
import ContentDelivery.Number.Duration
import ContentDelivery.Text.Nonempty

namespace ContentDelivery

open Json (Syntax)

/-- What the visitor agreed to. Requests need `optedIn`; `optedOut` forgets the visitor. -/
inductive Privacy where
  | optedIn
  | optedOut
  | unknown
deriving DecidableEq, Repr, Inhabited

namespace Privacy

def name : Privacy → String
  | optedIn => "optedin"
  | optedOut => "optedout"
  | unknown => "optunknown"

def ofName? : String → Option Privacy
  | "optedin" => some optedIn
  | "optedout" => some optedOut
  | "optunknown" => some unknown
  | _ => none

def ofSyntax? (s : Syntax) : Option Privacy := s.readName?.bind ofName?

theorem ofName?_name (p : Privacy) : ofName? p.name = some p := by cases p <;> rfl

end Privacy

structure Configuration where
  clientCode : String
  environmentId : Int64 := 0
  propertyToken : Option String := none
  targetServer : Option String := none
  privacy : Privacy := .unknown
  networkTimeout : Duration := .ofSeconds 2
  sessionTimeout : Option Duration := none
deriving DecidableEq

namespace Configuration

/-- The property token in effect: an empty one counts as none. -/
def propertyInEffect? (c : Configuration) : Option String := nonempty? c.propertyToken

/-- The server in effect: an empty one counts as none. -/
def serverInEffect? (c : Configuration) : Option String := nonempty? c.targetServer

/-! ## JSON -/

def fieldNames : List String :=
  ["clientCode", "environmentId", "propertyToken", "targetServer", "privacy", "networkTimeout",
    "sessionTimeout"]

def toJson (c : Configuration) : Json :=
  .ofFields [
    ("clientCode", .string c.clientCode),
    ("environmentId", .int c.environmentId.toInt),
    ("propertyToken", .textOrNull c.propertyToken),
    ("targetServer", .textOrNull c.targetServer),
    ("privacy", .string c.privacy.name),
    ("networkTimeout", .float c.networkTimeout.toBinary64),
    ("sessionTimeout", (c.sessionTimeout.map fun d => Json.int d.seconds.toNat).getD .null)]

def ofSyntax? (s : Syntax) : Option Configuration := do
  let r ← s.readRecord? fieldNames
  return {
    clientCode := ← r.required? "clientCode" Syntax.readText?
    environmentId := ← r.optional? "environmentId" Syntax.readInt64? 0
    propertyToken := ← r.nullable? "propertyToken" Syntax.readText?
    targetServer := ← r.nullable? "targetServer" Syntax.readText?
    privacy := ← r.optional? "privacy" Privacy.ofSyntax? .unknown
    networkTimeout := ← r.optional? "networkTimeout"
      (fun t => t.readBinary64?.bind Duration.ofBinary64?) (.ofSeconds 2)
    sessionTimeout := ← r.nullable? "sessionTimeout"
      (fun t => t.readUInt64?.map Duration.ofSeconds)
  }

def ofJson? (j : Json) : Option Configuration := ofSyntax? j.toSyntax

end Configuration

end ContentDelivery
