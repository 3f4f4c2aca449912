import HealthPanel.Json.Reader
import HealthPanel.Json.Writer

/-!
# What a healthy backend says about itself

The body of a successful health check is any JSON document, kept as it was read. Only three of
its members are ever looked at, and each counts as missing unless it is a text on the
outermost object.
-/

namespace HealthPanel

/-- The document in the body of a successful health check. -/
structure Payload where
  document : Json.Value

namespace Payload

/-- Reads a body. -/
def ofBytes (body : List UInt8) : Except Json.LocatedFault Payload :=
  (Json.Value.ofBytes body).map Payload.mk

/-- The text of a member of the outermost object. -/
def field (payload : Payload) (key : String) : Option String :=
  (payload.document.get? key).bind Json.Value.text?

/-- The version the backend reports. -/
def version (payload : Payload) : Option String :=
  payload.field "version"

/-- The environment the backend reports. -/
def environment (payload : Payload) : Option String :=
  payload.field "environment"

/-- The city the backend reports. -/
def city (payload : Payload) : Option String :=
  payload.field "city"

/-- Equality of payloads, numerically at the doubles. -/
def agrees (a b : Payload) : Bool :=
  a.document.agrees b.document

end Payload

end HealthPanel
