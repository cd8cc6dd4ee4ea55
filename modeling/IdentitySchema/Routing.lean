/-
  IdentitySchema/Routing.lean
  ===========================
  **Which schemas a payload is held to.**  A payload names its schemas in a
  list.  Exactly one of them must be a core schema, and the whole payload is
  held to it; every other one must be an extension, and the member of the
  payload under the id of an extension is held to that.
-/
import IdentitySchema.Registry.Builder

namespace IdentitySchema

/-- A payload with the schemas that it names. -/
structure Routed where
  payload : Json
  core : Schema
  extensions : List Schema

/-! ### Resolving names -/

/-- A name of a payload's list, resolved. -/
inductive Route where
  | core (s : Schema)
  | extension (s : Schema)

/-- Resolve one entry of the list; the core registry is asked first. -/
def Route.resolve (core extensions : Registry) (entry : Json) : Except PayloadError Route :=
  match entry with
  | .string uri =>
    match core.get? uri, extensions.get? uri with
    | some s, _ => .ok (.core s)
    | none, some s => .ok (.extension s)
    | none, none => .error (.leaf (.unknownSchemaUri uri))
  | other => .error (.leaf (.unknownSchemaUri other.rendered))

def Route.core? : Route → Option Schema
  | .core s => some s
  | .extension _ => none

def Route.extension? : Route → Option Schema
  | .core _ => none
  | .extension s => some s

namespace Routed

/-- The entries of the list under `schemas`; anything but a list has none. -/
def declared (payload : Json) : List Json :=
  match payload.get? "schemas" with
  | some (.array entries) => entries
  | _ => []

/-- Find the schemas that a payload names. -/
def ofPayload (payload : Json) (core extensions : Registry) : Except PayloadError Routed :=
  match declared payload with
  | [] => .error (.leaf .missingSchemas)
  | entries =>
    match entries.mapM (Route.resolve core extensions) with
    | .error report => .error report
    | .ok routes =>
      match routes.filterMap Route.core? with
      | [s] => .ok ⟨payload, s, routes.filterMap Route.extension?⟩
      | several => .error (.leaf (.coreSchemaCount (several.map Schema.id)))

/-! ### Checking -/

/-- The part of the payload that an extension is about; without one it is an empty object. -/
def part (r : Routed) (extension : Schema) : Json :=
  (r.payload.get? extension.id).getD (.object [])

/-- Hold the payload to all of its schemas, the core schema last. -/
def check (r : Routed) : Except PayloadError Unit :=
  Report.gather "Scim response"
    ((r.extensions.flatMap fun s => Report.found (s.check (r.part s)))
      ++ Report.found (r.core.check r.payload))

end Routed

/-- Hold a payload to the bundled core schemas and some extensions. -/
def checkPayload (payload : Json) (extensions : Registry) : Except Failure Unit := do
  let core ← Registry.core
  let routed ← Failure.liftPayload (Routed.ofPayload payload core extensions)
  Failure.liftPayload routed.check

end IdentitySchema
