import CoherentCache.Json.Printer
import CoherentCache.Json.Reader
import CoherentCache.Key.Basic

/-!
# CoherentCache.Key.Json — keys as JSON documents

A key is written as an object: its kind, the two parts of its subject, its tenant. It is read back
from such an object with its members in any order, and from an array of exactly these four values.
Members of other names are passed over, but none of the key's own may come twice. Reading checks no
lengths: what was written is read.
-/

namespace CoherentCache

/-- The kind of key that a JSON text stands for. -/
def KeyKind.ofJsonText? (s : String) : Option KeyKind :=
  (Json.read s).bind fun v => v.asChoice?.bind ofName?

namespace Key

/-- The document that stands for a key. -/
def toJson (k : Key) : Json :=
  let subject : List (String × Json) := match k.subject with
    | .entity name id => [("entity_name", .text name), ("id", .text id)]
    | .collection role ownerId => [("role", .text role), ("owner_id", .text ownerId)]
    | .naturalId name values =>
      [("entity_name", .text name), ("values", .array (values.map .text))]
  .record ([("kind", .text k.kind.name)] ++ subject ++ [("tenant_id", .text? k.tenant)])

/-! ## Reading -/

/-- The strings of an array. -/
def textsOf? : Json → Option (List String)
  | .array items => items.mapM Json.asText?
  | _ => none

/-- A string or null. -/
def tenantOf? : Json → Option (Option String)
  | .null => some none
  | .string (some s) => some (some s)
  | _ => none

/-- The kind that a document names. -/
def kindOf? (v : Json) : Option KeyKind :=
  v.asText?.bind KeyKind.ofName?

/-- The subject of a kind with the given two parts. -/
def subjectOf? (kind : KeyKind) (first second : Json) : Option Subject :=
  match kind with
  | .entity => do return .entity (← first.asText?) (← second.asText?)
  | .collection => do return .collection (← first.asText?) (← second.asText?)
  | .naturalId => do return .naturalId (← first.asText?) (← textsOf? second)

/-- The key of a kind with the given two parts and tenant. -/
def ofValues? (kind : KeyKind) (first second tenant : Json) : Option Key := do
  return ⟨← subjectOf? kind first second, ← tenantOf? tenant⟩

/-- The names of the two parts of a subject. -/
def partNames : KeyKind → String × String
  | .entity => ("entity_name", "id")
  | .collection => ("role", "owner_id")
  | .naturalId => ("entity_name", "values")

/-- The values of all members of a name. -/
def valuesOf (name : String) (members : List (Json.Text × Json)) : List Json :=
  (members.filter (·.1 == some name)).map (·.2)

/-- The value of the one member of a name. -/
def required? (name : String) (members : List (Json.Text × Json)) : Option Json :=
  match valuesOf name members with
  | [v] => some v
  | _ => none

/-- The value of the member of a name, null if there is none. -/
def optional? (name : String) (members : List (Json.Text × Json)) : Option Json :=
  match valuesOf name members with
  | [] => some .null
  | [v] => some v
  | _ => none

/-- The key that a document stands for. -/
def ofJson? : Json → Option Key
  | .array [kind, first, second, tenant] => do ofValues? (← kindOf? kind) first second tenant
  | .object members => do
    let kind ← kindOf? (← required? "kind" members)
    let (first, second) := partNames kind
    ofValues? kind (← required? first members) (← required? second members)
      (← optional? "tenant_id" members)
  | _ => none

/-- The key that a JSON text stands for. -/
def parse? (s : String) : Option Key :=
  (Json.readSound s).bind ofJson?

end Key

end CoherentCache
