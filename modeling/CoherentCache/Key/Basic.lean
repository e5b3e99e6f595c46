import CoherentCache.Error
import CoherentCache.Text.Quoted

/-!
# CoherentCache.Key.Basic — what a cached value is filed under

A key names an entity, a collection that belongs to an entity, or an entity found by the values of
its natural id; a tenant may own it. A key built from parts has no empty part and none of more than
256 bytes. Two keys of different kinds can look alike in text, so a region holds keys of one kind.
-/

namespace CoherentCache

/-- The kinds of key. -/
inductive KeyKind where
  | entity
  | collection
  | naturalId
deriving DecidableEq, Repr, Hashable, Inhabited

namespace KeyKind

/-- The name of the kind. -/
def name : KeyKind → String
  | entity => "entity"
  | collection => "collection"
  | naturalId => "natural-id"

/-- All kinds, in the order of their declaration. -/
def all : List KeyKind := [entity, collection, naturalId]

/-- The kind with exactly this name. -/
def ofName? (s : String) : Option KeyKind :=
  all.find? (·.name == s)

theorem ofName?_name (k : KeyKind) : ofName? k.name = some k := by
  cases k <;> decide

end KeyKind

/-- What a key names. -/
inductive Key.Subject where
  /-- One entity. -/
  | entity (name id : String)
  /-- The collection in the role `role` of one owner. -/
  | collection (role ownerId : String)
  /-- One entity, by the values of its natural id. -/
  | naturalId (name : String) (values : List String)
deriving DecidableEq, Repr, Hashable

/-- What a value is cached under. -/
structure Key where
  subject : Key.Subject
  tenant : Option String
deriving DecidableEq, Repr, Hashable

namespace Key

/-- The kind of a key. -/
def kind (k : Key) : KeyKind :=
  match k.subject with
  | .entity .. => .entity
  | .collection .. => .collection
  | .naturalId .. => .naturalId

/-! ## Building keys from parts -/

/-- The parts that a key is built from. -/
inductive Part where
  | entityName
  | id
  | collectionRole
  | ownerId
  | naturalIdValue
  | tenantId
deriving DecidableEq, Repr

/-- How a complaint calls a part. -/
def Part.name : Part → String
  | entityName => "entity name"
  | id => "id"
  | collectionRole => "collection role"
  | ownerId => "owner id"
  | naturalIdValue => "natural id value"
  | tenantId => "tenant id"

/-- The greatest number of bytes of a part. -/
def maxPartBytes : Nat := 256

/-- What is wrong with the parts of a key. -/
inductive Fault where
  | emptyPart (part : Part)
  | longPart (part : Part)
  | noValues
deriving DecidableEq, Repr

/-- The complaint about a fault. -/
def Fault.detail : Fault → String
  | emptyPart p => p.name ++ " cannot be empty"
  | longPart p => p.name ++ " exceeds maximum length of " ++ toString maxPartBytes ++ " characters"
  | noValues => "natural id needs at least one value"

/-- A faulty key as an error. -/
def Fault.toError (f : Fault) : Error :=
  ⟨.invalidKey, f.detail⟩

/-- The part, if it is neither empty nor too long. The length is that of its UTF-8 bytes. -/
def checkPart (p : Part) (s : String) : Except Fault String :=
  if s.isEmpty then .error (.emptyPart p)
  else if maxPartBytes < s.utf8ByteSize then .error (.longPart p)
  else .ok s

/-- The key of one entity. -/
def entity (name id : String) : Except Fault Key := do
  let name ← checkPart .entityName name
  let id ← checkPart .id id
  return ⟨.entity name id, none⟩

/-- The key of a collection of one owner. -/
def collection (role ownerId : String) : Except Fault Key := do
  let role ← checkPart .collectionRole role
  let ownerId ← checkPart .ownerId ownerId
  return ⟨.collection role ownerId, none⟩

/-- The key of an entity by its natural id, which has at least one value. -/
def naturalId (name : String) (values : List String) : Except Fault Key := do
  let name ← checkPart .entityName name
  let values ← values.mapM (checkPart .naturalIdValue)
  if values.isEmpty then .error .noValues else return ⟨.naturalId name values, none⟩

/-- The key under a tenant. -/
def withTenant (k : Key) (tenant : String) : Except Fault Key := do
  let tenant ← checkPart .tenantId tenant
  return { k with tenant := some tenant }

/-! ## Text -/

/-- The key in one line, as messages name it. -/
def display (k : Key) : String :=
  let subject := match k.subject with
    | .entity name id => name ++ "#" ++ id
    | .collection role ownerId => role ++ "#" ++ ownerId
    | .naturalId name values => name ++ "##" ++ ",".intercalate values
  match k.tenant with
  | none => subject
  | some t => subject ++ "[tenant=" ++ t ++ "]"

/-- A named field of the detailed form. -/
private def fieldText (name value : String) : String := name ++ ": " ++ value

/-- The key with all its parts in quotation marks. -/
def detailed (k : Key) : String :=
  let (kind, fields) : String × List String := match k.subject with
    | .entity name id =>
      ("Entity", [fieldText "entity_name" (quoted name), fieldText "id" (quoted id)])
    | .collection role ownerId =>
      ("Collection", [fieldText "role" (quoted role), fieldText "owner_id" (quoted ownerId)])
    | .naturalId name values =>
      ("NaturalId", [fieldText "entity_name" (quoted name),
        fieldText "values" (Text.quoteList values)])
  let tenant := match k.tenant with
    | none => "None"
    | some t => "Some(" ++ quoted t ++ ")"
  kind ++ " \x7b " ++ ", ".intercalate (fields ++ [fieldText "tenant_id" tenant]) ++ " \x7d"

instance : Quotable Key := ⟨detailed⟩

end Key

end CoherentCache
