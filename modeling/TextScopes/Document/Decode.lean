import TextScopes.Decimal.Layout
import TextScopes.Document.Basic
import TextScopes.SortedMap
import TextScopes.Text.Quoted

/-!
This module contains what it takes to read typed values out of documents: the errors that name a
value of the wrong kind, and decoders for strings, lists, maps, records and choices. A record may be
written as an object or as an array of its fields in order. The formats of documents differ in small
ways, which the type `Dialect` tells apart.
-/

namespace TextScopes

inductive Dialect where
  | jsonText
  /-- A JSON value without regard to the order of names. -/
  | jsonValue
  | toml
  deriving DecidableEq, Repr

inductive Found where
  | null
  | bool (value : Bool)
  | integer (value : Int)
  | decimal (value : Float)
  | string (value : String)
  | sequence
  | map

def Dialect.layout : Dialect → Decimal.Layout
  | jsonText | jsonValue => .scientific
  | toml => .plain

def Found.describe (dialect : Dialect) : Found → String
  | null => "null"
  | bool value => s!"boolean `{value}`"
  | integer value => s!"integer `{value}`"
  | decimal value =>
    let text := dialect.layout.write value
    s!"floating point `{text}`"
  | string value =>
    let text := Quoted.encode value
    s!"string {text}"
  | sequence => "sequence"
  | map => "map"

/-- Why a document does not have the form that is read from it. -/
inductive DataError where
  | fault (fault : Document.Fault)
  | wrongKind (found : Found) (expected : String)
  | wrongLength (length : Nat) (expected : String)
  | missingField (name : String)
  | duplicateField (name : String)
  | unknownField (name : String) (known : List String)
  | unknownChoice (name : String) (known : List String)
  /-- A choice is not written as a string or as an object with a single member. -/
  | badChoice (dialect : Dialect)

namespace DataError

def listNames (names : List String) : String :=
  match names with
  | [name] => s!"expected `{name}`"
  | _ => "expected one of " ++ ", ".intercalate (names.map fun name => s!"`{name}`")

/-- The message of an error. Faults of the text, and badly written choices in TOML, have none. -/
def message? (dialect : Dialect) : DataError → Option String
  | fault _ | badChoice .toml => none
  | wrongKind found expected =>
    let text := found.describe dialect
    some s!"invalid type: {text}, expected {expected}"
  | wrongLength length expected => some s!"invalid length {length}, expected {expected}"
  | missingField name => some s!"missing field `{name}`"
  | duplicateField name => some s!"duplicate field `{name}`"
  | unknownField name known =>
    let names := listNames known
    some s!"unknown field `{name}`, {names}"
  | unknownChoice name known =>
    let names := listNames known
    some s!"unknown variant `{name}`, {names}"
  | badChoice _ => some "invalid value: map, expected map with a single key"

end DataError

abbrev Decoded := Except DataError

namespace Document

/-- The error for a document that is not what is expected. -/
def mismatch (d : Document) (expected : String) : DataError :=
  match d with
  | .null => .wrongKind .null expected
  | .bool value => .wrongKind (.bool value) expected
  | .integer value => .wrongKind (.integer value) expected
  | .decimal value => .wrongKind (.decimal value) expected
  | .string value => .wrongKind (.string value) expected
  | .time _ => .wrongKind .map expected
  | .array _ => .wrongKind .sequence expected
  | .object _ => .wrongKind .map expected
  | .broken fault _ => .fault fault

end Document

def Document.skip (d : Document) : Decoded Unit :=
  match d.skipped with
  | some fault => .error (.fault fault)
  | none => .ok ()

namespace Decode

variable {α σ : Type}

def string : Document → Decoded String
  | .string value => .ok value
  | d => .error (d.mismatch "a string")

def bool : Document → Decoded Bool
  | .bool value => .ok value
  | d => .error (d.mismatch "a boolean")

def option (decode : Document → Decoded α) : Document → Decoded (Option α)
  | .null => .ok none
  | d => (decode d).map some

def items (decode : Document → Decoded α) : Items → Decoded (List α)
  | .nil => .ok []
  | .cons item rest => do
    let value ← decode item
    let values ← items decode rest
    .ok (value :: values)
  | .stop fault _ => .error (.fault fault)

def list (decode : Document → Decoded α) : Document → Decoded (List α)
  | .array values => items decode values
  | d => .error (d.mismatch "a sequence")

def members (decode : Document → Decoded α) (map : SortedMap String α) :
    Members → Decoded (SortedMap String α)
  | .nil => .ok map
  | .cons (.ok name) value rest => do
    let value ← decode value
    members decode (map.insert name value) rest
  | .cons (.error fault) _ _ | .stop fault _ => .error (.fault fault)

/-- Read a map. Of several members of one name the last counts. -/
def map (decode : Document → Decoded α) : Document → Decoded (SortedMap String α)
  | .object values => members decode ∅ values
  | .time text => members decode ∅ (.ofTime text)
  | d => .error (d.mismatch "a map")

structure RecordField (σ : Type) where
  name : String
  /-- Whether an object must have the field. -/
  inObject : Bool
  /-- Whether an array must have the field. -/
  inArray : Bool
  read : Document → σ → Decoded σ

structure Schema (σ : Type) where
  title : String
  fields : List (RecordField σ)
  /-- Whether other fields are errors. -/
  closed : Bool
  initial : σ

namespace Schema

def expectedLength (schema : Schema σ) : String :=
  let count := schema.fields.length
  let unit := if count = 1 then "element" else "elements"
  s!"{schema.title} with {count} {unit}"

/-- Check that no field is missing at the end of an object. -/
def finish (schema : Schema σ) (seen : List String) (record : σ) : Decoded σ :=
  match schema.fields.find? fun field => field.inObject && !seen.contains field.name with
  | some field => .error (.missingField field.name)
  | none => .ok record

/-- Read the members of an object. Each field may occur once; `seen` lists those that did. -/
def readMembers (schema : Schema σ) (seen : List String) (record : σ) : Members → Decoded σ
  | .nil => schema.finish seen record
  | .cons (.ok name) value rest =>
    match schema.fields.find? (·.name == name) with
    | some field =>
      if seen.contains name then .error (.duplicateField name)
      else do
        let record ← field.read value record
        readMembers schema (name :: seen) record rest
    | none =>
      if schema.closed then .error (.unknownField name (schema.fields.map (·.name)))
      else do
        value.skip
        readMembers schema seen record rest
  | .cons (.error fault) _ _ | .stop fault _ => .error (.fault fault)

def readSpare (dialect : Dialect) (length : Nat) (record : σ) : Items → Decoded σ
  | .nil => .ok record
  | .stop fault _ => .error (.fault fault)
  | .cons _ _ =>
    match dialect with
    | .jsonText => .error (.fault .malformed)
    | .jsonValue => .error (.wrongLength length "fewer elements in array")
    | .toml => .ok record

/-- Read the values of an array into the fields that are left. -/
def readItems (schema : Schema σ) (dialect : Dialect) (length : Nat) :
    List (RecordField σ) → (index : Nat) → σ → Items → Decoded σ
  | [], _, record, rest => readSpare dialect length record rest
  | field :: fields, index, record, .cons item rest => do
    let record ← field.read item record
    readItems schema dialect length fields (index + 1) record rest
  | field :: fields, index, record, .nil =>
    if field.inArray then .error (.wrongLength index schema.expectedLength)
    else readItems schema dialect length fields (index + 1) record .nil
  | _, _, _, .stop fault _ => .error (.fault fault)

def read (schema : Schema σ) (dialect : Dialect) : Document → Decoded σ
  | .object values => schema.readMembers [] schema.initial values
  | .time text => schema.readMembers [] schema.initial (.ofTime text)
  | .array values =>
    schema.readItems dialect values.length schema.fields 0 schema.initial values
  | d => .error (d.mismatch schema.title)

end Schema

def choiceNamed (choices : List (String × α)) (name : String) : Decoded α :=
  match choices.lookup name with
  | some value => .ok value
  | none => .error (.unknownChoice name (choices.map (·.1)))

/-- Check the value that stands beside the name of a choice: it must be empty. -/
def emptyPayload (dialect : Dialect) (payload : Document) : Decoded Unit :=
  match dialect, payload with
  | .toml, .array .nil | .toml, .object .nil => .ok ()
  | .toml, _ => .error (.badChoice .toml)
  | _, .null => .ok ()
  | _, d => .error (d.mismatch "unit")

/-- Read a choice: its name alone, or as the only member of an object. -/
def choice (choices : List (String × α)) (dialect : Dialect) : Document → Decoded α
  | .string name => choiceNamed choices name
  | .object (.cons (.ok name) payload .nil) => do
    let value ← choiceNamed choices name
    emptyPayload dialect payload
    .ok value
  | .object _ => .error (.badChoice dialect)
  | d => if dialect = .toml then .error (.badChoice .toml) else .error (d.mismatch "string or map")

end Decode

end TextScopes
