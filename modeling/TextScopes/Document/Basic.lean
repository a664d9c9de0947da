/-!
This module contains documents: trees of values as they are written in a text. A text with a fault
still has a document, with the fault in the place where it stands; whatever would follow it is not
part of the document. Whoever reads a document meets the faults and the values in the order of the
text, so that the first problem of any kind is the one reported.
-/

namespace TextScopes

inductive Document.Fault where
  /-- The text ends too early. -/
  | early
  | malformed
  deriving DecidableEq, Repr

mutual

inductive Document where
  | null
  | bool (value : Bool)
  | integer (value : Int)
  /-- A number that is no integer, or too large for one. -/
  | decimal (value : Float)
  | string (value : String)
  /-- A date, a time of day or both. -/
  | time (text : String)
  | array (items : Items)
  | object (members : Members)
  /-- A value that cannot be read. `skipped` is the fault met by one who only passes over it. -/
  | broken (fault : Document.Fault) (skipped : Option Document.Fault)

inductive Items where
  | nil
  | cons (item : Document) (rest : Items)
  /-- A fault where the array should go on or end. `skipped` is the fault met by one who only
  passes over the array. -/
  | stop (fault : Document.Fault) (skipped : Option Document.Fault)

inductive Members where
  | nil
  /-- A name, which may be one that cannot be read, its value, and the members behind it. -/
  | cons (name : Except Document.Fault String) (value : Document) (rest : Members)
  /-- A fault where the object should go on or end. `skipped` is the fault met by one who only
  passes over the object. -/
  | stop (fault : Document.Fault) (skipped : Option Document.Fault)

end

instance : Inhabited Document := ⟨.null⟩

mutual

/-- How deep a document is nested. A value that is no array and no object is one deep. -/
def Document.depth : Document → Nat
  | .array items => items.depth + 1
  | .object members => members.depth + 1
  | _ => 1

def Items.depth : Items → Nat
  | .cons item rest => max item.depth rest.depth
  | _ => 0

def Members.depth : Members → Nat
  | .cons _ value rest => max value.depth rest.depth
  | _ => 0

end

mutual

/-- The fault met by one who passes over a value. -/
def Document.skipped : Document → Option Document.Fault
  | .array items => items.skipped
  | .object members => members.skipped
  | .broken _ skipped => skipped
  | _ => none

def Items.skipped : Items → Option Document.Fault
  | .nil => none
  | .cons item rest =>
    match item.skipped with
    | none => rest.skipped
    | fault => fault
  | .stop _ skipped => skipped

def Members.skipped : Members → Option Document.Fault
  | .nil => none
  | .cons _ value rest =>
    match value.skipped with
    | none => rest.skipped
    | fault => fault
  | .stop _ skipped => skipped

end

def Items.length : Items → Nat
  | .cons _ rest => rest.length + 1
  | _ => 0

def Items.ofList : List Document → Items
  | [] => .nil
  | item :: rest => .cons item (ofList rest)

def Items.toList : Items → List Document
  | .cons item rest => item :: rest.toList
  | _ => []

def Members.ofList : List (String × Document) → Members
  | [] => .nil
  | (name, value) :: rest => .cons (.ok name) value (ofList rest)

/-- The name under which a time stands where an object is expected. -/
def timeMember : String := "$__toml_private_datetime"

/-- A time where an object is expected: a single member with its text. -/
def Members.ofTime (text : String) : Members := .cons (.ok timeMember) (.string text) .nil

def Members.toList : Members → List (String × Document)
  | .cons (.ok name) value rest => (name, value) :: rest.toList
  | .cons (.error _) _ rest => rest.toList
  | _ => []

/-- Add a member in front of sorted ones, in its place. A member of that name stays as it is. -/
def Members.insert (name : String) (value : Document) : Members → Members
  | .cons (.ok other) found rest =>
    if name < other then .cons (.ok name) value (.cons (.ok other) found rest)
    else if name = other then .cons (.ok other) found rest
    else .cons (.ok other) found (rest.insert name value)
  | rest => .cons (.ok name) value rest

mutual

/-- A document without regard to the order of names: every object has its members sorted by name,
and of several members of one name the last. -/
def Document.sorted : Document → Document
  | .array items => .array items.sorted
  | .object members => .object members.sorted
  | d => d

def Items.sorted : Items → Items
  | .cons item rest => .cons item.sorted rest.sorted
  | rest => rest

def Members.sorted : Members → Members
  | .cons (.ok name) value rest => rest.sorted.insert name value.sorted
  | .cons (.error fault) _ _ => .stop fault (some fault)
  | rest => rest

end

end TextScopes
