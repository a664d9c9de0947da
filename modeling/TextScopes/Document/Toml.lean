import TextScopes.Document.TomlScalar
import TextScopes.Document.TomlTable
import TextScopes.Error

/-!
This module contains the reader of TOML texts. A text with a fault has no document.
-/

namespace TextScopes.Toml

/-- How deep values may be nested, and how many parts a key may have. -/
def nestingLimit : Nat := 80

def isKeyChar (c : Char) : Bool := c.isAlphanum || c == '_' || c == '-'

def keyPart : Reader String
  | '"' :: rest => basicString [] (rest.length + 1) rest
  | '\'' :: rest => literalString rest
  | chars =>
    match chars.takeWhile isKeyChar with
    | [] => none
    | part => some (String.ofList part, chars.dropWhile isKeyChar)

/-- Read the parts of a key, with blanks around each. -/
def keyParts : (rounds : Nat) → Reader (List String)
  | 0, _ => none
  | rounds + 1, chars => do
    let (part, left) ← keyPart (skipInLine chars)
    match skipInLine left with
    | '.' :: rest => do
      let (parts, left) ← keyParts rounds rest
      some (part :: parts, left)
    | left => some ([part], left)

/-- Read a key: the parts before the last one, and the last one. -/
def key : Reader (List String × String) := fun chars => do
  let (parts, left) ← keyParts (nestingLimit - 1) chars
  let last ← parts.getLast?
  some ((parts.dropLast, last), left)

def skipLines : (rounds : Nat) → List Char → Option (List Char)
  | 0, chars => some chars
  | rounds + 1, chars =>
    match skipInLine chars with
    | '#' :: rest => do
      let ((), left) ← newline (skipComment ('#' :: rest))
      skipLines rounds left
    | '\n' :: rest | '\r' :: '\n' :: rest => skipLines rounds rest
    | '\r' :: _ => none
    | left => some left

mutual

/-- Read a value. Every call is made behind at least one character more than the one around it,
which bounds the number of `rounds`; `levels` counts the arrays and tables that may still be
opened. -/
def value : (rounds levels : Nat) → Reader Document
  | 0, _, _ => none
  | rounds + 1, levels, chars =>
    match chars with
    | '[' :: rest =>
      match levels with
      | 0 => none
      | levels + 1 => (items rounds levels rest).map fun (found, left) => (.array found, left)
    | '\x7b' :: rest =>
      match levels with
      | 0 => none
      | levels + 1 =>
        match skipInLine rest with
        | '\x7d' :: left => some (.object .nil, left)
        | _ => (pairs rounds levels [] rest).map fun (found, left) =>
          (.object (Entries.membersOf found), left)
    | _ => scalar chars

/-- Read the values of an array up to its closing bracket. A comma may follow the last one. -/
def items : (rounds levels : Nat) → Reader Items
  | 0, _, _ => none
  | rounds + 1, levels, chars => do
    match ← skipLines chars.length chars with
    | ']' :: left => some (.nil, left)
    | chars => do
      let (item, left) ← value rounds levels chars
      match ← skipLines left.length left with
      | ',' :: rest => do
        let (rest, left) ← items rounds levels rest
        some (.cons item rest, left)
      | ']' :: left => some (.cons item .nil, left)
      | _ => none

/-- Read the pairs of a table in one line, behind those already read, up to its closing brace. -/
def pairs : (rounds levels : Nat) → Entries → Reader Entries
  | 0, _, _, _ => none
  | rounds + 1, levels, entries, chars => do
    let ((path, name), left) ← key chars
    match left with
    | '=' :: rest => do
      let (found, left) ← value rounds levels (skipInLine rest)
      let entries ← entries.setValue path name found
      match skipInLine left with
      | ',' :: rest => pairs rounds levels entries rest
      | '\x7d' :: left => some (entries, left)
      | _ => none
    | _ => none

end

/-- Read a key and its value, up to the end of the line. -/
def assignment (tables : Tables) : Reader Tables := fun chars => do
  let ((path, name), left) ← key chars
  match left with
  | '=' :: rest => do
    let rest := skipInLine rest
    let (found, left) ← value (3 * rest.length + 3) (nestingLimit - 1) rest
    let ((), left) ← lineEnd left
    let tables ← tables.setValue path name found
    some (tables, left)
  | _ => none

/-- Read a heading behind its first bracket, up to the end of the line. -/
def heading (tables : Tables) : Reader Tables
  | '[' :: rest => do
    let ((path, name), left) ← key rest
    match left with
    | ']' :: ']' :: left => do
      let ((), left) ← lineEnd left
      let tables ← tables.openArrayTable (path ++ [name])
      some (tables, left)
    | _ => none
  | chars => do
    let ((path, name), left) ← key chars
    match left with
    | ']' :: left => do
      let ((), left) ← lineEnd left
      let tables ← tables.openTable (path ++ [name])
      some (tables, left)
    | _ => none

/-- Read the lines of a document. Every round reads a line. -/
def lines : (rounds : Nat) → Tables → List Char → Option Tables
  | 0, tables, _ => some tables
  | rounds + 1, tables, chars =>
    match skipInLine chars with
    | [] => some tables
    | '\n' :: rest | '\r' :: '\n' :: rest => lines rounds tables rest
    | '#' :: rest => do
      let ((), left) ← lineEnd ('#' :: rest)
      lines rounds tables left
    | '[' :: rest => do
      let (tables, left) ← heading tables rest
      lines rounds tables left
    | chars => do
      let (tables, left) ← assignment tables chars
      lines rounds tables left

/-- The document of a text. A byte order mark in front of it does not count. -/
def read (text : List Char) : Option Document :=
  let text :=
    match text with
    | '\ufeff' :: rest => rest
    | _ => text
  (lines (text.length + 1) .initial text).bind Tables.document?

def decode (decode : Document → Decoded α) (text : String) : Except TomlFault α :=
  match read text.toList with
  | none => .error .malformed
  | some document => (decode document).mapError .data

end TextScopes.Toml
