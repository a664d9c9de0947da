import TextScopes.Document.Decode
import TextScopes.Document.JsonNumber
import TextScopes.Text.Basic

/-!
This module contains the reader of JSON texts. It gives the document of any text: a fault of the
text becomes part of the document, in the place where it stands.
-/

namespace TextScopes.Json

open Document (Fault)

/-- What reading a part of a text leaves: the text behind it, or nothing if a fault ended it. -/
abbrev Left := Option (List Char)

def isSpace (c : Char) : Bool := c == ' ' || c == '\n' || c == '\t' || c == '\r'

def skipSpace (chars : List Char) : List Char := chars.dropWhile isSpace

/-- Read the rest of a word that is a value. -/
def word (value : Document) : (expected : List Char) → List Char → Document × Left
  | [], chars => (value, some chars)
  | _ :: _, [] => (.broken .early (some .early), none)
  | e :: expected, c :: chars =>
    if e = c then word value expected chars else (.broken .malformed (some .malformed), none)

/-- A piece of a string: a character, or a code unit of two bytes from an escape. -/
inductive Piece where
  | char (c : Char)
  | unit (n : Nat)

def isFirstOfPair (n : Nat) : Bool := 0xD800 ≤ n && n ≤ 0xDBFF

def isSecondOfPair (n : Nat) : Bool := 0xDC00 ≤ n && n ≤ 0xDFFF

/-- The characters of some pieces. There are none if a code unit lacks its partner. -/
def joinPieces? : List Piece → Option (List Char)
  | [] => some []
  | .char c :: rest => (joinPieces? rest).map (c :: ·)
  | .unit n :: .unit m :: rest =>
    if isFirstOfPair n then
      if isSecondOfPair m then
        (joinPieces? rest).map (Char.ofNat ((n - 0xD800) * 0x400 + (m - 0xDC00) + 0x10000) :: ·)
      else none
    else if isSecondOfPair n then none
    else (joinPieces? (.unit m :: rest)).map (Char.ofNat n :: ·)
  | .unit n :: rest =>
    if isFirstOfPair n || isSecondOfPair n then none
    else (joinPieces? rest).map (Char.ofNat n :: ·)

def hexValue? (c : Char) : Option Nat :=
  if c.isDigit then some (c.toNat - 48)
  else if 'a' ≤ c ∧ c ≤ 'f' then some (c.toNat - 87)
  else if 'A' ≤ c ∧ c ≤ 'F' then some (c.toNat - 55)
  else none

def codeUnit? (a b c d : Char) : Option Nat := do
  let a ← hexValue? a
  let b ← hexValue? b
  let c ← hexValue? c
  let d ← hexValue? d
  some (((a * 16 + b) * 16 + c) * 16 + d)

def shortEscape? (c : Char) : Option Char :=
  match c with
  | '"' | '\\' | '/' => some c
  | 'b' => some '\x08'
  | 'f' => some '\x0c'
  | 'n' => some '\n'
  | 'r' => some '\r'
  | 't' => some '\t'
  | _ => none

/-- Split a string into pieces, the latest first, up to the closing quote or the fault in it. -/
def pieces (acc : List Piece) : List Char → List Piece × Except Fault (List Char)
  | [] => (acc, .error .early)
  | '"' :: rest => (acc, .ok rest)
  | '\\' :: 'u' :: a :: b :: c :: d :: rest =>
    match codeUnit? a b c d with
    | some n => pieces (.unit n :: acc) rest
    | none => (acc, .error .malformed)
  | '\\' :: 'u' :: rest => (acc, .error (if Text.size rest < 4 then .early else .malformed))
  | '\\' :: c :: rest =>
    match shortEscape? c with
    | some c => pieces (.char c :: acc) rest
    | none => (acc, .error .malformed)
  | '\\' :: [] => (acc, .error .early)
  | c :: rest =>
    if c.toNat < 0x20 then (acc, .error .malformed) else pieces (.char c :: acc) rest

/-- A string behind its opening quote: its value, the fault met on passing over it, and what is left
of the text. -/
def stringValue (chars : List Char) : Except Fault String × Option Fault × Left :=
  match pieces [] chars with
  | (found, .ok rest) =>
    match joinPieces? found.reverse with
    | some value => (.ok (String.ofList value), none, some rest)
    | none => (.error .malformed, none, some rest)
  | (found, .error fault) =>
    let complete :=
      match found with
      | .unit n :: others => if isFirstOfPair n then others else found
      | _ => found
    match joinPieces? complete.reverse with
    | some _ => (.error fault, some fault, none)
    | none => (.error .malformed, some fault, none)

/-- A string as a value, behind its opening quote. -/
def string (chars : List Char) : Document × Left :=
  match stringValue chars with
  | (.ok value, _, left) => (.string value, left)
  | (.error fault, skipped, left) => (.broken fault skipped, left)

/-- The fault of a number that should go on. For one who passes over it, a number that the text cuts
off is malformed as well. -/
def numberFault (chars : List Char) : Document × Left :=
  (.broken (if chars.isEmpty then .early else .malformed) (some .malformed), none)

/-- Read the exponent of a number, behind its letter. -/
def exponent (negative : Bool) (whole fraction : List Char) (chars : List Char) : Document × Left :=
  let (negativeExponent, chars) :=
    match chars with
    | '+' :: rest => (false, rest)
    | '-' :: rest => (true, rest)
    | rest => (false, rest)
  match chars.takeWhile Char.isDigit, chars.dropWhile Char.isDigit with
  | [], left => numberFault left
  | digits, left =>
    (JsonNumber.ofParts negative whole fraction (some (negativeExponent, digits)), some left)

/-- Read a number behind the digits before its point. -/
def fraction (negative : Bool) (whole chars : List Char) : Document × Left :=
  match chars with
  | '.' :: rest =>
    match rest.takeWhile Char.isDigit, rest.dropWhile Char.isDigit with
    | [], left => numberFault left
    | digits, 'e' :: left | digits, 'E' :: left => exponent negative whole digits left
    | digits, left => (JsonNumber.ofParts negative whole digits none, some left)
  | 'e' :: rest | 'E' :: rest => exponent negative whole [] rest
  | _ => (JsonNumber.ofParts negative whole [] none, some chars)

/-- Read a number behind its sign. There is no zero in front of other digits. -/
def number (negative : Bool) (chars : List Char) : Document × Left :=
  match chars.takeWhile Char.isDigit, chars.dropWhile Char.isDigit with
  | [], left => numberFault left
  | '0' :: _ :: _, left => numberFault ('0' :: left)
  | digits, left => fraction negative digits left

/-- How deep arrays and objects may be nested. One who only passes over them can go deeper. -/
def depthLimit : Nat := 127

mutual

/-- Read a value. Each call is made behind at least one character more than the one around it, which
bounds the number of `rounds`; `levels` counts the arrays and objects that may still be opened. -/
def value : (rounds levels : Nat) → List Char → Document × Left
  | 0, _, _ => (.broken .malformed (some .malformed), none)
  | rounds + 1, levels, chars =>
    match skipSpace chars with
    | [] => (.broken .early (some .early), none)
    | '"' :: rest => string rest
    | '[' :: rest =>
      match levels with
      | 0 =>
        let (items, left) := firstItem rounds 0 rest
        (.array (.stop .malformed items.skipped), left)
      | levels + 1 =>
        let (items, left) := firstItem rounds levels rest
        (.array items, left)
    | '\x7b' :: rest =>
      match levels with
      | 0 =>
        let (members, left) := firstMember rounds 0 rest
        (.object (.stop .malformed members.skipped), left)
      | levels + 1 =>
        let (members, left) := firstMember rounds levels rest
        (.object members, left)
    | 'n' :: rest => word .null ['u', 'l', 'l'] rest
    | 't' :: rest => word (.bool true) ['r', 'u', 'e'] rest
    | 'f' :: rest => word (.bool false) ['a', 'l', 's', 'e'] rest
    | '-' :: rest => number true rest
    | c :: rest =>
      if c.isDigit then number false (c :: rest) else (.broken .malformed (some .malformed), none)

/-- Read the values of an array behind its opening bracket. -/
def firstItem : (rounds levels : Nat) → List Char → Items × Left
  | 0, _, _ => (.stop .malformed (some .malformed), none)
  | rounds + 1, levels, chars =>
    match skipSpace chars with
    | [] => (.stop .early (some .early), none)
    | ']' :: rest => (.nil, some rest)
    | rest => nextItem rounds levels rest

def nextItem : (rounds levels : Nat) → List Char → Items × Left
  | 0, _, _ => (.stop .malformed (some .malformed), none)
  | rounds + 1, levels, chars =>
    match value rounds levels chars with
    | (item, none) => (.cons item .nil, none)
    | (item, some left) =>
      match skipSpace left with
      | ',' :: rest =>
        let (items, left) := nextItem rounds levels rest
        (.cons item items, left)
      | ']' :: rest => (.cons item .nil, some rest)
      | [] => (.cons item (.stop .early (some .early)), none)
      | _ => (.cons item (.stop .malformed (some .malformed)), none)

/-- Read the members of an object behind its opening brace. -/
def firstMember : (rounds levels : Nat) → List Char → Members × Left
  | 0, _, _ => (.stop .malformed (some .malformed), none)
  | rounds + 1, levels, chars =>
    match skipSpace chars with
    | '\x7d' :: rest => (.nil, some rest)
    | rest => nextMember rounds levels rest

def nextMember : (rounds levels : Nat) → List Char → Members × Left
  | 0, _, _ => (.stop .malformed (some .malformed), none)
  | rounds + 1, levels, chars =>
    match skipSpace chars with
    | '"' :: rest =>
      match stringValue rest with
      | (.error fault, some skipped, _) => (.stop fault (some skipped), none)
      | (_, _, none) => (.stop .malformed (some .malformed), none)
      | (name, _, some left) =>
        match skipSpace left with
        | ':' :: rest =>
          match value rounds levels rest with
          | (value, none) => (.cons name value .nil, none)
          | (value, some left) =>
            match skipSpace left with
            | ',' :: rest =>
              let (members, left) := nextMember rounds levels rest
              (.cons name value members, left)
            | '\x7d' :: rest => (.cons name value .nil, some rest)
            | [] => (.cons name value (.stop .early (some .early)), none)
            | _ => (.cons name value (.stop .malformed (some .malformed)), none)
        | [] => (.cons name (.broken .early (some .early)) .nil, none)
        | _ => (.cons name (.broken .malformed (some .malformed)) .nil, none)
    | [] => (.stop .early (some .early), none)
    | _ => (.stop .malformed (some .malformed), none)

end

/-- The document of a text, and whether anything but blanks follows it. -/
def read (text : List Char) : Document × Bool :=
  let (document, left) := value (3 * text.length + 3) depthLimit text
  (document, left.any fun rest => !(skipSpace rest).isEmpty)

/-- Read a typed value out of a text. Anything behind the document is an error, but only if the
document itself has none. -/
def decode (decode : Document → Decoded α) (text : String) : Decoded α := do
  let (document, more) := read text.toList
  let value ← decode document
  if more then .error (.fault .malformed) else .ok value

end TextScopes.Json
