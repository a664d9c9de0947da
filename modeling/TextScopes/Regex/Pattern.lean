import TextScopes.Regex.Expr
import TextScopes.Text.Blank
import TextScopes.Text.Case
import TextScopes.Text.Property

/-!
This module contains what all parts of the pattern language share: its flags, the faults of a
pattern, blanks and comments inside patterns, and escapes.
-/

namespace TextScopes.Regex

inductive Fault where
  | unclosedGroup
  | unopenedGroup
  /-- A group name is empty, unfinished, repeated or holds a character that it may not. -/
  | badGroupName
  | badFlags
  | lookaround
  | nothingToRepeat
  /-- The bounds of a repetition are unfinished, in the wrong order or no numbers. -/
  | badCount
  | badEscape
  | backreference
  | badCharacter
  | unknownProperty
  | unclosedClass
  /-- A class holds something that is no character, or a range in the wrong order. -/
  | badClassItem
  | partialCharacter
  | tooDeep
  | tooLarge
  deriving DecidableEq, Repr

structure Flags where
  /-- Letters match in either case. -/
  ignoreCase : Bool
  /-- `^` and `$` match at every line. -/
  multiLine : Bool
  /-- The dot matches line breaks too. -/
  dotAll : Bool
  /-- Plain repetitions prefer fewer times. -/
  swapGreed : Bool
  /-- Classes and boundaries know all characters and not only ASCII. -/
  unicode : Bool
  /-- Carriage returns end lines too. -/
  anyNewline : Bool
  /-- Blanks and comments in the pattern do not count. -/
  extended : Bool
  deriving DecidableEq, Repr

namespace Flags

/-- The flags at the start of a pattern: lines are told apart and all characters are known. -/
def initial : Flags := ⟨false, true, false, false, true, false, false⟩

def set? (letter : Char) (value : Bool) (flags : Flags) : Option Flags :=
  match letter with
  | 'i' => some { flags with ignoreCase := value }
  | 'm' => some { flags with multiLine := value }
  | 's' => some { flags with dotAll := value }
  | 'U' => some { flags with swapGreed := value }
  | 'u' => some { flags with unicode := value }
  | 'R' => some { flags with anyNewline := value }
  | 'x' => some { flags with extended := value }
  | _ => none

/-- Add the other cases of letters if case does not count. -/
def fold (flags : Flags) (chars : CharSet) : CharSet :=
  if flags.ignoreCase then
    if flags.unicode then chars.foldCase else chars.foldAsciiCase
  else chars

/-- The complement of a set. Without knowledge of all characters it would hold parts of some. -/
def negate (flags : Flags) (negated : Bool) (chars : CharSet) : Except Fault CharSet :=
  if negated then
    if flags.unicode then .ok chars.complement else .error .partialCharacter
  else .ok chars

def charExpr (flags : Flags) (c : Char) : Expr :=
  if flags.ignoreCase then Expr.ofSet (flags.fold (CharSet.singleton c)) else .literal [c]

def dotExpr (flags : Flags) : Except Fault Expr :=
  if !flags.unicode then .error .partialCharacter
  else if flags.dotAll then .ok (.set CharSet.full)
  else if flags.anyNewline then .ok (.set (CharSet.ofChars ['\n', '\r']).complement)
  else .ok (.set (CharSet.singleton '\n').complement)

def startLook (flags : Flags) : Look :=
  if flags.multiLine then if flags.anyNewline then .anyLineStart else .lineStart else .textStart

def endLook (flags : Flags) : Look :=
  if flags.multiLine then if flags.anyNewline then .anyLineEnd else .lineEnd else .textEnd

end Flags

/-- Skip blanks, and comments up to the end of their line. -/
def skipBlanks : (inComment : Bool) → List Char → List Char
  | _, [] => []
  | true, c :: rest => skipBlanks (c != '\n') rest
  | false, c :: rest =>
    if isBlank c then skipBlanks false rest
    else if c = '#' then skipBlanks true rest
    else c :: rest

def Flags.skip (flags : Flags) (chars : List Char) : List Char :=
  if flags.extended then skipBlanks false chars else chars

/-- Take at most `most` characters that satisfy `p`, skipping behind each what does not count. -/
def takeSpaced (flags : Flags) (p : Char → Bool) : (most : Nat) → List Char → List Char × List Char
  | most + 1, c :: rest =>
    if p c then
      let (taken, left) := takeSpaced flags p most (flags.skip rest)
      (c :: taken, left)
    else ([], c :: rest)
  | _, chars => ([], chars)

def numberOf (base : Nat) (digits : List Char) : Nat :=
  digits.foldl (fun n c =>
    base * n + (if c.isDigit then c.toNat - 48 else c.toLower.toNat - 87)) 0

def isHexDigit (c : Char) : Bool := c.isDigit || ('a' ≤ c && c ≤ 'f') || ('A' ≤ c && c ≤ 'F')

def charOfPoint (n : Nat) : Except Fault Char :=
  if h : n.isValidChar then .ok (Char.ofNatAux n h) else .error .badCharacter

inductive Escape where
  /-- A character; `byte` says that it was written as a byte of two hexadecimal digits. -/
  | char (c : Char) (byte : Bool)
  | set (chars : CharSet)
  | look (look : Look)

/-- Read a character given by its code point, behind the letter of the escape: in braces, or with
exactly so many digits. -/
def hexEscape (flags : Flags) (digits : Nat) (chars : List Char) :
    Except Fault (Escape × List Char) :=
  match flags.skip chars with
  | '\x7b' :: rest =>
    let (taken, left) := takeSpaced flags (· != '\x7d') rest.length (flags.skip rest)
    match left with
    | [] => .error .badCharacter
    | _ :: left =>
      if taken.isEmpty || !taken.all isHexDigit then .error .badCharacter
      else do
        let c ← charOfPoint (numberOf 16 taken)
        .ok (.char c false, flags.skip left)
  | rest =>
    let (taken, left) := takeSpaced flags isHexDigit digits rest
    if taken.length < digits then .error .badCharacter
    else do
      let c ← charOfPoint (numberOf 16 taken)
      .ok (.char c (digits == 2), left)

def splitAtFirst? (mark : List Char) : List Char → Option (List Char × List Char)
  | [] => none
  | c :: rest =>
    if mark.isPrefixOf (c :: rest) then some ([], (c :: rest).drop mark.length)
    else (splitAtFirst? mark rest).map fun (before, after) => (c :: before, after)

/-- The characters of a property query as written between braces. -/
def queryChars? (query : List Char) : Option CharSet :=
  match splitAtFirst? ['!', '='] query with
  | some (property, value) => Property.ofValue? property value
  | none =>
    match splitAtFirst? [':'] query with
    | some (property, value) => Property.ofValue? property value
    | none =>
      match splitAtFirst? ['='] query with
      | some (property, value) => Property.ofValue? property value
      | none => Property.ofName? query

/-- Read a property query behind the letter of the escape. -/
def propertyEscape (flags : Flags) (negated : Bool) (chars : List Char) :
    Except Fault (Escape × List Char) := do
  let (query, left) ←
    match flags.skip chars with
    | [] => .error .badEscape
    | '\x7b' :: rest =>
      match takeSpaced flags (· != '\x7d') rest.length (flags.skip rest) with
      | (_, []) => .error .badEscape
      | (query, _ :: left) => .ok (query, left)
    | c :: rest => if c = '\\' then .error .badEscape else .ok ([c], flags.skip rest)
  if !flags.unicode then .error .partialCharacter
  else
    match queryChars? query with
    | none => .error .unknownProperty
    | some found => do
      let chars ← flags.negate negated (flags.fold found)
      .ok (.set chars, left)

def asciiBlanks : CharSet := CharSet.ofRanges [(0x9, 0xD), (0x20, 0x20)]

def asciiDigits : CharSet := CharSet.range '0' '9'

def asciiWordChars : CharSet :=
  CharSet.ofRanges [(0x30, 0x39), (0x41, 0x5A), (0x5F, 0x5F), (0x61, 0x7A)]

/-- The set of a class letter: digits, blanks or parts of words. -/
def letterChars (flags : Flags) (letter : Char) : CharSet :=
  match letter with
  | 'd' => if flags.unicode then digitChars else asciiDigits
  | 's' => if flags.unicode then blanks else asciiBlanks
  | _ => if flags.unicode then wordChars else asciiWordChars

def boundaryNamed? (ascii : Bool) (name : List Char) : Option Look :=
  match String.ofList name with
  | "start" => some (.wordStart ascii)
  | "end" => some (.wordEnd ascii)
  | "start-half" => some (.noWordBefore ascii)
  | "end-half" => some (.noWordAfter ascii)
  | _ => none

/-- Read what follows the escape of a word boundary. Braces belong to it if they begin with a letter
or a hyphen, and are a repetition otherwise. -/
def boundaryEscape (flags : Flags) (chars : List Char) : Except Fault (Escape × List Char) :=
  let plain : Escape × List Char := (.look (.wordEdge !flags.unicode), chars)
  let isNameChar (c : Char) : Bool := c.isAlpha || c == '-'
  match chars with
  | '\x7b' :: rest =>
    match flags.skip rest with
    | [] => .error .badCount
    | c :: rest =>
      if isNameChar c then
        match takeSpaced flags isNameChar (rest.length + 1) (c :: rest) with
        | (name, '\x7d' :: left) =>
          match boundaryNamed? (!flags.unicode) name with
          | some look => .ok (.look look, left)
          | none => .error .badEscape
        | _ => .error .badEscape
      else .ok plain
  | _ => .ok plain

/-- Whether a backslash in front of a character makes it stand for itself. -/
def isEscapable (c : Char) : Bool :=
  c.toNat < 0x80 && !c.isAlphanum && c != '<' && c != '>'

def escape (flags : Flags) (chars : List Char) : Except Fault (Escape × List Char) :=
  match chars with
  | [] => .error .badEscape
  | c :: rest =>
    let ascii := !flags.unicode
    let char (c : Char) : Except Fault (Escape × List Char) := .ok (.char c false, rest)
    let look (l : Look) : Except Fault (Escape × List Char) := .ok (.look l, rest)
    match c with
    | 'x' => hexEscape flags 2 rest
    | 'u' => hexEscape flags 4 rest
    | 'U' => hexEscape flags 8 rest
    | 'p' => propertyEscape flags false rest
    | 'P' => propertyEscape flags true rest
    | 'd' | 's' | 'w' => .ok (.set (letterChars flags c), rest)
    | 'D' | 'S' | 'W' => do
      let chars ← flags.negate true (letterChars flags c.toLower)
      .ok (.set chars, rest)
    | 'a' => char '\x07'
    | 'f' => char '\x0c'
    | 't' => char '\t'
    | 'n' => char '\n'
    | 'r' => char '\r'
    | 'v' => char '\x0b'
    | 'A' => look .textStart
    | 'z' => look .textEnd
    | 'b' => boundaryEscape flags rest
    | 'B' => look (.noWordEdge ascii)
    | '<' => look (.wordStart ascii)
    | '>' => look (.wordEnd ascii)
    | _ =>
      if c.isDigit then .error .backreference
      else if isEscapable c then char c
      else .error .badEscape

end TextScopes.Regex
