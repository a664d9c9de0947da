/-!
This module contains texts and the byte offsets that name places in them. A text is its list of
characters, an offset counts the bytes of its UTF-8 form. Offsets that do not fall between two
characters are legal arguments everywhere: `slice?` refuses them and `floor` moves them back.
-/

namespace TextScopes

/-- A text is the list of its characters. -/
abbrev Text := List Char

namespace Text

/-- The number of bytes of the UTF-8 form of a text. -/
def size : Text → Nat
  | [] => 0
  | c :: rest => c.utf8Size + size rest

@[simp]
theorem size_nil : size [] = 0 := rfl

@[simp]
theorem size_cons (c : Char) (rest : Text) : size (c :: rest) = c.utf8Size + size rest := rfl

@[simp]
theorem size_append (a b : Text) : size (a ++ b) = size a + size b := by
  induction a with
  | nil => simp
  | cons c rest ih => simp [ih, Nat.add_assoc]

/-- The text behind the first `n` bytes, if a character ends there. -/
def drop? : Text → Nat → Option Text
  | text, 0 => some text
  | [], _ + 1 => none
  | c :: rest, n + 1 => if c.utf8Size ≤ n + 1 then drop? rest (n + 1 - c.utf8Size) else none

/-- The first `n` bytes of a text, if a character ends there. -/
def take? : Text → Nat → Option Text
  | _, 0 => some []
  | [], _ + 1 => none
  | c :: rest, n + 1 =>
    if c.utf8Size ≤ n + 1 then (take? rest (n + 1 - c.utf8Size)).map (c :: ·) else none

/-- The piece of a text between two offsets. There is none if they are in the wrong order, beyond
the end or inside a character. -/
def slice? (text : Text) (start stop : Nat) : Option Text :=
  if start ≤ stop then (drop? text start).bind (take? · (stop - start)) else none

/-- The last boundary between characters at or before an offset. -/
def floor : Text → Nat → Nat
  | [], _ => 0
  | c :: rest, n => if c.utf8Size ≤ n then c.utf8Size + floor rest (n - c.utf8Size) else 0

/-- The text up to the first line feed, less a carriage return right before it. A text without any
character has no line. -/
def firstLine? : Text → Option Text
  | [] => none
  | text =>
    let line := text.takeWhile (· != '\n')
    if line.length < text.length && line.getLast? == some '\r' then some line.dropLast
    else some line

end Text

end TextScopes
