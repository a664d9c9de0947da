import TextScopes.Document.Basic

/-!
This module contains the values of TOML documents that hold no other values: strings, numbers, truth
values and times. A reader takes the text from the start of a value on and gives the value with the
text behind it.
-/

namespace TextScopes.Toml

/-- A reader: what it reads from the start of a text, and what is left of the text. -/
abbrev Reader (α : Type) := List Char → Option (α × List Char)

def isBlankInLine (c : Char) : Bool := c == ' ' || c == '\t'

def skipInLine (chars : List Char) : List Char := chars.dropWhile isBlankInLine

def newline : Reader Unit
  | '\n' :: rest | '\r' :: '\n' :: rest => some ((), rest)
  | _ => none

/-- Whether a character may stand in comments and strings: no control character but the tab. -/
def isTextChar (c : Char) : Bool := c == '\t' || (0x20 ≤ c.toNat && c.toNat != 0x7F)

def skipComment (chars : List Char) : List Char :=
  match chars with
  | '#' :: rest => rest.dropWhile isTextChar
  | _ => chars

/-- Read what may stand in a line behind everything else, and the end of the line or of the text. -/
def lineEnd : Reader Unit := fun chars =>
  match skipComment (skipInLine chars) with
  | [] => some ((), [])
  | rest => newline rest

def hexValue? (c : Char) : Option Nat :=
  if c.isDigit then some (c.toNat - 48)
  else if 'a' ≤ c ∧ c ≤ 'f' then some (c.toNat - 87)
  else if 'A' ≤ c ∧ c ≤ 'F' then some (c.toNat - 55)
  else none

def hexChar (digits : Nat) : Reader Char := fun chars => do
  let values ← (chars.take digits).mapM hexValue?
  let n := values.foldl (fun n d => 16 * n + d) 0
  if h : values.length = digits ∧ n.isValidChar then
    some (Char.ofNatAux n h.2, chars.drop digits)
  else none

def escapeChar : Reader Char
  | 'b' :: rest => some ('\x08', rest)
  | 'f' :: rest => some ('\x0c', rest)
  | 'n' :: rest => some ('\n', rest)
  | 'r' :: rest => some ('\r', rest)
  | 't' :: rest => some ('\t', rest)
  | '\\' :: rest => some ('\\', rest)
  | '"' :: rest => some ('"', rest)
  | 'u' :: rest => hexChar 4 rest
  | 'U' :: rest => hexChar 8 rest
  | _ => none

/-- Read the rest of a string of one line, with escapes. Every round reads a character. -/
def basicString (acc : List Char) : (rounds : Nat) → Reader String
  | 0, _ => none
  | rounds + 1, chars =>
    match chars with
    | [] => none
    | '"' :: rest => some (String.ofList acc.reverse, rest)
    | '\\' :: rest => do
      let (c, left) ← escapeChar rest
      basicString (c :: acc) rounds left
    | c :: rest => if isTextChar c then basicString (c :: acc) rounds rest else none

/-- Read the rest of a string of one line without escapes. -/
def literalString : Reader String := fun chars =>
  match chars.dropWhile fun c => isTextChar c && c != '\'' with
  | '\'' :: rest => some (String.ofList (chars.takeWhile fun c => isTextChar c && c != '\''), rest)
  | _ => none

/-- The quotes at the start of a text. At most two of them can belong to a string that the next
three close. -/
def countQuotes (quote : Char) (chars : List Char) : Nat := (chars.takeWhile (· == quote)).length

def skipFirstBreak (chars : List Char) : List Char :=
  match newline chars with
  | some ((), rest) => rest
  | none => chars

def skipBreaks : List Char → List Char
  | '\r' :: '\n' :: rest => skipBreaks rest
  | c :: rest => if isBlankInLine c || c == '\n' then skipBreaks rest else c :: rest
  | [] => []

/-- Skip a line break that is escaped: the blanks before it, and all blanks and breaks behind it. -/
def skipEscapedBreak? (chars : List Char) : Option (List Char) :=
  match newline (skipInLine chars) with
  | some ((), rest) => some (skipBreaks rest)
  | none => none

/-- Read the rest of a string of several lines. Escapes count only between double quotes. -/
def longString (quote : Char) (acc : List Char) : (rounds : Nat) → Reader String
  | 0, _ => none
  | rounds + 1, chars =>
    match chars with
    | [] => none
    | '\r' :: '\n' :: rest | '\n' :: rest => longString quote ('\n' :: acc) rounds rest
    | c :: rest =>
      if c = quote then
        let quotes := countQuotes quote chars
        if 3 ≤ quotes then
          let inside := min (quotes - 3) 2
          some (String.ofList (List.replicate inside quote ++ acc).reverse,
            chars.drop (inside + 3))
        else longString quote (c :: acc) rounds rest
      else if c = '\\' ∧ quote = '"' then
        match skipEscapedBreak? rest with
        | some left => longString quote acc rounds left
        | none => do
          let (e, left) ← escapeChar rest
          longString quote (e :: acc) rounds left
      else if isTextChar c then longString quote (c :: acc) rounds rest
      else none

def string : Reader String
  | '"' :: '"' :: '"' :: rest => longString '"' [] (rest.length + 1) (skipFirstBreak rest)
  | '\'' :: '\'' :: '\'' :: rest => longString '\'' [] (rest.length + 1) (skipFirstBreak rest)
  | '"' :: rest => basicString [] (rest.length + 1) rest
  | '\'' :: rest => literalString rest
  | _ => none

/-- Read the digits behind others, which are given in reverse. -/
def digits.go (isDigit : Char → Bool) (acc : List Char) : Reader (List Char)
  | '_' :: c :: rest => if isDigit c then go isDigit (c :: acc) rest else none
  | ['_'] => none
  | c :: rest => if isDigit c then go isDigit (c :: acc) rest else some (acc.reverse, c :: rest)
  | [] => some (acc.reverse, [])

/-- Read digits, between which single underscores may stand. An underscore in any other place is an
error. -/
def digits (isDigit : Char → Bool) : Reader (List Char)
  | c :: rest => if isDigit c then digits.go isDigit [c] rest else none
  | [] => none

def valueOf (base : Nat) (digits : List Char) : Nat :=
  digits.foldl (fun n c => base * n + (hexValue? c).getD 0) 0

/-- Integers lie below this bound, and not below its negative. -/
def integerBound : Nat := Nat.pow 2 63

def radixInteger (base : Nat) : Reader Document := fun chars => do
  let isDigit (c : Char) : Bool := (hexValue? c).any (· < base)
  let (found, left) ← digits isDigit chars
  let n := valueOf base found
  if n < integerBound then some (.integer n, left) else none

/-- The number nearest to a decimal, given by its digits and the power of ten of the last one.
Decimals far outside the range of the format are infinite or zero. -/
def nearest (digits : List Char) (exponent : Int) : Float :=
  let n := valueOf 10 digits
  let magnitude : Int := exponent + (Nat.toDigits 10 n).length
  if n = 0 ∨ magnitude < -400 then 0
  else if 400 < magnitude then 1.0 / 0.0
  else
    match exponent with
    | .ofNat e => Float.ofScientific n false e
    | .negSucc e => Float.ofScientific n true (e + 1)

def exponent : Reader (Option Int)
  | 'e' :: rest | 'E' :: rest => do
    let (negative, rest) : Bool × List Char :=
      match rest with
      | '+' :: rest => (false, rest)
      | '-' :: rest => (true, rest)
      | rest => (false, rest)
    let (found, left) ← digits Char.isDigit rest
    let n : Int := valueOf 10 found
    some (some (if negative then -n else n), left)
  | chars => some (none, chars)

/-- Read a number that is no integer behind the digits before its point. Numbers too large for the
format are errors, but negative ones are not. -/
def decimal (negative : Bool) (whole : List Char) : Reader Document := fun chars => do
  let (fraction, chars) ←
    match chars with
    | '.' :: rest => digits Char.isDigit rest
    | rest => some ([], rest)
  let (exponent, left) ← exponent chars
  let x := nearest (whole ++ fraction) (exponent.getD 0 - fraction.length)
  if negative then some (.decimal (-x), left)
  else if x.isInf then none
  else some (.decimal x, left)

/-- Read the digits before the point: a lone zero, or digits that do not begin with zero. -/
def wholeDigits : Reader (List Char)
  | '0' :: rest => some (['0'], rest)
  | chars => digits Char.isDigit chars

def signedNumber (negative : Bool) : Reader Document
  | 'i' :: 'n' :: 'f' :: rest =>
    some (.decimal (if negative then -(1.0 / 0.0) else 1.0 / 0.0), rest)
  | 'n' :: 'a' :: 'n' :: rest => some (.decimal (0.0 / 0.0), rest)
  | chars => do
    let (whole, left) ← wholeDigits chars
    match left with
    | '.' :: _ | 'e' :: _ | 'E' :: _ => decimal negative whole left
    | _ =>
      let n : Int := valueOf 10 whole
      let n := if negative then -n else n
      if -(integerBound : Int) ≤ n ∧ n < integerBound then some (.integer n, left) else none

def number : Reader Document
  | '0' :: 'x' :: rest => radixInteger 16 rest
  | '0' :: 'o' :: rest => radixInteger 8 rest
  | '0' :: 'b' :: rest => radixInteger 2 rest
  | '+' :: rest => signedNumber false rest
  | '-' :: rest => signedNumber true rest
  | chars => signedNumber false chars

/-- Read a number of so many digits between two bounds. -/
def fixedDigits (count low high : Nat) : Reader Nat := fun chars =>
  let found := chars.take count
  let n := valueOf 10 found
  if found.length = count ∧ found.all Char.isDigit ∧ low ≤ n ∧ n ≤ high then
    some (n, chars.drop count)
  else none

def mark (c : Char) : Reader Unit
  | d :: rest => if c = d then some ((), rest) else none
  | [] => none

def padded (count n : Nat) : String :=
  let text := toString n
  String.ofList (List.replicate (count - text.length) '0') ++ text

def daysOf (year month : Nat) : Nat :=
  if month = 2 then
    if year % 4 = 0 ∧ (year % 100 ≠ 0 ∨ year % 400 = 0) then 29 else 28
  else if month = 4 ∨ month = 6 ∨ month = 9 ∨ month = 11 then 30
  else 31

def date : Reader String := fun chars => do
  let (year, chars) ← fixedDigits 4 0 9999 chars
  let ((), chars) ← mark '-' chars
  let (month, chars) ← fixedDigits 2 1 12 chars
  let ((), chars) ← mark '-' chars
  let (day, left) ← fixedDigits 2 1 (daysOf year month) chars
  some (padded 4 year ++ "-" ++ padded 2 month ++ "-" ++ padded 2 day, left)

/-- Read the fraction of a second, if there is one. Digits behind the ninth do not count, nor do
zeros at the end. -/
def secondFraction : Reader String
  | '.' :: rest =>
    match rest.takeWhile Char.isDigit with
    | [] => some ("", '.' :: rest)
    | found =>
      let shown := ((found.take 9).reverse.dropWhile (· == '0')).reverse
      let text := if shown.isEmpty then "" else "." ++ String.ofList shown
      some (text, rest.dropWhile Char.isDigit)
  | chars => some ("", chars)

def time : Reader String := fun chars => do
  let (hour, chars) ← fixedDigits 2 0 23 chars
  let ((), chars) ← mark ':' chars
  let (minute, chars) ← fixedDigits 2 0 59 chars
  let ((), chars) ← mark ':' chars
  let (second, chars) ← fixedDigits 2 0 60 chars
  let (fraction, left) ← secondFraction chars
  some (padded 2 hour ++ ":" ++ padded 2 minute ++ ":" ++ padded 2 second ++ fraction, left)

/-- Read the distance from universal time, if it is given. -/
def offset : Reader String
  | 'Z' :: rest | 'z' :: rest => some ("Z", rest)
  | chars => do
    let sign? : Option (String × List Char) :=
      match chars with
      | '+' :: rest => some ("+", rest)
      | '-' :: rest => some ("-", rest)
      | _ => none
    match sign? with
    | none => some ("", chars)
    | some (sign, rest) => do
      let (hour, rest) ← fixedDigits 2 0 23 rest
      let ((), rest) ← mark ':' rest
      let (minute, left) ← fixedDigits 2 0 59 rest
      let sign := if hour = 0 ∧ minute = 0 then "+" else sign
      some (sign ++ padded 2 hour ++ ":" ++ padded 2 minute, left)

def startsWithDigits (count : Nat) (c : Char) (chars : List Char) : Bool :=
  (chars.take count).length == count && (chars.take count).all Char.isDigit &&
    chars[count]? == some c

/-- Read a date with a time behind it, if there is one. A blank can stand between them only if a
time follows. -/
def dateAndTime : Reader String := fun chars => do
  let (day, left) ← date chars
  match left with
  | c :: rest =>
    if (c = 'T' ∨ c = 't' ∨ c = ' ') ∧ startsWithDigits 2 ':' rest then do
      let (clock, rest) ← time rest
      let (zone, left) ← offset rest
      some (day ++ "T" ++ clock ++ zone, left)
    else some (day, left)
  | [] => some (day, [])

def numberOrTime : Reader Document := fun chars =>
  if startsWithDigits 4 '-' chars then (dateAndTime chars).map fun (t, left) => (.time t, left)
  else if startsWithDigits 2 ':' chars then (time chars).map fun (t, left) => (.time t, left)
  else number chars

def word (expected : List Char) (value : Document) : Reader Document := fun chars =>
  if expected.isPrefixOf chars then some (value, chars.drop expected.length) else none

def scalar : Reader Document
  | '"' :: rest => (string ('"' :: rest)).map fun (s, left) => (.string s, left)
  | '\'' :: rest => (string ('\'' :: rest)).map fun (s, left) => (.string s, left)
  | 't' :: rest => word ['t', 'r', 'u', 'e'] (.bool true) ('t' :: rest)
  | 'f' :: rest => word ['f', 'a', 'l', 's', 'e'] (.bool false) ('f' :: rest)
  | chars => numberOrTime chars

end TextScopes.Toml
