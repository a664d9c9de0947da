import TextScopes.Span
import TextScopes.Text.Basic

/-!
This module contains JSON texts as trees: values with the blanks between their tokens, the text of
such a tree, and the spans that can be read off it, which have no scopes but those of the tokens.
-/

namespace TextScopes.JsonText

/-- A character that may stand between tokens. -/
inductive Blank where
  | space
  | tab
  | lineFeed
  | carriageReturn
  deriving DecidableEq, Repr

def Blank.char : Blank → Char
  | space => ' '
  | tab => '\t'
  | lineFeed => '\n'
  | carriageReturn => '\r'

def blanksText (blanks : List Blank) : Text := blanks.map Blank.char

inductive Constant where
  | true
  | false
  | null
  deriving DecidableEq, Repr

def Constant.text : Constant → Text
  | true => ['t', 'r', 'u', 'e']
  | false => ['f', 'a', 'l', 's', 'e']
  | null => ['n', 'u', 'l', 'l']

def IsDigit (c : Char) : Prop := '0' ≤ c ∧ c ≤ '9'

def IsHexDigit (c : Char) : Prop := IsDigit c ∨ ('A' ≤ c ∧ c ≤ 'F') ∨ ('a' ≤ c ∧ c ≤ 'f')

instance : DecidablePred IsDigit := fun c => inferInstanceAs (Decidable ('0' ≤ c ∧ c ≤ '9'))

abbrev Digit := { c : Char // IsDigit c }

abbrev HexDigit := { c : Char // IsHexDigit c }

structure Digits where
  first : Digit
  others : List Digit

def Digits.text (digits : Digits) : Text := digits.first.val :: digits.others.map (·.val)

/-- The digits of a number in front of the point, without needless zeros. -/
inductive Whole where
  | zero
  | positive (first : { c : Char // '1' ≤ c ∧ c ≤ '9' }) (others : List Digit)

def Whole.text : Whole → Text
  | zero => ['0']
  | positive first others => first.val :: others.map (·.val)

inductive Sign where
  | plus
  | minus
  deriving DecidableEq, Repr

def Sign.char : Sign → Char
  | plus => '+'
  | minus => '-'

structure Exponent where
  /-- Whether the letter in front is a capital. -/
  capital : Bool
  sign : Option Sign
  digits : Digits

def Exponent.letter (exponent : Exponent) : Char := if exponent.capital then 'E' else 'e'

def Exponent.text (exponent : Exponent) : Text :=
  [exponent.letter] ++ ((exponent.sign.map Sign.char).toList ++ exponent.digits.text)

structure Number where
  negative : Bool
  whole : Whole
  fraction : Option Digits
  exponent : Option Exponent

def Number.signText (number : Number) : Text := if number.negative then ['-'] else []

def Number.fractionText (number : Number) : Text :=
  number.fraction.elim [] fun digits => ['.'] ++ digits.text

def Number.exponentText (number : Number) : Text := number.exponent.elim [] Exponent.text

def Number.text (number : Number) : Text :=
  number.signText ++ (number.whole.text ++ (number.fractionText ++ number.exponentText))

/-- Whether a character may stand in a string as it is. -/
def IsPlain (c : Char) : Prop := ' ' ≤ c ∧ c ≠ '"' ∧ c ≠ '\\'

instance : DecidablePred IsPlain :=
  fun c => inferInstanceAs (Decidable (' ' ≤ c ∧ c ≠ '"' ∧ c ≠ '\\'))

/-- The characters that may stand behind the backslash of an escape. -/
def shortEscapes : List Char := ['"', '\\', '/', 'b', 'f', 'n', 'r', 't']

inductive Part where
  | plain (c : { c : Char // IsPlain c })
  | short (c : { c : Char // c ∈ shortEscapes })
  | code (a b c d : HexDigit)

def Part.text : Part → Text
  | plain c => [c.val]
  | short c => ['\\', c.val]
  | code a b c d => ['\\', 'u', a.val, b.val, c.val, d.val]

def partsText (parts : List Part) : Text := parts.flatMap Part.text

def quotedText (parts : List Part) : Text := ['"'] ++ (partsText parts ++ ['"'])

mutual

/-- A value with the blanks inside it. -/
inductive Value where
  | constant (constant : Constant)
  | number (number : Number)
  | string (parts : List Part)
  | emptyArray (blanks : List Blank)
  | array (before : List Blank) (elements : Elements)
  | emptyObject (blanks : List Blank)
  | object (before : List Blank) (members : Members)

/-- The elements of an array with the blanks behind each of them, and in front of all but the
first. -/
inductive Elements where
  | last (value : Value) (behind : List Blank)
  | more (value : Value) (behind before : List Blank) (others : Elements)

/-- A key and its value, with the blanks around the colon. -/
inductive Member where
  | mk (key : List Part) (behind before : List Blank) (value : Value)

/-- The members of an object, with blanks as in an array. -/
inductive Members where
  | last (member : Member) (behind : List Blank)
  | more (member : Member) (behind before : List Blank) (others : Members)

end

mutual

def Value.text : Value → Text
  | .constant constant => constant.text
  | .number number => number.text
  | .string parts => quotedText parts
  | .emptyArray blanks => ['['] ++ (blanksText blanks ++ [']'])
  | .array before elements => ['['] ++ ((blanksText before ++ elements.text) ++ [']'])
  | .emptyObject blanks => ['\x7b'] ++ (blanksText blanks ++ ['\x7d'])
  | .object before members => ['\x7b'] ++ ((blanksText before ++ members.text) ++ ['\x7d'])
termination_by structural value => value

def Elements.text : Elements → Text
  | .last value behind => value.text ++ blanksText behind
  | .more value behind before others =>
    (value.text ++ blanksText behind) ++ ([','] ++ (blanksText before ++ others.text))
termination_by structural elements => elements

def Member.text : Member → Text
  | .mk key behind before value =>
    (quotedText key ++ blanksText behind) ++ ([':'] ++ (blanksText before ++ value.text))
termination_by structural member => member

def Members.text : Members → Text
  | .last member behind => member.text ++ blanksText behind
  | .more member behind before others =>
    (member.text ++ blanksText behind) ++ ([','] ++ (blanksText before ++ others.text))
termination_by structural members => members

end

/-- The scopes of a stretch between two delimiters and of the delimiters themselves. -/
structure DelimiterScopes where
  name : String
  opening : String
  closing : String

def stringScopes : DelimiterScopes where
  name := "string.quoted.double.json"
  opening := "punctuation.definition.string.begin.json"
  closing := "punctuation.definition.string.end.json"

def arrayScopes : DelimiterScopes where
  name := "meta.structure.array.json"
  opening := "punctuation.definition.array.begin.json"
  closing := "punctuation.definition.array.end.json"

def objectScopes : DelimiterScopes where
  name := "meta.structure.dictionary.json"
  opening := "punctuation.definition.dictionary.begin.json"
  closing := "punctuation.definition.dictionary.end.json"

/-- The spans of a stretch between two delimiters of one byte, given how many bytes and which spans
stand between them. -/
def DelimiterScopes.spans (delimiters : DelimiterScopes) (scopes : ScopeStack) (start size : Nat)
    (inside : List Span) : List Span :=
  let inner := delimiters.name :: scopes
  let stop := start + 1 + size
  ⟨inner, start, stop + 1⟩ :: ⟨delimiters.opening :: inner, start, start + 1⟩
    :: (inside ++ [⟨delimiters.closing :: inner, stop, stop + 1⟩])

def Part.spans (scopes : ScopeStack) (start : Nat) (part : Part) : List Span :=
  match part with
  | plain _ => []
  | short _ | code _ _ _ _ =>
    [⟨"constant.character.escape.json" :: scopes, start, start + part.text.size⟩]

def partsSpans (scopes : ScopeStack) (start : Nat) : List Part → List Span
  | [] => []
  | part :: parts => part.spans scopes start ++ partsSpans scopes (start + part.text.size) parts

def quotedSpans (scopes : ScopeStack) (start : Nat) (parts : List Part) : List Span :=
  stringScopes.spans scopes start (partsText parts).size
    (partsSpans (stringScopes.name :: scopes) (start + 1) parts)

mutual

/-- The spans of a value that starts at an offset, in the order of the text, a span before the spans
inside it. -/
def Value.spans (scopes : ScopeStack) (start : Nat) : Value → List Span
  | .constant constant =>
    [⟨"constant.language.json" :: scopes, start, start + constant.text.size⟩]
  | .number number => [⟨"constant.numeric.json" :: scopes, start, start + number.text.size⟩]
  | .string parts => quotedSpans scopes start parts
  | .emptyArray blanks => arrayScopes.spans scopes start (blanksText blanks).size []
  | .array before elements =>
    arrayScopes.spans scopes start (blanksText before ++ elements.text).size
      (elements.spans (arrayScopes.name :: scopes) (start + 1 + (blanksText before).size))
  | .emptyObject blanks => objectScopes.spans scopes start (blanksText blanks).size []
  | .object before members =>
    objectScopes.spans scopes start (blanksText before ++ members.text).size
      (members.spans (objectScopes.name :: scopes) (start + 1 + (blanksText before).size))
termination_by structural value => value

def Elements.spans (scopes : ScopeStack) (start : Nat) : Elements → List Span
  | .last value _ => value.spans scopes start
  | .more value behind before others =>
    let comma := start + (value.text ++ blanksText behind).size
    value.spans scopes start
      ++ (⟨"punctuation.separator.array.json" :: scopes, comma, comma + 1⟩
        :: others.spans scopes (comma + 1 + (blanksText before).size))
termination_by structural elements => elements

def Member.spans (scopes : ScopeStack) (start : Nat) : Member → List Span
  | .mk key behind before value =>
    let colon := start + (quotedText key ++ blanksText behind).size
    quotedSpans scopes start key
      ++ (⟨"punctuation.separator.dictionary.key-value.json" :: scopes, colon, colon + 1⟩
        :: value.spans scopes (colon + 1 + (blanksText before).size))
termination_by structural member => member

def Members.spans (scopes : ScopeStack) (start : Nat) : Members → List Span
  | .last member _ => member.spans scopes start
  | .more member behind before others =>
    let comma := start + (member.text ++ blanksText behind).size
    member.spans scopes start
      ++ (⟨"punctuation.separator.dictionary.pair.json" :: scopes, comma, comma + 1⟩
        :: others.spans scopes (comma + 1 + (blanksText before).size))
termination_by structural members => members

end

/-- The scopes of values, of their parts and of what stands between them. -/
def tokenScopes : List String :=
  [stringScopes, arrayScopes, objectScopes].flatMap (fun d => [d.name, d.opening, d.closing])
    ++ ["constant.character.escape.json", "constant.numeric.json", "constant.language.json",
      "punctuation.separator.array.json", "punctuation.separator.dictionary.key-value.json",
      "punctuation.separator.dictionary.pair.json"]

/-- Whether spans have scopes of tokens only, on top of those that hold around them. -/
def IsOfTokens (scopes : ScopeStack) (spans : List Span) : Prop :=
  ∀ span ∈ spans, ∀ scope ∈ span.scopes, scope ∈ scopes ∨ scope ∈ tokenScopes

namespace IsOfTokens

variable {scopes : ScopeStack} {spans spans' : List Span}

theorem nil (scopes : ScopeStack) : IsOfTokens scopes [] := nofun

theorem append (h : IsOfTokens scopes spans) (h' : IsOfTokens scopes spans')
    : IsOfTokens scopes (spans ++ spans') := by
  intro span hspan
  rcases List.mem_append.mp hspan with hspan | hspan
  . exact h span hspan
  . exact h' span hspan

theorem cons {scope : String} (hscope : scope ∈ tokenScopes) (start stop : Nat)
    (h : IsOfTokens scopes spans)
    : IsOfTokens scopes (⟨scope :: scopes, start, stop⟩ :: spans) := by
  intro span hspan other hother
  rcases List.mem_cons.mp hspan with rfl | hspan
  . rcases List.mem_cons.mp hother with rfl | hother
    . exact Or.inr hscope
    . exact Or.inl hother
  . exact h span hspan other hother

theorem around {scope : String} (hscope : scope ∈ tokenScopes)
    (h : IsOfTokens (scope :: scopes) spans) : IsOfTokens scopes spans := by
  intro span hspan other hother
  rcases h span hspan other hother with hother | hother
  . rcases List.mem_cons.mp hother with rfl | hother
    . exact Or.inr hscope
    . exact Or.inl hother
  . exact Or.inr hother

theorem delimited {d : DelimiterScopes} (hd : d ∈ [stringScopes, arrayScopes, objectScopes])
    (h : IsOfTokens (d.name :: scopes) spans) (start size : Nat)
    : IsOfTokens scopes (d.spans scopes start size spans) := by
  have hscope {scope : String} (hscope : scope ∈ [d.name, d.opening, d.closing])
      : scope ∈ tokenScopes :=
    List.mem_append_left _ (List.mem_flatMap.mpr ⟨d, hd, hscope⟩)
  have hname := hscope (by simp : d.name ∈ _)
  apply cons hname
  apply around hname
  apply cons (hscope (by simp : d.opening ∈ _))
  exact h.append (cons (hscope (by simp : d.closing ∈ _)) _ _ (nil _))

end IsOfTokens

theorem isOfTokens_partsSpans (scopes : ScopeStack) (start : Nat) (parts : List Part)
    : IsOfTokens scopes (partsSpans scopes start parts) := by
  induction parts generalizing start with
  | nil => exact .nil _
  | cons part parts ih =>
    apply IsOfTokens.append _ (ih _)
    cases part with
    | plain c => exact .nil _
    | short c => exact .cons (by decide) _ _ (.nil _)
    | code a b c d => exact .cons (by decide) _ _ (.nil _)

theorem isOfTokens_quotedSpans (scopes : ScopeStack) (start : Nat) (parts : List Part)
    : IsOfTokens scopes (quotedSpans scopes start parts) :=
  .delimited (by simp) (isOfTokens_partsSpans _ _ _) _ _

mutual

theorem Value.isOfTokens_spans (scopes : ScopeStack) (start : Nat) (value : Value)
    : IsOfTokens scopes (value.spans scopes start) := by
  match value with
  | .constant constant => exact .cons (by decide) _ _ (.nil _)
  | .number number => exact .cons (by decide) _ _ (.nil _)
  | .string parts => exact isOfTokens_quotedSpans _ _ _
  | .emptyArray blanks => exact .delimited (by simp) (.nil _) _ _
  | .array before elements => exact .delimited (by simp) (elements.isOfTokens_spans _ _) _ _
  | .emptyObject blanks => exact .delimited (by simp) (.nil _) _ _
  | .object before members => exact .delimited (by simp) (members.isOfTokens_spans _ _) _ _
termination_by structural value

theorem Elements.isOfTokens_spans (scopes : ScopeStack) (start : Nat) (elements : Elements)
    : IsOfTokens scopes (elements.spans scopes start) := by
  match elements with
  | .last value behind => exact value.isOfTokens_spans _ _
  | .more value behind before others =>
    exact (value.isOfTokens_spans _ _).append (.cons (by decide) _ _ (others.isOfTokens_spans _ _))
termination_by structural elements

theorem Member.isOfTokens_spans (scopes : ScopeStack) (start : Nat) (member : Member)
    : IsOfTokens scopes (member.spans scopes start) := by
  match member with
  | .mk key behind before value =>
    exact (isOfTokens_quotedSpans _ _ _).append
      (.cons (by decide) _ _ (value.isOfTokens_spans _ _))
termination_by structural member

theorem Members.isOfTokens_spans (scopes : ScopeStack) (start : Nat) (members : Members)
    : IsOfTokens scopes (members.spans scopes start) := by
  match members with
  | .last member behind => exact member.isOfTokens_spans _ _
  | .more member behind before others =>
    exact (member.isOfTokens_spans _ _).append (.cons (by decide) _ _ (others.isOfTokens_spans _ _))
termination_by structural members

end

end TextScopes.JsonText

namespace TextScopes

/-- A JSON text: a value with blanks around it. -/
structure JsonText where
  before : List JsonText.Blank
  value : JsonText.Value
  behind : List JsonText.Blank

namespace JsonText

def text (json : JsonText) : Text :=
  blanksText json.before ++ (json.value.text ++ blanksText json.behind)

def spans (json : JsonText) : List Span :=
  json.value.spans ["source.json"] (blanksText json.before).size

end JsonText

end TextScopes
