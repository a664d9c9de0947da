import TextScopes.Proofs.Builtin.JsonText

/-!
This module contains JSON texts with comments as trees: JSON values with gaps between their tokens,
in which comments stand among blanks. It tells the comments of such a text and where they stand, and
the JSON text that is left if each comment is made blank.
-/

namespace TextScopes.JsoncText

open JsonText (Blank Constant Number Part blanksText quotedText)

/-- What may stand in a block comment: anything that does not end it. -/
abbrev BlockContent := { w : Text // ¬ ['*', '/'] <:+: w }

/-- What may stand in a line comment: anything that does not end the line. -/
abbrev LineContent := { w : Text // '\n' ∉ w }

inductive Comment where
  | block (content : BlockContent)
  | line (content : LineContent)

namespace Comment

def text : Comment → Text
  | block content => ['/', '*'] ++ (content.val ++ ['*', '/'])
  | line content => ['/', '/'] ++ content.val

/-- What must follow a comment in the middle of a text. -/
def ending : Comment → List Blank
  | block _ => []
  | line _ => [.lineFeed]

def blanks (comment : Comment) : List Blank := List.replicate comment.text.size .space

end Comment

/-- A part of a gap. -/
inductive Filler where
  | blank (blank : Blank)
  | comment (comment : Comment)

/-- What stands between two tokens. -/
abbrev Gap := List Filler

def Filler.text : Filler → Text
  | .blank b => blanksText [b]
  | .comment c => c.text ++ blanksText c.ending

/-- The filler with as many blanks in place of a comment. -/
def Filler.blanks : Filler → List Blank
  | .blank b => [b]
  | .comment c => c.blanks ++ c.ending

def gapText (gap : Gap) : Text := gap.flatMap Filler.text

def gapBlanks (gap : Gap) : List Blank := gap.flatMap Filler.blanks

theorem size_blanksText_append (a b : List Blank)
    : (blanksText (a ++ b)).size = (blanksText a).size + (blanksText b).size := by
  unfold blanksText
  rw [List.map_append, Text.size_append]

theorem size_blanksText_replicate (n : Nat)
    : (blanksText (List.replicate n .space)).size = n := by
  induction n with
  | zero => rfl
  | succ n ih =>
    have hspace : (' ').utf8Size = 1 := by decide
    have hcons : (blanksText (List.replicate (n + 1) .space)).size
        = (' ').utf8Size + (blanksText (List.replicate n .space)).size := rfl
    rw [hcons, ih, hspace, Nat.add_comm]

theorem Comment.size_blanks (comment : Comment)
    : (blanksText comment.blanks).size = comment.text.size :=
  size_blanksText_replicate _

theorem size_gapBlanks (gap : Gap) : (blanksText (gapBlanks gap)).size = (gapText gap).size := by
  induction gap with
  | nil => rfl
  | cons filler gap ih =>
    have hfiller : (blanksText filler.blanks).size = filler.text.size := by
      cases filler with
      | blank b => rfl
      | comment c =>
        unfold Filler.blanks Filler.text
        dsimp only
        rw [size_blanksText_append, Comment.size_blanks, Text.size_append]
    unfold gapBlanks gapText at *
    rw [List.flatMap_cons, List.flatMap_cons, size_blanksText_append, ih, hfiller,
      Text.size_append]

mutual

/-- A value with the gaps inside it. -/
inductive Value where
  | constant (constant : Constant)
  | number (number : Number)
  | string (parts : List Part)
  | emptyArray (gap : Gap)
  | array (before : Gap) (elements : Elements)
  | emptyObject (gap : Gap)
  | object (before : Gap) (members : Members)

/-- The elements of an array with the gaps behind each of them, and in front of all but the
first. -/
inductive Elements where
  | last (value : Value) (behind : Gap)
  | more (value : Value) (behind before : Gap) (others : Elements)

/-- A key and its value, with the gaps around the colon. -/
inductive Member where
  | mk (key : List Part) (behind before : Gap) (value : Value)

/-- The members of an object, with gaps as in an array. -/
inductive Members where
  | last (member : Member) (behind : Gap)
  | more (member : Member) (behind before : Gap) (others : Members)

end

mutual

def Value.text : Value → Text
  | .constant constant => constant.text
  | .number number => number.text
  | .string parts => quotedText parts
  | .emptyArray gap => ['['] ++ (gapText gap ++ [']'])
  | .array before elements => ['['] ++ ((gapText before ++ elements.text) ++ [']'])
  | .emptyObject gap => ['\x7b'] ++ (gapText gap ++ ['\x7d'])
  | .object before members => ['\x7b'] ++ ((gapText before ++ members.text) ++ ['\x7d'])
termination_by structural value => value

def Elements.text : Elements → Text
  | .last value behind => value.text ++ gapText behind
  | .more value behind before others =>
    (value.text ++ gapText behind) ++ ([','] ++ (gapText before ++ others.text))
termination_by structural elements => elements

def Member.text : Member → Text
  | .mk key behind before value =>
    (quotedText key ++ gapText behind) ++ ([':'] ++ (gapText before ++ value.text))
termination_by structural member => member

def Members.text : Members → Text
  | .last member behind => member.text ++ gapText behind
  | .more member behind before others =>
    (member.text ++ gapText behind) ++ ([','] ++ (gapText before ++ others.text))
termination_by structural members => members

end

mutual

def Value.blanked : Value → JsonText.Value
  | .constant constant => .constant constant
  | .number number => .number number
  | .string parts => .string parts
  | .emptyArray gap => .emptyArray (gapBlanks gap)
  | .array before elements => .array (gapBlanks before) elements.blanked
  | .emptyObject gap => .emptyObject (gapBlanks gap)
  | .object before members => .object (gapBlanks before) members.blanked
termination_by structural value => value

def Elements.blanked : Elements → JsonText.Elements
  | .last value behind => .last value.blanked (gapBlanks behind)
  | .more value behind before others =>
    .more value.blanked (gapBlanks behind) (gapBlanks before) others.blanked
termination_by structural elements => elements

def Member.blanked : Member → JsonText.Member
  | .mk key behind before value => .mk key (gapBlanks behind) (gapBlanks before) value.blanked
termination_by structural member => member

def Members.blanked : Members → JsonText.Members
  | .last member behind => .last member.blanked (gapBlanks behind)
  | .more member behind before others =>
    .more member.blanked (gapBlanks behind) (gapBlanks before) others.blanked
termination_by structural members => members

end

mutual

theorem Value.size_blanked (value : Value) : value.blanked.text.size = value.text.size := by
  match value with
  | .constant _ | .number _ | .string _ => rfl
  | .emptyArray gap | .emptyObject gap =>
    unfold Value.blanked JsonText.Value.text Value.text
    simp [size_gapBlanks]
  | .array before elements =>
    unfold Value.blanked JsonText.Value.text Value.text
    simp [size_gapBlanks, elements.size_blanked]
  | .object before members =>
    unfold Value.blanked JsonText.Value.text Value.text
    simp [size_gapBlanks, members.size_blanked]
termination_by structural value

theorem Elements.size_blanked (elements : Elements)
    : elements.blanked.text.size = elements.text.size := by
  match elements with
  | .last value behind =>
    unfold Elements.blanked JsonText.Elements.text Elements.text
    simp [size_gapBlanks, value.size_blanked]
  | .more value behind before others =>
    unfold Elements.blanked JsonText.Elements.text Elements.text
    simp [size_gapBlanks, value.size_blanked, others.size_blanked]
termination_by structural elements

theorem Member.size_blanked (member : Member) : member.blanked.text.size = member.text.size := by
  match member with
  | .mk key behind before value =>
    unfold Member.blanked JsonText.Member.text Member.text
    simp [size_gapBlanks, value.size_blanked]
termination_by structural member

theorem Members.size_blanked (members : Members)
    : members.blanked.text.size = members.text.size := by
  match members with
  | .last member behind =>
    unfold Members.blanked JsonText.Members.text Members.text
    simp [size_gapBlanks, member.size_blanked]
  | .more member behind before others =>
    unfold Members.blanked JsonText.Members.text Members.text
    simp [size_gapBlanks, member.size_blanked, others.size_blanked]
termination_by structural members

end

/-- A comment with what stands in front of it in the text, and the scopes that hold around it. -/
structure Placed where
  front : Text
  scopes : ScopeStack
  comment : Comment

def Filler.comments (front : Text) (scopes : ScopeStack) : Filler → List Placed
  | .blank _ => []
  | .comment c => [⟨front, scopes, c⟩]

def gapComments (front : Text) (scopes : ScopeStack) : Gap → List Placed
  | [] => []
  | filler :: gap =>
    filler.comments front scopes ++ gapComments (front ++ filler.text) scopes gap

mutual

/-- The comments in a value, in the order of the text. -/
def Value.comments (front : Text) (scopes : ScopeStack) : Value → List Placed
  | .constant _ | .number _ | .string _ => []
  | .emptyArray gap => gapComments (front ++ ['[']) (JsonText.arrayScopes.name :: scopes) gap
  | .array before elements =>
    let inner := JsonText.arrayScopes.name :: scopes
    gapComments (front ++ ['[']) inner before
      ++ elements.comments (front ++ ['['] ++ gapText before) inner
  | .emptyObject gap => gapComments (front ++ ['\x7b']) (JsonText.objectScopes.name :: scopes) gap
  | .object before members =>
    let inner := JsonText.objectScopes.name :: scopes
    gapComments (front ++ ['\x7b']) inner before
      ++ members.comments (front ++ ['\x7b'] ++ gapText before) inner
termination_by structural value => value

def Elements.comments (front : Text) (scopes : ScopeStack) : Elements → List Placed
  | .last value behind =>
    value.comments front scopes ++ gapComments (front ++ value.text) scopes behind
  | .more value behind before others =>
    let comma := front ++ (value.text ++ gapText behind)
    (value.comments front scopes ++ gapComments (front ++ value.text) scopes behind)
      ++ (gapComments (comma ++ [',']) scopes before
        ++ others.comments (comma ++ [','] ++ gapText before) scopes)
termination_by structural elements => elements

def Member.comments (front : Text) (scopes : ScopeStack) : Member → List Placed
  | .mk key behind before value =>
    let colon := front ++ (quotedText key ++ gapText behind)
    gapComments (front ++ quotedText key) scopes behind
      ++ (gapComments (colon ++ [':']) scopes before
        ++ value.comments (colon ++ [':'] ++ gapText before) scopes)
termination_by structural member => member

def Members.comments (front : Text) (scopes : ScopeStack) : Members → List Placed
  | .last member behind =>
    member.comments front scopes ++ gapComments (front ++ member.text) scopes behind
  | .more member behind before others =>
    let comma := front ++ (member.text ++ gapText behind)
    (member.comments front scopes ++ gapComments (front ++ member.text) scopes behind)
      ++ (gapComments (comma ++ [',']) scopes before
        ++ others.comments (comma ++ [','] ++ gapText before) scopes)
termination_by structural members => members

end

/-- Whether two slashes behind a text are the first ones in their line. -/
def LeadsBehind (front : Text) : Prop :=
  ∀ a b : Text, front ++ ['/'] = a ++ '/' :: '/' :: b → '\n' ∈ b

namespace Placed

/-- Whether a comment is no line comment with two slashes in front of its own on its line. -/
def Leads (placed : Placed) : Prop :=
  match placed.comment with
  | .block _ => True
  | .line _ => LeadsBehind placed.front

/-- The spans of a comment: one over all of it, and those of its marks. -/
def spans (placed : Placed) : List Span :=
  let start := placed.front.size
  let stop := start + placed.comment.text.size
  let mark := "punctuation.definition.comment.json"
  match placed.comment with
  | .block _ =>
    let inner := "comment.block.json" :: placed.scopes
    [⟨inner, start, stop⟩, ⟨mark :: inner, start, start + 2⟩, ⟨mark :: inner, stop - 2, stop⟩]
  | .line _ =>
    let inner := "comment.line.double-slash.json" :: placed.scopes
    [⟨inner, start, stop⟩, ⟨mark :: inner, start, start + 2⟩]

end Placed

end JsoncText

/-- A JSON text with comments: a value with gaps around it. A line comment may end the text. -/
structure JsoncText where
  before : JsoncText.Gap
  value : JsoncText.Value
  behind : JsoncText.Gap
  last : Option JsoncText.LineContent

namespace JsoncText

open JsonText (blanksText)

/-- The comment at the end of a text, if there is one. -/
def lastComment (text : JsoncText) : Option Comment := text.last.map .line

def text (jsonc : JsoncText) : Text :=
  gapText jsonc.before ++ (jsonc.value.text ++ (gapText jsonc.behind
    ++ jsonc.lastComment.elim [] Comment.text))

/-- The text with as many blanks in place of each comment. -/
def blanked (jsonc : JsoncText) : JsonText where
  before := gapBlanks jsonc.before
  value := jsonc.value.blanked
  behind := gapBlanks jsonc.behind ++ jsonc.lastComment.elim [] Comment.blanks

def comments (jsonc : JsoncText) : List Placed :=
  let scopes := ["source.json"]
  let front := gapText jsonc.before ++ jsonc.value.text
  gapComments [] scopes jsonc.before ++ (jsonc.value.comments (gapText jsonc.before) scopes
    ++ (gapComments front scopes jsonc.behind
      ++ (jsonc.lastComment.map fun comment =>
        ⟨front ++ gapText jsonc.behind, scopes, comment⟩).toList))

/-- The spans that can be read off a text, in the order of the text: those of its comments, and
those that the text has with blanks in place of the comments. -/
def spans (jsonc : JsoncText) : List Span :=
  (jsonc.comments.flatMap Placed.spans ++ jsonc.blanked.spans).mergeSort Span.le

end JsoncText

end TextScopes
