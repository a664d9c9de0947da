import TextScopes.Builtin.Json
import TextScopes.Proofs.Builtin.JsonText
import TextScopes.Proofs.Grammar.Build
import TextScopes.Proofs.Grammar.Growth
import TextScopes.Proofs.Grammar.Load

/-!
This module contains the rules of the grammar of JSON: as the stored text gives them and as they are
built, their patterns as they are matched, and where they are active.
-/

namespace TextScopes.Builtin

open Regex
open RuleSource (addTo_matching addTo_includeRule addTo_nested addAllTo_nil addAllTo_cons
  addAllTo_includeRule)
open GrammarSource (addEntries_cons)

def includeDocument (target : String) : Document := .object <| .ofList [("include", .string target)]

def matchDocument (pattern name : String) : Document :=
  .object <| .ofList [("match", .string pattern), ("name", .string name)]

def captureDocument (entries : List (String × String)) : Document :=
  .object <| .ofList <| entries.map fun (key, name) =>
    (key, .object <| .ofList [("name", .string name)])

def jsonDocument : Document :=
  .object <| .ofList [
    ("name", .string "JSON"),
    ("scopeName", .string "source.json"),
    ("fileTypes", .array <| .ofList [.string "json", .string "jsonc", .string "code-workspace",
      .string ".babelrc", .string ".eslintrc"]),
    ("foldingStartMarker", .string "[\x7b\\[]\\s*$"),
    ("foldingStopMarker", .string "^\\s*[\x7d\\]]"),
    ("patterns", .array <| .ofList [includeDocument "#value"]),
    ("repository", .object <| .ofList [
      ("value", .object <| .ofList [
        ("patterns", .array <| .ofList [includeDocument "#comments", includeDocument "#constant",
          includeDocument "#number", includeDocument "#string", includeDocument "#array",
          includeDocument "#object"])]),
      ("comments", .object <| .ofList [
        ("patterns", .array <| .ofList [
          .object <| .ofList [
            ("begin", .string "/\\*"),
            ("end", .string "\\*/"),
            ("name", .string "comment.block.json"),
            ("captures", captureDocument [("0", "punctuation.definition.comment.json")])],
          .object <| .ofList [
            ("match", .string "(//).*$"),
            ("name", .string "comment.line.double-slash.json"),
            ("captures", captureDocument [("1", "punctuation.definition.comment.json")])]])]),
      ("constant", matchDocument "\\b(?:true|false|null)\\b" "constant.language.json"),
      ("number", matchDocument "-?(?:0|[1-9][0-9]*)(?:\\.[0-9]+)?(?:[eE][+-]?[0-9]+)?"
        "constant.numeric.json"),
      ("string", .object <| .ofList [
        ("begin", .string "\""),
        ("end", .string "\""),
        ("name", .string "string.quoted.double.json"),
        ("beginCaptures", captureDocument [("0", "punctuation.definition.string.begin.json")]),
        ("endCaptures", captureDocument [("0", "punctuation.definition.string.end.json")]),
        ("patterns", .array <| .ofList [includeDocument "#escape"])]),
      ("escape", .object <| .ofList [
        ("patterns", .array <| .ofList [
          matchDocument "\\\\(?:[\"\\\\/bfnrt]|u[0-9a-fA-F]\x7b4\x7d)"
            "constant.character.escape.json",
          matchDocument "\\\\." "invalid.illegal.unrecognized-string-escape.json"])]),
      ("array", .object <| .ofList [
        ("begin", .string "\\["),
        ("end", .string "\\]"),
        ("name", .string "meta.structure.array.json"),
        ("beginCaptures", captureDocument [("0", "punctuation.definition.array.begin.json")]),
        ("endCaptures", captureDocument [("0", "punctuation.definition.array.end.json")]),
        ("patterns", .array <| .ofList [includeDocument "#value",
          matchDocument "," "punctuation.separator.array.json"])]),
      ("object", .object <| .ofList [
        ("begin", .string "\\\x7b"),
        ("end", .string "\\\x7d"),
        ("name", .string "meta.structure.dictionary.json"),
        ("beginCaptures", captureDocument [("0", "punctuation.definition.dictionary.begin.json")]),
        ("endCaptures", captureDocument [("0", "punctuation.definition.dictionary.end.json")]),
        ("patterns", .array <| .ofList [includeDocument "#value",
          matchDocument ":" "punctuation.separator.dictionary.key-value.json",
          matchDocument "," "punctuation.separator.dictionary.pair.json"])])])]

set_option maxRecDepth 12000 in
theorem isTextOf_jsonText : Json.IsTextOf jsonText jsonDocument := by
  constructor
  -- the characters of a literal are known as they stand, its bytes need not be decoded
  . rw [jsonText, String.toList_ofList]
    with_unfolding_all rfl
  . simp [jsonDocument, includeDocument, matchDocument, captureDocument, Document.IsProper,
      Items.isProper_ofList, Members.isProper_ofList]

/-- The stored text stands for the rules of `json`. -/
theorem ofJson_jsonText : GrammarSource.ofJson jsonText = .ok json :=
  (GrammarSource.ofJson_eq_ok_iff isTextOf_jsonText).mpr rfl

theorem loadJson_eq_build : loadJson = json.build := Grammar.ofJson_eq_build ofJson_jsonText

def matchingRule (scope : String) (regex : Regex) : Rule := ⟨some scope, .matching regex ∅⟩

def commaRegex : Regex := ⟨",", .literal [',']⟩

def colonRegex : Regex := ⟨":", .literal [':']⟩

def lineCommentRegex : Regex where
  pattern := "(//).*$"
  expr :=
    .concat [.group 1 (.literal ['/', '/']),
      .repetition 0 none true (.set ⟨[(0, 0x9), (0xB, 0x10FFFF)]⟩), .look .lineEnd]

def constantRegex : Regex where
  pattern := "\\b(?:true|false|null)\\b"
  expr :=
    .concat [.look (.wordEdge false),
      .alternation [.literal ['t', 'r', 'u', 'e'], .literal ['f', 'a', 'l', 's', 'e'],
        .literal ['n', 'u', 'l', 'l']],
      .look (.wordEdge false)]

def shortEscapeChars : CharSet :=
  ⟨[(0x22, 0x22), (0x2F, 0x2F), (0x5C, 0x5C), (0x62, 0x62), (0x66, 0x66), (0x6E, 0x6E),
    (0x72, 0x72), (0x74, 0x74)]⟩

def hexDigitChars : CharSet := ⟨[(0x30, 0x39), (0x41, 0x46), (0x61, 0x66)]⟩

def escapeRegex : Regex where
  pattern := "\\\\(?:[\"\\\\/bfnrt]|u[0-9a-fA-F]\x7b4\x7d)"
  expr :=
    .concat [.literal ['\\'],
      .alternation [.set shortEscapeChars,
        .concat [.literal ['u'], .repetition 4 (some 4) true (.set hexDigitChars)]]]

/-- A backslash and what follows it in its line. -/
def illegalEscapeRegex : Regex where
  pattern := "\\\\."
  expr := .concat [.literal ['\\'], .set ⟨[(0, 0x9), (0xB, 0x10FFFF)]⟩]

def digitChars : CharSet := ⟨[(0x30, 0x39)]⟩

def firstDigitChars : CharSet := ⟨[(0x31, 0x39)]⟩

def wholeExpr : Expr :=
  .alternation [.literal ['0'],
    .concat [.set firstDigitChars, .repetition 0 none true (.set digitChars)]]

def fractionExpr : Expr := .concat [.literal ['.'], .repetition 1 none true (.set digitChars)]

def exponentChars : CharSet := ⟨[(0x45, 0x45), (0x65, 0x65)]⟩

def signChars : CharSet := ⟨[(0x2B, 0x2B), (0x2D, 0x2D)]⟩

def exponentExpr : Expr :=
  .concat [.set exponentChars, .repetition 0 (some 1) true (.set signChars),
    .repetition 1 none true (.set digitChars)]

def numberRegex : Regex where
  pattern := "-?(?:0|[1-9][0-9]*)(?:\\.[0-9]+)?(?:[eE][+-]?[0-9]+)?"
  expr :=
    .concat [.repetition 0 (some 1) true (.literal ['-']), wholeExpr,
      .repetition 0 (some 1) true fractionExpr, .repetition 0 (some 1) true exponentExpr]

/-- The rules that are active wherever a value may stand. -/
def jsonValueRules : List RuleId := [3, 4, 6, 10, 16, 2, 14]

/-- A region between two delimiters of one character. -/
structure Delimiters where
  id : RuleId
  scopes : JsonText.DelimiterScopes
  opening : Char
  closing : Char
  openingPattern : String
  closingPattern : String
  patterns : List RuleId
  /-- The rules that are active inside. -/
  active : List RuleId

namespace Delimiters

def region (d : Delimiters) : Region where
  opening := ⟨d.openingPattern, .literal [d.opening]⟩
  closing := ⟨d.closingPattern, .literal [d.closing]⟩
  contentName := none
  beginCaptures := .ofList [(0, d.scopes.opening)]
  endCaptures := .ofList [(0, d.scopes.closing)]
  patterns := d.patterns

def rule (d : Delimiters) : Rule := ⟨some d.scopes.name, .region d.region⟩

def array : Delimiters where
  id := 2
  scopes := JsonText.arrayScopes
  opening := '['
  closing := ']'
  openingPattern := "\\["
  closingPattern := "\\]"
  patterns := [0, 1]
  active := jsonValueRules ++ [1]

def object : Delimiters where
  id := 14
  scopes := JsonText.objectScopes
  opening := '\x7b'
  closing := '\x7d'
  openingPattern := "\\\x7b"
  closingPattern := "\\\x7d"
  patterns := [11, 12, 13]
  active := jsonValueRules ++ [12, 13]

def string : Delimiters where
  id := 16
  scopes := JsonText.stringScopes
  opening := '"'
  closing := '"'
  openingPattern := "\""
  closingPattern := "\""
  patterns := [15]
  active := [7, 8]

end Delimiters

def blockCommentRule : Rule :=
  ⟨some "comment.block.json", .region
    ⟨⟨"/\\*", .literal ['/', '*']⟩, ⟨"\\*/", .literal ['*', '/']⟩, none,
      .ofList [(0, "punctuation.definition.comment.json")],
      .ofList [(0, "punctuation.definition.comment.json")], []⟩⟩

def lineCommentRule : Rule :=
  ⟨some "comment.line.double-slash.json", .matching lineCommentRegex
    (.ofList [(1, "punctuation.definition.comment.json")])⟩

def referenceTo (name : String) : Rule := ⟨none, .reference (.entry name)⟩

def jsonRules : List Rule :=
  [referenceTo "value", matchingRule "punctuation.separator.array.json" commaRegex,
    Delimiters.array.rule, blockCommentRule, lineCommentRule, ⟨none, .container [3, 4]⟩,
    matchingRule "constant.language.json" constantRegex,
    matchingRule "constant.character.escape.json" escapeRegex,
    matchingRule "invalid.illegal.unrecognized-string-escape.json" illegalEscapeRegex,
    ⟨none, .container [7, 8]⟩, matchingRule "constant.numeric.json" numberRegex,
    referenceTo "value",
    matchingRule "punctuation.separator.dictionary.key-value.json" colonRegex,
    matchingRule "punctuation.separator.dictionary.pair.json" commaRegex, Delimiters.object.rule,
    referenceTo "escape", Delimiters.string.rule, referenceTo "comments", referenceTo "constant",
    referenceTo "number", referenceTo "string", referenceTo "array", referenceTo "object",
    ⟨none, .container [17, 18, 19, 20, 21, 22]⟩, referenceTo "value"]

theorem addTo_matchRule {rules : List Rule} {path : RulePath} {pattern name : String}
    {regex : Regex} (hpattern : compile pattern = .ok regex)
    : (matchRule pattern name).addTo rules path
      = .ok (rules ++ [matchingRule name regex], rules.length) :=
  addTo_matching rfl rfl hpattern rfl

theorem addTo_jsonArray (path : RulePath)
    : jsonArray.addTo [] path = .ok (jsonRules.take 3, 2) := rfl

theorem addTo_jsonComments (path : RulePath)
    : jsonComments.addTo (jsonRules.take 3) path = .ok (jsonRules.take 6, 5) := rfl

theorem addTo_jsonConstant (path : RulePath)
    : (matchRule "\\b(?:true|false|null)\\b" "constant.language.json").addTo (jsonRules.take 6) path
      = .ok (jsonRules.take 7, 6) := addTo_matchRule rfl

theorem addTo_jsonEscape (path : RulePath)
    : jsonEscape.addTo (jsonRules.take 7) path = .ok (jsonRules.take 10, 9) := by
  have hescape (path : RulePath)
      : (matchRule "\\\\(?:[\"\\\\/bfnrt]|u[0-9a-fA-F]\x7b4\x7d)"
          "constant.character.escape.json").addTo (jsonRules.take 7) path
        = .ok (jsonRules.take 8, 7) := addTo_matchRule rfl
  have hillegal (path : RulePath)
      : (matchRule "\\\\." "invalid.illegal.unrecognized-string-escape.json").addTo
          (jsonRules.take 8) path
        = .ok (jsonRules.take 9, 8) := addTo_matchRule rfl
  have hchildren : RuleSource.addAllTo (jsonRules.take 7) path.child 0 _
      = .ok (jsonRules.take 9, [7, 8]) :=
    addAllTo_cons (hescape _) (addAllTo_cons (hillegal _) (addAllTo_nil _ _ _))
  exact addTo_nested rfl rfl hchildren rfl

theorem addTo_jsonNumber (path : RulePath)
    : jsonNumber.addTo (jsonRules.take 10) path = .ok (jsonRules.take 11, 10) := addTo_matchRule rfl

theorem addTo_jsonObject (path : RulePath)
    : jsonObject.addTo (jsonRules.take 11) path = .ok (jsonRules.take 15, 14) := by
  have hvalue (path : RulePath)
      : (includeRule "#value").addTo (jsonRules.take 11) path = .ok (jsonRules.take 12, 11) :=
    addTo_includeRule rfl
  have hcolon (path : RulePath)
      : (matchRule ":" "punctuation.separator.dictionary.key-value.json").addTo (jsonRules.take 12)
          path
        = .ok (jsonRules.take 13, 12) := addTo_matchRule rfl
  have hcomma (path : RulePath)
      : (matchRule "," "punctuation.separator.dictionary.pair.json").addTo (jsonRules.take 13) path
        = .ok (jsonRules.take 14, 13) := addTo_matchRule rfl
  have hchildren : RuleSource.addAllTo (jsonRules.take 11) path.child 0 _
      = .ok (jsonRules.take 14, [11, 12, 13]) :=
    addAllTo_cons (hvalue _) (addAllTo_cons (hcolon _) (addAllTo_cons (hcomma _)
      (addAllTo_nil _ _ _)))
  exact addTo_nested rfl rfl hchildren rfl

theorem addTo_jsonString (path : RulePath)
    : jsonString.addTo (jsonRules.take 15) path = .ok (jsonRules.take 17, 16) := by
  have hescape (path : RulePath)
      : (includeRule "#escape").addTo (jsonRules.take 15) path = .ok (jsonRules.take 16, 15) :=
    addTo_includeRule rfl
  have hchildren : RuleSource.addAllTo (jsonRules.take 15) path.child 0 _
      = .ok (jsonRules.take 16, [15]) := addAllTo_cons (hescape _) (addAllTo_nil _ _ _)
  exact addTo_nested rfl rfl hchildren rfl

def jsonIncludes : List Include :=
  [.entry "comments", .entry "constant", .entry "number", .entry "string", .entry "array",
    .entry "object"]

theorem addTo_jsonValue (path : RulePath)
    : jsonValue.addTo (jsonRules.take 17) path = .ok (jsonRules.take 24, 23) := by
  have hincludes (path : RulePath)
      : RuleSource.addAllTo (jsonRules.take 17) path.child 0
          (["#comments", "#constant", "#number", "#string", "#array", "#object"].map includeRule)
        = .ok (jsonRules.take 17 ++ jsonIncludes.map (⟨none, .reference ·⟩), List.range' 17 6) := by
    apply addAllTo_includeRule
    repeat' constructor
  exact addTo_nested rfl rfl (hincludes _) rfl

def jsonArena : Arena where
  rules := jsonRules
  patterns := [24]
  repository := .ofList
    [("array", 2), ("comments", 5), ("constant", 6), ("escape", 9), ("number", 10),
      ("object", 14), ("string", 16), ("value", 23)]

def jsonResolution : Resolution where
  root := ⟨jsonValueRules⟩
  regions :=
    [(3, ⟨[]⟩), (16, ⟨Delimiters.string.active⟩), (2, ⟨Delimiters.array.active⟩),
      (14, ⟨Delimiters.object.active⟩)]
  scanOrder := jsonValueRules ++ [7, 8, 1, 12, 13]

theorem arena_json : json.arena = .ok jsonArena := by
  have hentries : json.repository.entries = [
      ("array", jsonArray),
      ("comments", jsonComments),
      ("constant", matchRule "\\b(?:true|false|null)\\b" "constant.language.json"),
      ("escape", jsonEscape),
      ("number", jsonNumber),
      ("object", jsonObject),
      ("string", jsonString),
      ("value", jsonValue)] := rfl
  have hpatterns : RuleSource.addAllTo (jsonRules.take 24) .root 0 json.patterns
      = .ok (jsonRules, [24]) :=
    addAllTo_cons (addTo_includeRule rfl) (addAllTo_nil _ _ _)
  unfold GrammarSource.arena
  rw [hentries, addEntries_cons (addTo_jsonArray _), addEntries_cons (addTo_jsonComments _),
    addEntries_cons (addTo_jsonConstant _), addEntries_cons (addTo_jsonEscape _),
    addEntries_cons (addTo_jsonNumber _), addEntries_cons (addTo_jsonObject _),
    addEntries_cons (addTo_jsonString _), addEntries_cons (addTo_jsonValue _),
    GrammarSource.addEntries]
  dsimp only [bind, Except.bind]
  rw [hpatterns]
  rfl

theorem resolve_jsonArena : jsonArena.resolve = .ok jsonResolution := rfl

def jsonGrammar : Grammar where
  scopeName := "source.json"
  displayName := some "JSON"
  fileTypes := ["json", "jsonc", "code-workspace", ".babelrc", ".eslintrc"]
  firstLineMatch := none
  foldingStartMarker := some "[\x7b\\[]\\s*$"
  foldingStopMarker := some "^\\s*[\x7d\\]]"
  arena := jsonArena
  resolution := jsonResolution

theorem build_json : json.build = .ok jsonGrammar := by
  have hscope : ¬ (trimBlanks json.scopeName.toList).isEmpty := by decide
  have hfirst : json.firstLineMatch = none := rfl
  unfold GrammarSource.build
  rw [if_neg hscope, hfirst, arena_json]
  dsimp only [bind, Except.bind]
  rw [resolve_jsonArena]
  rfl

end TextScopes.Builtin
