import TextScopes.Builtin.Ini
import TextScopes.Proofs.Builtin.JsonRules
import TextScopes.Proofs.Regex.Parser
import TextScopes.Proofs.Text.Word
import TextScopes.Proofs.Tokenizer.Lines

/-!
This module contains the grammar of configuration files, as the stored text gives it and as it is
built, and that it is a grammar of lines: no line of a text has an influence on the spans of the
next one.
-/

namespace TextScopes

namespace Builtin

open Regex
open GrammarSource (addEntries_cons)
open RuleSource (addTo_matching addAllTo_includeRule)

def iniDocument : Document :=
  .object <| .ofList [
    ("name", .string "INI"),
    ("scopeName", .string "source.ini"),
    ("fileTypes", .array <| .ofList [.string "ini", .string "cfg", .string "conf",
      .string "properties", .string ".gitconfig", .string ".editorconfig"]),
    ("firstLineMatch", .string "^\\[[\\w. -]+\\][ \\t]*$"),
    ("patterns", .array <| .ofList [includeDocument "#comment", includeDocument "#section",
      includeDocument "#entry", includeDocument "#string", includeDocument "#boolean",
      includeDocument "#number"]),
    ("repository", .object <| .ofList [
      ("comment", .object <| .ofList [
        ("match", .string "^[ \\t]*([;#]).*$"),
        ("name", .string "comment.line.ini"),
        ("captures", captureDocument [("1", "punctuation.definition.comment.ini")])]),
      ("section", .object <| .ofList [
        ("match", .string "^[ \\t]*(\\[)([^\\]\\n]*)(\\])"),
        ("name", .string "meta.section.ini"),
        ("captures", captureDocument [
          ("1", "punctuation.definition.section.begin.ini"),
          ("2", "entity.name.section.ini"),
          ("3", "punctuation.definition.section.end.ini")])]),
      ("entry", .object <| .ofList [
        ("match", .string "^[ \\t]*([\\w.-]+)[ \\t]*(=|:)"),
        ("captures", captureDocument [
          ("1", "variable.other.key.ini"),
          ("2", "keyword.operator.assignment.ini")])]),
      ("string", .object <| .ofList [
        ("begin", .string "\""),
        ("end", .string "\"|$"),
        ("name", .string "string.quoted.double.ini"),
        ("patterns", .array <| .ofList [matchDocument "\\\\." "constant.character.escape.ini"])]),
      ("boolean",
        matchDocument "\\b(?:true|false|yes|no|on|off)\\b" "constant.language.boolean.ini"),
      ("number", matchDocument "\\b-?[0-9]+(?:\\.[0-9]+)?\\b" "constant.numeric.ini")])]

set_option maxRecDepth 12000 in
theorem isTextOf_iniText : Json.IsTextOf iniText iniDocument := by
  constructor
  . rw [iniText, String.toList_ofList]
    with_unfolding_all rfl
  . simp [iniDocument, includeDocument, matchDocument, captureDocument, Document.IsProper,
      Items.isProper_ofList, Members.isProper_ofList]

/-- The stored text stands for the rules of `ini`. -/
theorem ofJson_iniText : GrammarSource.ofJson iniText = .ok ini :=
  (GrammarSource.ofJson_eq_ok_iff isTextOf_iniText).mpr rfl

theorem loadIni_eq_build : loadIni = ini.build := Grammar.ofJson_eq_build ofJson_iniText

def iniNameChars : CharSet := ⟨(0x2D, 0x2E) :: wordChars.ranges⟩

def iniBlanks : Expr := .repetition 0 none true (.set ⟨[(0x9, 0x9), (0x20, 0x20)]⟩)

/-- The pattern of the name of an entry and of the sign behind it, given the characters of names. -/
def iniEntryExpr (chars : CharSet) : Expr :=
  .concat [.look .lineStart, iniBlanks, .group 1 (.repetition 1 none true (.set chars)), iniBlanks,
    .group 2 (.set ⟨[(0x3A, 0x3A), (0x3D, 0x3D)]⟩)]

/-- The pattern of a section in the first line, given the characters of its name. -/
def iniFirstLineExpr (chars : CharSet) : Expr :=
  .concat [.look .lineStart, .literal ['['], .repetition 1 none true (.set chars), .literal [']'],
    iniBlanks, .look .lineEnd]

theorem union_iniNameChars
    : ∅ ∪ wordChars ∪ CharSet.singleton '.' ∪ CharSet.singleton '-' = iniNameChars := by
  rcases exists_wordChars_eq with ⟨ranges, hranges⟩
  rw [CharSet.empty_union ascendFrom_wordChars, iniNameChars, hranges]
  rfl

theorem setSize_iniNameChars_le : Expr.setSize iniNameChars ≤ 50000 + 2 * Expr.stateSize := by
  have hle : Expr.setSize iniNameChars ≤ _ :=
    Expr.setSize_cons_le (by decide) (by decide) isAscii_wordChars
  exact Nat.le_trans hle (Nat.add_le_add_right setSize_wordChars_le _)

theorem ofSet_iniNameChars : Expr.ofSet iniNameChars = .set iniNameChars := by
  rcases exists_wordChars_eq with ⟨ranges, hranges⟩
  rw [iniNameChars, hranges]
  rfl

theorem run_iniEntry
    : Reader.initial.run 27 "^[ \\t]*([\\w.-]+)[ \\t]*(=|:)".toList
      = .ok ⟨iniEntryExpr iniNameChars, 5, true⟩ := by
  -- the state in front of the class, and what is left behind it
  let r : Reader :=
    ⟨.initial, .start .initial (some 1),
      [⟨.initial, none, [], [⟨iniBlanks, 3, true⟩, ⟨.look .lineStart, 0, true⟩]⟩], 1, []⟩
  let left : List Char := '+' :: ')' :: "[ \\t]*(=|:)".toList
  have hstart (rest : List Char)
      : Reader.run 27 .initial
          ('^' :: '[' :: ' ' :: '\\' :: 't' :: ']' :: '*' :: '(' :: '[' :: rest)
        = Reader.run 23 r ('[' :: rest) := rfl
  have hclass (left : List Char)
      : charClass .initial ('\\' :: 'w' :: '.' :: '-' :: ']' :: left)
        = .ok (∅ ∪ wordChars ∪ CharSet.singleton '.' ∪ CharSet.singleton '-', 2, left) := rfl
  have hend (chars : CharSet)
      : Reader.run 22 (r.add (.set chars) 2) left = .ok ⟨iniEntryExpr chars, 5, true⟩ := rfl
  have hchars : "^[ \\t]*([\\w.-]+)[ \\t]*(=|:)".toList
      = '^' :: '[' :: ' ' :: '\\' :: 't' :: ']' :: '*' :: '(' :: '[' :: '\\' :: 'w' :: '.' :: '-'
          :: ']' :: left := rfl
  rw [hchars, hstart, Reader.run_class rfl (hclass left), union_iniNameChars, ofSet_iniNameChars]
  exact hend iniNameChars

theorem size_iniEntryExpr_le {chars : CharSet}
    (hsize : Expr.setSize chars ≤ 50000 + 2 * Expr.stateSize)
    : (iniEntryExpr chars).size ≤ Expr.sizeLimit := by
  have hexpr : (iniEntryExpr chars).size
      = 32 + (160 + ((1 * Expr.setSize chars + 80) + 64 + (160 + (80 + 64 + 0)))) := rfl
  have hstate : Expr.stateSize = 32 := rfl
  have hlimit : Expr.sizeLimit = 10485760 := by decide
  omega

theorem compile_iniEntry
    : compile "^[ \\t]*([\\w.-]+)[ \\t]*(=|:)"
      = .ok ⟨"^[ \\t]*([\\w.-]+)[ \\t]*(=|:)", iniEntryExpr iniNameChars⟩ := by
  have hparse : parse "^[ \\t]*([\\w.-]+)[ \\t]*(=|:)".toList = .ok (iniEntryExpr iniNameChars) :=
    parse_eq (by rfl) run_iniEntry (by decide) (size_iniEntryExpr_le setSize_iniNameChars_le)
  unfold compile
  rw [hparse]
  rfl

def iniSectionChars : CharSet := ⟨(0x20, 0x20) :: (0x2D, 0x2E) :: wordChars.ranges⟩

theorem union_iniSectionChars
    : ∅ ∪ wordChars ∪ CharSet.singleton '.' ∪ CharSet.singleton ' ' ∪ CharSet.singleton '-'
      = iniSectionChars := by
  rcases exists_wordChars_eq with ⟨ranges, hranges⟩
  rw [CharSet.empty_union ascendFrom_wordChars, iniSectionChars, hranges]
  rfl

theorem setSize_iniSectionChars_le
    : Expr.setSize iniSectionChars ≤ 50000 + 2 * Expr.stateSize + 2 * Expr.stateSize := by
  have hascii : CharSet.isAscii ⟨(0x2D, 0x2E) :: wordChars.ranges⟩ = false := by
    unfold CharSet.isAscii
    rw [List.all_cons, ← CharSet.isAscii.eq_1, isAscii_wordChars, Bool.and_false]
  have hle : Expr.setSize iniSectionChars ≤ _ :=
    Expr.setSize_cons_le (by decide) (by decide) hascii
  have hname : Expr.setSize ⟨(0x2D, 0x2E) :: wordChars.ranges⟩ ≤ _ := setSize_iniNameChars_le
  exact Nat.le_trans hle (Nat.add_le_add_right hname _)

theorem ofSet_iniSectionChars : Expr.ofSet iniSectionChars = .set iniSectionChars := by
  rcases exists_wordChars_eq with ⟨ranges, hranges⟩
  rw [iniSectionChars, hranges]
  rfl

theorem run_iniFirstLine
    : Reader.initial.run 20 "^\\[[\\w. -]+\\][ \\t]*$".toList
      = .ok ⟨iniFirstLineExpr iniSectionChars, 4, true⟩ := by
  -- the state in front of the class, and what is left behind it
  let r : Reader :=
    ⟨.initial, ⟨.initial, none, [], [⟨.literal ['['], 0, true⟩, ⟨.look .lineStart, 0, true⟩]⟩, [],
      0, []⟩
  let left : List Char := '+' :: "\\][ \\t]*$".toList
  have hstart (rest : List Char)
      : Reader.run 20 .initial ('^' :: '\\' :: '[' :: '[' :: rest)
        = Reader.run 18 r ('[' :: rest) := rfl
  have hclass (left : List Char)
      : charClass .initial ('\\' :: 'w' :: '.' :: ' ' :: '-' :: ']' :: left)
        = .ok (∅ ∪ wordChars ∪ CharSet.singleton '.' ∪ CharSet.singleton ' '
            ∪ CharSet.singleton '-', 2, left) := rfl
  have hend (chars : CharSet)
      : Reader.run 17 (r.add (.set chars) 2) left = .ok ⟨iniFirstLineExpr chars, 4, true⟩ := rfl
  have hchars : "^\\[[\\w. -]+\\][ \\t]*$".toList
      = '^' :: '\\' :: '[' :: '[' :: '\\' :: 'w' :: '.' :: ' ' :: '-' :: ']' :: left := rfl
  rw [hchars, hstart, Reader.run_class rfl (hclass left), union_iniSectionChars,
    ofSet_iniSectionChars]
  exact hend iniSectionChars

theorem size_iniFirstLineExpr_le {chars : CharSet}
    (hsize : Expr.setSize chars ≤ 50000 + 2 * Expr.stateSize + 2 * Expr.stateSize)
    : (iniFirstLineExpr chars).size ≤ Expr.sizeLimit := by
  have hexpr : (iniFirstLineExpr chars).size
      = 32 + (32 + ((1 * Expr.setSize chars + 80) + (32 + (160 + (32 + 0))))) := rfl
  have hstate : Expr.stateSize = 32 := rfl
  have hlimit : Expr.sizeLimit = 10485760 := by decide
  omega

theorem compile_iniFirstLine
    : compile "^\\[[\\w. -]+\\][ \\t]*$"
      = .ok ⟨"^\\[[\\w. -]+\\][ \\t]*$", iniFirstLineExpr iniSectionChars⟩ := by
  have hparse : parse "^\\[[\\w. -]+\\][ \\t]*$".toList = .ok (iniFirstLineExpr iniSectionChars) :=
    parse_eq (by rfl) run_iniFirstLine (by decide)
      (size_iniFirstLineExpr_le setSize_iniSectionChars_le)
  unfold compile
  rw [hparse]
  rfl

def iniBooleanRule : Rule :=
  ⟨some "constant.language.boolean.ini", .matching
    ⟨"\\b(?:true|false|yes|no|on|off)\\b",
      .concat [.look (.wordEdge false),
        .alternation [.literal "true".toList, .literal "false".toList, .literal "yes".toList,
          .literal "no".toList, .literal "on".toList, .literal "off".toList],
        .look (.wordEdge false)]⟩ ∅⟩

def iniCommentRule : Rule :=
  ⟨some "comment.line.ini", .matching
    ⟨"^[ \\t]*([;#]).*$",
      .concat [.look .lineStart, iniBlanks, .group 1 (.set ⟨[(0x23, 0x23), (0x3B, 0x3B)]⟩),
        .repetition 0 none true (.set ⟨[(0, 0x9), (0xB, 0x10FFFF)]⟩), .look .lineEnd]⟩
    (.ofList [(1, "punctuation.definition.comment.ini")])⟩

def iniEntryRule : Rule :=
  ⟨none, .matching ⟨"^[ \\t]*([\\w.-]+)[ \\t]*(=|:)", iniEntryExpr iniNameChars⟩
    (.ofList [(1, "variable.other.key.ini"), (2, "keyword.operator.assignment.ini")])⟩

def iniNumberRule : Rule :=
  ⟨some "constant.numeric.ini", .matching
    ⟨"\\b-?[0-9]+(?:\\.[0-9]+)?\\b",
      .concat [.look (.wordEdge false), .repetition 0 (some 1) true (.literal ['-']),
        .repetition 1 none true (.set ⟨[(0x30, 0x39)]⟩),
        .repetition 0 (some 1) true
          (.concat [.literal ['.'], .repetition 1 none true (.set ⟨[(0x30, 0x39)]⟩)]),
        .look (.wordEdge false)]⟩ ∅⟩

def iniSectionRule : Rule :=
  ⟨some "meta.section.ini", .matching
    ⟨"^[ \\t]*(\\[)([^\\]\\n]*)(\\])",
      .concat [.look .lineStart, iniBlanks, .group 1 (.literal ['[']),
        .group 2 (.repetition 0 none true (.set ⟨[(0, 0x9), (0xB, 0x5C), (0x5E, 0x10FFFF)]⟩)),
        .group 3 (.literal [']'])]⟩
    (.ofList [(1, "punctuation.definition.section.begin.ini"), (2, "entity.name.section.ini"),
      (3, "punctuation.definition.section.end.ini")])⟩

def iniEscapeRule : Rule :=
  ⟨some "constant.character.escape.ini", .matching
    ⟨"\\\\.", .concat [.literal ['\\'], .set ⟨[(0, 0x9), (0xB, 0x10FFFF)]⟩]⟩ ∅⟩

def iniStringRegion : Region :=
  ⟨⟨"\"", .literal ['"']⟩, ⟨"\"|$", .alternation [.literal ['"'], .look .lineEnd]⟩, none, ∅, ∅, [5]⟩

def iniStringRule : Rule := ⟨some "string.quoted.double.ini", .region iniStringRegion⟩

def iniIncludes : List Include :=
  [.entry "comment", .entry "section", .entry "entry", .entry "string", .entry "boolean",
    .entry "number"]

def iniArena : Arena where
  rules :=
    [iniBooleanRule, iniCommentRule, iniEntryRule, iniNumberRule, iniSectionRule, iniEscapeRule,
      iniStringRule] ++ iniIncludes.map (⟨none, .reference ·⟩)
  patterns := [7, 8, 9, 10, 11, 12]
  repository := .ofList
    [("boolean", 0), ("comment", 1), ("entry", 2), ("number", 3), ("section", 4), ("string", 6)]

def iniResolution : Resolution := ⟨⟨[1, 4, 2, 6, 0, 3]⟩, [(6, ⟨[5]⟩)], [1, 4, 2, 6, 0, 3, 5]⟩

theorem addTo_iniEntry (rules : List Rule) (path : RulePath)
    : iniEntry.addTo rules path = .ok (rules ++ [iniEntryRule], rules.length) :=
  addTo_matching (by rfl) (by rfl) compile_iniEntry (by rfl)

theorem arena_ini : ini.arena = .ok iniArena := by
  have hentries : ini.repository.entries = [
      ("boolean", matchRule "\\b(?:true|false|yes|no|on|off)\\b" "constant.language.boolean.ini"),
      ("comment", iniComment),
      ("entry", iniEntry),
      ("number", matchRule "\\b-?[0-9]+(?:\\.[0-9]+)?\\b" "constant.numeric.ini"),
      ("section", iniSection),
      ("string", iniString)] := rfl
  have hboolean (rules : List Rule) (path : RulePath)
      : (matchRule "\\b(?:true|false|yes|no|on|off)\\b" "constant.language.boolean.ini").addTo
          rules path
        = .ok (rules ++ [iniBooleanRule], rules.length) := rfl
  have hcomment (rules : List Rule) (path : RulePath)
      : iniComment.addTo rules path = .ok (rules ++ [iniCommentRule], rules.length) := rfl
  have hnumber (rules : List Rule) (path : RulePath)
      : (matchRule "\\b-?[0-9]+(?:\\.[0-9]+)?\\b" "constant.numeric.ini").addTo rules path
        = .ok (rules ++ [iniNumberRule], rules.length) := rfl
  have hsection (rules : List Rule) (path : RulePath)
      : iniSection.addTo rules path = .ok (rules ++ [iniSectionRule], rules.length) := rfl
  have hstring (a b c d e : Rule) (path : RulePath)
      : iniString.addTo [a, b, c, d, e] path
        = .ok ([a, b, c, d, e, iniEscapeRule, iniStringRule], 6) := rfl
  have hpatterns (rules : List Rule)
      : RuleSource.addAllTo rules .root 0 ini.patterns
        = .ok (rules ++ iniIncludes.map (⟨none, .reference ·⟩), List.range' rules.length 6) := by
    apply addAllTo_includeRule
    repeat' constructor
  unfold GrammarSource.arena
  rw [hentries, addEntries_cons (hboolean _ _), addEntries_cons (hcomment _ _),
    addEntries_cons (addTo_iniEntry _ _), addEntries_cons (hnumber _ _),
    addEntries_cons (hsection _ _)]
  dsimp only [List.nil_append, List.cons_append]
  rw [addEntries_cons (hstring _ _ _ _ _ _), GrammarSource.addEntries]
  dsimp only [bind, Except.bind]
  rw [hpatterns]
  rfl

theorem resolve_iniArena : iniArena.resolve = .ok iniResolution := rfl

theorem exists_build_ini
    : ∃ grammar, ini.build = .ok grammar ∧ grammar.arena = iniArena
        ∧ grammar.resolution = iniResolution := by
  have hscope : ∃ c ∈ ini.scopeName.toList, ¬ isBlank c := ⟨'s', by decide, by decide⟩
  have hfirst : ∀ pattern, ini.firstLineMatch = some pattern → Regex.Compiles pattern := by
    rintro pattern ⟨⟩
    exact ⟨_, compile_iniFirstLine⟩
  rcases GrammarSource.exists_build_iff_exists_arena.mpr
    ⟨hscope, hfirst, _, arena_ini, _, resolve_iniArena⟩ with ⟨grammar, hgrammar⟩
  rcases GrammarSource.exists_of_build_eq_ok hgrammar with ⟨harena, hresolution⟩
  have harena : grammar.arena = iniArena := Except.ok.inj (harena.symm.trans arena_ini)
  rw [harena, resolve_iniArena] at hresolution
  exact ⟨grammar, hgrammar, harena, (Except.ok.inj hresolution).symm⟩

theorem cases_of_mem_iniArena {P : Rule → Prop}
    (hrules : P iniBooleanRule ∧ P iniCommentRule ∧ P iniEntryRule ∧ P iniNumberRule
      ∧ P iniSectionRule ∧ P iniEscapeRule ∧ P iniStringRule)
    (hincludes : ∀ target, P ⟨none, .reference target⟩) : ∀ rule ∈ iniArena.rules, P rule := by
  intro rule hrule
  rcases List.mem_append.mp hrule with hrule | hrule
  . simp only [List.mem_cons, List.not_mem_nil, or_false] at hrule
    rcases hrule with rfl | rfl | rfl | rfl | rfl | rfl | rfl
    all_goals simp [hrules]
  . rcases List.mem_map.mp hrule with ⟨target, -, rfl⟩
    exact hincludes target

theorem region_of_mem_iniArena
    : ∀ rule ∈ iniArena.rules, ∀ region, rule.region? = some region → region = iniStringRegion := by
  apply cases_of_mem_iniArena
  . refine ⟨nofun, nofun, nofun, nofun, nofun, nofun, ?_⟩
    intro region hregion
    exact (Option.some.inj hregion).symm
  . intro target region hregion
    contradiction

theorem isOfLines_of_ini {grammar : Grammar} (harena : grammar.arena = iniArena)
    (hresolution : grammar.resolution = iniResolution) : grammar.IsOfLines := by
  have hregion {id : RuleId} {region : Region}
      (h : (grammar.rule? id).bind Rule.region? = some region) : region = iniStringRegion := by
    rcases Option.bind_eq_some_iff.mp h with ⟨rule, hrule, hregion⟩
    rw [Grammar.rule?, harena] at hrule
    exact region_of_mem_iniArena rule (List.mem_of_getElem? hrule) region hregion
  constructor
  case staysInLine =>
    rw [harena]
    exact cases_of_mem_iniArena ⟨rfl, rfl, rfl, rfl, rfl, rfl, rfl, rfl⟩ fun _ => trivial
  case flat =>
    intro id set hset inner hinner
    rw [hresolution] at hset
    have hset : set = ⟨[5]⟩ := by
      simp only [Resolution.region?, iniResolution, List.lookup_cons, List.lookup_nil] at hset
      split at hset
      . exact (Option.some.inj hset).symm
      . contradiction
    subst hset
    rw [List.mem_singleton.mp hinner, Grammar.rule?, harena]
    rfl
  case opens =>
    intro id region h cursor hit hhit
    cases hregion h
    rcases cursor with ⟨prev, rest, offset⟩
    cases rest with
    | nil => contradiction
    | cons c rest =>
      simp only [Regex.matchAt?, iniStringRegion, ends, Thread.readAll?, Thread.read?] at hhit
      split at hhit
      . cases hhit
        exact Nat.lt_add_of_pos_right c.utf8Size_pos
      . contradiction
  case closes =>
    intro id region h cursor hrest
    cases hregion h
    rcases cursor with ⟨prev, rest, offset⟩
    cases hrest
    exact ⟨_, rfl⟩

/-- No line of a configuration file has an influence on the next one. -/
theorem tokenize_ini_append
    : ∃ grammar, ini.build = .ok grammar ∧ ∀ a b : Text,
        grammar.tokenize (a ++ '\n' :: b)
          = grammar.tokenize a ++ (grammar.tokenize b).map (Span.shift (a.size + 1)) := by
  rcases exists_build_ini with ⟨grammar, hgrammar, harena, hresolution⟩
  refine ⟨grammar, hgrammar, fun a b => ?_⟩
  exact Grammar.tokenize_append_line (GrammarSource.isSound_of_build hgrammar)
    (isOfLines_of_ini harena hresolution) a b

end Builtin

end TextScopes
