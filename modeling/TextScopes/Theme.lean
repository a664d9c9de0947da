import TextScopes.Config
import TextScopes.Run

/-!
This module contains themes, which map selectors of scopes to styles. A selector selects the scope
equal to it and every scope that goes on behind it with a dot. The innermost scope with a selector
decides, and of its selectors the longest.
-/

namespace TextScopes

structure ThemeRule where
  selector : String
  style : Style
  deriving DecidableEq, Repr

def selects (selector scope : String) : Bool :=
  selector.toList.isPrefixOf scope.toList &&
    match scope.toList.drop selector.toList.length with
    | [] => true
    | c :: _ => c == '.'

structure Theme where
  /-- The selectors in the order in which they were first set. -/
  rules : List ThemeRule
  deriving DecidableEq, Repr

namespace Theme

def empty : Theme := ⟨[]⟩

instance : EmptyCollection Theme := ⟨empty⟩

/-- Replace the style of a selector, or add it behind all others. -/
def setRule (selector : String) (style : Style) : List ThemeRule → List ThemeRule
  | [] => [⟨selector, style⟩]
  | rule :: rest =>
    if rule.selector = selector then ⟨selector, style⟩ :: rest
    else rule :: setRule selector style rest

def set (theme : Theme) (selector : String) (style : Style) : Theme :=
  ⟨setRule selector style theme.rules⟩

def setAll (theme : Theme) (styles : List (String × Style)) : Theme :=
  styles.foldl (fun theme (selector, style) => theme.set selector style) theme

def standardStyles : List (String × Style) :=
  [("comment", (Style.ofFg .brightBlack).withItalic),
    ("string", .ofFg .green),
    ("constant", .ofFg .brightRed),
    ("constant.numeric", .ofFg .cyan),
    ("constant.character", .ofFg .green),
    ("constant.character.escape", .ofFg .brightYellow),
    ("keyword", (Style.ofFg .magenta).withBold),
    ("keyword.operator", .ofFg .brightWhite),
    ("storage.type", .ofFg .yellow),
    ("support.type", .ofFg .yellow),
    ("entity.name.type", .ofFg .yellow),
    ("entity.name.function", .ofFg .blue),
    ("entity.name.section", (Style.ofFg .yellow).withBold),
    ("entity.name.label", (Style.ofFg .yellow).withUnderline),
    ("entity.name.namespace", .ofFg .brightBlue),
    ("entity.other.attribute-name", .ofFg .brightBlue),
    ("meta.preprocessor", .ofFg .brightMagenta),
    ("support.function.macro", .ofFg .brightCyan),
    ("variable.other.key", .ofFg .blue),
    ("invalid", (Style.ofFg .red).withUnderline),
    ("punctuation", {})]

/-- The theme in use unless another one is chosen. -/
def standard : Theme := empty.setAll standardStyles

def ofConfig (config : Config) : Theme := standard.setAll config.theme.entries

/-- The longer of the best selector so far and another one. -/
def longer (best : Option ThemeRule) (rule : ThemeRule) : Option ThemeRule :=
  match best with
  | some b => if rule.selector.utf8ByteSize < b.selector.utf8ByteSize then some b else some rule
  | none => some rule

/-- The longest selector that selects a scope, with its style. -/
def ruleFor? (theme : Theme) (scope : String) : Option ThemeRule :=
  (theme.rules.filter fun rule => selects rule.selector scope).foldl longer none

def styleFor (theme : Theme) (scopes : ScopeStack) : Style :=
  ((scopes.findSome? theme.ruleFor?).map (·.style)).getD {}

def styleRuns (theme : Theme) (runs : List Run) : List (Style × Text) :=
  runs.map fun run => (theme.styleFor run.scopes, run.value)

end Theme

end TextScopes
