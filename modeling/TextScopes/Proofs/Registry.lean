import Mathlib.Data.List.Induction
import TextScopes.Proofs.Builtin.Ini
import TextScopes.Proofs.Builtin.JsonRules
import TextScopes.Proofs.SortedMap
import TextScopes.Proofs.Text.FirstLine
import TextScopes.Proofs.Text.Utf8
import TextScopes.Registry

/-!
This module contains the theory of registries: what can be seen of a registry is given by the
grammars and the configurations in the order in which they were added.
-/

namespace TextScopes

namespace Registry

inductive Change where
  | add (grammar : Grammar)
  | configure (config : Config)

def apply (registry : Registry) : Change → Registry
  | .add grammar => registry.add grammar
  | .configure config => registry.applyConfig config

/-- Whether a registry comes about by the given changes in their order, the grammars that come with
the library included. -/
inductive IsReachedBy : Registry → List Change → Prop
  | empty : IsReachedBy empty []
  | builtin {json ini : Grammar} {registry : Registry} (hjson : Builtin.json.build = .ok json)
    (hini : Builtin.ini.build = .ok ini) (h : Registry.builtin = .ok registry)
    : IsReachedBy registry [.add json, .add ini]
  | change {registry : Registry} {history : List Change} (h : IsReachedBy registry history)
    (change : Change) : IsReachedBy (registry.apply change) (history ++ [change])

def Change.grammar? (scope : String) : Change → Option Grammar
  | .add grammar => if grammar.scopeName = scope then some grammar else none
  | .configure _ => none

def Change.merge? : Change → Option Bool
  | .add _ => none
  | .configure config => some config.mergeAdjacentRuns

def lastAdded? (history : List Change) (scope : String) : Option Grammar :=
  history.reverse.findSome? (Change.grammar? scope)

/-- Whether neighbouring runs are joined: as the last configuration says, if there is one. -/
def lastMerge (history : List Change) : Bool := (history.reverse.findSome? Change.merge?).getD false

variable {registry : Registry} {history : List Change} {scope : String} {grammar : Grammar}

theorem findSome?_reverse_append {β : Type} (f : Change → Option β) (change : Change)
    : (history ++ [change]).reverse.findSome? f = (f change).or (history.reverse.findSome? f) := by
  rw [List.reverse_append, List.findSome?_append]
  simp

theorem lastAdded?_append (change : Change)
    : lastAdded? (history ++ [change]) scope
      = (change.grammar? scope).or (lastAdded? history scope) :=
  findSome?_reverse_append _ change

theorem lastMerge_append (change : Change)
    : lastMerge (history ++ [change]) = (change.merge?).getD (lastMerge history) := by
  unfold lastMerge
  rw [findSome?_reverse_append]
  cases change.merge? with
  | none => rfl
  | some merge => rfl

theorem Change.grammar?_eq_some_iff {change : Change}
    : change.grammar? scope = some grammar ↔ change = .add grammar ∧ grammar.scopeName = scope := by
  cases change with
  | add other =>
    unfold grammar?
    simp only [Option.ite_none_right_eq_some, Option.some.injEq, Change.add.injEq]
    constructor
    . rintro ⟨hscope, rfl⟩
      exact ⟨rfl, hscope⟩
    . rintro ⟨rfl, hscope⟩
      exact ⟨hscope, rfl⟩
  | configure config => simp [grammar?]

theorem lastAdded?_eq_some (h : lastAdded? history scope = some grammar)
    : .add grammar ∈ history ∧ grammar.scopeName = scope := by
  rcases List.exists_of_findSome?_eq_some h with ⟨change, hmem, hchange⟩
  rcases Change.grammar?_eq_some_iff.mp hchange with ⟨rfl, hscope⟩
  exact ⟨List.mem_reverse.mp hmem, hscope⟩

theorem exists_lastAdded?_iff
    : (∃ grammar, lastAdded? history scope = some grammar)
        ↔ ∃ grammar, .add grammar ∈ history ∧ grammar.scopeName = scope := by
  constructor
  . rintro ⟨grammar, h⟩
    exact ⟨grammar, lastAdded?_eq_some h⟩
  . rintro ⟨grammar, hmem, hscope⟩
    apply Option.isSome_iff_exists.mp
    unfold lastAdded?
    rw [List.findSome?_isSome_iff]
    have hchange : (Change.add grammar).grammar? scope = some grammar :=
      Change.grammar?_eq_some_iff.mpr ⟨rfl, hscope⟩
    exact ⟨.add grammar, List.mem_reverse.mpr hmem, by rw [hchange]; rfl⟩

structure Holds (registry : Registry) (history : List Change) : Prop where
  grammar?_eq : ∀ scope, registry.grammar? scope = lastAdded? history scope
  mergeAdjacent_eq : registry.mergeAdjacent = lastMerge history

theorem Holds.empty : Holds empty [] := ⟨fun _ => rfl, rfl⟩

theorem Holds.apply (h : Holds registry history) (change : Change)
    : Holds (registry.apply change) (history ++ [change]) := by
  cases change with
  | add grammar =>
    refine ⟨?_, ?_⟩
    . intro scope
      have hinsert : (registry.apply (.add grammar)).grammar? scope
          = if scope = grammar.scopeName then some grammar else registry.grammar? scope :=
        SortedMap.get?_insert
      rw [hinsert, lastAdded?_append, ← h.grammar?_eq, Change.grammar?]
      simp only [eq_comm (a := scope)]
      split
      . rfl
      . rfl
    . rw [lastMerge_append]
      exact h.mergeAdjacent_eq
  | configure config =>
    refine ⟨?_, ?_⟩
    . intro scope
      rw [lastAdded?_append]
      exact h.grammar?_eq scope
    . rw [lastMerge_append]
      rfl

theorem builtin_eq {json ini : Grammar} (hjson : Builtin.json.build = .ok json)
    (hini : Builtin.ini.build = .ok ini)
    : Registry.builtin = .ok ((Registry.empty.add json).add ini) := by
  unfold Registry.builtin
  rw [Builtin.loadJson_eq_build, Builtin.loadIni_eq_build, hjson, hini]
  rfl

theorem IsReachedBy.holds (h : IsReachedBy registry history) : Holds registry history := by
  induction h with
  | empty => exact .empty
  | builtin hjson hini hbuiltin =>
    cases hbuiltin.symm.trans (builtin_eq hjson hini)
    exact (Holds.empty.apply (.add _)).apply (.add _)
  | change h change ih => exact ih.apply change

theorem mem_scopes_iff
    : scope ∈ registry.scopes ↔ ∃ grammar, registry.grammar? scope = some grammar :=
  SortedMap.mem_keys_iff

theorem mem_scopes_of_detectPath? {path : List (Option Char)}
    (h : registry.detectPath? path = some scope) : scope ∈ registry.scopes := by
  unfold detectPath? at h
  rcases Option.bind_eq_some_iff.mp h with ⟨name, -, h⟩
  rcases Option.bind_eq_some_iff.mp h with ⟨found, -, h⟩
  split at h
  . next hcontains =>
    cases h
    exact mem_scopes_iff.mpr (Option.isSome_iff_exists.mp hcontains)
  . contradiction

/-- The scope for a first line: the least one whose grammar knows the line. -/
theorem detectFirstLine?_eq_some_iff (h : Holds registry history) {text : Text}
    : registry.detectFirstLine? text = some scope
        ↔ ∃ line grammar, HasFirstLine text line ∧ lastAdded? history scope = some grammar
          ∧ grammar.matchesFirstLine line
          ∧ ∀ other otherGrammar, lastAdded? history other = some otherGrammar →
            otherGrammar.matchesFirstLine line → other = scope ∨ scope < other := by
  have hentry {scope : String} {grammar : Grammar}
      : (scope, grammar) ∈ registry.grammars.entries ↔ lastAdded? history scope = some grammar := by
    rw [← h.grammar?_eq]
    exact SortedMap.mem_iff
  unfold detectFirstLine?
  simp only [Option.bind_eq_bind, Option.bind_eq_some_iff, firstLine?_eq_some_iff,
    SortedMap.find?_eq_some_iff]
  constructor
  . rintro ⟨line, hline, ⟨found, grammar⟩, ⟨hmem, hknows, hleast⟩, ⟨⟩⟩
    refine ⟨line, grammar, hline, hentry.mp hmem, hknows, ?_⟩
    intro other otherGrammar hother hknows
    exact (hleast _ (hentry.mpr hother) hknows).imp_left fun heq => (Prod.mk.inj heq).1
  . rintro ⟨line, grammar, hline, hadded, hknows, hleast⟩
    refine ⟨line, hline, (scope, grammar), ⟨hentry.mpr hadded, hknows, ?_⟩, rfl⟩
    rintro ⟨other, otherGrammar⟩ hmem hknows
    rcases hleast other otherGrammar (hentry.mp hmem) hknows with rfl | hlt
    . left
      rw [hentry, hadded] at hmem
      rw [Option.some.inj hmem]
    . exact Or.inr hlt

theorem detectFirstLine?_append (registry : Registry) {line : Text} (h : '\n' ∉ line)
    (rest rest' : Text)
    : registry.detectFirstLine? (line ++ '\n' :: rest)
      = registry.detectFirstLine? (line ++ '\n' :: rest') := by
  unfold detectFirstLine?
  rw [firstLine?_append h, firstLine?_append h]

theorem highlight_of_grammar? (h : Holds registry history)
    (hgrammar : registry.grammar? scope = some grammar) (text : Text)
    : registry.highlight scope text = .ok (grammar.highlight (lastMerge history) text) := by
  unfold highlight
  rw [hgrammar, h.mergeAdjacent_eq]

theorem highlight_of_not_mem (h : scope ∉ registry.scopes) (text : Text)
    : registry.highlight scope text = .error (.unknownGrammar scope) := by
  rw [mem_scopes_iff, ← Option.isSome_iff_exists, Option.not_isSome_iff_eq_none] at h
  unfold highlight
  rw [h]

/-- Whether all that can be seen of a registry is as its history says. -/
structure Reflects (registry : Registry) (history : List Change) : Prop where
  /-- The grammar of a scope is the one that was added last for it. -/
  grammar?_eq : ∀ scope, registry.grammar? scope = lastAdded? history scope
  scopeName_eq : ∀ scope grammar, registry.grammar? scope = some grammar →
    grammar.scopeName = scope
  /-- The scopes are those of the grammars added so far. -/
  mem_scopes_iff : ∀ scope, scope ∈ registry.scopes
    ↔ ∃ grammar, .add grammar ∈ history ∧ grammar.scopeName = scope
  ascending : registry.scopes.Pairwise fun a b => utf8 a < utf8 b
  /-- What is detected for a file or a text can be used for every text. -/
  detected : ∀ scope,
    ((∃ path, registry.detectPath? path = some scope)
      ∨ ∃ text, registry.detectFirstLine? text = some scope) →
    scope ∈ registry.scopes ∧ ∀ text, ∃ runs, registry.highlight scope text = .ok runs
  /-- Texts are highlighted as the last configuration says. -/
  highlight_of_mem : ∀ scope ∈ registry.scopes, ∃ grammar,
    lastAdded? history scope = some grammar
      ∧ ∀ text, registry.highlight scope text = .ok (grammar.highlight (lastMerge history) text)
  highlight_of_not_mem : ∀ scope, scope ∉ registry.scopes → ∀ text,
    registry.highlight scope text = .error (.unknownGrammar scope)
  /-- The scope for a first line is the least one whose grammar knows the line. -/
  firstLine : ∀ text scope, registry.detectFirstLine? text = some scope
    ↔ ∃ line grammar, HasFirstLine text line ∧ lastAdded? history scope = some grammar
      ∧ grammar.matchesFirstLine line
      ∧ ∀ other otherGrammar, lastAdded? history other = some otherGrammar →
        otherGrammar.matchesFirstLine line → other = scope ∨ utf8 scope < utf8 other
  firstLine_only : ∀ line : Text, '\n' ∉ line → ∀ rest rest',
    registry.detectFirstLine? (line ++ '\n' :: rest)
      = registry.detectFirstLine? (line ++ '\n' :: rest')

theorem Holds.mem_scopes_of_detectFirstLine? (h : Holds registry history) {text : Text}
    (hdetect : registry.detectFirstLine? text = some scope) : scope ∈ registry.scopes := by
  rcases (detectFirstLine?_eq_some_iff h).mp hdetect with ⟨-, grammar, -, hadded, -⟩
  rw [mem_scopes_iff, h.grammar?_eq]
  exact ⟨grammar, hadded⟩

/-- Every registry is as the changes that lead to it say, whatever their order is. -/
theorem reflects_of_isReachedBy (h : IsReachedBy registry history)
    : registry.Reflects history := by
  have hholds := h.holds
  have highlight_of_mem {scope : String} (hmem : scope ∈ registry.scopes) : ∃ grammar,
      lastAdded? history scope = some grammar
        ∧ ∀ text, registry.highlight scope text
          = .ok (grammar.highlight (lastMerge history) text) := by
    rcases mem_scopes_iff.mp hmem with ⟨grammar, hgrammar⟩
    exact ⟨grammar, (hholds.grammar?_eq scope).symm.trans hgrammar,
      highlight_of_grammar? hholds hgrammar⟩
  constructor
  case grammar?_eq => exact hholds.grammar?_eq
  case scopeName_eq =>
    intro scope grammar hgrammar
    rw [hholds.grammar?_eq] at hgrammar
    exact (lastAdded?_eq_some hgrammar).2
  case mem_scopes_iff =>
    intro scope
    rw [mem_scopes_iff, hholds.grammar?_eq, exists_lastAdded?_iff]
  case ascending =>
    exact (List.pairwise_map.mpr registry.grammars.ascending).imp lt_iff_utf8_lt.mp
  case detected =>
    intro scope hdetected
    have hmem : scope ∈ registry.scopes := by
      rcases hdetected with ⟨path, hpath⟩ | ⟨text, htext⟩
      . exact mem_scopes_of_detectPath? hpath
      . exact hholds.mem_scopes_of_detectFirstLine? htext
    rcases highlight_of_mem hmem with ⟨grammar, -, hruns⟩
    exact ⟨hmem, fun text => ⟨_, hruns text⟩⟩
  case highlight_of_mem => exact fun scope hmem => highlight_of_mem hmem
  case highlight_of_not_mem => exact fun scope hmem text => highlight_of_not_mem hmem text
  case firstLine =>
    intro text scope
    simp only [detectFirstLine?_eq_some_iff hholds, lt_iff_utf8_lt]
  case firstLine_only => exact fun line hline => registry.detectFirstLine?_append hline

theorem reflects_of_isReachedBy_builtin
    : ∃ registry history,
        IsReachedBy registry history
          ∧ (∃ json ini, history
            = [.add json, .add ini, .configure { mergeAdjacentRuns := true }, .add json])
          ∧ registry.Reflects history := by
  rcases Builtin.exists_build_ini with ⟨ini, hini, -⟩
  have h := IsReachedBy.builtin Builtin.build_json hini (builtin_eq Builtin.build_json hini)
  have h := (h.change (.configure { mergeAdjacentRuns := true })).change (.add Builtin.jsonGrammar)
  exact ⟨_, _, h, ⟨_, _, rfl⟩, reflects_of_isReachedBy h⟩

end Registry

end TextScopes
