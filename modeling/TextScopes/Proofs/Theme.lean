import Mathlib.Data.List.Induction
import Mathlib.Data.List.Nodup
import TextScopes.Theme

/-!
This module contains the theory of themes. A theme maps selectors to the styles that were set last,
in whatever order that happened, and scopes have the style of the longest selector for the innermost
scope that has one.
-/

namespace TextScopes

/-- Whether a scope is the selector itself or goes on behind it with a dot. -/
def Selects (selector scope : String) : Prop :=
  scope = selector ∨ ∃ rest, scope = selector ++ ("." ++ rest)

theorem selects_iff {selector scope : String}
    : selects selector scope ↔ Selects selector scope := by
  unfold selects Selects
  rw [Bool.and_eq_true, List.isPrefixOf_iff_prefix]
  constructor
  . rintro ⟨⟨rest, hrest⟩, hnext⟩
    rw [← hrest, List.drop_left] at hnext
    cases rest with
    | nil =>
      rw [List.append_nil] at hrest
      exact Or.inl (String.toList_inj.mp hrest.symm)
    | cons c rest =>
      have hc : c = '.' := beq_iff_eq.mp hnext
      refine Or.inr ⟨String.ofList rest, String.toList_inj.mp ?_⟩
      rw [← hrest, hc]
      simp
  . rintro (rfl | ⟨rest, rfl⟩)
    . refine ⟨List.prefix_rfl, ?_⟩
      rw [List.drop_length]
    . rw [String.toList_append]
      refine ⟨List.prefix_append _ _, ?_⟩
      rw [List.drop_left]
      simp

theorem Selects.exists_append {selector scope : String} (h : Selects selector scope)
    : ∃ rest, scope = selector ++ rest := by
  rcases h with rfl | ⟨rest, rfl⟩
  . exact ⟨"", by simp⟩
  . exact ⟨_, rfl⟩

theorem Selects.eq_of_size_eq {a b scope : String} (ha : Selects a scope) (hb : Selects b scope)
    (hsize : a.utf8ByteSize = b.utf8ByteSize) : a = b := by
  have of_starts {a b : String} (h : a.toList <+: b.toList)
      (hsize : a.utf8ByteSize = b.utf8ByteSize) : a = b := by
    rcases h with ⟨rest, hrest⟩
    have heq : b = a ++ String.ofList rest := by
      apply String.toList_inj.mp
      simp [← hrest]
    rw [heq, String.utf8ByteSize_append] at hsize
    have hempty : String.ofList rest = "" := String.utf8ByteSize_eq_zero_iff.mp (by omega)
    rw [heq, hempty, String.append_empty]
  rcases ha.exists_append with ⟨resta, heqa⟩
  rcases hb.exists_append with ⟨restb, heqb⟩
  have hpa : a.toList <+: scope.toList := ⟨resta.toList, by rw [heqa, String.toList_append]⟩
  have hpb : b.toList <+: scope.toList := ⟨restb.toList, by rw [heqb, String.toList_append]⟩
  rcases List.prefix_or_prefix_of_prefix hpa hpb with h | h
  . exact of_starts h hsize
  . exact (of_starts h hsize.symm).symm

/-- The style that scopes have, given the styles of selectors: that of the longest selector for the
innermost scope that has one, and the default one if there is none. -/
inductive IsStyleOf (styles : String → Option Style) : ScopeStack → Style → Prop
  | default : IsStyleOf styles [] {}
  | outer {scope : String} {scopes : ScopeStack} {style : Style}
    (hnone : ∀ selector, Selects selector scope → styles selector = none)
    (h : IsStyleOf styles scopes style) : IsStyleOf styles (scope :: scopes) style
  | longest {scope selector : String} {scopes : ScopeStack} {style : Style}
    (hselects : Selects selector scope) (hstyle : styles selector = some style)
    (hlongest : ∀ other, Selects other scope → (styles other).isSome →
      other.utf8ByteSize ≤ selector.utf8ByteSize)
    : IsStyleOf styles (scope :: scopes) style

theorem IsStyleOf.unique {styles : String → Option Style} {scopes : ScopeStack} {a b : Style}
    (ha : IsStyleOf styles scopes a) (hb : IsStyleOf styles scopes b) : a = b := by
  induction ha with
  | default =>
    cases hb
    rfl
  | outer hnone h ih =>
    cases hb with
    | outer _ hb => exact ih hb
    | longest hselects hstyle =>
      rw [hnone _ hselects] at hstyle
      contradiction
  | longest hselects hstyle hlongest =>
    cases hb with
    | outer hnone =>
      rw [hnone _ hselects] at hstyle
      contradiction
    | longest hselects' hstyle' hlongest' =>
      have hle := hlongest _ hselects' (by rw [hstyle']; rfl)
      have hle' := hlongest' _ hselects (by rw [hstyle]; rfl)
      cases hselects.eq_of_size_eq hselects' (by omega)
      rw [hstyle] at hstyle'
      exact Option.some.inj hstyle'

namespace Theme

def lastSet? (settings : List (String × Style)) (selector : String) : Option Style :=
  settings.reverse.lookup selector

/-- Whether a theme comes about by setting styles in the given order, those of the theme that it
begins with included. -/
inductive IsReachedBy : Theme → List (String × Style) → Prop
  | empty : IsReachedBy empty []
  | standard : IsReachedBy standard standardStyles
  | ofConfig (config : Config)
    : IsReachedBy (ofConfig config) (standardStyles ++ config.theme.entries)
  | set {theme : Theme} {settings : List (String × Style)} (h : IsReachedBy theme settings)
    (selector : String) (style : Style)
    : IsReachedBy (theme.set selector style) (settings ++ [(selector, style)])

variable {theme : Theme} {rules : List ThemeRule} {selector scope : String} {style : Style}
  {settings : List (String × Style)}

theorem setAll_append (theme : Theme) (a b : List (String × Style))
    : theme.setAll (a ++ b) = (theme.setAll a).setAll b := List.foldl_append

theorem IsReachedBy.eq_setAll (h : IsReachedBy theme settings)
    : theme = Theme.empty.setAll settings := by
  induction h with
  | empty => rfl
  | standard => rfl
  | ofConfig config =>
    rw [setAll_append]
    rfl
  | set h selector style ih =>
    rw [setAll_append, ← ih]
    rfl

/-- What a theme must be like for the settings so far: each selector stands once, with the style set
last. -/
structure Holds (settings : List (String × Style)) (rules : List ThemeRule) : Prop where
  nodup : (rules.map (·.selector)).Nodup
  mem_iff : ∀ selector style, ⟨selector, style⟩ ∈ rules ↔ lastSet? settings selector = some style

theorem lastSet?_append (key : String)
    : lastSet? (settings ++ [(selector, style)]) key
      = if key = selector then some style else lastSet? settings key := by
  unfold lastSet?
  rw [List.reverse_append, List.reverse_singleton, List.singleton_append, List.lookup_cons]
  by_cases h : key = selector
  . simp [h]
  . simp [h, beq_eq_false_iff_ne.mpr h]

theorem map_selector_setRule
    : (setRule selector style rules).map (·.selector)
      = if selector ∈ rules.map (·.selector) then rules.map (·.selector)
        else rules.map (·.selector) ++ [selector] := by
  induction rules with
  | nil => rfl
  | cons rule rest ih =>
    unfold setRule
    by_cases h : rule.selector = selector
    . simp [h]
    . rw [if_neg h, List.map_cons, ih, List.map_cons]
      split
      . rw [if_pos (List.mem_cons_of_mem _ ‹_›)]
      . next hmem =>
        rw [if_neg (List.not_mem_cons_of_ne_of_not_mem (Ne.symm h) hmem), List.cons_append]

theorem mem_setRule_iff (hnodup : (rules.map (·.selector)).Nodup) {rule : ThemeRule}
    : rule ∈ setRule selector style rules
      ↔ rule = ⟨selector, style⟩ ∨ (rule ∈ rules ∧ rule.selector ≠ selector) := by
  induction rules with
  | nil => simp [setRule]
  | cons first rest ih =>
    rw [List.map_cons, List.nodup_cons] at hnodup
    unfold setRule
    split
    . next heq =>
      rw [heq] at hnodup
      have hrest : rule ∈ rest → rule.selector ≠ selector := fun hrule hsame =>
        hnodup.1 (hsame ▸ List.mem_map_of_mem hrule)
      rw [List.mem_cons, List.mem_cons]
      constructor
      . rintro (h | h)
        . exact Or.inl h
        . exact Or.inr ⟨Or.inr h, hrest h⟩
      . rintro (h | ⟨rfl | h, hne⟩)
        . exact Or.inl h
        . exact absurd heq hne
        . exact Or.inr h
    . next hne =>
      rw [List.mem_cons, ih hnodup.2, List.mem_cons]
      constructor
      . rintro (rfl | h | h)
        . exact Or.inr ⟨Or.inl rfl, hne⟩
        . exact Or.inl h
        . exact Or.inr ⟨Or.inr h.1, h.2⟩
      . rintro (h | ⟨rfl | h, hne⟩)
        . exact Or.inr (Or.inl h)
        . exact Or.inl rfl
        . exact Or.inr (Or.inr ⟨h, hne⟩)

theorem Holds.nil : Holds [] [] := ⟨List.nodup_nil, by simp [lastSet?]⟩

theorem Holds.setRule (h : Holds settings rules) (selector : String) (style : Style)
    : Holds (settings ++ [(selector, style)]) (setRule selector style rules) where
  nodup := by
    rw [map_selector_setRule]
    split
    . exact h.nodup
    . next hmem =>
      rw [← List.concat_eq_append]
      exact h.nodup.concat hmem
  mem_iff := by
    intro key other
    rw [mem_setRule_iff h.nodup, lastSet?_append, h.mem_iff, ThemeRule.mk.injEq]
    split
    . next heq => simp [heq, eq_comm]
    . next hne => simp [hne]

theorem holds_setAll (settings : List (String × Style))
    : Holds settings (empty.setAll settings).rules := by
  induction settings using List.reverseRecOn with
  | nil => exact .nil
  | append_singleton settings last ih =>
    rw [setAll_append]
    exact ih.setRule last.1 last.2

theorem exists_longer (best : Option ThemeRule) (next : ThemeRule)
    : ∃ rule, longer best next = some rule ∧ (best = some rule ∨ rule = next)
        ∧ ∀ other, best = some other ∨ other = next →
          other.selector.utf8ByteSize ≤ rule.selector.utf8ByteSize := by
  cases best with
  | none => exact ⟨next, rfl, Or.inr rfl, by simp⟩
  | some rule =>
    unfold longer
    dsimp only
    split
    . next hlt =>
      refine ⟨rule, rfl, Or.inl rfl, ?_⟩
      rintro other (⟨⟨⟩⟩ | rfl)
      . exact Nat.le_refl _
      . exact Nat.le_of_lt hlt
    . next hle =>
      refine ⟨next, rfl, Or.inr rfl, ?_⟩
      rintro other (⟨⟨⟩⟩ | rfl)
      . exact Nat.not_lt.mp hle
      . exact Nat.le_refl _

theorem foldl_longer (rules : List ThemeRule) (best : Option ThemeRule)
    : (rules.foldl longer best = none ∧ rules = [])
      ∨ ∃ rule, rules.foldl longer best = some rule ∧ (best = some rule ∨ rule ∈ rules)
        ∧ ∀ other, best = some other ∨ other ∈ rules →
          other.selector.utf8ByteSize ≤ rule.selector.utf8ByteSize := by
  induction rules generalizing best with
  | nil =>
    cases best with
    | none => exact Or.inl ⟨rfl, rfl⟩
    | some rule => exact Or.inr ⟨rule, rfl, Or.inl rfl, by simp⟩
  | cons next rest ih =>
    right
    rcases exists_longer best next with ⟨rule, hrule, hfrom, hmax⟩
    rw [List.foldl_cons, hrule]
    rcases ih (some rule) with ⟨hnone, rfl⟩ | ⟨found, hfound, hmem, hfoundMax⟩
    . contradiction
    have hle := hfoundMax rule (Or.inl rfl)
    refine ⟨found, hfound, ?_, ?_⟩
    . rcases hmem with heq | hmem
      . cases heq
        rcases hfrom with h | rfl
        . exact Or.inl h
        . exact Or.inr List.mem_cons_self
      . exact Or.inr (List.mem_cons_of_mem _ hmem)
    . intro other hother
      rw [List.mem_cons, ← or_assoc] at hother
      rcases hother with hother | hother
      . exact Nat.le_trans (hmax other hother) hle
      . exact hfoundMax other (Or.inr hother)

theorem ruleFor?_cases (theme : Theme) (scope : String)
    : (theme.ruleFor? scope = none ∧ ∀ rule ∈ theme.rules, ¬ Selects rule.selector scope)
      ∨ ∃ rule ∈ theme.rules, theme.ruleFor? scope = some rule ∧ Selects rule.selector scope
        ∧ ∀ other ∈ theme.rules, Selects other.selector scope →
          other.selector.utf8ByteSize ≤ rule.selector.utf8ByteSize := by
  have hmem {rule : ThemeRule}
      : rule ∈ theme.rules.filter (fun rule => selects rule.selector scope)
        ↔ rule ∈ theme.rules ∧ Selects rule.selector scope := by
    rw [List.mem_filter, selects_iff]
  unfold ruleFor?
  rcases foldl_longer (theme.rules.filter fun rule => selects rule.selector scope) none with
    ⟨hnone, hfilter⟩ | ⟨rule, hrule, hfrom, hmax⟩
  . refine Or.inl ⟨hnone, ?_⟩
    intro rule hrule hselects
    have := hmem.mpr ⟨hrule, hselects⟩
    rw [hfilter] at this
    contradiction
  . rcases hfrom with hfrom | hfrom
    . contradiction
    . rcases hmem.mp hfrom with ⟨hfrom, hselects⟩
      refine Or.inr ⟨rule, hfrom, hrule, hselects, ?_⟩
      intro other hother hselects
      exact hmax other (Or.inr (hmem.mpr ⟨hother, hselects⟩))

theorem isStyleOf_styleFor (h : Holds settings theme.rules) (scopes : ScopeStack)
    : IsStyleOf (lastSet? settings) scopes (theme.styleFor scopes) := by
  have exists_rule {key : String} (hkey : (lastSet? settings key).isSome)
      : ∃ style, ⟨key, style⟩ ∈ theme.rules := by
    rcases Option.isSome_iff_exists.mp hkey with ⟨style, hstyle⟩
    exact ⟨style, (h.mem_iff key style).mpr hstyle⟩
  induction scopes with
  | nil => exact .default
  | cons scope scopes ih =>
    rcases theme.ruleFor?_cases scope with ⟨hnone, hall⟩ | ⟨rule, hrule, hfound, hselects, hmax⟩
    . have heq : theme.styleFor (scope :: scopes) = theme.styleFor scopes := by
        unfold styleFor
        rw [List.findSome?_cons, hnone]
      rw [heq]
      refine .outer ?_ ih
      intro selector hselects
      by_contra hsome
      rcases exists_rule (Option.isSome_iff_ne_none.mpr hsome) with ⟨style, hrule⟩
      exact hall _ hrule hselects
    . have heq : theme.styleFor (scope :: scopes) = rule.style := by
        unfold styleFor
        rw [List.findSome?_cons, hfound]
        rfl
      rw [heq]
      refine .longest hselects ((h.mem_iff rule.selector rule.style).mp hrule) ?_
      intro other hother hsome
      rcases exists_rule hsome with ⟨style, hmem⟩
      exact hmax _ hmem hother

/-- A theme is the map of what was set last: no selector stands in it twice, scopes have the style
of the longest selector for the innermost scope that has one, and the order in which styles are set
does not matter where the last styles are the same. -/
theorem styleFor_of_isReachedBy (h : IsReachedBy theme settings)
    : (theme.rules.map (·.selector)).Nodup
      ∧ (∀ scopes, IsStyleOf (lastSet? settings) scopes (theme.styleFor scopes))
      ∧ ∀ theme' settings', IsReachedBy theme' settings' →
        (∀ selector, lastSet? settings selector = lastSet? settings' selector) →
        ∀ scopes, theme.styleFor scopes = theme'.styleFor scopes := by
  have hholds {theme : Theme} {settings : List (String × Style)} (h : IsReachedBy theme settings)
      : Holds settings theme.rules := by
    rw [h.eq_setAll]
    exact holds_setAll settings
  refine ⟨(hholds h).nodup, isStyleOf_styleFor (hholds h), ?_⟩
  intro theme' settings' h' hsame scopes
  have hstyle := isStyleOf_styleFor (hholds h) scopes
  rw [funext hsame] at hstyle
  exact hstyle.unique (isStyleOf_styleFor (hholds h') scopes)

/-- A style that is set twice counts as if it had been set once, in front of another one. -/
theorem styleFor_of_isReachedBy_twice
    : ∃ theme settings,
        IsReachedBy theme settings
          ∧ settings = standardStyles ++ [("string", .ofFg .red)]
            ++ [("string.quoted", .ofFg .blue)] ++ [("string", .ofFg .cyan)]
          ∧ (theme.rules.map (·.selector)).Nodup
          ∧ IsStyleOf (lastSet? settings) ["meta.x", "string.regexp"]
            (theme.styleFor ["meta.x", "string.regexp"])
          ∧ theme.styleFor ["meta.x", "string.regexp"]
            = ((standard.set "string" (.ofFg .cyan)).set "string.quoted" (.ofFg .blue)).styleFor
              ["meta.x", "string.regexp"] := by
  have h : IsReachedBy (((standard.set "string" (.ofFg .red)).set "string.quoted" (.ofFg .blue)).set
      "string" (.ofFg .cyan)) _ := .set (.set (.set .standard _ _) _ _) _ _
  rcases styleFor_of_isReachedBy h with ⟨hnodup, hstyle, horder⟩
  refine ⟨_, _, h, rfl, hnodup, hstyle _, horder _ _ (.set (.set .standard _ _) _ _) ?_ _⟩
  intro selector
  simp only [lastSet?_append]
  by_cases heq : selector = "string"
  . simp [heq]
  . simp [heq]

end Theme

end TextScopes
