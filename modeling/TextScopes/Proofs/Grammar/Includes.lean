import TextScopes.Proofs.Grammar.Build
import TextScopes.Proofs.Regex.Parser

/-!
This module contains which includes are checked. An include of another grammar is an error wherever
it stands. An include of an entry that does not exist is reported where it can be reached from the
root patterns, and is not looked at anywhere else.
-/

namespace TextScopes.GrammarSource

/-- Whether a rule stands in a written grammar, at any depth, reached or not. -/
inductive Contains (source : GrammarSource) : RuleSource → Prop
  | pattern {rule : RuleSource} (h : rule ∈ source.patterns) : Contains source rule
  | entry {entry : String × RuleSource} (h : entry ∈ source.repository.entries)
    : Contains source entry.2
  | inside {rule child : RuleSource} {children : List RuleSource} (h : Contains source rule)
    (hchildren : rule.patterns = some children) (hchild : child ∈ children) : Contains source child

/-- Whether a rule includes an entry of the given name, which does not exist. -/
def Dangles (source : GrammarSource) (rule : RuleSource) (name : String) : Prop :=
  ∃ target, rule.includeTarget = some target ∧ target.toList = '#' :: name.toList
    ∧ name ∉ source.repository.keys

/-- Whether a written grammar is well-formed but for the entries that its rules include. -/
structure HasValidRules (source : GrammarSource) : Prop where
  scopeName : ∃ c ∈ source.scopeName.toList, ¬ isBlank c
  firstLineMatch : ∀ pattern, source.firstLineMatch = some pattern → Regex.Compiles pattern
  repository : ∀ entry ∈ source.repository.entries, entry.2.IsWellFormed
  patterns : ∀ rule ∈ source.patterns, rule.IsWellFormed

variable {source : GrammarSource} {rule : RuleSource} {error : Error}

theorem IsWellFormed.hasValidRules (h : source.IsWellFormed) : source.HasValidRules :=
  ⟨h.scopeName, h.firstLineMatch, h.repository, h.patterns⟩

theorem HasValidRules.isWellFormed_of_contains (h : source.HasValidRules)
    (hrule : source.Contains rule) : rule.IsWellFormed := by
  induction hrule with
  | pattern hrule => exact h.patterns _ hrule
  | entry hentry => exact h.repository _ hentry
  | inside _ hchildren hchild ih =>
    rcases ih with ⟨-, -, -, hinside⟩
    exact hinside _ hchildren _ hchild

theorem isTarget_of_isWellFormed {target : String} (h : rule.IsWellFormed)
    (htarget : rule.includeTarget = some target) : Include.IsTarget target := by
  rcases h with ⟨-, hshows, hvalid, -⟩
  cases hshows with
  | reference hinclude =>
    cases htarget.symm.trans hinclude
    exact hvalid
  | matching hinclude => simp [htarget] at hinclude
  | region hinclude => simp [htarget] at hinclude
  | container hinclude => simp [htarget] at hinclude

theorem Holds.dangles_of_missing? {arena : Arena} {id : RuleId} {name : String}
    (h : source.Holds arena) (hid : arena.Reaches id) (hname : arena.missing? id = some name)
    : ∃ rule, source.Reaches rule ∧ source.Dangles rule name := by
  rcases h.exists_source_of_reaches hid with ⟨rule, hreaches, hstands⟩
  rcases hstands.exists_rule with ⟨encoded, hencoded, -, hinclude⟩
  rcases Arena.exists_rule_of_missing? hname with ⟨encoded', hencoded', hkind, hget⟩
  obtain rfl := Option.some.inj (hencoded.symm.trans hencoded')
  rcases (hinclude name).mp hkind with ⟨target, htarget, hspelled⟩
  refine ⟨rule, hreaches, target, htarget, hspelled, ?_⟩
  rw [SortedMap.mem_keys_iff]
  rintro ⟨entry, hentry⟩
  rcases h.entry hentry with ⟨found, hfound, -⟩
  simp [hget] at hfound

theorem HasValidRules.exists_build_eq (h : source.HasValidRules)
    : ∃ arena, source.arena = .ok arena
      ∧ ∃ finish : Resolution → Grammar, source.build = arena.resolve.map finish := by
  have hblank : ¬ (trimBlanks source.scopeName.toList).isEmpty := by
    rw [isEmpty_trimBlanks_iff]
    simpa using h.scopeName
  have hmap {finish : Resolution → Grammar} {result : Except Error Resolution}
      : (do
          let resolution ← result
          Except.ok (finish resolution)) = result.map finish := by
    cases result with
    | error error => rfl
    | ok resolution => rfl
  rcases exists_arena_iff.mpr ⟨h.repository, h.patterns⟩ with ⟨arena, harena⟩
  refine ⟨arena, harena, ?_⟩
  unfold build
  rw [if_neg hblank, harena]
  cases hfirst : source.firstLineMatch with
  | none => exact ⟨_, hmap⟩
  | some pattern =>
    rcases (exists_compileAt_iff .firstLine).mpr (h.firstLineMatch pattern hfirst)
      with ⟨regex, hregex⟩
    simp only [hregex]
    exact ⟨_, hmap⟩

/-- All that can be wrong with a grammar of valid rules is an entry that does not exist. -/
theorem HasValidRules.dangles_of_build_eq_error (h : source.HasValidRules)
    (hbuild : source.build = .error error)
    : ∃ rule name, source.Reaches rule ∧ source.Dangles rule name
      ∧ error = .unresolvedInclude ("#" ++ name) := by
  rcases h.exists_build_eq with ⟨arena, harena, finish, heq⟩
  rw [heq] at hbuild
  cases hresolve : arena.resolve with
  | error error' =>
    rw [hresolve] at hbuild
    cases hbuild
    rcases Arena.exists_missing_of_resolve hresolve with ⟨id, name, hid, hname, herror⟩
    rcases (holds_of_arena harena).dangles_of_missing? hid hname with ⟨rule, hrule, hdangles⟩
    exact ⟨rule, name, hrule, hdangles, herror⟩
  | ok resolution =>
    rw [hresolve] at hbuild
    contradiction

/-- The includes of a grammar that builds stand for rules of the same grammar, and those that are
reached name entries that exist. If all rules are valid, then an entry that does not exist is
reported if an include of one is reached, and the grammar builds if none is reached, whatever the
other rules include. -/
theorem build_checks_reached
    : (∀ grammar, source.build = .ok grammar → ∀ rule, source.Contains rule →
        (∀ target, rule.includeTarget = some target → Include.IsTarget target)
          ∧ (source.Reaches rule → ∀ name, ¬ source.Dangles rule name))
      ∧ (source.HasValidRules →
        ((∃ rule name, source.Reaches rule ∧ source.Dangles rule name) →
          ∃ rule name, source.Reaches rule ∧ source.Dangles rule name
            ∧ source.build = .error (.unresolvedInclude ("#" ++ name)))
        ∧ ((∀ rule name, source.Reaches rule → ¬ source.Dangles rule name) →
          ∃ grammar, source.build = .ok grammar)) := by
  have hreached {grammar : Grammar} (hbuild : source.build = .ok grammar) {rule : RuleSource}
      (hrule : source.Reaches rule) (name : String) : ¬ source.Dangles rule name := by
    rintro ⟨target, htarget, hname, hmissing⟩
    have hincludes := (isWellFormed_of_build hbuild).includes rule hrule
    exact hmissing (hincludes target htarget name hname)
  refine ⟨?_, fun hvalid => ⟨?_, ?_⟩⟩
  . intro grammar hbuild rule hrule
    have hvalid := (isWellFormed_of_build hbuild).hasValidRules
    exact ⟨fun _ => isTarget_of_isWellFormed (hvalid.isWellFormed_of_contains hrule),
      fun hrule => hreached hbuild hrule⟩
  . rintro ⟨rule, name, hrule, hdangles⟩
    cases hbuild : source.build with
    | error error =>
      rcases hvalid.dangles_of_build_eq_error hbuild with ⟨rule, name, hrule, hdangles, rfl⟩
      exact ⟨rule, name, hrule, hdangles, rfl⟩
    | ok grammar => exact absurd hdangles (hreached hbuild hrule name)
  . intro hnone
    cases hbuild : source.build with
    | error error =>
      rcases hvalid.dangles_of_build_eq_error hbuild with ⟨rule, name, hrule, hdangles, -⟩
      exact absurd hdangles (hnone rule name hrule)
    | ok grammar => exact ⟨grammar, rfl⟩

/-- A grammar in which an include of an entry that does not exist stands where no pattern leads. -/
def unreachedSource : GrammarSource where
  scopeName := "source.unreached"
  patterns := [{ matchPattern := some "a" }]
  repository := .ofList [("unused", { includeTarget := some "#missing" })]

/-- Whether an include is reached makes a difference: this one stands in a grammar that builds. -/
theorem build_unreachedSource
    : (∃ rule, unreachedSource.Contains rule ∧ unreachedSource.Dangles rule "missing")
      ∧ ∃ grammar, unreachedSource.build = .ok grammar := by
  have hpattern : RuleSource.IsWellFormed { matchPattern := some "a" } :=
    .intro (by simp [RuleSource.IsConflicting]) (.matching rfl rfl rfl rfl rfl rfl rfl)
      ⟨⟨_, Regex.compile_literalPattern 'a'⟩, CaptureTable.isNumbered_none⟩ (by simp)
  have hentry : RuleSource.IsWellFormed { includeTarget := some "#missing" } :=
    .intro (by simp [RuleSource.IsConflicting]) (.reference rfl rfl rfl rfl rfl)
      (Or.inr (Or.inr ⟨_, rfl⟩)) (by simp)
  have hvalid : unreachedSource.HasValidRules := by
    refine ⟨⟨'s', by decide, by decide⟩, by simp [unreachedSource], ?_, ?_⟩
    . simpa [unreachedSource] using hentry
    . simpa [unreachedSource] using hpattern
  have hreached {rule : RuleSource} (h : unreachedSource.Reaches rule)
      : rule = { matchPattern := some "a" } := by
    induction h with
    | pattern h => simpa [unreachedSource] using h
    | inside _ hchildren _ ih =>
      rw [ih] at hchildren
      contradiction
    | entry _ htarget _ _ ih =>
      rw [ih] at htarget
      contradiction
  refine ⟨⟨_, .entry List.mem_cons_self, "#missing", rfl, rfl, by decide⟩, ?_⟩
  apply (build_checks_reached.2 hvalid).2
  rintro rule name hrule ⟨target, htarget, -⟩
  rw [hreached hrule] at htarget
  contradiction

end TextScopes.GrammarSource
