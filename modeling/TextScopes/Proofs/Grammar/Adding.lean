import TextScopes.Grammar.Build
import TextScopes.Proofs.Result

/-!
This module contains how a written rule is added to a list of rules: it is read, the rules inside it
are added, and it is put behind them. A rule without rules inside it is no special case.
-/

namespace TextScopes.RuleSource

variable {source : RuleSource} {sources : List RuleSource} {rules rules' : List Rule}

theorem sizeOf_patterns_lt (source : RuleSource)
    : sizeOf (source.patterns.getD []) < sizeOf source := by
  rcases source with ⟨_, _, _, _, _, _, _, _, _, patterns⟩
  cases patterns with
  | none =>
    simp only [RuleSource.mk.sizeOf_spec, Option.getD_none, List.nil.sizeOf_spec,
      Option.none.sizeOf_spec]
    omega
  | some children =>
    simp only [RuleSource.mk.sizeOf_spec, Option.getD_some, Option.some.sizeOf_spec]
    omega

theorem addTo_eq (rules : List Rule) (path : RulePath) (source : RuleSource)
    : addTo rules path source = (do
        let mode ← source.mode path
        let added ← addAllTo rules (.child path) 0 (source.patterns.getD [])
        let kind ← source.toKind path mode added.2
        .ok (added.1 ++ [⟨source.name, kind⟩], added.1.length)) := by
  rcases source with ⟨_, _, _, _, _, _, _, _, _, patterns⟩
  cases patterns with
  | none => rfl
  | some children => rfl

theorem exists_of_addTo_eq_ok {path : RulePath} {id : RuleId}
    (h : addTo rules path source = .ok (rules', id))
    : ∃ mode inner ids kind, source.mode path = .ok mode
      ∧ addAllTo rules (.child path) 0 (source.patterns.getD []) = .ok (inner, ids)
      ∧ source.toKind path mode ids = .ok kind
      ∧ rules' = inner ++ [⟨source.name, kind⟩] ∧ id = inner.length := by
  rw [addTo_eq] at h
  rcases bind_eq_ok_iff.mp h with ⟨mode, hmode, h⟩
  rcases bind_eq_ok_iff.mp h with ⟨⟨inner, ids⟩, hinner, h⟩
  rcases bind_eq_ok_iff.mp h with ⟨kind, hkind, heq⟩
  cases heq
  exact ⟨mode, inner, ids, kind, hmode, hinner, hkind, rfl, rfl⟩

theorem exists_of_addAllTo_cons_eq_ok {path : Nat → RulePath} {index : Nat} {ids : List RuleId}
    (h : addAllTo rules path index (source :: sources) = .ok (rules', ids))
    : ∃ inner id others, addTo rules (path index) source = .ok (inner, id)
      ∧ addAllTo inner path (index + 1) sources = .ok (rules', others) ∧ ids = id :: others := by
  rcases bind_eq_ok_iff.mp h with ⟨⟨inner, id⟩, hinner, h⟩
  rcases bind_eq_ok_iff.mp h with ⟨⟨outer, others⟩, houter, heq⟩
  cases heq
  exact ⟨inner, id, others, hinner, houter, rfl⟩

end TextScopes.RuleSource
