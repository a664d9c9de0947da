import Mathlib.Data.List.Forall2
import TextScopes.Builtin.Json
import TextScopes.Proofs.Grammar.Adding

/-!
This module contains how the list of rules grows when single rules are added to it, for grammars
whose written form is known.
-/

namespace TextScopes

open Builtin (includeRule)

namespace RuleSource

variable {rules : List Rule}

theorem addTo_matching {source : RuleSource} {path : RulePath} {pattern : String} {regex : Regex}
    {captures : CaptureMap} (hmode : source.mode path = .ok (.matching pattern))
    (hpatterns : source.patterns = none) (hregex : Regex.compile pattern = .ok regex)
    (hcaptures : CaptureTable.read path source.captures = .ok captures)
    : source.addTo rules path
      = .ok (rules ++ [⟨source.name, .matching regex captures⟩], rules.length) := by
  have hkind : source.toKind path (.matching pattern) [] = .ok (.matching regex captures) := by
    unfold toKind compileAt
    dsimp only
    rw [hregex, hcaptures]
    rfl
  rw [addTo_eq, hmode, hpatterns]
  dsimp only [Option.getD_none, bind, Except.bind, addAllTo]
  rw [hkind]

theorem addTo_includeRule {target : String} {include_ : Include} {path : RulePath}
    (htarget : Include.read target = .ok include_)
    : (includeRule target).addTo rules path
      = .ok (rules ++ [⟨none, .reference include_⟩], rules.length) := by
  have hkind : (includeRule target).toKind path (.reference target) []
      = .ok (.reference include_) := by
    unfold toKind
    dsimp only
    rw [htarget]
    rfl
  have haddTo : (includeRule target).addTo rules path
      = (includeRule target).toKind path (.reference target) [] >>= fun kind =>
          .ok (rules ++ [⟨none, kind⟩], rules.length) := rfl
  rw [haddTo, hkind]
  rfl

theorem addTo_nested {source : RuleSource} {path : RulePath} {mode : RuleMode}
    {children : List RuleSource} {rules' : List Rule} {ids : List RuleId} {kind : RuleKind}
    (hmode : source.mode path = .ok mode) (hpatterns : source.patterns = some children)
    (hchildren : addAllTo rules (.child path) 0 children = .ok (rules', ids))
    (hkind : source.toKind path mode ids = .ok kind)
    : source.addTo rules path = .ok (rules' ++ [⟨source.name, kind⟩], rules'.length) := by
  rw [addTo_eq, hmode, hpatterns, Option.getD_some]
  dsimp only [bind, Except.bind]
  rw [hchildren]
  dsimp only
  rw [hkind]

theorem addAllTo_nil (rules : List Rule) (path : Nat → RulePath) (index : Nat)
    : addAllTo rules path index [] = .ok (rules, []) := rfl

theorem addAllTo_cons {rules' rules'' : List Rule} {path : Nat → RulePath} {index : Nat}
    {source : RuleSource} {sources : List RuleSource} {id : RuleId} {ids : List RuleId}
    (hsource : source.addTo rules (path index) = .ok (rules', id))
    (hsources : addAllTo rules' path (index + 1) sources = .ok (rules'', ids))
    : addAllTo rules path index (source :: sources) = .ok (rules'', id :: ids) := by
  rw [addAllTo, hsource]
  dsimp only [bind, Except.bind]
  rw [hsources]

theorem addAllTo_includeRule {targets : List String} {includes : List Include}
    {path : Nat → RulePath} {index : Nat}
    (htargets : List.Forall₂ (fun target include_ => Include.read target = .ok include_) targets
      includes)
    : addAllTo rules path index (targets.map includeRule)
      = .ok (rules ++ includes.map (⟨none, .reference ·⟩),
        List.range' rules.length includes.length) := by
  induction htargets generalizing rules index with
  | nil => rw [List.map_nil, addAllTo, List.map_nil, List.append_nil, List.length_nil,
      List.range'_zero]
  | cons htarget _ ih =>
    rw [List.map_cons, addAllTo_cons (addTo_includeRule htarget) ih, List.length_append]
    simp [List.range'_succ]

end RuleSource

namespace GrammarSource

theorem addEntries_cons {rules rules' : List Rule} {ids : SortedMap String RuleId} {name : String}
    {rule : RuleSource} {id : RuleId} {entries : List (String × RuleSource)}
    (hrule : rule.addTo rules (.entry name) = .ok (rules', id))
    : addEntries rules ids ((name, rule) :: entries)
      = addEntries rules' (ids.insert name id) entries := by
  rw [addEntries, hrule]
  rfl

end GrammarSource

end TextScopes
