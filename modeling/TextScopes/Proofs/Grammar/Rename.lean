import Mathlib.Data.Set.Function
import TextScopes.Proofs.Grammar.Build
import TextScopes.Proofs.Grammar.RuleTree

/-!
This module contains written grammars whose entries go by other names, in the repository and in the
includes. If a grammar builds, so does one that has the same rules with entries renamed, and any
other well-formed entries besides.
-/

namespace TextScopes

def Include.rename (f : String → String) (target : String) : String :=
  match target.toList with
  | '#' :: name => "#" ++ f (String.ofList name)
  | _ => target

def RuleMode.rename (f : String → String) : RuleMode → RuleMode
  | .reference target => .reference (Include.rename f target)
  | mode => mode

namespace RuleSource

mutual

/-- A rule with the entries renamed that it includes, and that the rules inside it include. -/
def rename (f : String → String) : RuleSource → RuleSource
  | ⟨name, matchPattern, beginPattern, endPattern, contentName, captures, beginCaptures,
      endCaptures, includeTarget, patterns⟩ =>
    ⟨name, matchPattern, beginPattern, endPattern, contentName, captures, beginCaptures,
      endCaptures, includeTarget.map (Include.rename f),
      match patterns with
      | some children => some (renameAll f children)
      | none => none⟩
termination_by structural rule => rule

def renameAll (f : String → String) : List RuleSource → List RuleSource
  | [] => []
  | rule :: rest => rename f rule :: renameAll f rest
termination_by structural rules => rules

end

variable {f : String → String} {rule : RuleSource} {mode : RuleMode}

theorem renameAll_eq_map {rules : List RuleSource} : renameAll f rules = rules.map (rename f) := by
  induction rules with
  | nil => rw [renameAll, List.map_nil]
  | cons rule rest ih => rw [renameAll, List.map_cons, ih]

theorem rename_eq (f : String → String) (rule : RuleSource)
    : rule.rename f = { rule with
        includeTarget := rule.includeTarget.map (Include.rename f)
        patterns := rule.patterns.map (List.map (rename f)) } := by
  rcases rule with ⟨_, _, _, _, _, _, _, _, _, patterns⟩
  unfold rename
  cases patterns with
  | none => rfl
  | some children =>
    dsimp only
    rw [renameAll_eq_map]
    rfl

theorem includeTarget_rename
    : (rule.rename f).includeTarget = rule.includeTarget.map (Include.rename f) := by
  rw [rename_eq]

theorem patterns_rename
    : (rule.rename f).patterns = rule.patterns.map (List.map (rename f)) := by
  rw [rename_eq]

theorem getD_patterns_rename
    : (rule.rename f).patterns.getD [] = (rule.patterns.getD []).map (rename f) := by
  rw [patterns_rename]
  cases rule.patterns with
  | none => rfl
  | some children => rfl

end RuleSource

namespace Include

variable {f : String → String} {target name : String}

theorem toList_rename_of_entry {chars : List Char} (h : target.toList = '#' :: chars)
    : (rename f target).toList = '#' :: (f (String.ofList chars)).toList := by
  unfold rename
  simp only [h, String.toList_append]
  rfl

theorem rename_of_not_entry (h : ∀ chars, target.toList ≠ '#' :: chars)
    : rename f target = target := by
  unfold rename
  split
  . next chars hchars => exact absurd hchars (h chars)
  . rfl

theorem toList_rename_iff
    : (rename f target).toList = '#' :: name.toList
      ↔ ∃ name', target.toList = '#' :: name'.toList ∧ name = f name' := by
  by_cases hentry : ∃ chars, target.toList = '#' :: chars
  . rcases hentry with ⟨chars, hchars⟩
    rw [toList_rename_of_entry hchars, hchars]
    constructor
    . intro h
      refine ⟨String.ofList chars, by rw [String.toList_ofList], ?_⟩
      exact (String.toList_inj.mp (List.cons.inj h).2).symm
    . rintro ⟨name', hname, rfl⟩
      rw [(List.cons.inj hname).2, String.ofList_toList]
  . rw [rename_of_not_entry fun chars hchars => hentry ⟨chars, hchars⟩]
    constructor
    . intro h
      exact absurd ⟨_, h⟩ hentry
    . rintro ⟨name', hname, -⟩
      exact absurd ⟨_, hname⟩ hentry

theorem isTarget_rename (h : IsTarget target) : IsTarget (rename f target) := by
  by_cases hentry : ∃ chars, target.toList = '#' :: chars
  . rcases hentry with ⟨chars, hchars⟩
    exact Or.inr (Or.inr ⟨_, toList_rename_of_entry hchars⟩)
  . rw [rename_of_not_entry fun chars hchars => hentry ⟨chars, hchars⟩]
    exact h

end Include

namespace RuleSource

variable {f : String → String} {rule : RuleSource} {mode : RuleMode}

theorem Shows.rename (h : rule.Shows mode) : (rule.rename f).Shows (mode.rename f) := by
  rw [rename_eq]
  cases h with
  | reference hinclude hmatch hbegin hend hpatterns =>
    exact .reference (by simp [hinclude]) hmatch hbegin hend (by simp [hpatterns])
  | matching hinclude hmatch hbegin hend hpatterns hbegins hends =>
    exact .matching (by simp [hinclude]) hmatch hbegin hend (by simp [hpatterns]) hbegins hends
  | region hinclude hmatch hbegin hend =>
    exact .region (by simp [hinclude]) hmatch hbegin hend
  | container hinclude hmatch hbegin hend hpatterns hcaptures hbegins hends =>
    have hrenamed : rule.patterns.map (List.map (RuleSource.rename f)) = some _ :=
      congrArg (Option.map (List.map (RuleSource.rename f))) hpatterns
    exact .container (by simp [hinclude]) hmatch hbegin hend hrenamed hcaptures hbegins hends

theorem IsValidAs.rename (h : rule.IsValidAs mode)
    : (rule.rename f).IsValidAs (mode.rename f) := by
  rw [rename_eq]
  cases mode with
  | reference target => exact Include.isTarget_rename h
  | _ => exact h

theorem IsWellFormed.rename (h : rule.IsWellFormed) : (rule.rename f).IsWellFormed := by
  induction h with
  | @intro rule mode hconflict hshows hvalid hchildren ih =>
    refine .intro ?_ hshows.rename hvalid.rename ?_
    . rw [rename_eq]
      exact hconflict
    . intro children hpatterns child hchild
      rw [patterns_rename] at hpatterns
      rcases Option.map_eq_some_iff.mp hpatterns with ⟨inner, hinner, rfl⟩
      rcases List.mem_map.mp hchild with ⟨child', hchild', rfl⟩
      exact ih inner hinner child' hchild'

end RuleSource

namespace GrammarSource

/-- Whether another grammar has the same rules with entries renamed, and perhaps other entries
besides. -/
structure IsRenamedIn (source other : GrammarSource) (f : String → String) : Prop where
  scopeName : other.scopeName = source.scopeName
  firstLineMatch : other.firstLineMatch = source.firstLineMatch
  patterns : other.patterns = source.patterns.map (RuleSource.rename f)
  injOn : Set.InjOn f {name | name ∈ source.repository.keys}
  entry {name : String} {rule : RuleSource} (h : source.repository.get? name = some rule)
    : other.repository.get? (f name) = some (rule.rename f)

namespace IsRenamedIn

variable {source other : GrammarSource} {f : String → String} {rule : RuleSource}

theorem exists_of_reaches (h : source.IsRenamedIn other f)
    (hincludes : ∀ rule, source.Reaches rule → ∀ target, rule.includeTarget = some target →
      ∀ name : String, target.toList = '#' :: name.toList → name ∈ source.repository.keys)
    (hrule : other.Reaches rule) : ∃ rule', source.Reaches rule' ∧ rule = rule'.rename f := by
  induction hrule with
  | pattern hpattern =>
    rw [h.patterns] at hpattern
    rcases List.mem_map.mp hpattern with ⟨rule', hrule', rfl⟩
    exact ⟨rule', .pattern hrule', rfl⟩
  | inside _ hpatterns hchild ih =>
    rcases ih with ⟨rule', hrule', rfl⟩
    rw [RuleSource.patterns_rename] at hpatterns
    rcases Option.map_eq_some_iff.mp hpatterns with ⟨children, hchildren, rfl⟩
    rcases List.mem_map.mp hchild with ⟨child', hchild', rfl⟩
    exact ⟨child', hrule'.inside hchildren hchild', rfl⟩
  | entry _ htarget hname hnext ih =>
    rcases ih with ⟨rule', hrule', rfl⟩
    rw [RuleSource.includeTarget_rename] at htarget
    rcases Option.map_eq_some_iff.mp htarget with ⟨target', htarget', rfl⟩
    rcases Include.toList_rename_iff.mp hname with ⟨name', hname', rfl⟩
    rcases SortedMap.mem_keys_iff.mp (hincludes rule' hrule' target' htarget' name' hname')
      with ⟨next, hentry⟩
    rw [h.entry hentry] at hnext
    cases hnext
    exact ⟨next, hrule'.entry htarget' hname' hentry, rfl⟩

theorem isWellFormed (h : source.IsRenamedIn other f) (hsource : source.IsWellFormed)
    (hothers : ∀ name rule, other.repository.get? name = some rule →
      (∃ name' ∈ source.repository.keys, name = f name') ∨ rule.IsWellFormed)
    : other.IsWellFormed := by
  constructor
  . rw [h.scopeName]
    exact hsource.scopeName
  . rw [h.firstLineMatch]
    exact hsource.firstLineMatch
  . rintro ⟨name, rule⟩ hentry
    have hget := SortedMap.mem_iff.mp hentry
    rcases hothers name rule hget with ⟨name', hname', rfl⟩ | hrule
    . rcases SortedMap.mem_keys_iff.mp hname' with ⟨rule', hrule'⟩
      rw [h.entry hrule'] at hget
      cases hget
      exact (hsource.repository _ (SortedMap.mem_of_get? hrule')).rename
    . exact hrule
  . intro rule hrule
    rw [h.patterns] at hrule
    rcases List.mem_map.mp hrule with ⟨rule', hrule', rfl⟩
    exact (hsource.patterns rule' hrule').rename
  . intro rule hrule target htarget name hname
    rcases h.exists_of_reaches hsource.includes hrule with ⟨rule', hrule', rfl⟩
    rw [RuleSource.includeTarget_rename] at htarget
    rcases Option.map_eq_some_iff.mp htarget with ⟨target', htarget', rfl⟩
    rcases Include.toList_rename_iff.mp hname with ⟨name', hname', rfl⟩
    have hkey := hsource.includes rule' hrule' target' htarget' name' hname'
    rcases SortedMap.mem_keys_iff.mp hkey with ⟨entry, hentry⟩
    exact SortedMap.mem_keys_iff.mpr ⟨_, h.entry hentry⟩

end IsRenamedIn

end GrammarSource

end TextScopes
