import Mathlib.Data.List.Lex
import Mathlib.Data.Sum.Order
import TextScopes.Proofs.Grammar.CaptureTable
import TextScopes.Proofs.Grammar.WellFormed
import TextScopes.Proofs.Result.First

/-!
This module contains what can be wrong with a rule by itself, whatever the rules inside it are. The
fields of a rule must go together, which is checked before the rules inside it are read, and what
they hold must be valid, which is checked behind them. Both checks report the first of their faults.
-/

namespace TextScopes

/-- What is checked about which fields a rule has, in the order of the checks. -/
inductive FieldCheck where
  /-- Whether groups are named for all patterns and for one of them. -/
  | conflict
  | malformation (reason : Malformation)
  deriving DecidableEq, Repr

/-- What is checked about what the fields of a rule hold, in the order of the checks. -/
inductive ValueCheck where
  | includeTarget
  | matchPattern
  | captures
  | beginCaptures
  | endCaptures
  | beginPattern
  | endPattern
  deriving DecidableEq, Repr

instance : LinearOrder Malformation :=
  LinearOrder.lift' Malformation.ctorIdx
    (Function.LeftInverse.injective Malformation.ofNat_ctorIdx)

instance : LinearOrder ValueCheck :=
  LinearOrder.lift' ValueCheck.ctorIdx (Function.LeftInverse.injective ValueCheck.ofNat_ctorIdx)

namespace FieldCheck

def rank : FieldCheck → Nat
  | conflict => 0
  | malformation reason => 1 + reason.ctorIdx

theorem rank_injective : Function.Injective rank := by
  intro a b h
  cases a with
  | conflict =>
    cases b with
    | conflict => rfl
    | malformation reason => exact absurd h (by simp only [rank]; omega)
  | malformation reason =>
    cases b with
    | conflict => exact absurd h (by simp only [rank]; omega)
    | malformation other =>
      have hreason : reason.ctorIdx = other.ctorIdx := Nat.add_left_cancel h
      rw [Function.LeftInverse.injective Malformation.ofNat_ctorIdx hreason]

instance : LinearOrder FieldCheck := LinearOrder.lift' rank rank_injective

end FieldCheck

theorem Include.eq_of_read_eq_error {target : String} {error : Error}
    (h : Include.read target = .error error) : error = .unresolvedInclude target := by
  unfold Include.read at h
  split at h
  . contradiction
  . split at h
    . contradiction
    . cases h
      rfl

namespace RuleSource

/-- Whether the fields of a rule do not go together for the given reason. -/
def IsMalformed (rule : RuleSource) : Malformation → Prop
  | .includeWithMode =>
    rule.includeTarget.isSome ∧ (rule.matchPattern.isSome ∨ rule.beginPattern.isSome
      ∨ rule.endPattern.isSome ∨ rule.patterns.isSome)
  | .matchWithRegion =>
    rule.matchPattern.isSome ∧ (rule.beginPattern.isSome ∨ rule.endPattern.isSome)
  | .matchWithPatterns => rule.matchPattern.isSome ∧ rule.patterns.isSome
  | .matchWithPhaseCaptures =>
    rule.matchPattern.isSome ∧ (rule.beginCaptures.isSome ∨ rule.endCaptures.isSome)
  | .beginWithoutEnd => rule.beginPattern.isSome ∧ rule.endPattern = none
  | .endWithoutBegin => rule.endPattern.isSome ∧ rule.beginPattern = none
  | .containerWithCaptures =>
    rule.includeTarget = none ∧ rule.matchPattern = none ∧ rule.beginPattern = none
      ∧ rule.endPattern = none ∧ rule.patterns.isSome
      ∧ (rule.captures.isSome ∨ rule.beginCaptures.isSome ∨ rule.endCaptures.isSome)
  | .noMode =>
    rule.includeTarget = none ∧ rule.matchPattern = none ∧ rule.beginPattern = none
      ∧ rule.endPattern = none ∧ rule.patterns = none

/-- The field of a rule that a check of a pattern is about. -/
def pattern? (rule : RuleSource) : ValueCheck → Option String
  | .matchPattern => rule.matchPattern
  | .beginPattern => rule.beginPattern
  | .endPattern => rule.endPattern
  | _ => none

/-- The field of a rule that a check of written groups is about. An include has no use for groups,
and those that are written for one are not looked at. -/
def table? (rule : RuleSource) (check : ValueCheck) : Option CaptureTable :=
  if rule.includeTarget.isSome then none
  else
    match check with
    | .captures => rule.captures
    | .beginCaptures => rule.beginCaptures
    | .endCaptures => rule.endCaptures
    | _ => none

/-- What can be wrong with which fields a rule at the given place has, and the error for it. -/
inductive HasFieldFault (rule : RuleSource) (path : RulePath) : FieldCheck → Error → Prop
  | conflict (h : rule.IsConflicting)
    : HasFieldFault rule path .conflict (.conflictingCaptures path)
  | malformation {reason : Malformation} (h : rule.IsMalformed reason)
    : HasFieldFault rule path (.malformation reason) (.malformedRule path reason)

/-- What can be wrong with what the fields of a rule at the given place hold, and the error for
it. -/
inductive HasValueFault (rule : RuleSource) (path : RulePath) : ValueCheck → Error → Prop
  | includeTarget {target : String} (hinclude : rule.includeTarget = some target)
    (htarget : ¬ Include.IsTarget target)
    : HasValueFault rule path .includeTarget (.unresolvedInclude target)
  | pattern {check : ValueCheck} {pattern : String} {fault : Regex.Fault}
    (hpattern : rule.pattern? check = some pattern) (hfault : Regex.compile pattern = .error fault)
    : HasValueFault rule path check (.regex path fault)
  | groups {check : ValueCheck} {table : CaptureTable} {key : String}
    (htable : rule.table? check = some table) (hkey : key ∈ table.keys)
    (hinvalid : ¬ ∃ index, CaptureTable.Denotes key index)
    : HasValueFault rule path check (.invalidCaptureIndex path key)

variable {rule : RuleSource} {path : RulePath} {check : ValueCheck} {mode : RuleMode}

theorem Shows.not_isMalformed (h : rule.Shows mode) (reason : Malformation)
    : ¬ rule.IsMalformed reason := by
  cases h with
  | reference hinclude hmatch hbegin hend hpatterns =>
    cases reason <;> simp [IsMalformed, *]
  | matching hinclude hmatch hbegin hend hpatterns hbegins hends =>
    cases reason <;> simp [IsMalformed, *]
  | region hinclude hmatch hbegin hend =>
    cases reason <;> simp [IsMalformed, *]
  | container hinclude hmatch hbegin hend hpatterns hcaptures hbegins hends =>
    cases reason <;> simp [IsMalformed, *]

/-- Whether no reason before the given one applies to a rule. -/
def MalformedFrom (rule : RuleSource) (reason : Malformation) : Prop :=
  ∀ other, rule.IsMalformed other → reason ≤ other

theorem malformedFrom_includeWithMode : rule.MalformedFrom .includeWithMode :=
  fun other _ => Nat.zero_le other.ctorIdx

theorem MalformedFrom.next {reason next : Malformation} (h : rule.MalformedFrom reason)
    (hreason : ¬ rule.IsMalformed reason) (hnext : next.ctorIdx = reason.ctorIdx + 1)
    : rule.MalformedFrom next := by
  intro other hother
  have hle : reason.ctorIdx ≤ other.ctorIdx := h other hother
  have hne : reason.ctorIdx ≠ other.ctorIdx := by
    intro heq
    obtain rfl := Function.LeftInverse.injective Malformation.ofNat_ctorIdx heq
    exact hreason hother
  change next.ctorIdx ≤ other.ctorIdx
  omega

theorem malformedFrom_beginWithoutEnd (hinclude : rule.includeTarget = none)
    (hmatch : rule.matchPattern = none) : rule.MalformedFrom .beginWithoutEnd := by
  have hregion : rule.MalformedFrom .matchWithRegion :=
    malformedFrom_includeWithMode.next (by simp [IsMalformed, hinclude]) rfl
  have hpatterns : rule.MalformedFrom .matchWithPatterns :=
    hregion.next (by simp [IsMalformed, hmatch]) rfl
  have hphase : rule.MalformedFrom .matchWithPhaseCaptures :=
    hpatterns.next (by simp [IsMalformed, hmatch]) rfl
  exact hphase.next (by simp [IsMalformed, hmatch]) rfl

theorem cases_of_mode_eq_error {error : Error} (h : rule.mode path = .error error)
    : (rule.IsConflicting ∧ error = .conflictingCaptures path)
      ∨ (¬ rule.IsConflicting ∧ ∃ reason, error = .malformedRule path reason
          ∧ rule.IsMalformed reason ∧ rule.MalformedFrom reason) := by
  rw [isConflicting_iff]
  unfold RuleSource.mode at h
  dsimp only at h
  split at h
  . next hconflict =>
    cases h
    exact Or.inl ⟨hconflict, rfl⟩
  . next hconflict =>
    refine Or.inr ⟨hconflict, ?_⟩
    have hfirst : rule.MalformedFrom .includeWithMode := malformedFrom_includeWithMode
    split at h
    . next target pattern opening closing hinclude =>
      split at h
      . next hfields =>
        cases h
        exact ⟨_, rfl, by simpa [IsMalformed, hinclude, or_assoc] using hfields, hfirst⟩
      . contradiction
    . next pattern opening closing hinclude hmatch =>
      have hfirst : rule.MalformedFrom .matchWithRegion :=
        hfirst.next (by simp [IsMalformed, hinclude]) rfl
      split at h
      . next hregion =>
        cases h
        exact ⟨_, rfl, by simpa [IsMalformed, hmatch] using hregion, hfirst⟩
      . next hregion =>
        have hfirst : rule.MalformedFrom .matchWithPatterns :=
          hfirst.next (by simpa [IsMalformed, hmatch] using hregion) rfl
        split at h
        . next hpatterns =>
          cases h
          exact ⟨_, rfl, by simpa [IsMalformed, hmatch] using hpatterns, hfirst⟩
        . next hpatterns =>
          have hfirst : rule.MalformedFrom .matchWithPhaseCaptures :=
            hfirst.next (by simpa [IsMalformed, hmatch] using hpatterns) rfl
          split at h
          . next hphase =>
            cases h
            exact ⟨_, rfl, by simpa [IsMalformed, hmatch, hasPhaseCaptures] using hphase, hfirst⟩
          . contradiction
    . contradiction
    . next opening hinclude hmatch hbegin hend =>
      cases h
      exact ⟨_, rfl, by simp [IsMalformed, hbegin, hend],
        malformedFrom_beginWithoutEnd hinclude hmatch⟩
    . next closing hinclude hmatch hbegin hend =>
      cases h
      have hfirst : rule.MalformedFrom .endWithoutBegin :=
        (malformedFrom_beginWithoutEnd hinclude hmatch).next (by simp [IsMalformed, hbegin]) rfl
      exact ⟨_, rfl, by simp [IsMalformed, hbegin, hend], hfirst⟩
    . next hinclude hmatch hbegin hend =>
      have hfirst : rule.MalformedFrom .endWithoutBegin :=
        (malformedFrom_beginWithoutEnd hinclude hmatch).next (by simp [IsMalformed, hbegin]) rfl
      have hfirst : rule.MalformedFrom .containerWithCaptures :=
        hfirst.next (by simp [IsMalformed, hend]) rfl
      split at h
      . next hpatterns =>
        cases h
        rw [Option.isNone_iff_eq_none] at hpatterns
        -- A rule without rules inside it is no container, whatever groups it names.
        have hfirst : rule.MalformedFrom .noMode :=
          hfirst.next (by simp [IsMalformed, hpatterns]) rfl
        exact ⟨_, rfl, ⟨hinclude, hmatch, hbegin, hend, hpatterns⟩, hfirst⟩
      . next hpatterns =>
        rw [Option.isNone_iff_eq_none, ← ne_eq, ← Option.isSome_iff_ne_none] at hpatterns
        split at h
        . next hcaptures =>
          cases h
          have hgroups : rule.captures.isSome ∨ rule.beginCaptures.isSome
              ∨ rule.endCaptures.isSome := by
            simpa [hasPhaseCaptures] using hcaptures
          exact ⟨_, rfl, ⟨hinclude, hmatch, hbegin, hend, hpatterns, hgroups⟩, hfirst⟩
        . contradiction

/-- A rule has a mode, or it is rejected for the first fault of its fields. -/
theorem reportsFirst_mode (rule : RuleSource) (path : RulePath)
    : ReportsFirst (rule.HasFieldFault path) (rule.mode path) := by
  cases hmode : rule.mode path with
  | ok mode =>
    rcases mode_eq_ok_iff.mp hmode with ⟨hconflict, hshows⟩
    intro check error h
    cases h with
    | conflict h => exact hconflict h
    | malformation h => exact hshows.not_isMalformed _ h
  | error error =>
    rcases cases_of_mode_eq_error hmode
      with ⟨hconflict, rfl⟩ | ⟨hconflict, reason, rfl, hmalformed, hfirst⟩
    . exact ⟨.conflict, .conflict hconflict, fun check _ _ => Nat.zero_le check.rank⟩
    . refine ⟨.malformation reason, .malformation hmalformed, ?_⟩
      intro check error h
      cases h with
      | conflict h => exact absurd h hconflict
      | malformation h => exact Nat.add_le_add_left (hfirst _ h) 1

def checks (rule : RuleSource) : RuleMode → List ValueCheck
  | .reference _ => [.includeTarget]
  | .matching _ => [.matchPattern, .captures]
  | .region _ _ =>
    (if rule.captures.isSome then [.captures] else [.beginCaptures, .endCaptures])
      ++ [.beginPattern, .endPattern]
  | .container => []

def ValueFaults (rule : RuleSource) (path : RulePath) (checks : List ValueCheck)
    (check : ValueCheck) (error : Error) : Prop :=
  check ∈ checks ∧ rule.HasValueFault path check error

theorem reportsFirst_check {x : Except Error α}
    (herror : ∀ error, x = .error error → rule.HasValueFault path check error)
    (hok : ∀ a, x = .ok a → ∀ error, ¬ rule.HasValueFault path check error)
    : ReportsFirst (rule.ValueFaults path [check]) x := by
  cases x with
  | error error =>
    refine ⟨check, ⟨List.mem_singleton_self _, herror error rfl⟩, ?_⟩
    rintro other _ ⟨hother, -⟩
    exact (List.mem_singleton.mp hother).ge
  | ok a =>
    rintro other error ⟨hother, hfault⟩
    obtain rfl := List.mem_singleton.mp hother
    exact hok a rfl error hfault

theorem reportsFirst_compileAt {pattern : String} (h : rule.pattern? check = some pattern)
    : ReportsFirst (rule.ValueFaults path [check]) (compileAt path pattern) := by
  apply reportsFirst_check
  . intro error herror
    cases hcompile : Regex.compile pattern with
    | error fault =>
      rw [compileAt, hcompile] at herror
      cases herror
      exact .pattern h hcompile
    | ok regex =>
      rw [compileAt, hcompile] at herror
      contradiction
  . intro regex hregex error hfault
    rw [compileAt, mapError_eq_ok_iff] at hregex
    cases hfault with
    | includeTarget => contradiction
    | pattern hpattern hfault =>
      cases h.symm.trans hpattern
      cases hregex.symm.trans hfault
    | groups htable => cases check <;> simp_all [pattern?, table?]

theorem reportsFirst_read {table : Option CaptureTable} (hpattern : rule.pattern? check = none)
    (hcheck : check ≠ .includeTarget) (h : rule.table? check = table)
    : ReportsFirst (rule.ValueFaults path [check]) (CaptureTable.read path table) := by
  apply reportsFirst_check
  . intro error herror
    cases table with
    | none => contradiction
    | some table =>
      rw [CaptureTable.read_eq] at herror
      split at herror
      . next entry hfind =>
        cases herror
        have hinvalid := CaptureTable.isNone_index?_iff.mp (by simpa using List.find?_some hfind)
        exact .groups h (List.mem_map_of_mem (List.mem_of_find?_eq_some hfind)) hinvalid
      . contradiction
  . intro map hread error hfault
    cases hfault with
    | includeTarget => contradiction
    | pattern hsome => simp [hpattern] at hsome
    | groups htable hkey hinvalid =>
      rw [← h, htable] at hread
      have hkeys := (CaptureTable.exists_read_iff_forall_denotes path _).mp ⟨map, hread⟩
      exact hinvalid (hkeys _ hkey)

theorem reportsFirst_include {target : String} (h : rule.includeTarget = some target)
    : ReportsFirst (rule.ValueFaults path [.includeTarget]) (Include.read target) := by
  apply reportsFirst_check
  . intro error herror
    have htarget : ¬ Include.IsTarget target := by
      rw [← Include.exists_read_iff, herror]
      nofun
    rw [Include.eq_of_read_eq_error herror]
    exact .includeTarget h htarget
  . intro included hread error hfault
    cases hfault with
    | includeTarget hinclude htarget =>
      cases h.symm.trans hinclude
      exact htarget (Include.exists_read_iff.mp ⟨included, hread⟩)
    | pattern hpattern => cases hpattern
    | groups htable => simp [table?, h] at htable

theorem reportsFirst_bind {checks behind : List ValueCheck} {x : Except Error α}
    {f : α → Except Error β} (hx : ReportsFirst (rule.ValueFaults path checks) x)
    (hf : ∀ a, ReportsFirst (rule.ValueFaults path behind) (f a))
    (hle : ∀ check ∈ checks, ∀ other ∈ behind, check ≤ other)
    : ReportsFirst (rule.ValueFaults path (checks ++ behind)) (x >>= f) := by
  apply (hx.bind (fun a _ => hf a) fun i _ j _ hi hj => hle i hi.1 j hj.1).congr
  intro check error
  simp only [ValueFaults, List.mem_append, or_and_right]

theorem HasValueFault.isSome {error : Error} (h : rule.HasValueFault path check error)
    : (check = .includeTarget ∧ rule.includeTarget.isSome)
      ∨ (rule.pattern? check).isSome ∨ (rule.table? check).isSome := by
  cases h with
  | includeTarget hinclude => simp [hinclude]
  | pattern hpattern => simp [hpattern]
  | groups htable => simp [htable]

theorem HasValueFault.mem_checks {error : Error} (h : rule.HasValueFault path check error)
    (hconflict : ¬ rule.IsConflicting) (hshows : rule.Shows mode) : check ∈ rule.checks mode := by
  have hfield := h.isSome
  cases hshows with
  | reference hinclude hmatch hbegin hend =>
    cases check <;> simp_all [pattern?, table?, checks]
  | matching hinclude hmatch hbegin hend hpatterns hbegins hends =>
    cases check <;> simp_all [pattern?, table?, checks]
  | region hinclude hmatch =>
    cases hcaptures : rule.captures <;> cases check
      <;> simp_all [pattern?, table?, checks, IsConflicting]
  | container hinclude hmatch hbegin hend hpatterns hcaptures hbegins hends =>
    cases check <;> simp_all [pattern?, table?]

theorem reportsFirst_of_checks {x : Except Error α} (hconflict : ¬ rule.IsConflicting)
    (hshows : rule.Shows mode) (h : ReportsFirst (rule.ValueFaults path (rule.checks mode)) x)
    : ReportsFirst (rule.HasValueFault path) x :=
  h.congr fun _ _ => ⟨And.right, fun hfault => ⟨hfault.mem_checks hconflict hshows, hfault⟩⟩

theorem reportsFirst_toRegion {opening closing : String} {ids : List RuleId}
    (hshows : rule.Shows (.region opening closing))
    : ReportsFirst (rule.ValueFaults path (rule.checks (.region opening closing)))
        (rule.toRegion path opening closing ids) := by
  rcases hshows with _ | _ | ⟨hinclude, hmatch, hbegin, hend⟩
  have hpatterns (maps : CaptureMap × CaptureMap)
      : ReportsFirst (rule.ValueFaults path [.beginPattern, .endPattern]) (do
          let opening ← compileAt path opening
          let closing ← compileAt path closing
          Except.ok (⟨opening, closing, rule.contentName, maps.1, maps.2, ids⟩ : Region)) := by
    have hopening : ReportsFirst (rule.ValueFaults path [.beginPattern]) (compileAt path opening) :=
      reportsFirst_compileAt hbegin
    have hclosing : ReportsFirst (rule.ValueFaults path [.endPattern]) (compileAt path closing) :=
      reportsFirst_compileAt hend
    exact reportsFirst_bind hopening (fun _ => hclosing.bind_ok fun _ => ⟨_, rfl⟩) (by decide)
  unfold toRegion checks
  cases hcaptures : rule.captures with
  | some shared =>
    have hread : ReportsFirst (rule.ValueFaults path [.captures])
        (CaptureTable.read path (some shared)) :=
      reportsFirst_read rfl (by decide) (by simp [table?, hinclude, hcaptures])
    rw [Option.isSome_some, if_pos rfl]
    exact reportsFirst_bind hread (fun map => hpatterns (map, map)) (by decide)
  | none =>
    have hopening : ReportsFirst (rule.ValueFaults path [.beginCaptures])
        (CaptureTable.read path rule.beginCaptures) :=
      reportsFirst_read rfl (by decide) (by simp [table?, hinclude])
    have hclosing : ReportsFirst (rule.ValueFaults path [.endCaptures])
        (CaptureTable.read path rule.endCaptures) :=
      reportsFirst_read rfl (by decide) (by simp [table?, hinclude])
    have hmaps (opening : CaptureMap) := reportsFirst_bind hclosing
      (fun closing => hpatterns (opening, closing)) (by decide)
    have hread := reportsFirst_bind hopening hmaps (by decide)
    rw [Option.isSome_none, if_neg Bool.false_ne_true]
    exact hread

/-- A rule whose fields go together is rejected for the first fault of what they hold. -/
theorem reportsFirst_toKind (ids : List RuleId) (hmode : rule.mode path = .ok mode)
    : ReportsFirst (rule.HasValueFault path) (rule.toKind path mode ids) := by
  rcases mode_eq_ok_iff.mp hmode with ⟨hconflict, hshows⟩
  apply reportsFirst_of_checks hconflict hshows
  unfold toKind
  cases hshows with
  | reference hinclude => exact (reportsFirst_include hinclude).map RuleKind.reference
  | @matching pattern hinclude hmatch =>
    have hcompile : ReportsFirst (rule.ValueFaults path [.matchPattern]) (compileAt path pattern) :=
      reportsFirst_compileAt hmatch
    have hread : ReportsFirst (rule.ValueFaults path [.captures])
        (CaptureTable.read path rule.captures) :=
      reportsFirst_read rfl (by decide) (by simp [table?, hinclude])
    exact reportsFirst_bind hcompile (fun _ => hread.bind_ok fun _ => ⟨_, rfl⟩) (by decide)
  | region hinclude hmatch hbegin hend =>
    exact (reportsFirst_toRegion (.region hinclude hmatch hbegin hend)).map RuleKind.region
  | container => exact fun _ _ hfault => List.not_mem_nil hfault.1

end RuleSource

end TextScopes
