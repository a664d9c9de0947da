import TextScopes.Grammar.Build
import TextScopes.Proofs.Result

/-!
This module contains which rules are well-formed, by their fields alone, and that these are the
rules whose checks succeed. Which rules are inside a rule, and where it stands, has no influence on
its own checks.
-/

namespace TextScopes

def Regex.Compiles (pattern : String) : Prop := ∃ re, Regex.compile pattern = .ok re

/-- Whether an include stands for a rule of the same grammar. -/
def Include.IsTarget (target : String) : Prop :=
  target = "$self" ∨ target = "$base" ∨ ∃ name, target.toList = '#' :: name

/-- Whether every group in a table is named by a number. -/
def CaptureTable.IsNumbered (table : Option CaptureTable) : Prop :=
  ∀ entries, table = some entries → ∀ key ∈ entries.keys, (index? key).isSome

namespace RuleSource

/-- Whether a rule names groups for both patterns of a region at once and for one of them. -/
def IsConflicting (rule : RuleSource) : Prop :=
  rule.captures.isSome ∧ (rule.beginCaptures.isSome ∨ rule.endCaptures.isSome)

/-- Whether the fields of a rule show one thing that it does, and nothing else. -/
inductive Shows (rule : RuleSource) : RuleMode → Prop
  | reference {target : String} (hinclude : rule.includeTarget = some target)
    (hmatch : rule.matchPattern = none) (hbegin : rule.beginPattern = none)
    (hend : rule.endPattern = none) (hpatterns : rule.patterns = none)
    : Shows rule (.reference target)
  | matching {pattern : String} (hinclude : rule.includeTarget = none)
    (hmatch : rule.matchPattern = some pattern) (hbegin : rule.beginPattern = none)
    (hend : rule.endPattern = none) (hpatterns : rule.patterns = none)
    (hbegins : rule.beginCaptures = none) (hends : rule.endCaptures = none)
    : Shows rule (.matching pattern)
  | region {opening closing : String} (hinclude : rule.includeTarget = none)
    (hmatch : rule.matchPattern = none) (hbegin : rule.beginPattern = some opening)
    (hend : rule.endPattern = some closing) : Shows rule (.region opening closing)
  | container {children : List RuleSource} (hinclude : rule.includeTarget = none)
    (hmatch : rule.matchPattern = none) (hbegin : rule.beginPattern = none)
    (hend : rule.endPattern = none) (hpatterns : rule.patterns = some children)
    (hcaptures : rule.captures = none) (hbegins : rule.beginCaptures = none)
    (hends : rule.endCaptures = none) : Shows rule .container

/-- Whether what a rule does is valid: its patterns compile, its groups are named by numbers, its
include stands for a rule of the same grammar. -/
def IsValidAs (rule : RuleSource) : RuleMode → Prop
  | .reference target => Include.IsTarget target
  | .matching pattern => Regex.Compiles pattern ∧ CaptureTable.IsNumbered rule.captures
  | .region opening closing =>
    Regex.Compiles opening ∧ Regex.Compiles closing ∧ CaptureTable.IsNumbered rule.captures
      ∧ CaptureTable.IsNumbered rule.beginCaptures ∧ CaptureTable.IsNumbered rule.endCaptures
  | .container => True

inductive IsWellFormed : RuleSource → Prop
  | intro {rule : RuleSource} {mode : RuleMode} (hconflict : ¬ rule.IsConflicting)
    (hshows : rule.Shows mode) (hvalid : rule.IsValidAs mode)
    (hchildren : ∀ children, rule.patterns = some children →
      ∀ child ∈ children, IsWellFormed child)
    : IsWellFormed rule

end RuleSource

variable {path : RulePath} {rule : RuleSource} {mode : RuleMode} {ids : List RuleId}

theorem exists_compileAt_iff (path : RulePath) {pattern : String}
    : (∃ re, compileAt path pattern = .ok re) ↔ Regex.Compiles pattern := by
  simp only [compileAt, mapError_eq_ok_iff, Regex.Compiles]

theorem Include.exists_read_iff {target : String}
    : (∃ included, Include.read target = .ok included) ↔ IsTarget target := by
  unfold Include.read IsTarget
  split
  . next name hname => simp [hname]
  . next hname =>
    have hentry : ¬ ∃ name, target.toList = '#' :: name := fun ⟨name, h⟩ => hname name h
    split
    . next htarget => simpa [hentry] using htarget
    . next htarget => simpa [hentry] using htarget

namespace CaptureTable

theorem exists_readEntries_iff {map : CaptureMap} {entries : List (String × CaptureSource)}
    : (∃ map', readEntries path map entries = .ok map')
      ↔ ∀ key ∈ entries.map (·.1), (index? key).isSome := by
  induction entries generalizing map with
  | nil => simp [readEntries]
  | cons entry rest ih =>
    rcases entry with ⟨key, capture⟩
    unfold readEntries
    rw [List.map_cons, List.forall_mem_cons]
    split
    . next hindex => simp [hindex]
    . next index hindex => simp [hindex, ih]

theorem exists_read_iff (path : RulePath) {table : Option CaptureTable}
    : (∃ map, read path table = .ok map) ↔ IsNumbered table := by
  unfold CaptureTable.read IsNumbered
  split
  . simp
  . next table => simpa [SortedMap.keys] using exists_readEntries_iff

theorem isNumbered_none : IsNumbered none := nofun

end CaptureTable

namespace RuleSource

theorem isConflicting_iff
    : rule.IsConflicting ↔ (rule.captures.isSome && rule.hasPhaseCaptures) = true := by
  simp [IsConflicting, hasPhaseCaptures]

theorem shows_of_mode_eq_ok (h : rule.mode path = .ok mode)
    : ¬ rule.IsConflicting ∧ rule.Shows mode := by
  rw [isConflicting_iff]
  unfold RuleSource.mode at h
  dsimp only at h
  split at h
  . contradiction
  . next hconflict =>
    refine ⟨hconflict, ?_⟩
    split at h
    . next target pattern opening closing hinclude =>
      split at h
      . contradiction
      . next hfields =>
        simp only [Bool.or_eq_true, not_or, Bool.not_eq_true, Option.isSome_eq_false_iff,
          Option.isNone_iff_eq_none] at hfields
        cases h
        exact .reference hinclude hfields.1.1.1 hfields.1.1.2 hfields.1.2 hfields.2
    . next pattern opening closing hinclude hmatch =>
      split at h
      . contradiction
      . next hregion =>
        split at h
        . contradiction
        . next hpatterns =>
          split at h
          . contradiction
          . next hphase =>
            simp only [hasPhaseCaptures, Bool.or_eq_true, not_or, Bool.not_eq_true,
              Option.isSome_eq_false_iff, Option.isNone_iff_eq_none] at hregion hpatterns hphase
            cases h
            exact .matching hinclude hmatch hregion.1 hregion.2 hpatterns hphase.1 hphase.2
    . next opening closing hinclude hmatch hbegin hend =>
      cases h
      exact .region hinclude hmatch hbegin hend
    . contradiction
    . contradiction
    . next hinclude hmatch hbegin hend =>
      split at h
      . contradiction
      . next hpatterns =>
        split at h
        . contradiction
        . next hcaptures =>
          simp only [hasPhaseCaptures, Bool.or_eq_true, not_or, Bool.not_eq_true,
            Option.isSome_eq_false_iff, Option.isNone_iff_eq_none] at hcaptures
          rcases Option.ne_none_iff_exists'.mp (by simpa using hpatterns)
            with ⟨children, hchildren⟩
          cases h
          exact .container hinclude hmatch hbegin hend hchildren hcaptures.1 hcaptures.2.1
            hcaptures.2.2

theorem Shows.mode_eq_ok (h : rule.Shows mode) (hconflict : ¬ rule.IsConflicting)
    (path : RulePath) : rule.mode path = .ok mode := by
  rw [isConflicting_iff] at hconflict
  unfold RuleSource.mode
  dsimp only
  rw [if_neg hconflict]
  cases h with
  | reference hinclude hmatch hbegin hend hpatterns =>
    simp [hinclude, hmatch, hbegin, hend, hpatterns]
  | matching hinclude hmatch hbegin hend hpatterns hbegins hends =>
    simp [hinclude, hmatch, hbegin, hend, hpatterns, hasPhaseCaptures, hbegins, hends]
  | region hinclude hmatch hbegin hend => simp [hinclude, hmatch, hbegin, hend]
  | container hinclude hmatch hbegin hend hpatterns hcaptures hbegins hends =>
    simp [hinclude, hmatch, hbegin, hend, hpatterns, hcaptures, hasPhaseCaptures, hbegins, hends]

theorem mode_eq_ok_iff : rule.mode path = .ok mode ↔ ¬ rule.IsConflicting ∧ rule.Shows mode :=
  ⟨shows_of_mode_eq_ok, fun h => h.2.mode_eq_ok h.1 path⟩

theorem exists_toRegion_iff {opening closing : String} (hconflict : ¬ rule.IsConflicting)
    : (∃ region, rule.toRegion path opening closing ids = .ok region)
      ↔ rule.IsValidAs (.region opening closing) := by
  unfold toRegion IsValidAs
  dsimp only
  split
  . next shared hcaptures =>
    have hphase : rule.beginCaptures = none ∧ rule.endCaptures = none := by
      simpa [IsConflicting, hcaptures] using hconflict
    simp only [exists_bind_iff, Except.ok.injEq, exists_eq', and_true, exists_and_right,
      exists_compileAt_iff, CaptureTable.exists_read_iff, hcaptures, hphase,
      CaptureTable.isNumbered_none, true_and]
    rw [and_comm, and_assoc]
  . next hcaptures =>
    simp only [exists_bind_iff, Except.ok.injEq, exists_eq', and_true, exists_and_right,
      exists_compileAt_iff, CaptureTable.exists_read_iff, hcaptures, CaptureTable.isNumbered_none,
      true_and]
    rw [← and_assoc, and_comm, and_assoc]

theorem exists_of_toRegion_eq_ok {opening closing : String} {region : Region}
    (h : rule.toRegion path opening closing ids = .ok region)
    : ∃ first last begins ends,
        compileAt path opening = .ok first ∧ compileAt path closing = .ok last
          ∧ CaptureTable.read path (rule.captures.or rule.beginCaptures) = .ok begins
          ∧ CaptureTable.read path (rule.captures.or rule.endCaptures) = .ok ends
          ∧ region = ⟨first, last, rule.contentName, begins, ends, ids⟩ := by
  unfold toRegion at h
  dsimp only at h
  split at h
  . next shared hcaptures =>
    rcases bind_eq_ok_iff.mp h with ⟨map, hmap, h⟩
    rcases bind_eq_ok_iff.mp h with ⟨maps, heq, h⟩
    cases heq
    rcases bind_eq_ok_iff.mp h with ⟨first, hfirst, h⟩
    rcases bind_eq_ok_iff.mp h with ⟨last, hlast, heq⟩
    cases heq
    rw [hcaptures, Option.some_or, Option.some_or]
    exact ⟨first, last, map, map, hfirst, hlast, hmap, hmap, rfl⟩
  . next hcaptures =>
    rcases bind_eq_ok_iff.mp h with ⟨begins, hbegins, h⟩
    rcases bind_eq_ok_iff.mp h with ⟨ends, hends, h⟩
    rcases bind_eq_ok_iff.mp h with ⟨maps, heq, h⟩
    cases heq
    rcases bind_eq_ok_iff.mp h with ⟨first, hfirst, h⟩
    rcases bind_eq_ok_iff.mp h with ⟨last, hlast, heq⟩
    cases heq
    rw [hcaptures, Option.none_or, Option.none_or]
    exact ⟨first, last, begins, ends, hfirst, hlast, hbegins, hends, rfl⟩

theorem exists_toKind_iff (hconflict : ¬ rule.IsConflicting)
    : (∃ kind, rule.toKind path mode ids = .ok kind) ↔ rule.IsValidAs mode := by
  unfold toKind
  cases mode with
  | reference target => exact exists_map_iff.trans Include.exists_read_iff
  | matching pattern =>
    simp [exists_bind_iff, IsValidAs, ← exists_compileAt_iff path,
      ← CaptureTable.exists_read_iff path]
  | region opening closing => exact exists_map_iff.trans (exists_toRegion_iff hconflict)
  | container => simp [IsValidAs]

/-- A rule is well-formed if its own checks succeed and the rules inside it are well-formed. -/
theorem isWellFormed_iff (path : RulePath) (ids : List RuleId)
    : rule.IsWellFormed
      ↔ (∃ mode, rule.mode path = .ok mode ∧ ∃ kind, rule.toKind path mode ids = .ok kind)
        ∧ ∀ child ∈ rule.patterns.getD [], child.IsWellFormed := by
  constructor
  . rintro ⟨hconflict, hshows, hvalid, hchildren⟩
    refine ⟨⟨_, mode_eq_ok_iff.mpr ⟨hconflict, hshows⟩, ?_⟩, ?_⟩
    . exact (exists_toKind_iff hconflict).mpr hvalid
    . cases hpatterns : rule.patterns with
      | none => simp
      | some children => exact hchildren children hpatterns
  . rintro ⟨⟨mode, hmode, hkind⟩, hchildren⟩
    rcases mode_eq_ok_iff.mp hmode with ⟨hconflict, hshows⟩
    refine .intro hconflict hshows ((exists_toKind_iff hconflict).mp hkind) ?_
    intro children hpatterns
    rw [hpatterns] at hchildren
    exact hchildren

end RuleSource

end TextScopes
