import Mathlib.Data.Prod.Lex
import TextScopes.Proofs.Grammar.Includes
import TextScopes.Proofs.Grammar.RuleFaults
import TextScopes.Proofs.Text.Utf8

/-!
This module contains that the first fault in the rules of a grammar is the one that is reported,
with the place of its rule. The fields of a rule are checked before the rules inside it, and what
they hold behind them. The entries of the repository come before the root patterns.
-/

namespace TextScopes

/-- A place at which something is checked, in a rule or in one of the rules inside it. -/
inductive RuleSpot where
  | fields (check : FieldCheck)
  | inside (index : Nat) (spot : RuleSpot)
  | values (check : ValueCheck)

/-- A place in a grammar at which something is checked about a rule. -/
inductive Spot where
  | entry (name : String) (spot : RuleSpot)
  | pattern (index : Nat) (spot : RuleSpot)

namespace RuleSpot

/-- The way to a spot, which is compared step by step. The checks of which fields a rule has come
before the rules inside it, and those of what the fields hold behind them. -/
def key : RuleSpot → List (FieldCheck ⊕ₗ ℕ ⊕ₗ ValueCheck)
  | fields check => [Sum.inlₗ check]
  | inside index spot => Sum.inrₗ (Sum.inlₗ index) :: spot.key
  | values check => [Sum.inrₗ (Sum.inrₗ check)]

def text : RuleSpot → String
  | fields _ | values _ => ""
  | inside index spot => ".patterns[" ++ toString index ++ "]" ++ spot.text

theorem key_injective : Function.Injective key := by
  intro a b h
  induction a generalizing b with
  | fields check => cases b <;> simp_all [key]
  | inside index spot ih =>
    cases b with
    | fields check => simp [key] at h
    | inside other spot' =>
      simp only [key, List.cons.injEq, EmbeddingLike.apply_eq_iff_eq, Sum.inr.injEq,
        Sum.inl.injEq] at h
      rw [h.1, ih h.2]
    | values check => simp [key] at h
  | values check => cases b <;> simp_all [key]

instance : LinearOrder RuleSpot := LinearOrder.lift' key key_injective

variable {index : Nat} {spot : RuleSpot}

theorem lt_of_key_lt {a b : RuleSpot} (h : a.key < b.key) : a < b := h

theorem monotone_fields : Monotone fields := by
  apply StrictMono.monotone
  intro a b hlt
  exact lt_of_key_lt (.rel (Sum.Lex.inl_lt_inl_iff.mpr hlt))

theorem monotone_values : Monotone values := by
  apply StrictMono.monotone
  intro a b hlt
  exact lt_of_key_lt (.rel (Sum.Lex.inr_lt_inr_iff.mpr (Sum.Lex.inr_lt_inr_iff.mpr hlt)))

theorem monotone_inside
    : Monotone fun spot : ℕ ×ₗ RuleSpot => inside (ofLex spot).1 (ofLex spot).2 := by
  apply StrictMono.monotone
  intro s t hlt
  rcases Prod.Lex.lt_iff.mp hlt with hindex | ⟨hindex, hspot⟩
  . exact lt_of_key_lt (.rel (Sum.Lex.inr_lt_inr_iff.mpr (Sum.Lex.inl_lt_inl_iff.mpr hindex)))
  . dsimp only
    rw [hindex]
    exact lt_of_key_lt (.cons hspot)

theorem fields_lt_inside (check : FieldCheck) : fields check < inside index spot :=
  lt_of_key_lt (.rel (Sum.Lex.inl_lt_inr _ _))

theorem fields_lt_values (field : FieldCheck) (check : ValueCheck) : fields field < values check :=
  lt_of_key_lt (.rel (Sum.Lex.inl_lt_inr _ _))

theorem inside_lt_values (check : ValueCheck) : inside index spot < values check :=
  lt_of_key_lt (.rel (Sum.Lex.inr_lt_inr_iff.mpr (Sum.Lex.inl_lt_inr _ _)))

end RuleSpot

namespace Spot

/-- The entries, by their names, come before the root patterns. -/
def key : Spot → (String ×ₗ RuleSpot) ⊕ₗ (ℕ ×ₗ RuleSpot)
  | entry name spot => Sum.inlₗ (toLex (name, spot))
  | pattern index spot => Sum.inrₗ (toLex (index, spot))

def text : Spot → String
  | entry name spot => "repository." ++ name ++ spot.text
  | pattern index spot => "patterns[" ++ toString index ++ "]" ++ spot.text

theorem key_injective : Function.Injective key := by
  intro a b h
  cases a <;> cases b <;> simp_all [key]

instance : LinearOrder Spot := LinearOrder.lift' key key_injective

theorem entry_lt_entry_iff {name other : String} {s t : RuleSpot}
    : entry name s < entry other t ↔ utf8 name < utf8 other ∨ name = other ∧ s < t := by
  rw [← lt_iff_utf8_lt]
  exact Sum.Lex.inl_lt_inl_iff.trans Prod.Lex.toLex_lt_toLex

theorem monotone_entry (name : String) : Monotone (entry name) := by
  apply StrictMono.monotone
  intro s t hlt
  exact entry_lt_entry_iff.mpr (Or.inr ⟨rfl, hlt⟩)

theorem entry_lt_pattern {name : String} {index : Nat} {s t : RuleSpot}
    : entry name s < pattern index t :=
  Sum.Lex.inl_lt_inr _ _

theorem monotone_pattern
    : Monotone fun spot : ℕ ×ₗ RuleSpot => pattern (ofLex spot).1 (ofLex spot).2 := by
  intro s t h
  exact Sum.Lex.inr_le_inr_iff.mpr h

end Spot

/-- The place that an error about a rule or a pattern is given with. -/
def Error.path? : Error → Option RulePath
  | malformedRule path _ | conflictingCaptures path | invalidCaptureIndex path _ | regex path _ =>
    some path
  | _ => none

namespace RuleSource

/-- What is wrong with a rule at the given place, or with one of the rules inside it. -/
inductive FaultAt : RuleSource → RulePath → RuleSpot → Error → Prop
  | fields {rule : RuleSource} {path : RulePath} {check : FieldCheck} {error : Error}
    (h : rule.HasFieldFault path check error) : FaultAt rule path (.fields check) error
  | inside {rule child : RuleSource} {path : RulePath} {children : List RuleSource} {index : Nat}
    {spot : RuleSpot} {error : Error} (hchildren : rule.patterns = some children)
    (hchild : children[index]? = some child) (h : FaultAt child (.child path index) spot error)
    : FaultAt rule path (.inside index spot) error
  | values {rule : RuleSource} {path : RulePath} {check : ValueCheck} {error : Error}
    (h : rule.HasValueFault path check error) : FaultAt rule path (.values check) error

/-- What is wrong with one of several rules, the first one at a place with the given index. -/
def FaultIn (path : Nat → RulePath) (index : Nat) (sources : List RuleSource)
    (spot : ℕ ×ₗ RuleSpot) (error : Error) : Prop :=
  ∃ (i : Nat) (source : RuleSource) (inner : RuleSpot), sources[i]? = some source
    ∧ spot = toLex (index + i, inner) ∧ source.FaultAt (path (index + i)) inner error

variable {rule source : RuleSource} {path : RulePath} {sources : List RuleSource} {index : Nat}
  {error : Error}

theorem faultAt_iff {spot : RuleSpot}
    : rule.FaultAt path spot error
      ↔ (∃ check, spot = .fields check ∧ rule.HasFieldFault path check error)
        ∨ (∃ inner : ℕ ×ₗ RuleSpot, spot = .inside (ofLex inner).1 (ofLex inner).2
            ∧ FaultIn (.child path) 0 (rule.patterns.getD []) inner error)
        ∨ ∃ check, spot = .values check ∧ rule.HasValueFault path check error := by
  constructor
  . intro h
    cases h with
    | fields h => exact Or.inl ⟨_, rfl, h⟩
    | @inside _ child _ children index spot _ hchildren hchild h =>
      refine Or.inr (Or.inl ⟨toLex (index, spot), rfl, index, child, spot, ?_, ?_, ?_⟩)
      . rw [hchildren]
        exact hchild
      . rw [Nat.zero_add]
      . rw [Nat.zero_add]
        exact h
    | values h => exact Or.inr (Or.inr ⟨_, rfl, h⟩)
  . rintro (⟨check, rfl, h⟩ | ⟨_, rfl, i, child, spot, hchild, rfl, h⟩ | ⟨check, rfl, h⟩)
    . exact .fields h
    . cases hpatterns : rule.patterns with
      | none => simp [hpatterns] at hchild
      | some children =>
        rw [hpatterns] at hchild
        rw [Nat.zero_add] at h ⊢
        exact .inside hpatterns hchild h
    . exact .values h

theorem faultIn_cons {paths : Nat → RulePath} {spot : ℕ ×ₗ RuleSpot}
    : FaultIn paths index (source :: sources) spot error
      ↔ (∃ inner, spot = toLex (index, inner) ∧ source.FaultAt (paths index) inner error)
        ∨ FaultIn paths (index + 1) sources spot error := by
  constructor
  . rintro ⟨i, found, inner, hfound, rfl, h⟩
    cases i with
    | zero =>
      cases hfound
      exact Or.inl ⟨inner, rfl, h⟩
    | succ i =>
      rw [← Nat.succ_add_eq_add_succ] at h ⊢
      exact Or.inr ⟨i, found, inner, hfound, rfl, h⟩
  . rintro (⟨inner, rfl, h⟩ | ⟨i, found, inner, hfound, rfl, h⟩)
    . exact ⟨0, source, inner, rfl, rfl, h⟩
    . rw [Nat.succ_add_eq_add_succ] at h ⊢
      exact ⟨i + 1, found, inner, hfound, rfl, h⟩

theorem monotone_toLex (index : Nat) : Monotone fun spot : RuleSpot => toLex (index, spot) :=
  fun _ _ h => Prod.Lex.toLex_le_toLex.mpr (Or.inr ⟨rfl, h⟩)

theorem not_faultIn_nil {paths : Nat → RulePath} {spot : ℕ ×ₗ RuleSpot}
    : ¬ FaultIn paths index [] spot error := by
  rintro ⟨i, source, inner, hsource, -⟩
  simp at hsource

theorem reportsFirst_of_inside {inside : Except Error (List Rule × List RuleId)}
    (h : ReportsFirst (FaultIn (.child path) 0 (rule.patterns.getD [])) inside)
    {add : List Rule × List RuleId → RuleKind → Except Error (List Rule × RuleId)}
    (hadd : ∀ added kind, ∃ result, add added kind = .ok result)
    : ReportsFirst (rule.FaultAt path) (do
        let mode ← rule.mode path
        let added ← inside
        let kind ← rule.toKind path mode added.2
        add added kind) := by
  have hfields := (reportsFirst_mode rule path).lift RuleSpot.monotone_fields
  have hinside := h.lift RuleSpot.monotone_inside
  have hvalues {mode : RuleMode} (hmode : rule.mode path = .ok mode)
      (added : List Rule × List RuleId) :=
    ((reportsFirst_toKind added.2 hmode).lift RuleSpot.monotone_values).bind_ok (hadd added)
  have hbehind {mode : RuleMode} (hmode : rule.mode path = .ok mode) := by
    apply hinside.bind (fun added _ => hvalues hmode added)
    rintro _ _ _ _ ⟨inner, rfl, -⟩ ⟨check, rfl, -⟩
    exact (RuleSpot.inside_lt_values check).le
  apply ReportsFirst.congr _ fun spot error => faultAt_iff.symm
  apply hfields.bind fun mode hmode => hbehind hmode
  rintro _ _ _ _ ⟨check, rfl, -⟩ (⟨inner, rfl, -⟩ | ⟨other, rfl, -⟩)
  . exact (RuleSpot.fields_lt_inside check).le
  . exact (RuleSpot.fields_lt_values check other).le

mutual

theorem reportsFirst_addTo (source : RuleSource) (rules : List Rule) (path : RulePath)
    : ReportsFirst (source.FaultAt path) (addTo rules path source) := by
  rw [addTo_eq]
  exact reportsFirst_of_inside (reportsFirst_addAllTo _ rules (.child path) 0)
    fun added kind => ⟨(added.1 ++ [⟨source.name, kind⟩], added.1.length), rfl⟩
termination_by sizeOf source
decreasing_by exact sizeOf_patterns_lt source

theorem reportsFirst_addAllTo (sources : List RuleSource) (rules : List Rule)
    (path : Nat → RulePath) (index : Nat)
    : ReportsFirst (FaultIn path index sources) (addAllTo rules path index sources) := by
  match sources with
  | [] => exact fun _ _ => not_faultIn_nil
  | source :: rest =>
    unfold addAllTo
    have hsource : ReportsFirst _ (addTo rules (path index) source) :=
      (reportsFirst_addTo source rules (path index)).lift (monotone_toLex index)
    have hrest (added : List Rule × RuleId) :=
      (reportsFirst_addAllTo rest added.1 path (index + 1)).bind_ok
        fun others => ⟨(others.1, added.2 :: others.2), rfl⟩
    apply ReportsFirst.congr _ fun spot error => faultIn_cons.symm
    apply hsource.bind fun added _ => hrest added
    rintro _ _ _ _ ⟨inner, rfl, -⟩ ⟨i, found, other, -, rfl, -⟩
    have hindex : index < index + 1 + i := by omega
    exact (Prod.Lex.toLex_lt_toLex.mpr (Or.inl hindex)).le
termination_by sizeOf sources

end

theorem text_of_faultAt {spot : RuleSpot} {place : RulePath} (h : rule.FaultAt path spot error)
    (hplace : error.path? = some place) : place.text = path.text ++ spot.text := by
  induction h with
  | fields h =>
    cases h <;> cases hplace <;> exact String.append_empty.symm
  | @inside _ _ path _ index spot _ _ _ _ ih =>
    rw [ih hplace, RulePath.text, RuleSpot.text]
    simp only [String.append_assoc]
    rfl
  | values h =>
    cases h <;> cases hplace <;> exact String.append_empty.symm

end RuleSource

namespace GrammarSource

/-- What is wrong with a rule of a grammar, wherever it stands. -/
inductive FaultAt (source : GrammarSource) : Spot → Error → Prop
  | entry {name : String} {rule : RuleSource} {spot : RuleSpot} {error : Error}
    (hrule : source.repository.get? name = some rule) (h : rule.FaultAt (.entry name) spot error)
    : FaultAt source (.entry name spot) error
  | pattern {index : Nat} {rule : RuleSource} {spot : RuleSpot} {error : Error}
    (hrule : source.patterns[index]? = some rule) (h : rule.FaultAt (.root index) spot error)
    : FaultAt source (.pattern index spot) error

/-- Whether an error is about the first place at which something is wrong with a rule. -/
def IsFirstFault (source : GrammarSource) (spot : Spot) (error : Error) : Prop :=
  source.FaultAt spot error ∧ ∀ other error', source.FaultAt other error' → spot ≤ other

def EntryFault (entries : List (String × RuleSource)) (spot : Spot) (error : Error) : Prop :=
  ∃ entry ∈ entries, ∃ inner, spot = .entry entry.1 inner
    ∧ entry.2.FaultAt (.entry entry.1) inner error

variable {source : GrammarSource} {spot : Spot} {error : Error}

theorem entryFault_cons {name : String} {rule : RuleSource} {entries : List (String × RuleSource)}
    : EntryFault ((name, rule) :: entries) spot error
      ↔ (∃ inner, spot = .entry name inner ∧ rule.FaultAt (.entry name) inner error)
        ∨ EntryFault entries spot error := by
  unfold EntryFault
  rw [List.exists_mem_cons_iff]

theorem faultAt_iff
    : source.FaultAt spot error
      ↔ EntryFault source.repository.entries spot error
        ∨ ∃ inner : ℕ ×ₗ RuleSpot, spot = .pattern (ofLex inner).1 (ofLex inner).2
            ∧ RuleSource.FaultIn .root 0 source.patterns inner error := by
  constructor
  . intro hfault
    cases hfault with
    | entry hrule hfault => exact Or.inl ⟨_, SortedMap.mem_iff.mpr hrule, _, rfl, hfault⟩
    | @pattern index rule spot _ hrule hfault =>
      refine Or.inr ⟨toLex (index, spot), rfl, index, rule, spot, hrule, ?_, ?_⟩
      . rw [Nat.zero_add]
      . rwa [Nat.zero_add]
  . rintro (⟨entry, hentry, inner, rfl, hfault⟩ | ⟨_, rfl, i, rule, inner, hrule, rfl, hfault⟩)
    . exact .entry (SortedMap.mem_iff.mp hentry) hfault
    . rw [Nat.zero_add] at hfault ⊢
      exact .pattern hrule hfault

theorem reportsFirst_addEntries {entries : List (String × RuleSource)}
    (h : entries.Pairwise fun a b => a.1 < b.1) (rules : List Rule) (ids : SortedMap String RuleId)
    : ReportsFirst (EntryFault entries) (addEntries rules ids entries) := by
  induction entries generalizing rules ids with
  | nil =>
    rintro _ _ ⟨entry, hentry, -⟩
    exact List.not_mem_nil hentry
  | cons entry rest ih =>
    rcases entry with ⟨name, rule⟩
    rw [List.pairwise_cons] at h
    have hrule := (rule.reportsFirst_addTo rules (.entry name)).lift (Spot.monotone_entry name)
    unfold addEntries
    apply ReportsFirst.congr _ fun spot error => entryFault_cons.symm
    apply hrule.bind fun added _ => ih h.2 added.1 (ids.insert name added.2)
    rintro _ _ _ _ ⟨inner, rfl, -⟩ ⟨entry, hentry, other, rfl, -⟩
    exact (Spot.entry_lt_entry_iff.mpr (Or.inl (lt_iff_utf8_lt.mp (h.1 entry hentry)))).le

/-- The rules of a grammar are rejected for the first fault of one of them. -/
theorem reportsFirst_arena (source : GrammarSource)
    : ReportsFirst source.FaultAt source.arena := by
  have hpatterns (added : List Rule × SortedMap String RuleId) :=
    ((RuleSource.reportsFirst_addAllTo source.patterns added.1 .root 0).lift
      Spot.monotone_pattern).bind_ok fun all => ⟨(⟨all.1, all.2, added.2⟩ : Arena), rfl⟩
  unfold arena
  apply ReportsFirst.congr _ fun spot error => faultAt_iff.symm
  apply (reportsFirst_addEntries source.repository.ascending [] ∅).bind
    fun added _ => hpatterns added
  rintro _ _ _ _ ⟨entry, -, inner, rfl, -⟩ ⟨other, rfl, -⟩
  exact Spot.entry_lt_pattern.le

theorem text_of_faultAt {place : RulePath} (h : source.FaultAt spot error)
    (hplace : error.path? = some place) : place.text = spot.text := by
  cases h with
  | entry _ h =>
    rw [RuleSource.text_of_faultAt h hplace]
    rfl
  | pattern _ h =>
    rw [RuleSource.text_of_faultAt h hplace]
    rfl

theorem cases_of_build_eq_error (h : source.build = .error error)
    : ((∀ c ∈ source.scopeName.toList, isBlank c) ∧ error = .missingField "scopeName")
      ∨ (∃ pattern fault, source.firstLineMatch = some pattern
          ∧ Regex.compile pattern = .error fault ∧ error = .regex .firstLine fault)
      ∨ source.arena = .error error
      ∨ source.HasValidRules ∧ ∃ arena, source.arena = .ok arena := by
  unfold build at h
  split at h
  . next hblank =>
    cases h
    exact Or.inl ⟨isEmpty_trimBlanks_iff.mp hblank, rfl⟩
  . next hblank =>
    have hscope : ∃ c ∈ source.scopeName.toList, ¬ isBlank c := by
      rw [isEmpty_trimBlanks_iff] at hblank
      simpa using hblank
    -- what is left when the other fields are valid: the rules, then resolving their includes
    have hrules {finish : Arena → Except Error Grammar}
        (hfirst : ∀ pattern, source.firstLineMatch = some pattern → Regex.Compiles pattern)
        (h : (source.arena >>= finish) = .error error)
        : source.arena = .error error
          ∨ source.HasValidRules ∧ ∃ arena, source.arena = .ok arena := by
      cases harena : source.arena with
      | error error' =>
        rw [harena] at h
        cases h
        exact Or.inl rfl
      | ok arena =>
        rcases exists_arena_iff.mp ⟨arena, harena⟩ with ⟨hrepository, hpatterns⟩
        exact Or.inr ⟨⟨hscope, hfirst, hrepository, hpatterns⟩, arena, rfl⟩
    refine Or.inr ?_
    cases hfirst : source.firstLineMatch with
    | none =>
      rw [hfirst] at h
      exact Or.inr (hrules (by simp [hfirst]) h)
    | some pattern =>
      rw [hfirst] at h
      cases hcompile : Regex.compile pattern with
      | error fault =>
        simp only [compileAt, hcompile] at h
        cases h
        exact Or.inl ⟨pattern, fault, rfl, hcompile, rfl⟩
      | ok regex =>
        simp only [compileAt, hcompile] at h
        exact Or.inr (hrules (by simp [hfirst, Regex.Compiles, hcompile]) h)

/-- A grammar that fails to build for its rules fails with the first thing that is wrong with one of
them, and the place of that rule. An entry that does not exist is reported only if nothing is wrong
with any rule, and with the rules of a grammar that builds nothing is wrong. -/
theorem build_reports_first (source : GrammarSource)
    : (∀ error, source.build = .error error →
        ((∀ c ∈ source.scopeName.toList, isBlank c) ∧ error = .missingField "scopeName")
          ∨ (∃ pattern fault, source.firstLineMatch = some pattern
              ∧ Regex.compile pattern = .error fault ∧ error = .regex .firstLine fault)
          ∨ (∃ spot, source.IsFirstFault spot error
              ∧ ∀ place, error.path? = some place → place.text = spot.text)
          ∨ (∀ spot error', ¬ source.FaultAt spot error')
            ∧ ∃ rule name, source.Reaches rule ∧ source.Dangles rule name
              ∧ error = .unresolvedInclude ("#" ++ name))
      ∧ ∀ grammar, source.build = .ok grammar → ∀ spot error, ¬ source.FaultAt spot error := by
  have hreports := reportsFirst_arena source
  constructor
  . intro error hbuild
    rcases cases_of_build_eq_error hbuild with hscope | hfirst | harena | ⟨hvalid, arena, harena⟩
    . exact Or.inl hscope
    . exact Or.inr (Or.inl hfirst)
    . rw [harena] at hreports
      rcases hreports with ⟨spot, hfault, hle⟩
      refine Or.inr (Or.inr (Or.inl ⟨spot, ⟨hfault, hle⟩, ?_⟩))
      intro place hplace
      exact text_of_faultAt hfault hplace
    . rw [harena] at hreports
      have hdangles := hvalid.dangles_of_build_eq_error hbuild
      exact Or.inr (Or.inr (Or.inr ⟨hreports, hdangles⟩))
  . intro grammar hbuild
    rw [(exists_of_build_eq_ok hbuild).1] at hreports
    exact hreports

/-- A grammar in which several rules are wrong: a root pattern does nothing, and in an entry both an
own group and one of the last rule inside it are no numbers, and patterns do not compile. -/
def faultySource : GrammarSource where
  scopeName := "source.faulty"
  patterns := [{}]
  repository := .ofList [("list", {
    beginPattern := some "("
    endPattern := some "\\)"
    captures := some (.ofList [("first", {})])
    patterns := some [
      { includeTarget := some "#missing" },
      { beginPattern := some "["
        endPattern := some "]"
        endCaptures := some (.ofList [("x", {})]) }] })]

theorem build_faultySource
    : ∃ error spot, faultySource.build = .error error ∧ faultySource.IsFirstFault spot error
        ∧ spot.text = "repository.list.patterns[1]" := by
  have hreported : (faultySource.build.map fun _ => ()).mapError Error.path?
      = .error (some (.child (.entry "list") 1)) := by decide +kernel
  cases hbuild : faultySource.build with
  | ok grammar =>
    rw [hbuild] at hreported
    cases hreported
  | error error =>
    rw [hbuild] at hreported
    have hplace : error.path? = some (.child (.entry "list") 1) := Except.error.inj hreported
    rcases (build_reports_first faultySource).1 error hbuild
      with ⟨-, rfl⟩ | ⟨_, _, hfirst, -⟩ | ⟨spot, hfirst, htext⟩ | ⟨-, _, _, -, -, rfl⟩
    . cases hplace
    . cases hfirst
    . exact ⟨error, spot, rfl, hfirst, (htext _ hplace).symm⟩
    . cases hplace

end GrammarSource

end TextScopes
