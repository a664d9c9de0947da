import TextScopes.Proofs.Grammar.CaptureTable
import TextScopes.Proofs.Grammar.WellFormed

/-!
This module contains rules as trees: what is written for a rule and the rules inside it without the
fields that its mode does not use, and the same read back from the list of all rules. A written rule
is compiled into a rule that gives the same tree over the same rules inside.
-/

namespace TextScopes

/-- A rule with the rules inside it in order. Patterns stand as their texts, and what is written for
the groups of a pattern stands by the numbers of the groups. -/
inductive RuleTree where
  | matching (name : Option String) (pattern : String) (captures : CaptureMap)
  | region (name : Option String) (opening closing : String) (contentName : Option String)
    (beginCaptures endCaptures : CaptureMap) (inside : List RuleTree)
  | container (name : Option String) (inside : List RuleTree)
  | reference (name : Option String) (target : Include)

/-- The scopes of the groups in a table. Where two keys are the same number, the later one holds. -/
def CaptureTable.scopes (table : Option CaptureTable) : CaptureMap :=
  .ofList <| (table.getD ∅).entries.filterMap fun (key, capture) => do
    let index ← index? key
    let name ← capture.name
    some (index, name)

/-- The rule that an include stands for, among the rules of the same grammar. -/
def Include.ofTarget (target : String) : Include :=
  match target.toList with
  | '#' :: name => .entry (String.ofList name)
  | _ => .root

namespace RuleSource

/-- The tree of a written rule, given the trees of the rules inside it. Shared captures are those of
both patterns of a region. -/
def treeOver (rule : RuleSource) (inside : List RuleTree) : RuleTree :=
  match rule.includeTarget, rule.matchPattern, rule.beginPattern, rule.endPattern with
  | some target, _, _, _ => .reference rule.name (.ofTarget target)
  | none, some pattern, _, _ => .matching rule.name pattern (CaptureTable.scopes rule.captures)
  | none, none, some opening, some closing =>
    .region rule.name opening closing rule.contentName
      (CaptureTable.scopes (rule.captures.or rule.beginCaptures))
      (CaptureTable.scopes (rule.captures.or rule.endCaptures)) inside
  | none, none, _, _ => .container rule.name inside

mutual

def tree : RuleSource → RuleTree
  | ⟨name, matchPattern, beginPattern, endPattern, contentName, captures, beginCaptures,
      endCaptures, includeTarget, patterns⟩ =>
    let rule : RuleSource := ⟨name, matchPattern, beginPattern, endPattern, contentName, captures,
      beginCaptures, endCaptures, includeTarget, patterns⟩
    rule.treeOver <|
      match patterns with
      | some children => trees children
      | none => []
termination_by structural rule => rule

def trees : List RuleSource → List RuleTree
  | [] => []
  | rule :: rest => tree rule :: trees rest
termination_by structural rules => rules

end

end RuleSource

/-- The tree of a rule, given the trees of the rules inside it. -/
def Rule.treeOver (rule : Rule) (inside : List RuleTree) : RuleTree :=
  match rule.kind with
  | .matching regex captures => .matching rule.name regex.pattern captures
  | .region region =>
    .region rule.name region.opening.pattern region.closing.pattern region.contentName
      region.beginCaptures region.endCaptures inside
  | .container _ => .container rule.name inside
  | .reference target => .reference rule.name target

/-- The tree of a rule whose rules inside are nested less than so many levels deep. -/
def Arena.tree? (arena : Arena) : (levels : Nat) → RuleId → Option RuleTree
  | 0, _ => none
  | levels + 1, id => do
    let rule ← arena.rule? id
    let inside ← rule.children.mapM (arena.tree? levels)
    some (rule.treeOver inside)

variable {path : RulePath} {id : RuleId} {ids : List RuleId}

theorem pattern_of_compileAt {pattern : String} {re : Regex} (h : compileAt path pattern = .ok re)
    : re.pattern = pattern := by
  rcases map_eq_ok_iff.mp (mapError_eq_ok_iff.mp h) with ⟨expr, -, rfl⟩
  rfl

theorem CaptureTable.scopes_eq (table : CaptureTable)
    : scopes (some table) = (table.entries.filterMap named?).foldl
        (fun map entry => map.insert entry.1 entry.2) ∅ := by
  unfold scopes SortedMap.ofList
  congr 2
  funext ⟨key, capture⟩
  unfold named?
  cases hindex : index? key with
  | none => simp [hindex]
  | some index =>
    cases hname : capture.name with
    | none => simp [hindex, hname]
    | some name => simp [hindex, hname]

theorem CaptureTable.scopes_eq_of_read {table : Option CaptureTable} {map : CaptureMap}
    (h : read path table = .ok map) : scopes table = map := by
  cases table with
  | none =>
    cases h
    rfl
  | some table =>
    rw [read_eq] at h
    split at h
    . contradiction
    . cases h
      exact scopes_eq table

theorem Include.ofTarget_of_not_entry {target : String}
    (h : ∀ name, target.toList ≠ '#' :: name) : ofTarget target = .root := by
  unfold ofTarget
  split
  . next name hname => exact absurd hname (h name)
  . rfl

theorem Include.ofTarget_eq_of_read {target : String} {included : Include}
    (h : Include.read target = .ok included) : ofTarget target = included := by
  unfold Include.read at h
  split at h
  . next name htarget =>
    cases h
    unfold ofTarget
    simp only [htarget]
  . next htarget =>
    split at h
    . cases h
      exact ofTarget_of_not_entry htarget
    . contradiction

namespace RuleSource

theorem trees_eq_map {rules : List RuleSource} : trees rules = rules.map tree := by
  induction rules with
  | nil => rw [trees, List.map_nil]
  | cons rule rest ih => rw [trees, List.map_cons, ih]

theorem tree_eq (rule : RuleSource)
    : rule.tree = rule.treeOver ((rule.patterns.getD []).map tree) := by
  rcases rule with ⟨_, _, _, _, _, _, _, _, _, patterns⟩
  unfold tree
  cases patterns with
  | none => rfl
  | some children =>
    dsimp only
    rw [trees_eq_map, Option.getD_some]

theorem children_of_toKind {source : RuleSource} {mode : RuleMode} {kind : RuleKind}
    (hmode : source.mode path = .ok mode) (hkind : source.toKind path mode ids = .ok kind)
    (hlength : ids.length = (source.patterns.getD []).length)
    : Rule.children ⟨source.name, kind⟩ = ids := by
  unfold Rule.children
  cases (mode_eq_ok_iff.mp hmode).2 with
  | reference _ _ _ _ hpatterns =>
    rcases map_eq_ok_iff.mp hkind with ⟨included, -, rfl⟩
    rw [hpatterns] at hlength
    exact (List.length_eq_zero_iff.mp hlength).symm
  | matching _ _ _ _ hpatterns =>
    rcases bind_eq_ok_iff.mp hkind with ⟨regex, -, hkind⟩
    rcases bind_eq_ok_iff.mp hkind with ⟨captures, -, heq⟩
    cases heq
    rw [hpatterns] at hlength
    exact (List.length_eq_zero_iff.mp hlength).symm
  | region =>
    rcases map_eq_ok_iff.mp hkind with ⟨region, hregion, rfl⟩
    rcases exists_of_toRegion_eq_ok hregion with ⟨_, _, _, _, -, -, -, -, rfl⟩
    rfl
  | container =>
    cases hkind
    rfl

/-- What is compiled from a written rule gives the same tree, whatever the rules inside it are. -/
theorem treeOver_of_toKind {source : RuleSource} {mode : RuleMode} {kind : RuleKind}
    (hmode : source.mode path = .ok mode) (hkind : source.toKind path mode ids = .ok kind)
    (inside : List RuleTree)
    : Rule.treeOver ⟨source.name, kind⟩ inside = source.treeOver inside := by
  rcases mode_eq_ok_iff.mp hmode with ⟨hconflict, hshows⟩
  unfold RuleSource.treeOver
  cases hshows with
  | reference hinclude =>
    rcases map_eq_ok_iff.mp hkind with ⟨included, hincluded, rfl⟩
    rw [hinclude]
    dsimp only
    rw [Include.ofTarget_eq_of_read hincluded]
    rfl
  | matching hinclude hmatch =>
    rcases bind_eq_ok_iff.mp hkind with ⟨regex, hregex, hkind⟩
    rcases bind_eq_ok_iff.mp hkind with ⟨captures, hcaptures, heq⟩
    cases heq
    rw [hinclude, hmatch]
    dsimp only
    rw [CaptureTable.scopes_eq_of_read hcaptures, ← pattern_of_compileAt hregex]
    rfl
  | region hinclude hmatch hbegin hend =>
    rcases map_eq_ok_iff.mp hkind with ⟨region, hregion, rfl⟩
    rcases exists_of_toRegion_eq_ok hregion
      with ⟨first, last, begins, ends, hfirst, hlast, hbegins, hends, rfl⟩
    rw [hinclude, hmatch, hbegin, hend]
    dsimp only
    rw [CaptureTable.scopes_eq_of_read hbegins, CaptureTable.scopes_eq_of_read hends,
      ← pattern_of_compileAt hfirst, ← pattern_of_compileAt hlast]
    rfl
  | container hinclude hmatch hbegin hend =>
    cases hkind
    rw [hinclude, hmatch, hbegin, hend]
    rfl

end RuleSource

end TextScopes
