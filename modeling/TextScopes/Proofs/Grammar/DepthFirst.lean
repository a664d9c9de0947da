import TextScopes.Proofs.Grammar.Expand

/-!
This module contains the order in which includes are followed. It is that of a depth-first search
that enters every rule once: whatever is found stands in this order, and the entry that is reported
as missing is the first one that the search meets.
-/

namespace TextScopes.Arena

/-- The rules that stand in for a rule: those of a container, the entry or the root patterns that it
includes. A rule that matches something has none. -/
def next (arena : Arena) (id : RuleId) : List RuleId :=
  match (arena.rule? id).map Rule.kind with
  | some (.container patterns) => patterns
  | some (.reference .root) => arena.patterns
  | some (.reference (.entry name)) => (arena.repository.get? name).toList
  | some (.matching _ _) | some (.region _) | none => []

def missing? (arena : Arena) (id : RuleId) : Option String :=
  match (arena.rule? id).map Rule.kind with
  | some (.reference (.entry name)) => if arena.repository.contains name then none else some name
  | _ => none

def hasPattern (arena : Arena) (id : RuleId) : Bool :=
  match (arena.rule? id).map Rule.kind with
  | some (.matching _ _) | some (.region _) => true
  | _ => false

/-- The order in which a depth-first search enters the rules that are left, each once, with those
that stand in for a rule directly behind it. -/
inductive Searches (arena : Arena) : (entered pending order : List RuleId) → Prop
  | done {entered : List RuleId} : Searches arena entered [] []
  | pass {id : RuleId} {entered pending order : List RuleId} (h : id ∈ entered)
    (hrest : Searches arena entered pending order) : Searches arena entered (id :: pending) order
  | enter {id : RuleId} {entered pending order : List RuleId} (h : id ∉ entered)
    (hrest : Searches arena (id :: entered) (arena.next id ++ pending) order)
    : Searches arena entered (id :: pending) (id :: order)

/-- Whether one rule leads to another one through containers and includes. -/
def LeadsTo (arena : Arena) : RuleId → RuleId → Prop :=
  Relation.ReflTransGen fun id other => other ∈ arena.next id

def outcome (arena : Arena) (order : List RuleId) (e : Expansion) : Except Error Expansion :=
  match order.findSome? arena.missing? with
  | some name => .error (.unresolvedInclude ("#" ++ name))
  | none => .ok ⟨order.reverse ++ e.visited, e.found ++ order.filter arena.hasPattern⟩

variable {arena : Arena} {id : RuleId} {entered pending order patterns : List RuleId}
  {e : Expansion} {depth : Nat}

namespace Searches

theorem unique {other : List RuleId} (h : arena.Searches entered pending order)
    (hother : arena.Searches entered pending other) : order = other := by
  induction h generalizing other with
  | done =>
    cases hother
    rfl
  | pass h _ ih =>
    cases hother with
    | pass _ hrest => exact ih hrest
    | enter hnew _ => contradiction
  | enter h _ ih =>
    cases hother with
    | pass hold _ => contradiction
    | enter _ hrest => rw [ih hrest]

theorem nodup (h : arena.Searches entered pending order)
    : order.Nodup ∧ ∀ id ∈ order, id ∉ entered := by
  induction h with
  | done => exact ⟨List.nodup_nil, nofun⟩
  | pass _ _ ih => exact ih
  | enter h _ ih =>
    refine ⟨List.nodup_cons.mpr ⟨fun hid => ih.2 _ hid List.mem_cons_self, ih.1⟩, ?_⟩
    intro i hi
    rcases List.mem_cons.mp hi with rfl | hi
    . exact h
    . exact fun hold => ih.2 i hi (List.mem_cons_of_mem _ hold)

theorem exists_leadsTo (h : arena.Searches entered pending order)
    : ∀ id ∈ order, ∃ root ∈ pending, arena.LeadsTo root id := by
  induction h with
  | done => exact nofun
  | pass _ _ ih =>
    intro i hi
    rcases ih i hi with ⟨root, hroot, hleads⟩
    exact ⟨root, List.mem_cons_of_mem _ hroot, hleads⟩
  | enter _ _ ih =>
    intro i hi
    rcases List.mem_cons.mp hi with rfl | hi
    . exact ⟨_, List.mem_cons_self, .refl⟩
    rcases ih i hi with ⟨root, hroot, hleads⟩
    rcases List.mem_append.mp hroot with hroot | hroot
    . exact ⟨_, List.mem_cons_self, .head hroot hleads⟩
    . exact ⟨root, List.mem_cons_of_mem _ hroot, hleads⟩

theorem closed (h : arena.Searches entered pending order)
    : (∀ id ∈ pending, id ∈ entered ++ order)
      ∧ ∀ id ∈ order, ∀ other ∈ arena.next id, other ∈ entered ++ order := by
  induction h with
  | done => exact ⟨nofun, nofun⟩
  | pass h _ ih =>
    refine ⟨?_, ih.2⟩
    intro i hi
    rcases List.mem_cons.mp hi with rfl | hi
    . exact List.mem_append_left _ h
    . exact ih.1 i hi
  | @enter first entered pending order _ _ ih =>
    have hmove {i : RuleId} (hi : i ∈ first :: entered ++ order) : i ∈ entered ++ first :: order :=
      List.perm_middle.symm.subset hi
    refine ⟨?_, ?_⟩
    . intro i hi
      rcases List.mem_cons.mp hi with rfl | hi
      . simp
      . exact hmove (ih.1 i (List.mem_append_right _ hi))
    . intro i hi other hother
      rcases List.mem_cons.mp hi with rfl | hi
      . exact hmove (ih.1 other (List.mem_append_left _ hother))
      . exact hmove (ih.2 i hi other hother)

/-- A search enters exactly the rules to which those that it begins with lead. -/
theorem mem_iff (h : arena.Searches [] patterns order)
    : id ∈ order ↔ ∃ root ∈ patterns, arena.LeadsTo root id := by
  rcases h.closed with ⟨hpatterns, hnext⟩
  rw [List.nil_append] at hpatterns hnext
  constructor
  . exact h.exists_leadsTo id
  . rintro ⟨root, hroot, hleads⟩
    induction hleads with
    | refl => exact hpatterns root hroot
    | tail _ hother ih => exact hnext _ ih _ hother

end Searches

theorem next_eq_nil_of_rule? (h : arena.rule? id = none) : arena.next id = [] := by
  simp [next, h]

theorem exists_searches (arena : Arena) (entered pending : List RuleId)
    : ∃ order, arena.Searches entered pending order := by
  match pending with
  | [] => exact ⟨[], .done⟩
  | id :: pending =>
    by_cases hid : id ∈ entered
    . rcases exists_searches arena entered pending with ⟨order, horder⟩
      exact ⟨order, .pass hid horder⟩
    . cases hrule : arena.rule? id with
      | none =>
        have hle : arena.unvisited (id :: entered) ≤ arena.unvisited entered :=
          unvisited_le fun _ => List.mem_cons_of_mem id
        rcases exists_searches arena (id :: entered) pending with ⟨order, horder⟩
        refine ⟨id :: order, .enter hid ?_⟩
        rw [next_eq_nil_of_rule? hrule]
        exact horder
      | some rule =>
        have hlt := unvisited_cons_lt hrule hid
        rcases exists_searches arena (id :: entered) (arena.next id ++ pending) with ⟨order, horder⟩
        exact ⟨id :: order, .enter hid horder⟩
-- each step enters a rule that was not entered before, or has less left to enter
termination_by (arena.unvisited entered, pending.length)
decreasing_by
  . apply Prod.Lex.right
    simp
  . rcases Nat.lt_or_eq_of_le hle with hlt | heq
    . exact Prod.Lex.left _ _ hlt
    . rw [heq]
      apply Prod.Lex.right
      simp
  . exact Prod.Lex.left _ _ hlt

theorem outcome_append (first last : List RuleId)
    : arena.outcome (first ++ last) e = arena.outcome first e >>= arena.outcome last := by
  unfold outcome
  rw [List.findSome?_append]
  cases first.findSome? arena.missing? with
  | some name => rfl
  | none => simp [bind, Except.bind]

theorem outcome_bind_congr {f g : Expansion → Except Error Expansion}
    (h : f ⟨order.reverse ++ e.visited, e.found ++ order.filter arena.hasPattern⟩
      = g ⟨order.reverse ++ e.visited, e.found ++ order.filter arena.hasPattern⟩)
    : arena.outcome order e >>= f = arena.outcome order e >>= g := by
  unfold outcome
  cases order.findSome? arena.missing? with
  | some name => rfl
  | none => exact h

theorem expand_of_not_mem (hid : id ∉ e.visited)
    : arena.expand (depth + 1) id e
      = arena.outcome [id] e >>= (arena.next id).foldlM (fun e id => arena.expand depth id e) := by
  rw [expand, if_neg (by simpa using hid)]
  unfold outcome missing? next hasPattern standIns
  cases hrule : arena.rule? id with
  | none => simp [hrule, bind, Except.bind, pure, Except.pure]
  | some rule =>
    cases hkind : rule.kind with
    | matching regex captures => simp [hrule, hkind, bind, Except.bind, pure, Except.pure]
    | region region => simp [hrule, hkind, bind, Except.bind, pure, Except.pure]
    | container patterns => simp [hrule, hkind, bind, Except.bind]
    | reference target =>
      cases target with
      | root => simp [hrule, hkind, bind, Except.bind]
      | entry name =>
        cases hget : arena.repository.get? name with
        | none => simp [hrule, hkind, hget, SortedMap.contains, bind, Except.bind]
        | some other => simp [hrule, hkind, hget, SortedMap.contains, bind, Except.bind]

/-- Whether following some rules comes to what the search that enters them comes to, whatever is
left for the search behind them. -/
def Enters (arena : Arena) (ids : List RuleId) (e : Expansion) (result : Except Error Expansion)
    : Prop :=
  ∀ pending order, arena.Searches e.visited (ids ++ pending) order →
    ∃ first rest, order = first ++ rest ∧ arena.Searches (first.reverse ++ e.visited) pending rest
      ∧ result = arena.outcome first e

theorem Enters.foldlM {ids : List RuleId}
    (hexpand : ∀ {id : RuleId} {e : Expansion}, arena.unvisited e.visited < depth →
      arena.Enters [id] e (arena.expand depth id e))
    (hdepth : arena.unvisited e.visited < depth)
    : arena.Enters ids e (ids.foldlM (fun e id => arena.expand depth id e) e) := by
  induction ids generalizing e with
  | nil => exact fun pending order h => ⟨[], order, rfl, h, by simp [outcome, pure, Except.pure]⟩
  | cons id ids ih =>
    intro pending order h
    rcases hexpand hdepth (ids ++ pending) order h with ⟨first, rest, rfl, hrest, hfirst⟩
    have hmid : arena.unvisited (first.reverse ++ e.visited) < depth :=
      Nat.lt_of_le_of_lt (unvisited_le fun _ => List.mem_append_right _) hdepth
    rcases ih (e := ⟨first.reverse ++ e.visited, e.found ++ first.filter arena.hasPattern⟩) hmid
      pending rest hrest with ⟨next, last, rfl, hlast, hnext⟩
    refine ⟨first ++ next, last, by rw [List.append_assoc], ?_, ?_⟩
    . simpa using hlast
    . rw [List.foldlM_cons, hfirst, outcome_append]
      exact outcome_bind_congr hnext

theorem enters_expand (hdepth : arena.unvisited e.visited < depth)
    : arena.Enters [id] e (arena.expand depth id e) := by
  induction depth generalizing id e with
  | zero => contradiction
  | succ depth ih =>
    intro pending order h
    cases h with
    | pass hid hrest =>
      refine ⟨[], order, rfl, hrest, ?_⟩
      rw [expand, if_pos (by simpa using hid)]
      simp [outcome]
    | @enter _ _ _ order hid hrest =>
      rw [expand_of_not_mem hid]
      cases hrule : arena.rule? id with
      | none =>
        rw [next_eq_nil_of_rule? hrule] at hrest ⊢
        exact ⟨[id], order, rfl, hrest, bind_pure _⟩
      | some rule =>
        -- the rule was not entered before, so that a level is left for each of those behind it
        have hmid : arena.unvisited (id :: e.visited) < depth := by
          have := unvisited_cons_lt hrule hid
          omega
        rcases Enters.foldlM ih
          (e := ⟨[id].reverse ++ e.visited, e.found ++ [id].filter arena.hasPattern⟩) hmid pending
          order hrest with ⟨first, rest, rfl, hlast, hnext⟩
        refine ⟨id :: first, rest, rfl, by simpa using hlast, ?_⟩
        exact (outcome_bind_congr hnext).trans (outcome_append [id] first).symm

theorem resolveSet_eq_of_searches (h : arena.Searches [] patterns order)
    : arena.resolveSet patterns
      = match order.findSome? arena.missing? with
        | some name => .error (.unresolvedInclude ("#" ++ name))
        | none => .ok ⟨order.filter arena.hasPattern⟩ := by
  have hdepth : arena.unvisited [] < arena.rules.length + 1 := by simp [unvisited]
  rcases Enters.foldlM enters_expand (e := ⟨[], []⟩) hdepth [] order (by simpa using h)
    with ⟨first, rest, rfl, hrest, hfold⟩
  cases hrest
  unfold resolveSet
  rw [hfold, List.append_nil]
  unfold outcome
  cases first.findSome? arena.missing? with
  | some name => rfl
  | none => simp [bind, Except.bind]

theorem exists_missing_of_resolveSet {error : Error} (h : arena.resolveSet patterns = .error error)
    : ∃ root ∈ patterns, ∃ id name, arena.LeadsTo root id ∧ arena.missing? id = some name
      ∧ error = .unresolvedInclude ("#" ++ name) := by
  rcases exists_searches arena [] patterns with ⟨order, horder⟩
  rw [resolveSet_eq_of_searches horder] at h
  split at h
  . next name hfirst =>
    cases h
    rcases List.exists_of_findSome?_eq_some hfirst with ⟨id, hid, hname⟩
    rcases horder.mem_iff.mp hid with ⟨root, hroot, hleads⟩
    exact ⟨root, hroot, id, name, hleads, hname, rfl⟩
  . contradiction

theorem follows_of_mem_next {other : RuleId} (h : other ∈ arena.next id)
    : arena.Follows id other := by
  unfold next at h
  split at h
  . next patterns hkind =>
    rcases Option.map_eq_some_iff.mp hkind with ⟨rule, hrule, hkind⟩
    exact ⟨rule, patterns, hrule, by simp [standIns, hkind], h⟩
  . next hkind =>
    rcases Option.map_eq_some_iff.mp hkind with ⟨rule, hrule, hkind⟩
    exact ⟨rule, arena.patterns, hrule, by simp [standIns, hkind], h⟩
  . next name hkind =>
    rcases Option.map_eq_some_iff.mp hkind with ⟨rule, hrule, hkind⟩
    have hget : arena.repository.get? name = some other := Option.mem_toList.mp h
    exact ⟨rule, [other], hrule, by simp [standIns, hkind, hget], by simp⟩
  . contradiction
  . contradiction
  . contradiction

theorem LeadsTo.leads {root : RuleId} (h : arena.LeadsTo root id) : arena.Leads root id :=
  Relation.ReflTransGen.mono (fun _ _ => follows_of_mem_next) _ _ h

theorem exists_rule_of_missing? {name : String} (h : arena.missing? id = some name)
    : ∃ rule, arena.rule? id = some rule ∧ rule.kind = .reference (.entry name)
      ∧ arena.repository.get? name = none := by
  unfold missing? at h
  split at h
  . next other hkind =>
    rcases Option.map_eq_some_iff.mp hkind with ⟨rule, hrule, hkind⟩
    split at h
    . contradiction
    . next hget =>
      cases h
      exact ⟨rule, hrule, hkind, by simpa [SortedMap.contains] using hget⟩
  . contradiction

theorem not_isSettled_of_missing? {name : String} (h : arena.missing? id = some name)
    : ¬ arena.IsSettled id := by
  rcases exists_rule_of_missing? h with ⟨rule, hrule, hkind, hget⟩
  simp [IsSettled, hrule, standIns, hkind, hget]

/-- The rules that can match where given ones are active are found by a depth-first search. It ends
however includes go in circles, and enters exactly the rules to which the given ones lead. There is
an error exactly if one of these includes an entry that does not exist, and it names the first such
entry that the search meets. Else the rules found are those entered that have a pattern, each once,
in the order of the search. -/
theorem resolveSet_depthFirst (arena : Arena) (patterns : List RuleId)
    : ∃ order, arena.Searches [] patterns order
      ∧ (∀ other, arena.Searches [] patterns other → other = order)
      ∧ order.Nodup
      ∧ (∀ id, id ∈ order ↔ ∃ root ∈ patterns, arena.LeadsTo root id)
      ∧ ((∃ error, arena.resolveSet patterns = .error error)
        ↔ ∃ root ∈ patterns, ∃ id, arena.LeadsTo root id ∧ ∃ name, arena.missing? id = some name)
      ∧ (∀ name, order.findSome? arena.missing? = some name →
        arena.resolveSet patterns = .error (.unresolvedInclude ("#" ++ name)))
      ∧ (order.findSome? arena.missing? = none →
        ∃ set, arena.resolveSet patterns = .ok set ∧ set.rules = order.filter arena.hasPattern
          ∧ ∀ id, set.contains id ↔ id ∈ set.rules) := by
  rcases exists_searches arena [] patterns with ⟨order, horder⟩
  have hresolve := resolveSet_eq_of_searches horder
  refine ⟨order, horder, fun _ hother => hother.unique horder, horder.nodup.1,
    fun _ => horder.mem_iff, ?_, ?_, ?_⟩
  . constructor
    . rintro ⟨error, herror⟩
      rcases exists_missing_of_resolveSet herror with ⟨root, hroot, id, name, hleads, hname, -⟩
      exact ⟨root, hroot, id, hleads, name, hname⟩
    . rintro ⟨root, hroot, id, hleads, name, hname⟩
      have hid := horder.mem_iff.mpr ⟨root, hroot, hleads⟩
      rw [hresolve]
      cases hfirst : order.findSome? arena.missing? with
      | some first => exact ⟨_, rfl⟩
      | none =>
        rw [List.findSome?_eq_none_iff.mp hfirst id hid] at hname
        contradiction
  . intro name hname
    rw [hresolve, hname]
  . intro hnone
    rw [hresolve, hnone]
    exact ⟨_, rfl, rfl, fun id => by simp [ActiveSet.contains]⟩

/-- Two entries that include each other: the first one comes to its own pattern, at `1`, only behind
what the other one has, at `4`. -/
example (regex : Regex)
    : let rule (kind : RuleKind) : Rule := ⟨none, kind⟩
      let arena : Arena :=
        ⟨[rule (.reference (.entry "b")), rule (.matching regex ∅), rule (.container [0, 1]),
            rule (.reference (.entry "a")), rule (.matching regex ∅), rule (.container [3, 4]),
            rule (.reference (.entry "a"))],
          [6], .ofList [("a", 2), ("b", 5)]⟩
      arena.resolveSet arena.patterns = .ok ⟨[4, 1]⟩ := by
  rfl

end TextScopes.Arena
