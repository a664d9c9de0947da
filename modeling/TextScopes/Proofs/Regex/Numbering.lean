import TextScopes.Regex.Parser
import TextScopes.Proofs.Regex.Groups
import TextScopes.Proofs.Result

/-!
This module contains how the reader of patterns numbers groups. A group gets its number where it
opens, so the groups inside it get greater ones, and nothing that the builders of expressions do
puts a group into another one.
-/

namespace TextScopes.Regex

namespace Expr

theorem allGroupsFrom_iff {least : Nat} {es : List Expr}
    : AllGroupsFrom least es ↔ ∀ e ∈ es, e.GroupsFrom least := by
  induction es with
  | nil => simp [AllGroupsFrom]
  | cons e es ih => simp [AllGroupsFrom, ih]

mutual

theorem GroupsFrom.mono (e : Expr) {least least' : Nat} (hle : least' ≤ least)
    (h : e.GroupsFrom least) : e.GroupsFrom least' := by
  match e with
  | .empty | .literal _ | .set _ | .look _ => trivial
  | .repetition _ _ _ body => exact GroupsFrom.mono body hle h
  | .group index body => exact ⟨Nat.le_trans hle h.1, h.2⟩
  | .concat parts => exact AllGroupsFrom.mono parts hle h
  | .alternation branches => exact AllGroupsFrom.mono branches hle h

theorem AllGroupsFrom.mono (es : List Expr) {least least' : Nat} (hle : least' ≤ least)
    (h : AllGroupsFrom least es) : AllGroupsFrom least' es := by
  match es with
  | [] => trivial
  | e :: es => exact ⟨GroupsFrom.mono e hle h.1, AllGroupsFrom.mono es hle h.2⟩

end

variable {least : Nat}

theorem groupsFrom_ofSet (chars : CharSet) : (ofSet chars).GroupsFrom least := by
  unfold ofSet
  split
  . trivial
  . trivial

theorem groupsFrom_consPart {part : Expr} {parts : List Expr} (hpart : part.GroupsFrom least)
    (hparts : ∀ e ∈ parts, e.GroupsFrom least) : ∀ e ∈ consPart part parts, e.GroupsFrom least := by
  unfold consPart
  split
  . exact hparts
  . intro e he
    cases he with
    | head => trivial
    | tail _ he => exact hparts e (List.mem_cons_of_mem _ he)
  . intro e he
    cases he with
    | head => exact hpart
    | tail _ he => exact hparts e he

theorem groupsFrom_ofParts {parts : List Expr} (h : ∀ e ∈ parts, e.GroupsFrom least)
    : (ofParts parts).GroupsFrom least := by
  unfold ofParts
  extract_lets flat
  have hflatFrom : ∀ e ∈ flat, e.GroupsFrom least := by
    intro e he
    rcases List.mem_flatMap.mp he with ⟨part, hpart, he⟩
    have hpart := h part hpart
    split at he
    . exact allGroupsFrom_iff.mp hpart e he
    . rw [List.mem_singleton] at he
      rw [he]
      exact hpart
  have hjoined : ∀ e ∈ flat.foldr consPart [], e.GroupsFrom least := by
    clear_value flat
    induction flat with
    | nil => simp
    | cons part flat ih =>
      apply groupsFrom_consPart
      . exact hflatFrom part List.mem_cons_self
      . apply ih
        intro e he
        exact hflatFrom e (List.mem_cons_of_mem part he)
  split
  . trivial
  . next part heq => exact hjoined part (heq ▸ List.mem_singleton_self part)
  . exact allGroupsFrom_iff.mpr hjoined

theorem groupsFrom_flatBranches {branches : List Expr} (h : ∀ e ∈ branches, e.GroupsFrom least)
    : ∀ e ∈ flatBranches branches, e.GroupsFrom least := by
  intro e he
  rcases List.mem_flatMap.mp he with ⟨branch, hbranch, he⟩
  have hbranch := h branch hbranch
  split at he
  . exact allGroupsFrom_iff.mp hbranch e he
  . rw [List.mem_singleton] at he
    rw [he]
    exact hbranch

theorem groupsFrom_ofFlatBranches {branches : List Expr} (h : ∀ e ∈ branches, e.GroupsFrom least)
    : (ofFlatBranches branches).GroupsFrom least := by
  unfold ofFlatBranches
  split
  . trivial
  . next branch => exact h branch (List.mem_singleton_self branch)
  . split
    . apply groupsFrom_ofSet
    . exact allGroupsFrom_iff.mpr h

theorem mem_of_mem_sharedParts {as bs : List Expr} {e : Expr} (h : e ∈ sharedParts as bs)
    : e ∈ as := by
  fun_induction sharedParts as bs with
  | case1 a as b bs hsame ih =>
    cases h with
    | head => apply List.mem_cons_self
    | tail _ h => exact List.mem_cons_of_mem a (ih h)
  | case2 => contradiction
  | case3 => contradiction

theorem mem_of_mem_foldl_sharedParts {first : List Expr} {others : List (List Expr)} {e : Expr}
    (h : e ∈ others.foldl sharedParts first) : e ∈ first := by
  induction others generalizing first with
  | nil => exact h
  | cons other others ih => exact mem_of_mem_sharedParts (ih h)

theorem groupsFrom_of_mapM_parts? {branches : List Expr} {lists : List (List Expr)}
    (h : ∀ e ∈ branches, e.GroupsFrom least) (hlists : branches.mapM parts? = some lists)
    : ∀ parts ∈ lists, ∀ e ∈ parts, e.GroupsFrom least := by
  induction branches generalizing lists with
  | nil =>
    cases hlists
    simp
  | cons branch branches ih =>
    rw [List.mapM_cons] at hlists
    rcases Option.bind_eq_some_iff.mp hlists with ⟨parts, hparts, htail⟩
    rcases Option.bind_eq_some_iff.mp htail with ⟨rest, hrest, heq⟩
    cases heq
    intro parts' hparts'
    cases hparts' with
    | head =>
      have hbranch := h branch List.mem_cons_self
      cases branch with
      | concat inner =>
        cases hparts
        exact allGroupsFrom_iff.mp hbranch
      | _ => contradiction
    | tail _ hparts' =>
      exact ih (fun e he => h e (List.mem_cons_of_mem branch he)) hrest parts' hparts'

theorem groupsFrom_ofBranches {branches : List Expr} (h : ∀ e ∈ branches, e.GroupsFrom least)
    : (ofBranches branches).GroupsFrom least := by
  have hflat := groupsFrom_ofFlatBranches (groupsFrom_flatBranches h)
  unfold ofBranches
  split
  . next flat heq =>
    rw [heq] at hflat
    split
    . next shared tails hshared =>
      unfold sharedBeginning? at hshared
      split at hshared
      . next first second others hlists =>
        have hlists := groupsFrom_of_mapM_parts? (allGroupsFrom_iff.mp hflat) hlists
        split at hshared
        . contradiction
        . cases hshared
          apply groupsFrom_ofParts
          intro e he
          rcases List.mem_append.mp he with he | he
          . exact hlists first List.mem_cons_self e (mem_of_mem_foldl_sharedParts he)
          . rw [List.mem_singleton] at he
            rw [he]
            apply groupsFrom_ofFlatBranches
            apply groupsFrom_flatBranches
            intro tail htail
            rcases List.mem_map.mp htail with ⟨parts, hparts, rfl⟩
            rcases List.mem_map.mp hparts with ⟨whole, hwhole, rfl⟩
            apply groupsFrom_ofParts
            intro e he
            exact hlists whole hwhole e (List.mem_of_mem_drop he)
      . contradiction
    . exact hflat
  . exact hflat

theorem groupsFrom_ofRepetition {low : Nat} {high : Option Nat} {greedy : Bool} {body : Expr}
    (h : body.GroupsFrom least) : (ofRepetition low high greedy body).GroupsFrom least := by
  unfold ofRepetition
  generalize (if body.readsNothing then _ else _ : Nat × Option Nat) = bounds
  dsimp only
  split
  . trivial
  . split
    . exact h
    . exact h

end Expr

/-- The least number for the groups inside open groups, the innermost of which stands first. -/
def leastInside : List OpenGroup → Nat
  | [] => 1
  | group :: outer =>
    match group.index with
    | some index => index + 1
    | none => leastInside outer

/-- Whether everything read in a group so far has its groups numbered from `least` on. -/
def OpenGroup.GroupsFrom (least : Nat) (group : OpenGroup) : Prop :=
  ∀ item ∈ group.branches ++ group.items, item.expr.GroupsFrom least

/-- Whether open groups, the innermost first, have their numbers from the outside to the inside. -/
def Numbered : List OpenGroup → Prop
  | [] => True
  | group :: outer =>
    group.GroupsFrom (leastInside (group :: outer)) ∧ (∀ i ∈ group.index, leastInside outer ≤ i)
      ∧ Numbered outer

/-- The invariant of reading: the open groups are numbered, and the next number is high enough. -/
structure Reader.IsNumbered (r : Reader) : Prop where
  numbered : Numbered (r.group :: r.outer)
  le : leastInside (r.group :: r.outer) ≤ r.groups + 1

namespace OpenGroup

variable {least : Nat} {group : OpenGroup}

theorem GroupsFrom.add {item : Item} (h : group.GroupsFrom least)
    (hitem : item.expr.GroupsFrom least) : (group.add item).GroupsFrom least := by
  intro item' hitem'
  simp only [OpenGroup.add, List.mem_append, List.mem_cons] at hitem'
  rcases hitem' with hmem | rfl | hmem
  . exact h item' (List.mem_append_left _ hmem)
  . exact hitem
  . exact h item' (List.mem_append_right _ hmem)

theorem groupsFrom_branch (h : group.GroupsFrom least) : group.branch.expr.GroupsFrom least := by
  have hitems : ∀ item ∈ group.items, item.expr.GroupsFrom least := by
    intro item hitem
    exact h item (List.mem_append_right _ hitem)
  unfold branch
  split
  . trivial
  . next item heq => exact hitems item (heq ▸ List.mem_singleton_self item)
  . apply Expr.groupsFrom_ofParts
    intro e he
    rcases List.mem_map.mp he with ⟨item, hitem, rfl⟩
    exact hitems item (List.mem_reverse.mp hitem)

theorem GroupsFrom.nextBranch (h : group.GroupsFrom least) : group.nextBranch.GroupsFrom least := by
  intro item hitem
  simp only [OpenGroup.nextBranch, List.append_nil, List.mem_cons] at hitem
  rcases hitem with rfl | hmem
  . exact groupsFrom_branch h
  . exact h item (List.mem_append_left _ hmem)

theorem groupsFrom_body (h : group.GroupsFrom least) : group.body.expr.GroupsFrom least := by
  unfold body
  split
  . exact groupsFrom_branch h
  . apply Expr.groupsFrom_ofBranches
    intro e he
    rcases List.mem_map.mp he with ⟨item, hitem, rfl⟩
    cases List.mem_reverse.mp hitem with
    | head => exact groupsFrom_branch h
    | tail _ hitem => exact h item (List.mem_append_left _ hitem)

end OpenGroup

theorem leastInside_of_some {group : OpenGroup} {outer : List OpenGroup} {index : Nat}
    (h : group.index = some index) : leastInside (group :: outer) = index + 1 := by
  rw [leastInside, h]

theorem leastInside_of_none {group : OpenGroup} {outer : List OpenGroup} (h : group.index = none)
    : leastInside (group :: outer) = leastInside outer := by
  rw [leastInside, h]

theorem leastInside_le {group : OpenGroup} {outer : List OpenGroup}
    (h : Numbered (group :: outer)) : leastInside outer ≤ leastInside (group :: outer) := by
  cases hindex : group.index with
  | none => exact Nat.le_of_eq (leastInside_of_none hindex).symm
  | some index =>
    have := h.2.1 index hindex
    rw [leastInside_of_some hindex]
    omega

theorem Numbered.replace {group next : OpenGroup} {outer : List OpenGroup}
    (h : Numbered (group :: outer)) (hindex : next.index = group.index)
    (hfrom : ∀ {least}, group.GroupsFrom least → next.GroupsFrom least)
    : Numbered (next :: outer) ∧ leastInside (next :: outer) = leastInside (group :: outer) := by
  have hleast : leastInside (next :: outer) = leastInside (group :: outer) := by
    simp [leastInside, hindex]
  refine ⟨⟨?_, ?_, h.2.2⟩, hleast⟩
  . rw [hleast]
    exact hfrom h.1
  . rw [hindex]
    exact h.2.1

theorem groupsFrom_charExpr {least : Nat} (flags : Flags) (c : Char)
    : (flags.charExpr c).GroupsFrom least := by
  unfold Flags.charExpr
  split
  . apply Expr.groupsFrom_ofSet
  . trivial

theorem groupsFrom_dotExpr {least : Nat} {flags : Flags} {e : Expr} (h : flags.dotExpr = .ok e)
    : e.GroupsFrom least := by
  unfold Flags.dotExpr at h
  split at h
  . contradiction
  . split at h
    . cases h
      trivial
    . split at h
      . cases h
        trivial
      . cases h
        trivial

namespace Reader.IsNumbered

variable {r r' : Reader}

theorem replace {next : Reader} (h : r.IsNumbered) (houter : next.outer = r.outer)
    (hgroups : next.groups = r.groups) (hindex : next.group.index = r.group.index)
    (hfrom : ∀ {least}, r.group.GroupsFrom least → next.group.GroupsFrom least)
    : next.IsNumbered := by
  rcases h.numbered.replace hindex hfrom with ⟨hnumbered, hleast⟩
  constructor
  . rw [houter]
    exact hnumbered
  . rw [houter, hleast, hgroups]
    exact h.le

theorem initial : Reader.initial.IsNumbered := by
  refine ⟨⟨?_, ?_, trivial⟩, Nat.le_refl _⟩
  . intro item hitem
    contradiction
  . intro index hindex
    contradiction

theorem add {e : Expr} {depth : Nat} (h : r.IsNumbered) (he : ∀ least, e.GroupsFrom least)
    : (r.add e depth).IsNumbered := by
  exact h.replace rfl rfl rfl (fun hgroup => hgroup.add (he _))

theorem openGroup {flags : Flags} (h : r.IsNumbered) : (r.openGroup flags none).IsNumbered := by
  refine ⟨⟨?_, ?_, h.numbered⟩, h.le⟩
  . intro item hitem
    contradiction
  . intro index hindex
    contradiction

theorem openRecorded (h : r.IsNumbered) : r.openRecorded.IsNumbered := by
  refine ⟨⟨?_, ?_, h.numbered⟩, Nat.le_refl _⟩
  . intro item hitem
    contradiction
  . intro index hindex
    cases hindex
    exact h.le

theorem repeatLast {low : Nat} {high : Option Nat} {greedy : Bool} (h : r.IsNumbered)
    (hr : r.repeatLast low high greedy = .ok r') : r'.IsNumbered := by
  unfold Reader.repeatLast at hr
  split at hr
  . contradiction
  . next item items hitems =>
    split at hr
    . cases hr
      refine h.replace rfl rfl rfl ?_
      intro least hgroup item' hitem'
      simp only [List.mem_append, List.mem_cons] at hitem'
      rcases hitem' with hmem | rfl | hmem
      . exact hgroup item' (List.mem_append_left _ hmem)
      . apply Expr.groupsFrom_ofRepetition
        apply hgroup item
        rw [hitems]
        simp
      . apply hgroup item'
        rw [hitems]
        simp [hmem]
    . contradiction

theorem groupEnd (h : r.IsNumbered) (hr : groupEnd r = .ok r') : r'.IsNumbered := by
  unfold Regex.groupEnd at hr
  split at hr
  . contradiction
  . next parent outer houter =>
    cases hr
    have hnumbered := h.numbered
    have hle := h.le
    rw [houter] at hnumbered hle
    -- a recorded group adds its own number, any other group passes on those inside it
    have hclose : r.group.close.expr.GroupsFrom (leastInside (parent :: outer)) := by
      have hbody := OpenGroup.groupsFrom_body hnumbered.1
      unfold OpenGroup.close
      dsimp only
      split
      . next index hindex =>
        rw [leastInside_of_some hindex] at hbody
        exact ⟨hnumbered.2.1 index hindex, hbody⟩
      . next hindex =>
        rw [leastInside_of_none hindex] at hbody
        exact hbody
    have hleast : leastInside (parent.add r.group.close :: outer)
        = leastInside (parent :: outer) := rfl
    refine ⟨⟨?_, hnumbered.2.2.2.1, hnumbered.2.2.2.2⟩, ?_⟩
    . rw [hleast]
      exact hnumbered.2.2.1.add hclose
    . dsimp only
      rw [hleast]
      exact Nat.le_trans (leastInside_le hnumbered) hle

theorem namedGroup {chars left : List Char} (h : r.IsNumbered)
    (hr : namedGroup r chars = .ok (r', left)) : r'.IsNumbered := by
  rcases bind_eq_ok_iff.mp hr with ⟨⟨name, rest⟩, -, hr⟩
  dsimp only at hr
  split at hr
  . contradiction
  . cases hr
    exact h.openRecorded.replace rfl rfl rfl id

theorem groupStart {chars left : List Char} (h : r.IsNumbered)
    (hr : groupStart r chars = .ok (r', left)) : r'.IsNumbered := by
  unfold Regex.groupStart at hr
  split at hr
  . contradiction
  . contradiction
  . contradiction
  . contradiction
  . exact h.namedGroup hr
  . exact h.namedGroup hr
  . rcases bind_eq_ok_iff.mp hr with ⟨⟨flags, rest⟩, -, hr⟩
    dsimp only at hr
    split at hr
    . cases hr
      exact h.openGroup
    . split at hr
      . contradiction
      . cases hr
        exact h.replace rfl rfl rfl (fun hgroup => hgroup.add trivial)
  . cases hr
    exact h.openRecorded

theorem counted {low : Nat} {high : Option Nat} {greedy : Bool} {chars left : List Char}
    (h : r.IsNumbered)
    (hr : (do .ok (← r.repeatLast low high greedy, chars)) = Except.ok (ε := Fault) (r', left))
    : r'.IsNumbered := by
  rcases bind_eq_ok_iff.mp hr with ⟨next, hnext, heq⟩
  cases heq
  exact h.repeatLast hnext

theorem step {c : Char} {rest left : List Char} (h : r.IsNumbered)
    (hr : r.step c rest = .ok (r', left)) : r'.IsNumbered := by
  unfold Reader.step at hr
  dsimp only at hr
  split at hr
  . exact h.groupStart hr
  . rcases bind_eq_ok_iff.mp hr with ⟨next, hnext, heq⟩
    cases heq
    exact h.groupEnd hnext
  . cases hr
    exact h.replace rfl rfl rfl OpenGroup.GroupsFrom.nextBranch
  . rcases bind_eq_ok_iff.mp hr with ⟨⟨chars, depth, rest⟩, -, heq⟩
    cases heq
    exact h.add (fun least => Expr.groupsFrom_ofSet chars)
  . exact h.counted hr
  . exact h.counted hr
  . exact h.counted hr
  . rcases bind_eq_ok_iff.mp hr with ⟨_, -, hr⟩
    rcases bind_eq_ok_iff.mp hr with ⟨⟨low, high, rest⟩, -, hr⟩
    exact h.counted hr
  . rcases bind_eq_ok_iff.mp hr with ⟨e, he, heq⟩
    cases heq
    exact h.add (fun least => groupsFrom_dotExpr he)
  . cases hr
    exact h.add (fun _ => trivial)
  . cases hr
    exact h.add (fun _ => trivial)
  . rcases bind_eq_ok_iff.mp hr with ⟨⟨item, rest⟩, -, hr⟩
    cases item with
    | char c byte =>
      dsimp only at hr
      split at hr
      . contradiction
      . cases hr
        exact h.add (fun least => groupsFrom_charExpr r.flags c)
    | set chars =>
      cases hr
      exact h.add (fun least => Expr.groupsFrom_ofSet chars)
    | look look =>
      cases hr
      exact h.add (fun _ => trivial)
  . cases hr
    exact h.add (fun least => groupsFrom_charExpr r.flags _)

theorem run_nil {item : Item} (h : r.IsNumbered)
    (hrun : (if r.outer.isEmpty then .ok r.group.body else .error .unclosedGroup)
      = Except.ok (ε := Fault) item)
    : item.expr.GroupsFrom 1 := by
  split at hrun
  . next hempty =>
    cases hrun
    have hnumbered := h.numbered
    rw [List.isEmpty_iff.mp hempty] at hnumbered
    apply Expr.GroupsFrom.mono _ _ (OpenGroup.groupsFrom_body hnumbered.1)
    exact leastInside_le hnumbered
  . contradiction

theorem run {rounds : Nat} {chars : List Char} {item : Item} (h : r.IsNumbered)
    (hrun : Reader.run rounds r chars = .ok item) : item.expr.GroupsFrom 1 := by
  induction rounds generalizing r chars with
  | zero =>
    unfold Reader.run at hrun
    split at hrun
    . exact h.run_nil hrun
    . contradiction
    . contradiction
  | succ rounds ih =>
    unfold Reader.run at hrun
    split at hrun
    . exact h.run_nil hrun
    . contradiction
    . rcases bind_eq_ok_iff.mp hrun with ⟨⟨next, left⟩, hstep, hrest⟩
      next heq =>
        cases heq
        exact ih (h.step hstep) hrest

end Reader.IsNumbered

theorem groupsFrom_of_parse {pattern : List Char} {e : Expr} (h : parse pattern = .ok e)
    : e.GroupsFrom 1 := by
  rcases bind_eq_ok_iff.mp h with ⟨item, hitem, h⟩
  split at h
  . contradiction
  . split at h
    . contradiction
    . cases h
      exact Reader.IsNumbered.initial.run hitem

end TextScopes.Regex
