import TextScopes.Proofs.Grammar.Paths
import TextScopes.Proofs.Grammar.Rename
import TextScopes.Proofs.Tokenizer.Renumber

/-!
This module contains that only the rules that are reached from the root patterns matter for a text.
Grammars with the same such rules give the same spans and runs, whatever the numbers of the rules
and the names of the entries are, and whatever other entries there are.
-/

namespace TextScopes

def RulePath.rename (f : String → String) : RulePath → RulePath
  | .entry name => .entry (f name)
  | .child parent index => .child (parent.rename f) index
  | path => path

theorem eq_of_compileAt {path path' : RulePath} {pattern : String} {re re' : Regex}
    (h : compileAt path pattern = .ok re) (h' : compileAt path' pattern = .ok re') : re = re' := by
  have hcompile := mapError_eq_ok_iff.mp h
  exact Except.ok.inj (hcompile.symm.trans (mapError_eq_ok_iff.mp h'))

theorem CaptureTable.eq_of_read {path path' : RulePath} {table : Option CaptureTable}
    {map map' : CaptureMap} (h : read path table = .ok map) (h' : read path' table = .ok map')
    : map = map' := by
  rw [← scopes_eq_of_read h, ← scopes_eq_of_read h']

namespace RuleSource

variable {rules : List Rule} {ids : List RuleId} {sources : List RuleSource} {index : Nat}
  {id : RuleId} {rule : RuleSource} {path path' : RulePath}

theorem StandAt.exists_getElem?_source (h : StandAt rules ids sources) (hid : ids[index]? = some id)
    : ∃ source, sources[index]? = some source ∧ source.StandsAt rules id := by
  have hlt : index < sources.length := h.1 ▸ (List.getElem?_eq_some_iff.mp hid).1
  have hsource := List.getElem?_eq_getElem hlt
  exact ⟨_, hsource, h.2 index id _ hid hsource⟩

theorem StandAt.exists_getElem?_id (h : StandAt rules ids sources)
    (hrule : sources[index]? = some rule)
    : ∃ id, ids[index]? = some id ∧ rule.StandsAt rules id := by
  have hlt : index < ids.length := h.1 ▸ (List.getElem?_eq_some_iff.mp hrule).1
  have hid := List.getElem?_eq_getElem hlt
  exact ⟨_, hid, h.2 index _ rule hid hrule⟩

theorem corresponds_of_read {arena other : Arena} {f : RuleId → RuleId} {g : String → String}
    {target : String} {included included' : Include} (h : Include.read target = .ok included)
    (h' : Include.read (Include.rename g target) = .ok included')
    (hentry : ∀ name, included = .entry name → ∃ id,
      arena.repository.get? name = some id ∧ other.repository.get? (g name) = some (f id))
    : arena.Corresponds other f (.reference included) (.reference included') := by
  cases included with
  | entry name =>
    have htarget := Include.read_eq_entry_iff.mp h
    have htarget' : (Include.rename g target).toList = '#' :: (g name).toList :=
      Include.toList_rename_iff.mpr ⟨name, htarget, rfl⟩
    cases h'.symm.trans (Include.read_eq_entry_iff.mpr htarget')
    rcases hentry name rfl with ⟨id, hid, hid'⟩
    exact .entry hid hid'
  | root =>
    have hnot : ∀ chars, target.toList ≠ '#' :: chars := by
      intro chars hchars
      have hname : target.toList = '#' :: (String.ofList chars).toList := by
        rw [hchars, String.toList_ofList]
      cases h.symm.trans (Include.read_eq_entry_iff.mpr hname)
    rw [Include.rename_of_not_entry hnot, h] at h'
    cases h'
    exact .root

theorem eq_of_toRegion {g : String → String} {ids' : List RuleId} {opening closing : String}
    {region region' : Region} (h : rule.toRegion path opening closing ids = .ok region)
    (h' : (rule.rename g).toRegion path' opening closing ids' = .ok region')
    : region' = { region with patterns := ids' } := by
  rw [rename_eq] at h'
  rcases exists_of_toRegion_eq_ok h
    with ⟨first, last, begins, ends, hfirst, hlast, hbegins, hends, rfl⟩
  rcases exists_of_toRegion_eq_ok h'
    with ⟨first', last', begins', ends', hfirst', hlast', hbegins', hends', rfl⟩
  cases eq_of_compileAt hfirst hfirst'
  cases eq_of_compileAt hlast hlast'
  cases CaptureTable.eq_of_read hbegins hbegins'
  cases CaptureTable.eq_of_read hends hends'
  rfl

theorem corresponds_of_toKind {arena other : Arena} {f : RuleId → RuleId} {g : String → String}
    {ids' : List RuleId} {mode mode' : RuleMode} {kind kind' : RuleKind}
    (hmode : rule.mode path = .ok mode) (hkind : rule.toKind path mode ids = .ok kind)
    (hmode' : (rule.rename g).mode path' = .ok mode')
    (hkind' : (rule.rename g).toKind path' mode' ids' = .ok kind') (hids : ids' = ids.map f)
    (hentry : ∀ name, kind = .reference (.entry name) → ∃ id,
      arena.repository.get? name = some id ∧ other.repository.get? (g name) = some (f id))
    : arena.Corresponds other f kind kind' := by
  rcases mode_eq_ok_iff.mp hmode with ⟨-, hshows⟩
  have hrenamed : (rule.rename g).mode path' = .ok (mode.rename g) :=
    mode_eq_ok_iff.mpr ⟨(mode_eq_ok_iff.mp hmode').1, hshows.rename⟩
  cases hmode'.symm.trans hrenamed
  cases hshows with
  | reference =>
    rcases map_eq_ok_iff.mp hkind with ⟨included, hincluded, rfl⟩
    rcases map_eq_ok_iff.mp hkind' with ⟨included', hincluded', rfl⟩
    exact corresponds_of_read hincluded hincluded' fun name hname => hentry name (hname ▸ rfl)
  | matching =>
    rcases bind_eq_ok_iff.mp hkind with ⟨regex, hregex, hkind⟩
    rcases bind_eq_ok_iff.mp hkind with ⟨captures, hcaptures, heq⟩
    rcases bind_eq_ok_iff.mp hkind' with ⟨regex', hregex', hkind'⟩
    rcases bind_eq_ok_iff.mp hkind' with ⟨captures', hcaptures', heq'⟩
    rw [rename_eq] at hcaptures'
    cases eq_of_compileAt hregex hregex'
    cases CaptureTable.eq_of_read hcaptures hcaptures'
    cases heq
    cases heq'
    exact .matching regex captures
  | region =>
    rcases map_eq_ok_iff.mp hkind with ⟨region, hregion, rfl⟩
    rcases map_eq_ok_iff.mp hkind' with ⟨region', hregion', rfl⟩
    rw [eq_of_toRegion hregion hregion', hids, ← patterns_of_toRegion hregion]
    exact .region region
  | container =>
    cases hkind
    cases hkind'
    rw [hids]
    exact .container ids

end RuleSource

namespace Arena

/-- Whether two rules stand on the same path, but for the name of the entry it begins with. -/
def Matches (arena other : Arena) (g : String → String) (id id' : RuleId) : Prop :=
  ∃ path, arena.at? path = some id ∧ other.at? (path.rename g) = some id'

variable {arena other : Arena} {g : String → String} {f : RuleId → RuleId} {id id' : RuleId}
  {ids ids' : List RuleId} {path path' : RulePath}

theorem rename_inj (hg : Set.InjOn g {name | ∃ id, arena.repository.get? name = some id})
    (hpath : arena.at? path = some id) (hpath' : arena.at? path' = some id')
    (h : path.rename g = path'.rename g) : path = path' := by
  induction path generalizing path' id id' with
  | firstLine => contradiction
  | root index =>
    cases path' with
    | root index' => exact h
    | firstLine => contradiction
    | _ => cases h
  | entry name =>
    cases path' with
    | entry name' => rw [hg ⟨id, hpath⟩ ⟨id', hpath'⟩ (RulePath.entry.inj h)]
    | _ => cases h
  | child parent index ih =>
    cases path' with
    | child parent' index' =>
      rcases at?_child_eq_some_iff.mp hpath with ⟨p, rule, hparent, -, -⟩
      rcases at?_child_eq_some_iff.mp hpath' with ⟨p', rule', hparent', -, -⟩
      rcases RulePath.child.inj h with ⟨hrename, rfl⟩
      rw [ih hparent hparent' hrename]
    | _ => cases h

theorem Matches.eq (h : arena.Matches other g id id') {next : RuleId}
    (hnext : arena.Matches other g id next) (hforest : arena.IsForest) : id' = next := by
  rcases h with ⟨path, hpath, hrename⟩
  rcases hnext with ⟨path', hpath', hrename'⟩
  cases hforest.path_eq hpath hpath'
  exact Option.some.inj (hrename.symm.trans hrename')

theorem Matches.injective (h : arena.Matches other g id id') {next : RuleId}
    (hnext : arena.Matches other g next id') (hforest : other.IsForest)
    (hg : Set.InjOn g {name | ∃ id, arena.repository.get? name = some id}) : id = next := by
  rcases h with ⟨path, hpath, hrename⟩
  rcases hnext with ⟨path', hpath', hrename'⟩
  cases rename_inj hg hpath hpath' (hforest.path_eq hrename hrename')
  exact Option.some.inj (hpath.symm.trans hpath')

theorem exists_map_of_matches (arena other : Arena) (g : String → String) (hforest : arena.IsForest)
    : ∃ f : RuleId → RuleId, ∀ id id', arena.Matches other g id id' → f id = id' := by
  refine ⟨fun id => Classical.epsilon (arena.Matches other g id), ?_⟩
  intro id id' hid
  exact (Classical.epsilon_spec ⟨id', hid⟩).eq hid hforest

theorem eq_map_of_matches (hf : ∀ id id', arena.Matches other g id id' → f id = id')
    (hlength : ids'.length = ids.length)
    (h : ∀ (index : Nat) (id : RuleId), ids[index]? = some id →
      ∃ id', ids'[index]? = some id' ∧ arena.Matches other g id id')
    : ids' = ids.map f := by
  apply List.ext_getElem?
  intro index
  rw [List.getElem?_map]
  cases hid : ids[index]? with
  | none =>
    rw [List.getElem?_eq_none_iff] at hid
    rw [Option.map_none, List.getElem?_eq_none_iff, hlength]
    exact hid
  | some id =>
    rcases h index id hid with ⟨id', hid', hmatches⟩
    rw [hid', Option.map_some, hf id id' hmatches]

end Arena

namespace GrammarSource.IsRenamedIn

variable {source target : GrammarSource} {arena other : Arena} {g : String → String} {id : RuleId}
  {path : RulePath}

theorem exists_standsAt (h : source.IsRenamedIn target g) (harena : source.Holds arena)
    (hother : target.Holds other) (hpath : arena.at? path = some id)
    : ∃ (id' : RuleId) (rule : RuleSource), other.at? (path.rename g) = some id'
      ∧ rule.StandsAt arena.rules id ∧ (rule.rename g).StandsAt other.rules id' := by
  induction path generalizing id with
  | firstLine => contradiction
  | root index =>
    rcases harena.patterns.exists_getElem?_source hpath with ⟨rule, hrule, hstands⟩
    have hrenamed : target.patterns[index]? = some (rule.rename g) := by
      rw [h.patterns, List.getElem?_map, hrule]
      rfl
    rcases hother.patterns.exists_getElem?_id hrenamed with ⟨id', hid', hstands'⟩
    exact ⟨id', rule, hid', hstands, hstands'⟩
  | entry name =>
    cases hget : source.repository.get? name with
    | none =>
      rw [Arena.at?, harena.missing hget] at hpath
      contradiction
    | some rule =>
      rcases harena.entry hget with ⟨id, hid, hstands⟩
      cases hpath.symm.trans hid
      rcases hother.entry (h.entry hget) with ⟨id', hid', hstands'⟩
      exact ⟨id', rule, hid', hstands, hstands'⟩
  | child path index ih =>
    rcases Arena.at?_child_eq_some_iff.mp hpath with ⟨parent, encoded, hparent, hencoded, hchild⟩
    rcases ih hparent with ⟨parent', rule, hparent', hstands, hstands'⟩
    rcases hstands.exists_rule with ⟨_, hrule, hstand, -⟩
    cases hencoded.symm.trans hrule
    rcases hstands'.exists_rule with ⟨encoded', hrule', hstand', -⟩
    rcases hstand.exists_getElem?_source hchild with ⟨child, hget, hchildStands⟩
    have hrenamed : ((rule.rename g).patterns.getD [])[index]? = some (child.rename g) := by
      rw [RuleSource.getD_patterns_rename, List.getElem?_map, hget]
      rfl
    rcases hstand'.exists_getElem?_id hrenamed with ⟨id', hid', hchildStands'⟩
    exact ⟨id', child, Arena.at?_child_eq_some_iff.mpr ⟨parent', encoded', hparent', hrule', hid'⟩,
      hchildStands, hchildStands'⟩

theorem exists_matches (h : source.IsRenamedIn target g) (harena : source.Holds arena)
    (hother : target.Holds other) (hpath : arena.at? path = some id)
    : ∃ id', other.at? (path.rename g) = some id' ∧ arena.Matches other g id id' := by
  rcases h.exists_standsAt harena hother hpath with ⟨id', rule, hpath', -, -⟩
  exact ⟨id', hpath', path, hpath, hpath'⟩

theorem injOn_repository (h : source.IsRenamedIn target g) (harena : source.Holds arena)
    : Set.InjOn g {name | ∃ id, arena.repository.get? name = some id} := by
  apply h.injOn.mono
  rintro name ⟨id, hid⟩
  refine SortedMap.mem_keys_iff.mpr (Option.ne_none_iff_exists'.mp ?_)
  intro hnone
  cases (harena.missing hnone).symm.trans hid

theorem exists_corresponds (h : source.IsRenamedIn target g) (harena : source.Holds arena)
    (hother : target.Holds other) {f : RuleId → RuleId}
    (hf : ∀ id id', arena.Matches other g id id' → f id = id')
    (hpath : arena.at? path = some id) (hsettled : arena.IsSettled id)
    : ∃ name kind kind', arena.rule? id = some ⟨name, kind⟩
      ∧ other.rule? (f id) = some ⟨name, kind'⟩ ∧ arena.Corresponds other f kind kind' := by
  rcases h.exists_standsAt harena hother hpath with ⟨id', rule, hpath', hstands, hstands'⟩
  have hid' := hf id id' ⟨path, hpath, hpath'⟩
  cases hstands with
  | @intro _ _ _ mode kind ids hmode hkind hrule hlength _ =>
  cases hstands' with
  | @intro _ _ _ mode' kind' ids' hmode' hkind' hrule' hlength' _ =>
  have hchildren := RuleSource.children_of_toKind hmode hkind hlength
  have hchildren' := RuleSource.children_of_toKind hmode' hkind' hlength'
  -- the path of a rule inside the rule continues the path of the rule itself
  have hids : ids' = ids.map f := by
    refine Arena.eq_map_of_matches hf ?_ ?_
    . rw [hlength', hlength, RuleSource.getD_patterns_rename, List.length_map]
    . intro index child hchild
      rw [← hchildren] at hchild
      rcases h.exists_matches harena hother
          (Arena.at?_child_eq_some_iff.mpr ⟨id, _, hpath, hrule, hchild⟩)
        with ⟨child', hat, hmatch⟩
      rcases Arena.at?_child_eq_some_iff.mp hat with ⟨_, _, hparent, hencoded, hchild'⟩
      cases hpath'.symm.trans hparent
      cases hrule'.symm.trans hencoded
      rw [hchildren'] at hchild'
      exact ⟨child', hchild', hmatch⟩
  refine ⟨rule.name, kind, kind', hrule, ?_,
    RuleSource.corresponds_of_toKind hmode hkind hmode' hkind' hids ?_⟩
  . rw [hid', Arena.rule?, hrule', RuleSource.rename_eq]
  . intro name hname
    rcases (Arena.isSettled_iff hrule).mp hsettled name hname with ⟨entry, hentry⟩
    have hat : arena.at? (.entry name) = some entry := hentry
    rcases h.exists_matches harena hother hat with ⟨entry', hentry', hmatch⟩
    rw [← hf entry entry' hmatch] at hentry'
    exact ⟨entry, hentry, hentry'⟩

theorem exists_renumbers (h : source.IsRenamedIn target g) (harena : source.arena = .ok arena)
    (hother : target.arena = .ok other)
    (hsettled : ∀ id, arena.Reaches id → arena.IsSettled id)
    : ∃ f, arena.Renumbers other f := by
  have hholds := holds_of_arena harena
  have hholds' := holds_of_arena hother
  have hforest := Arena.isForest_of_arena harena
  have hforest' := Arena.isForest_of_arena hother
  rcases Arena.exists_map_of_matches arena other g hforest with ⟨f, hf⟩
  refine ⟨f, ?_, ?_, ?_⟩
  . intro id hid next hnext heq
    rcases Arena.Reaches.exists_at? hid with ⟨path, hpath⟩
    rcases Arena.Reaches.exists_at? hnext with ⟨path', hpath'⟩
    rcases h.exists_matches hholds hholds' hpath with ⟨id', -, hid'⟩
    rcases h.exists_matches hholds hholds' hpath' with ⟨next', -, hnext'⟩
    obtain rfl : id' = next' := by rw [← hf id id' hid', ← hf next next' hnext', heq]
    exact hid'.injective hnext' hforest' (h.injOn_repository hholds)
  . have hlength : other.patterns.length = arena.patterns.length := by
      rw [hholds.patterns.1, hholds'.patterns.1, h.patterns, List.length_map]
    refine Arena.eq_map_of_matches hf hlength ?_
    intro index id hid
    have hroot : arena.at? (.root index) = some id := hid
    exact h.exists_matches hholds hholds' hroot
  . intro id hid
    rcases hid.exists_at? with ⟨path, hpath⟩
    exact h.exists_corresponds hholds hholds' hf hpath (hsettled id hid)

end GrammarSource.IsRenamedIn

namespace GrammarSource

/-- Grammars with the same rules reached from the root patterns give the same spans and runs for
every text. So the names of entries make no difference, nor do entries that are not reached. -/
theorem highlight_eq_of_reached {source other : GrammarSource} {grammar : Grammar}
    (h : source.build = .ok grammar) (hscopeName : other.scopeName = source.scopeName)
    : (∀ grammar' f, other.build = .ok grammar' → grammar.arena.Renumbers grammar'.arena f →
        ∀ text, grammar'.tokenize text = grammar.tokenize text
          ∧ ∀ merge, grammar'.highlight merge text = grammar.highlight merge text)
      ∧ ∀ g, source.IsRenamedIn other g →
        (∀ name rule, other.repository.get? name = some rule →
          (∃ name' ∈ source.repository.keys, name = g name') ∨ rule.IsWellFormed) →
        ∃ grammar', other.build = .ok grammar' ∧ ∀ text,
          grammar'.tokenize text = grammar.tokenize text
            ∧ ∀ merge, grammar'.highlight merge text = grammar.highlight merge text := by
  have hsame {grammar' : Grammar} {f : RuleId → RuleId} (h' : other.build = .ok grammar')
      (hrenumbers : grammar.arena.Renumbers grammar'.arena f) (text : Text)
      : grammar'.tokenize text = grammar.tokenize text
        ∧ ∀ merge, grammar'.highlight merge text = grammar.highlight merge text := by
    have hscope : grammar'.scopeName = grammar.scopeName := by
      rw [scopeName_of_build h, scopeName_of_build h', hscopeName]
    have hgrammar := hrenumbers.grammar h h' hscope
    exact ⟨hgrammar.tokenize_eq text, fun merge => hgrammar.highlight_eq merge text⟩
  refine ⟨fun grammar' f h' hrenumbers => hsame h' hrenumbers, ?_⟩
  intro g hrenamed hentries
  rcases exists_of_build_eq_ok h with ⟨harena, hresolve⟩
  have hwellFormed := isWellFormed_of_build h
  have hother' := hrenamed.isWellFormed hwellFormed hentries
  rcases hother'.exists_build with ⟨grammar', h'⟩
  have hsettled := Arena.exists_resolve_iff.mp ⟨_, hresolve⟩
  rcases hrenamed.exists_renumbers harena (exists_of_build_eq_ok h').1 hsettled
    with ⟨f, hrenumbers⟩
  exact ⟨grammar', h', hsame h' hrenumbers⟩

def itemRule : RuleSource := { matchPattern := some "x", name := some "constant.x" }

def nestedRule : RuleSource where
  name := some "meta.list"
  beginPattern := some "\\["
  endPattern := some "\\]"
  patterns := some [{ includeTarget := some "#item" }, { includeTarget := some "$self" }]

def entrySource : GrammarSource where
  scopeName := "source.list"
  patterns := [{ includeTarget := some "#list" }]
  repository := ⟨[("item", itemRule), ("list", nestedRule)], by decide⟩

def newName (name : String) : String :=
  if name = "item" then "z" else if name = "list" then "b" else name

/-- The same grammar with other names, in another order, and with an entry that is not reached. -/
def renamedSource : GrammarSource where
  scopeName := "source.list"
  patterns := entrySource.patterns.map (RuleSource.rename newName)
  repository := ⟨[("b", nestedRule.rename newName), ("unused", itemRule),
    ("z", itemRule.rename newName)], by decide⟩

theorem isRenamedIn_renamedSource : entrySource.IsRenamedIn renamedSource newName := by
  refine ⟨rfl, rfl, rfl, ?_, ?_⟩
  . intro name hname name' hname' heq
    have hkeys : ∀ key ∈ ["item", "list"], ∀ key' ∈ ["item", "list"],
        newName key = newName key' → key = key' := by decide
    exact hkeys name hname name' hname' heq
  . intro name rule hrule
    have hmem := SortedMap.mem_of_get? hrule
    have hcases : (name, rule) = ("item", itemRule) ∨ (name, rule) = ("list", nestedRule) := by
      simpa [entrySource] using hmem
    rcases hcases with heq | heq
    . cases heq
      rfl
    . cases heq
      rfl

theorem highlight_eq_of_reached_renamed
    : ∃ grammar grammar' f, entrySource.build = .ok grammar ∧ renamedSource.build = .ok grammar'
        ∧ grammar.arena.Renumbers grammar'.arena f
        ∧ ∀ merge,
          grammar'.highlight merge "[x]".toList = grammar.highlight merge "[x]".toList := by
  have hbuild : ∃ grammar, entrySource.build = .ok grammar := ⟨_, rfl⟩
  have hunused : itemRule.IsWellFormed := by
    have hshows : itemRule.Shows (.matching "x") := .matching rfl rfl rfl rfl rfl rfl rfl
    refine .intro (by simp [RuleSource.IsConflicting, itemRule]) hshows ⟨⟨_, rfl⟩, nofun⟩ nofun
  have hentries : ∀ name rule, renamedSource.repository.get? name = some rule →
      (∃ name' ∈ entrySource.repository.keys, name = newName name') ∨ rule.IsWellFormed := by
    intro name rule hrule
    have hmem := SortedMap.mem_of_get? hrule
    simp only [renamedSource, List.mem_cons, Prod.mk.injEq, List.not_mem_nil, or_false] at hmem
    rcases hmem with ⟨rfl, -⟩ | ⟨-, rfl⟩ | ⟨rfl, -⟩
    . exact Or.inl ⟨"list", by decide, by decide⟩
    . exact Or.inr hunused
    . exact Or.inl ⟨"item", by decide, by decide⟩
  rcases hbuild with ⟨grammar, h⟩
  have hscope : renamedSource.scopeName = entrySource.scopeName := rfl
  rcases highlight_eq_of_reached h hscope with ⟨hsame, hrenamed⟩
  rcases hrenamed newName isRenamedIn_renamedSource hentries with ⟨grammar', h', -⟩
  rcases exists_of_build_eq_ok h with ⟨harena, hresolve⟩
  rcases isRenamedIn_renamedSource.exists_renumbers harena (exists_of_build_eq_ok h').1
    (Arena.exists_resolve_iff.mp ⟨_, hresolve⟩) with ⟨f, hrenumbers⟩
  exact ⟨grammar, grammar', f, h, h', hrenumbers, (hsame grammar' f h' hrenumbers _).2⟩

end GrammarSource

end TextScopes
