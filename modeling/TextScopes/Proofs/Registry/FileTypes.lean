import Mathlib.Data.List.Find
import TextScopes.Proofs.Registry

/-!
This module contains which grammar is found for a file. All that grammars and configurations say
about a file type goes into one map, in the order in which they are added, so that the last one to
say something counts. This is not the layering of configurations over the grammars at hand: a
grammar that is added later takes back what a configuration says, and one that is replaced still
counts.
-/

namespace TextScopes

def Grammar.isFor (grammar : Grammar) (fileType : String) : Bool :=
  grammar.fileTypes.any fun written => normalFileType written.toList = fileType

/-- The scope that a configuration gives to a file type: that of its last key for it. -/
def Config.target? (config : Config) (fileType : String) : Option String :=
  (config.fileTypes.entries.reverse.find? fun entry =>
    normalFileType entry.1.toList = fileType).map (·.2)

namespace Registry

def Change.assigned? (fileType : String) : Change → Option String
  | .add grammar => if grammar.isFor fileType then some grammar.scopeName else none
  | .configure config => config.target? fileType

def Change.override? (fileType : String) : Change → Option String
  | .add _ => none
  | .configure config => config.target? fileType

def lastAssigned? (history : List Change) (fileType : String) : Option String :=
  history.reverse.findSome? (Change.assigned? fileType)

/-- The scope that the last configuration to mention a file type gives to it. -/
def lastOverride? (history : List Change) (fileType : String) : Option String :=
  history.reverse.findSome? (Change.override? fileType)

/-- The grammars that are registered after some changes, the one that was added last in front. -/
def registered (history : List Change) : List Grammar :=
  history.foldl
    (fun grammars change =>
      match change with
      | .add grammar => grammar :: grammars.filter (·.scopeName ≠ grammar.scopeName)
      | .configure _ => grammars)
    []

/-- The scope of a file type where configurations are layered over the registered grammars. -/
def layered? (history : List Change) (fileType : String) : Option String :=
  (lastOverride? history fileType).or
    (((registered history).find? (·.isFor fileType)).map (·.scopeName))

/-- The scope for the name of a file, given the scopes of file types: that of the whole name, or
else that of its extension. -/
def fileScope? (scopeOf? : String → Option String) (name : List (Option Char)) : Option String :=
  ((FileName.text? name).bind fun chars => scopeOf? (normalFileType chars)).or
    (((FileName.extension? name).bind FileName.text?).bind fun chars =>
      scopeOf? (normalFileType chars))

/-- Whether a later change leaves standing what an earlier one says about a file type: a grammar
does not take back what a configuration says, and is for all that the grammar it replaces is for. -/
def Change.Keeps (fileType : String) : (earlier later : Change) → Prop
  | .configure config, .add grammar => grammar.isFor fileType → config.target? fileType = none
  | .add grammar, .add other =>
    other.scopeName = grammar.scopeName → grammar.isFor fileType → other.isFor fileType
  | _, .configure _ => True

variable {registry : Registry} {history : List Change} {fileType scope : String}

theorem find?_fileTypes (grammar : Grammar)
    : (grammar.fileTypes.reverse.find? fun written =>
          normalFileType written.toList = fileType).map (fun _ => grammar.scopeName)
        = if grammar.isFor fileType then some grammar.scopeName else none := by
  unfold Grammar.isFor
  cases h : grammar.fileTypes.reverse.find? fun written =>
    normalFileType written.toList = fileType with
  | none => simpa using h
  | some written =>
    have hmem := List.mem_reverse.mp (List.mem_of_find?_eq_some h)
    have hfound := List.find?_some h
    rw [if_pos (List.any_eq_true.mpr ⟨written, hmem, hfound⟩)]
    rfl

theorem get?_fileTypes_apply (change : Change)
    : (registry.apply change).fileTypes.get? fileType
      = (change.assigned? fileType).or (registry.fileTypes.get? fileType) := by
  cases change with
  | add grammar =>
    unfold Change.assigned?
    dsimp only
    rw [← find?_fileTypes]
    exact SortedMap.get?_foldl_insert _ _ _ _ _
  | configure config =>
    exact SortedMap.get?_foldl_insert (fun entry : String × String => normalFileType entry.1.toList)
      (fun entry => entry.2) _ _ _

theorem get?_fileTypes (h : IsReachedBy registry history)
    : registry.fileTypes.get? fileType = lastAssigned? history fileType := by
  have happly {registry : Registry} {history : List Change}
      (ih : registry.fileTypes.get? fileType = lastAssigned? history fileType) (change : Change)
      : (registry.apply change).fileTypes.get? fileType
        = lastAssigned? (history ++ [change]) fileType := by
    unfold lastAssigned?
    rw [get?_fileTypes_apply, ih, findSome?_reverse_append]
    rfl
  induction h with
  | empty => rfl
  | builtin hjson hini hbuiltin =>
    cases hbuiltin.symm.trans (builtin_eq hjson hini)
    have hempty : Registry.empty.fileTypes.get? fileType = lastAssigned? [] fileType := rfl
    exact happly (happly hempty (.add _)) (.add _)
  | change _ change ih => exact happly ih change

theorem registered_append (change : Change)
    : registered (history ++ [change])
      = match change with
        | .add grammar =>
          grammar :: (registered history).filter (·.scopeName ≠ grammar.scopeName)
        | .configure _ => registered history := by
  unfold registered
  rw [List.foldl_append]
  rfl

theorem mem_registered_iff {grammar : Grammar}
    : grammar ∈ registered history ↔ lastAdded? history grammar.scopeName = some grammar := by
  induction history using List.reverseRecOn with
  | nil => simp [registered, lastAdded?]
  | append_singleton history change ih =>
    rw [registered_append, lastAdded?_append]
    cases change with
    | configure config => exact ih
    | add other =>
      rw [List.mem_cons, List.mem_filter, ih, Change.grammar?]
      by_cases h : other.scopeName = grammar.scopeName
      . simp [h, eq_comm]
      . have hne : grammar ≠ other := fun heq => h (heq ▸ rfl)
        simp [h, hne, Ne.symm h]

theorem add_mem_of_mem_registered {grammar : Grammar} (h : grammar ∈ registered history)
    : .add grammar ∈ history :=
  (lastAdded?_eq_some (mem_registered_iff.mp h)).1

/-- Where no change takes back what an earlier one says about a file type, the last assignment is
that of the layers. -/
theorem lastAssigned?_eq_layered? (h : history.Pairwise (Change.Keeps fileType))
    : lastAssigned? history fileType = layered? history fileType := by
  induction history using List.reverseRecOn with
  | nil => rfl
  | append_singleton history change ih =>
    rcases List.pairwise_append.mp h with ⟨hhistory, -, hkeeps⟩
    have hkeeps (earlier : Change) (hmem : earlier ∈ history) : earlier.Keeps fileType change :=
      hkeeps earlier hmem change (List.mem_singleton_self change)
    specialize ih hhistory
    unfold lastAssigned? layered? lastOverride? at *
    rw [findSome?_reverse_append, findSome?_reverse_append, registered_append, ih]
    cases change with
    | configure config =>
      simp [Change.assigned?, Change.override?, Option.or_assoc]
    | add grammar =>
      by_cases hfor : grammar.isFor fileType
      -- no configuration has said anything about the file type
      . have hnone : history.reverse.findSome? (Change.override? fileType) = none := by
          rw [List.findSome?_eq_none_iff]
          intro earlier hmem
          cases earlier with
          | add other => rfl
          | configure config => exact hkeeps _ (List.mem_reverse.mp hmem) hfor
        simp [Change.assigned?, Change.override?, hfor, hnone]
      -- a grammar that this one replaces is not for the file type either
      . have hfind : ((registered history).filter (·.scopeName ≠ grammar.scopeName)).find?
            (·.isFor fileType) = (registered history).find? (·.isFor fileType) := by
          rw [List.find?_filter]
          apply List.find?_congr
          intro other hmem
          have hkept (hother : other.isFor fileType) : other.scopeName ≠ grammar.scopeName :=
            fun hscope => hfor (hkeeps _ (add_mem_of_mem_registered hmem) hscope.symm hother)
          cases hother : other.isFor fileType with
          | false => simp
          | true => simpa using hkept hother
        have hfalse : grammar.isFor fileType = false := by simpa using hfor
        dsimp only [Change.assigned?, Change.override?]
        rw [if_neg hfor, List.find?_cons, hfalse, hfind]
        rfl

/-- The scope of a file is the one that was given last to its name, or else to its extension, by a
grammar or a configuration, if a grammar of this scope is registered. This is what configurations
layered over the registered grammars give for every file type about which no change takes back what
an earlier one says. -/
theorem detectPath?_of_isReachedBy (h : IsReachedBy registry history)
    : (∀ path scope, registry.detectPath? path = some scope
        ↔ ∃ name, FileName.ofPath? path = some name
          ∧ fileScope? (lastAssigned? history) name = some scope
          ∧ ∃ grammar, lastAdded? history scope = some grammar)
      ∧ ∀ fileType, history.Pairwise (Change.Keeps fileType) →
        lastAssigned? history fileType = layered? history fileType := by
  refine ⟨?_, fun fileType => lastAssigned?_eq_layered?⟩
  intro path scope
  have hscope : registry.scopeOf? = fun chars => lastAssigned? history (normalFileType chars) :=
    funext fun chars => get?_fileTypes h
  unfold detectPath? fileScope?
  simp only [Option.bind_eq_bind, Option.bind_eq_some_iff, hscope, Option.orElse_eq_or]
  have hlisted (scope : String) : registry.grammars.contains scope
      ↔ ∃ grammar, lastAdded? history scope = some grammar := by
    rw [← h.holds.grammar?_eq, ← Option.isSome_iff_exists]
    rfl
  simp only [Option.ite_none_right_eq_some, Option.some.injEq, hlisted]
  constructor
  . rintro ⟨name, hname, found, hfound, hlisted, rfl⟩
    exact ⟨name, hname, hfound, hlisted⟩
  . rintro ⟨name, hname, hfound, hlisted⟩
    exact ⟨name, hname, scope, hfound, hlisted, rfl⟩

def bareGrammar (scope : String) (fileTypes : List String) : Grammar where
  scopeName := scope
  displayName := none
  fileTypes := fileTypes
  firstLineMatch := none
  foldingStartMarker := none
  foldingStopMarker := none
  arena := ⟨[], [], ∅⟩
  resolution := ⟨⟨[]⟩, [], []⟩

/-- A configuration is taken back by a grammar that is added later, and a grammar that is replaced
leaves a file type behind. -/
def overriddenHistory : List Change :=
  [.add (bareGrammar "source.a" []), .configure { fileTypes := .ofList [("t", "source.a")] },
    .add (bareGrammar "source.b" ["t", "u"]), .add (bareGrammar "source.b" [])]

theorem detectPath?_ne_layered?
    : ({ scopeName := "source.b", fileTypes := ["t", "u"] } : GrammarSource).build
        = .ok (bareGrammar "source.b" ["t", "u"])
      ∧ ∃ registry,
        IsReachedBy registry overriddenHistory
          ∧ registry.detectPath? ("x.t".toList.map some) = some "source.b"
          ∧ layered? overriddenHistory "t" = some "source.a"
          ∧ registry.detectPath? ("x.u".toList.map some) = some "source.b"
          ∧ layered? overriddenHistory "u" = none := by
  have h := (((IsReachedBy.empty.change (.add (bareGrammar "source.a" []))).change
    (.configure { fileTypes := .ofList [("t", "source.a")] })).change
    (.add (bareGrammar "source.b" ["t", "u"]))).change (.add (bareGrammar "source.b" []))
  have hadded : lastAdded? overriddenHistory "source.b" = some (bareGrammar "source.b" []) := by
    rfl
  refine ⟨rfl, _, h, ?_, by decide +kernel, ?_, by decide +kernel⟩
  . exact ((detectPath?_of_isReachedBy h).1 _ _).mpr
      ⟨"x.t".toList.map some, by decide +kernel, by decide +kernel, _, hadded⟩
  . exact ((detectPath?_of_isReachedBy h).1 _ _).mpr
      ⟨"x.u".toList.map some, by decide +kernel, by decide +kernel, _, hadded⟩

end Registry

end TextScopes
