import TextScopes.Grammar.Load
import TextScopes.Proofs.Document.Agreement

/-!
This module contains that a grammar is the same whether it is loaded from a text or from the value
of the text, and that neither the order of names nor unknown fields nor the layout of the text make
a difference to it.
-/

namespace TextScopes

inductive GrammarSource.Part where
  | text
  | texts
  | capture
  | captures
  | rule
  | rules
  | grammar

def GrammarSource.outline : Outline GrammarSource.Part
  | .text => .leaf
  | .texts => .each .text
  | .capture => .record [("name", .text)]
  | .captures => .each .capture
  | .rule =>
    .record [("name", .text), ("match", .text), ("begin", .text), ("end", .text),
      ("contentName", .text), ("captures", .captures), ("beginCaptures", .captures),
      ("endCaptures", .captures), ("include", .text), ("patterns", .rules)]
  | .rules => .each .rule
  | .grammar =>
    .record [("scopeName", .text), ("name", .text), ("fileTypes", .texts),
      ("firstLineMatch", .text), ("foldingStartMarker", .text), ("foldingStopMarker", .text),
      ("patterns", .rules), ("repository", .rules)]

open Decode GrammarSource

variable {dialect dialect' : Dialect} {n n' : Nat}

theorem CaptureSource.schema_isUnordered : CaptureSource.schema.IsUnordered where
  isOpen := rfl
  nodup := List.nodup_singleton _
  pairwise := List.pairwise_singleton _ _

theorem RuleSource.schema_isUnordered {child : Document → Decoded RuleSource}
    : (RuleSource.schema dialect child).IsUnordered where
  isOpen := rfl
  nodup := by simp [schema, field]
  pairwise := by
    simp only [schema, List.pairwise_cons, List.forall_mem_cons, List.not_mem_nil, false_implies,
      implies_true, List.Pairwise.nil, and_true]
    and_intros <;> exact RecordField.commutes_of_store fun _ _ _ => rfl

theorem GrammarSource.schema_isUnordered : (GrammarSource.schema dialect).IsUnordered where
  isOpen := rfl
  nodup := by simp [schema, field]
  pairwise := by
    simp only [schema, List.pairwise_cons, List.forall_mem_cons, List.not_mem_nil, false_implies,
      implies_true, List.Pairwise.nil, and_true]
    and_intros <;> exact RecordField.commutes_of_store fun _ _ _ => rfl

theorem CaptureSource.decode_agrees (hdialect : dialect ≠ .toml) (hdialect' : dialect' ≠ .toml)
    : outline.Agrees n n' .capture (CaptureSource.decode dialect) (CaptureSource.decode dialect') :=
  record_agrees hdialect hdialect' schema_isUnordered schema_isUnordered rfl rfl
    (.cons rfl (RecordField.agrees_of_store (option_agrees string_agrees)) .nil)

theorem RuleSource.read_agrees {child child' : Document → Decoded RuleSource}
    (hdialect : dialect ≠ .toml) (hdialect' : dialect' ≠ .toml)
    (hchild : outline.Agrees n n' .rule child child')
    : outline.Agrees (n + 1) (n' + 1) .rule ((RuleSource.schema dialect child).read dialect)
        ((RuleSource.schema dialect' child').read dialect') := by
  have htext : outline.Agrees n n' .text (option string) (option string) :=
    option_agrees string_agrees
  have htable : outline.Agrees n n' .captures (option (map (CaptureSource.decode dialect)))
      (option (map (CaptureSource.decode dialect'))) :=
    option_agrees (map_agrees rfl (CaptureSource.decode_agrees hdialect hdialect'))
  have hrules : outline.Agrees n n' .rules (option (list child)) (option (list child')) :=
    option_agrees (list_agrees rfl hchild)
  refine record_agrees hdialect hdialect' schema_isUnordered schema_isUnordered ?_ rfl ?_
  . rfl
  . exact .cons rfl (RecordField.agrees_of_store htext) <|
      .cons rfl (RecordField.agrees_of_store htext) <|
      .cons rfl (RecordField.agrees_of_store htext) <|
      .cons rfl (RecordField.agrees_of_store htext) <|
      .cons rfl (RecordField.agrees_of_store htext) <|
      .cons rfl (RecordField.agrees_of_store htable) <|
      .cons rfl (RecordField.agrees_of_store htable) <|
      .cons rfl (RecordField.agrees_of_store htable) <|
      .cons rfl (RecordField.agrees_of_store htext) <|
      .cons rfl (RecordField.agrees_of_store hrules) .nil

theorem RuleSource.decodeNested_succ
    : RuleSource.decodeNested dialect (n + 1)
      = (RuleSource.schema dialect (RuleSource.decodeNested dialect n)).read dialect := by
  funext d
  rw [RuleSource.decodeNested]

theorem RuleSource.decodeNested_agrees (hdialect : dialect ≠ .toml) (hdialect' : dialect' ≠ .toml)
    : outline.Agrees n n' .rule (RuleSource.decodeNested dialect n)
        (RuleSource.decodeNested dialect' n') := by
  -- The depths may differ, as fields that are not read can be nested in any way.
  induction n generalizing n' with
  | zero =>
    intro document other hequates
    exact absurd hequates.depth_le (Nat.not_le_of_lt Document.depth_pos)
  | succ n ih =>
    cases n' with
    | zero =>
      intro document other hequates
      exact absurd hequates.depth_le' (Nat.not_le_of_lt Document.depth_pos)
    | succ n' =>
      rw [decodeNested_succ, decodeNested_succ]
      exact RuleSource.read_agrees hdialect hdialect' ih

theorem RuleSource.decode_agrees (hdialect : dialect ≠ .toml) (hdialect' : dialect' ≠ .toml)
    : outline.Agrees n n' .rule (RuleSource.decode dialect) (RuleSource.decode dialect') := by
  intro document other hequates
  exact RuleSource.decodeNested_agrees hdialect hdialect' document other
    { hequates with depth_le := Nat.le_refl _, depth_le' := Nat.le_refl _ }

theorem GrammarSource.decode_agrees (hdialect : dialect ≠ .toml) (hdialect' : dialect' ≠ .toml)
    : outline.Agrees n n' .grammar (GrammarSource.decode dialect)
        (GrammarSource.decode dialect') := by
  refine record_agrees hdialect hdialect' schema_isUnordered schema_isUnordered rfl rfl ?_
  have htext : outline.Agrees (n - 1) (n' - 1) .text (option string) (option string) :=
    option_agrees string_agrees
  have hrule : outline.Agrees (n - 1) (n' - 1) .rule (RuleSource.decode dialect)
      (RuleSource.decode dialect') :=
    RuleSource.decode_agrees hdialect hdialect'
  exact .cons rfl (RecordField.agrees_of_store string_agrees) <|
    .cons rfl (RecordField.agrees_of_store htext) <|
    .cons rfl (RecordField.agrees_of_store (list_agrees rfl string_agrees)) <|
    .cons rfl (RecordField.agrees_of_store htext) <|
    .cons rfl (RecordField.agrees_of_store htext) <|
    .cons rfl (RecordField.agrees_of_store htext) <|
    .cons rfl (RecordField.agrees_of_store (list_agrees rfl hrule)) <|
    .cons rfl (RecordField.agrees_of_store (map_agrees rfl hrule)) .nil

/-- Whether a text is that of a JSON value in which no object has a name twice. -/
structure Json.IsTextOf (text : String) (value : Document) : Prop where
  read_eq : Json.read text.toList = (value, false)
  isProper : value.IsProper

namespace GrammarSource

variable {value value' : Document} {source : GrammarSource}

/-- Written grammars that are read from documents that say the same are equal, or there are none. -/
theorem decode_eq_ok_iff (hdialect : dialect ≠ .toml) (hdialect' : dialect' ≠ .toml)
    (hproper : value.IsProper) (hproper' : value'.IsProper)
    (hsame : value.SameAs outline .grammar value')
    : decode dialect value = .ok source ↔ decode dialect' value' = .ok source := by
  have hequates : outline.Equates value.depth value'.depth .grammar value value' :=
    ⟨hproper, hproper', Nat.le_refl _, Nat.le_refl _, hsame⟩
  exact toOption_eq_iff.mp (decode_agrees hdialect hdialect' _ _ hequates) source

theorem ofJson_eq_ok_iff {text : String} (h : Json.IsTextOf text value)
    : ofJson text = .ok source ↔ decode .jsonText value = .ok source := by
  unfold ofJson Json.decode
  rw [mapError_eq_ok_iff, h.read_eq]
  simp [bind_eq_ok_iff]

theorem ofValue_eq_ok_iff (h : value.IsProper)
    : ofValue value = .ok source ↔ decode .jsonText value = .ok source := by
  unfold ofValue
  rw [mapError_eq_ok_iff]
  exact (decode_eq_ok_iff (by decide) (by decide) h h.sorted (h.sameAs_sorted _)).symm

theorem ofJson_eq_ok_iff_of_sameAs {text text' : String} (h : Json.IsTextOf text value)
    (h' : Json.IsTextOf text' value') (hsame : value.SameAs outline .grammar value')
    : ofJson text = .ok source ↔ ofJson text' = .ok source := by
  rw [ofJson_eq_ok_iff h, ofJson_eq_ok_iff h']
  exact decode_eq_ok_iff (by decide) (by decide) h.isProper h'.isProper hsame

end GrammarSource

namespace Grammar

theorem ofJson_eq_build {text : String} {source : GrammarSource}
    (h : GrammarSource.ofJson text = .ok source) : ofJson text = source.build := by
  unfold ofJson
  rw [h]
  rfl

/-- The text and the value of a grammar load the same, and so does every other text that says the
same: with the names in another order, with other fields beside those that are read, or laid out in
another way. -/
theorem ofJson_eq_ok_iff_ofValue {text : String} {value : Document} (h : Json.IsTextOf text value)
    : (∀ grammar, ofJson text = .ok grammar ↔ ofValue value = .ok grammar)
      ∧ ∀ text' value', Json.IsTextOf text' value' →
        value.SameAs GrammarSource.outline .grammar value' →
        ∀ grammar, ofJson text = .ok grammar ↔ ofJson text' = .ok grammar := by
  refine ⟨?_, ?_⟩
  . intro grammar
    unfold ofJson ofValue
    simp only [bind_eq_ok_iff, GrammarSource.ofJson_eq_ok_iff h,
      GrammarSource.ofValue_eq_ok_iff h.isProper]
  . intro text' value' h' hsame grammar
    unfold ofJson
    simp only [bind_eq_ok_iff, GrammarSource.ofJson_eq_ok_iff_of_sameAs h h' hsame]

def shortText : String :=
  "\x7b\"scopeName\":\"s\",\"patterns\":[\x7b\"match\":\"a\",\"name\":\"n\"\x7d]\x7d"

def shortValue : Document :=
  .object <| .ofList [("scopeName", .string "s"),
    ("patterns", .array <| .ofList
      [.object <| .ofList [("match", .string "a"), ("name", .string "n")]])]

/-- The grammar of `shortText` in another order and layout, with two fields that are not read. -/
def longText : String :=
  "\x7b \"patterns\" : [ \x7b\"name\": \"n\", \"comment\": [], \"match\": \"a\"\x7d ],
  \"uuid\" : null, \"scopeName\" : \"s\" \x7d"

def longValue : Document :=
  .object <| .ofList [
    ("patterns", .array <| .ofList [.object <| .ofList
      [("name", .string "n"), ("comment", .array .nil), ("match", .string "a")]]),
    ("uuid", .null), ("scopeName", .string "s")]

theorem isTextOf_shortText : Json.IsTextOf shortText shortValue := by
  refine ⟨by cbv, ?_⟩
  simp [shortValue, Document.IsProper, Items.isProper_ofList, Members.isProper_ofList]

theorem isTextOf_longText : Json.IsTextOf longText longValue := by
  refine ⟨by cbv, ?_⟩
  simp [longValue, Document.IsProper, Items.IsProper, Items.isProper_ofList,
    Members.isProper_ofList]

theorem sameAs_longValue : shortValue.SameAs GrammarSource.outline .grammar longValue := by
  refine ⟨_, rfl, ⟨?_, ?_, trivial⟩, ?_⟩
  . rintro name part ⟨⟩ hpart
    cases Option.some.inj hpart
    exact ⟨_, rfl, rfl⟩
  . rintro name part ⟨⟩ hpart
    cases Option.some.inj hpart
    refine ⟨_, rfl, _, rfl, _, _, rfl, ?_, rfl⟩
    rintro part hpart
    cases Option.some.inj hpart
    refine ⟨_, rfl, ⟨?_, ?_, trivial⟩, ?_⟩
    . rintro name part ⟨⟩ hpart
      cases Option.some.inj hpart
      exact ⟨_, rfl, rfl⟩
    . rintro name part ⟨⟩ hpart
      cases Option.some.inj hpart
      exact ⟨_, rfl, rfl⟩
    . intro name hread hsome
      have hname : name = "name" ∨ name = "comment" ∨ name = "match" := by
        simpa [Members.isSome_get?_ofList_iff] using hsome
      rcases hname with rfl | rfl | rfl
      . rfl
      . exact absurd hread (by decide)
      . rfl
  . intro name hread hsome
    have hname : name = "patterns" ∨ name = "uuid" ∨ name = "scopeName" := by
      simpa [Members.isSome_get?_ofList_iff] using hsome
    rcases hname with rfl | rfl | rfl
    . rfl
    . exact absurd hread (by decide)
    . rfl

theorem ofJson_longText
    : (Json.IsTextOf shortText shortValue ∧ Json.IsTextOf longText longValue
        ∧ shortValue.SameAs GrammarSource.outline .grammar longValue)
      ∧ (∀ grammar, ofJson shortText = .ok grammar ↔ ofValue shortValue = .ok grammar)
      ∧ (∀ grammar, ofJson shortText = .ok grammar ↔ ofJson longText = .ok grammar)
      ∧ ∃ grammar, ofValue shortValue = .ok grammar := by
  have hboth := ofJson_eq_ok_iff_ofValue isTextOf_shortText
  exact ⟨⟨isTextOf_shortText, isTextOf_longText, sameAs_longValue⟩, hboth.1,
    hboth.2 longText longValue isTextOf_longText sameAs_longValue, _, rfl⟩

end Grammar

end TextScopes
