import Mathlib.Data.Option.Defs
import TextScopes.Proofs.Document.Outline
import TextScopes.Proofs.Document.Record

/-!
This module contains when two decoders read the same: when they succeed on the same documents with
the same values, also if the one is given another document that says the same. Decoders made in the
same way of decoders that agree do agree.
-/

namespace TextScopes

/-- Whether a document is a value that has no parts. -/
def Document.IsScalar : Document → Prop
  | .null | .bool _ | .integer _ | .decimal _ | .string _ => True
  | .time _ | .array _ | .object _ | .broken _ _ => False

namespace Outline

variable {ι α : Type} (outline : Outline ι) (n n' : Nat)

/-- Whether two documents are values that say the same of a part. `n` and `n'` bound how deep they
are nested. -/
structure Equates (part : ι) (document other : Document) : Prop where
  isProper : document.IsProper
  isProper' : other.IsProper
  depth_le : document.depth ≤ n
  depth_le' : other.depth ≤ n'
  sameAs : document.SameAs outline part other

structure EquatesItems (part? : Nat → Option ι) (items others : Items) : Prop where
  isProper : items.IsProper
  isProper' : others.IsProper
  depth_le : items.depth ≤ n
  depth_le' : others.depth ≤ n'
  sameAs : items.SameAs outline part? others

/-- Whether two decoders read the same out of documents that say the same of a part. -/
def Agrees (part : ι) (decode decode' : Document → Decoded α) : Prop :=
  ∀ document other, outline.Equates n n' part document other →
    (decode document).toOption = (decode' other).toOption

variable {outline n n'} {part inner : ι} {document other : Document}

theorem Equates.mono {m m' : Nat} (h : outline.Equates n n' part document other) (hle : n ≤ m)
    (hle' : n' ≤ m') : outline.Equates m m' part document other :=
  { h with depth_le := h.depth_le.trans hle, depth_le' := h.depth_le'.trans hle' }

theorem Agrees.mono {m m' : Nat} {decode decode' : Document → Decoded α}
    (h : outline.Agrees m m' part decode decode') (hle : n ≤ m) (hle' : n' ≤ m')
    : outline.Agrees n n' part decode decode' :=
  fun document other hequates => h document other (hequates.mono hle hle')

theorem Equates.exists_items {items : Items}
    (h : outline.Equates n n' part (.array items) other)
    : ∃ others, other = .array others
      ∧ outline.EquatesItems (n - 1) (n' - 1) (outline part).item? items others := by
  rcases h.sameAs with ⟨others, rfl, hsame⟩
  exact ⟨others, rfl, h.isProper, h.isProper', Nat.le_sub_one_of_lt h.depth_le,
    Nat.le_sub_one_of_lt h.depth_le', hsame⟩

theorem Equates.exists_members {members : Members}
    (h : outline.Equates n n' part (.object members) other)
    : ∃ others, other = .object others ∧ others.IsProper
      ∧ ∀ name inner, (outline part).field? name = some inner →
        Option.Rel (outline.Equates (n - 1) (n' - 1) inner) (members.get? name)
          (others.get? name) := by
  rcases h.sameAs with ⟨others, rfl, hsame, hback⟩
  refine ⟨others, rfl, h.isProper', ?_⟩
  intro name inner hinner
  cases hvalue : members.get? name with
  | some value =>
    rcases hsame.exists_get? hinner hvalue with ⟨value', hvalue', hsame⟩
    rw [hvalue']
    have hdepth := Members.depth_le_of_get? hvalue
    have hdepth' := Members.depth_le_of_get? hvalue'
    exact .some ⟨Members.IsProper.of_get? h.isProper hvalue,
      Members.IsProper.of_get? h.isProper' hvalue',
      hdepth.trans (Nat.le_sub_one_of_lt h.depth_le),
      hdepth'.trans (Nat.le_sub_one_of_lt h.depth_le'), hsame⟩
  | none =>
    cases hvalue' : others.get? name with
    | none => exact .none
    | some value' =>
      have hsome := hback name (by rw [hinner]; rfl) (by rw [hvalue']; rfl)
      rw [hvalue] at hsome
      contradiction

theorem EquatesItems.exists_cons {part? : Nat → Option ι} {item : Document} {rest others : Items}
    (h : outline.EquatesItems n n' part? (.cons item rest) others)
    : ∃ other others', others = .cons other others'
      ∧ (∀ part, part? 0 = some part → outline.Equates n n' part item other)
      ∧ outline.EquatesItems n n' (fun index => part? (index + 1)) rest others' := by
  rcases h.sameAs with ⟨other, others', rfl, hitem, hrest⟩
  have hdepth := max_le_iff.mp h.depth_le
  have hdepth' := max_le_iff.mp h.depth_le'
  exact ⟨other, others', rfl,
    fun part hpart => ⟨h.isProper.1, h.isProper'.1, hdepth.1, hdepth'.1, hitem part hpart⟩,
    h.isProper.2, h.isProper'.2, hdepth.2, hdepth'.2, hrest⟩

theorem Equates.eq_null (h : outline.Equates n n' part document .null) : document = .null := by
  cases document with
  | null => rfl
  | array items =>
    rcases h.sameAs with ⟨others, heq, -⟩
    contradiction
  | object members =>
    rcases h.sameAs with ⟨others, heq, -⟩
    contradiction
  | _ => cases h.sameAs

theorem Agrees.of_cases {decode decode' : Document → Decoded α}
    (harray : ∀ items others,
      outline.EquatesItems (n - 1) (n' - 1) (outline part).item? items others →
      (decode (.array items)).toOption = (decode' (.array others)).toOption)
    (hobject : ∀ members others, members.IsProper → others.IsProper →
      (∀ name inner, (outline part).field? name = some inner →
        Option.Rel (outline.Equates (n - 1) (n' - 1) inner) (members.get? name)
          (others.get? name)) →
      (decode (.object members)).toOption = (decode' (.object others)).toOption)
    (hscalar : ∀ document, document.IsScalar →
      (decode document).toOption = (decode' document).toOption)
    : outline.Agrees n n' part decode decode' := by
  intro document other h
  match document with
  | .array items =>
    rcases h.exists_items with ⟨others, rfl, hitems⟩
    exact harray items others hitems
  | .object members =>
    rcases h.exists_members with ⟨others, rfl, hproper, hget⟩
    exact hobject members others h.isProper hproper hget
  | .null | .bool _ | .integer _ | .decimal _ | .string _ =>
    cases h.sameAs
    exact hscalar _ trivial
  | .time _ | .broken _ _ => exact absurd h.isProper id

end Outline

namespace Decode

open Outline

variable {ι α σ : Type} {outline : Outline ι} {n n' : Nat} {part inner : ι}
  {decode decode' : Document → Decoded α}

theorem string_agrees : outline.Agrees n n' part string string := by
  apply Agrees.of_cases
  . intro items others _
    rfl
  . intro members others _ _ _
    rfl
  . intro document hscalar
    rfl

theorem option_of_ne_null {document : Document} (h : document ≠ .null)
    : option decode document = (decode document).map some := by
  cases document with
  | null => contradiction
  | _ => rfl

theorem option_agrees (h : outline.Agrees n n' part decode decode')
    : outline.Agrees n n' part (option decode) (option decode') := by
  intro document other hequates
  by_cases hnull : document = .null
  . subst hnull
    cases hequates.sameAs
    rfl
  . have hnull' : other ≠ .null := by
      rintro rfl
      exact hnull hequates.eq_null
    rw [option_of_ne_null hnull, option_of_ne_null hnull', toOption_map, toOption_map,
      h document other hequates]

theorem items_agree {part? : Nat → Option ι} {items others : Items}
    (h : outline.Agrees n n' part decode decode') (hpart : ∀ index, part? index = some part)
    (hitems : outline.EquatesItems n n' part? items others)
    : (Decode.items decode items).toOption = (Decode.items decode' others).toOption := by
  match items with
  | .nil =>
    cases hitems.sameAs
    rfl
  | .cons item rest =>
    rcases hitems.exists_cons with ⟨other, others', rfl, hitem, hrest⟩
    unfold Decode.items
    rw [toOption_bind, toOption_bind, h _ _ (hitem part (hpart 0))]
    simp only [toOption_bind, items_agree h (fun index => hpart (index + 1)) hrest]
  | .stop _ _ => exact absurd hitems.isProper id

theorem list_agrees (hform : outline part = .each inner)
    (h : outline.Agrees n n' inner decode decode')
    : outline.Agrees n n' part (list decode) (list decode') := by
  apply Agrees.of_cases
  . intro items others hitems
    rw [hform] at hitems
    exact items_agree (h.mono (Nat.sub_le _ _) (Nat.sub_le _ _)) (fun _ => rfl) hitems
  . intro members others _ _ _
    rfl
  . intro document hscalar
    cases document with
    | array _ => exact absurd hscalar id
    | _ => rfl

theorem map_agrees (hform : outline part = .each inner)
    (h : outline.Agrees n n' inner decode decode')
    : outline.Agrees n n' part (map decode) (map decode') := by
  apply Agrees.of_cases
  . intro items others _
    rfl
  . intro members others hproper hproper' hget
    rw [toOption_eq_iff]
    intro result
    unfold map
    dsimp only
    rw [members_eq_ok_iff hproper, members_eq_ok_iff hproper']
    refine forall_congr' fun name => ?_
    have hvalues := hget name inner (by rw [hform]; rfl)
    revert hvalues
    generalize members.get? name = value
    generalize others.get? name = value'
    intro hvalues
    cases hvalues with
    | none => rfl
    | some hvalues =>
      have hdecode := h _ _ (hvalues.mono (Nat.sub_le _ _) (Nat.sub_le _ _))
      simp only [toOption_eq_iff.mp hdecode]
  . intro document hscalar
    cases document with
    | object _ | time _ => exact absurd hscalar id
    | _ => rfl

/-- Whether two fields of records are declared alike and read the same. -/
structure RecordField.Agrees (outline : Outline ι) (n n' : Nat) (part : ι)
    (field field' : RecordField σ) : Prop where
  name_eq : field'.name = field.name
  inObject_eq : field'.inObject = field.inObject
  inArray_eq : field'.inArray = field.inArray
  read (record : σ) : outline.Agrees n n' part (field.read · record) (field'.read · record)

theorem RecordField.agrees_of_store {name : String} {inObject inArray : Bool} {store : σ → α → σ}
    (h : outline.Agrees n n' part decode decode')
    : RecordField.Agrees outline n n' part
        ⟨name, inObject, inArray, fun d record => do .ok (store record (← decode d))⟩
        ⟨name, inObject, inArray, fun d record => do .ok (store record (← decode' d))⟩ := by
  refine ⟨rfl, rfl, rfl, ?_⟩
  intro record document other hequates
  dsimp only
  rw [toOption_bind, toOption_bind, h document other hequates]

/-- Whether the fields of two records agree one by one, each on the part of its name. -/
inductive FieldsAgree (outline : Outline ι) (n n' : Nat) :
    List (String × ι) → List (RecordField σ) → List (RecordField σ) → Prop
  | nil : FieldsAgree outline n n' [] [] []
  | cons {parts : List (String × ι)} {fields fields' : List (RecordField σ)} {name : String}
    {part : ι} {field field' : RecordField σ} (hname : field.name = name)
    (h : field.Agrees outline n n' part field')
    (hrest : FieldsAgree outline n n' parts fields fields')
    : FieldsAgree outline n n' ((name, part) :: parts) (field :: fields) (field' :: fields')

namespace FieldsAgree

variable {parts : List (String × ι)} {fields fields' : List (RecordField σ)}

theorem map_name_eq (h : FieldsAgree outline n n' parts fields fields')
    : fields.map (·.name) = parts.map (·.1) := by
  induction h with
  | nil => rfl
  | cons hname _ _ ih => rw [List.map_cons, List.map_cons, hname, ih]

theorem foldl_lookUp_eq {get? get?' : String → Option Document} {record : Option σ}
    (h : FieldsAgree outline n n' parts fields fields')
    (hget : ∀ name part, (name, part) ∈ parts →
      Option.Rel (outline.Equates n n' part) (get? name) (get?' name))
    : fields.foldl (RecordField.lookUp get?) record
      = fields'.foldl (RecordField.lookUp get?') record := by
  induction h generalizing record with
  | nil => rfl
  | @cons parts fields fields' name part field field' hname hfield hrest ih =>
    have hhead : field.lookUp get? record = field'.lookUp get?' record := by
      have hvalues := hget name part List.mem_cons_self
      unfold RecordField.lookUp
      rw [hfield.name_eq, hfield.inObject_eq, hname]
      revert hvalues
      generalize get? name = value
      generalize get?' name = value'
      intro hvalues
      cases hvalues with
      | none => rfl
      | some hvalues => exact congrArg _ (funext fun record => hfield.read record _ _ hvalues)
    rw [List.foldl_cons, List.foldl_cons, hhead]
    exact ih fun name part hmem => hget name part (List.mem_cons_of_mem _ hmem)

theorem toOption_readItems_eq {schema schema' : Schema σ} {dialect dialect' : Dialect}
    {length length' index index' : Nat} {record : σ} {part? : Nat → Option ι} {items others : Items}
    (hdialect : dialect ≠ .toml) (hdialect' : dialect' ≠ .toml)
    (h : FieldsAgree outline n n' parts fields fields')
    (hpart : ∀ index, part? index = parts[index]?.map (·.2))
    (hitems : outline.EquatesItems n n' part? items others)
    : (schema.readItems dialect length fields index record items).toOption
      = (schema'.readItems dialect' length' fields' index' record others).toOption := by
  -- fields behind the last item have the value they have without one
  induction h generalizing index index' record part? items others with
  | nil =>
    match items with
    | .nil =>
      cases hitems.sameAs
      rfl
    | .cons item rest =>
      rcases hitems.exists_cons with ⟨other, others', rfl, -, -⟩
      cases dialect with
      | toml => contradiction
      | jsonText | jsonValue =>
        cases dialect' with
        | toml => contradiction
        | jsonText | jsonValue => rfl
    | .stop _ _ => exact absurd hitems.isProper id
  | cons hname hfield hrest ih =>
    match items with
    | .nil =>
      cases hitems.sameAs
      unfold Schema.readItems
      rw [hfield.inArray_eq]
      split
      . rfl
      . exact ih (fun index => hpart (index + 1))
          ⟨trivial, trivial, Nat.zero_le _, Nat.zero_le _, rfl⟩
    | .cons item rest =>
      rcases hitems.exists_cons with ⟨other, others', rfl, hitem, hitems⟩
      unfold Schema.readItems
      rw [toOption_bind, toOption_bind, ← hfield.read record _ _ (hitem _ (hpart 0))]
      exact congrArg _ (funext fun record => ih (fun index => hpart (index + 1)) hitems)
    | .stop _ _ => exact absurd hitems.isProper id

end FieldsAgree

/-- Records are read the same if their fields are, in whatever order the members of objects stand
and whatever other members there are. -/
theorem record_agrees {schema schema' : Schema σ} {dialect dialect' : Dialect}
    {parts : List (String × ι)} (hdialect : dialect ≠ .toml) (hdialect' : dialect' ≠ .toml)
    (hschema : schema.IsUnordered) (hschema' : schema'.IsUnordered)
    (hinitial : schema'.initial = schema.initial) (hform : outline part = .record parts)
    (hfields : FieldsAgree outline (n - 1) (n' - 1) parts schema.fields schema'.fields)
    : outline.Agrees n n' part (schema.read dialect) (schema'.read dialect') := by
  apply Agrees.of_cases
  . intro items others hitems
    rw [hform] at hitems
    unfold Schema.read
    dsimp only
    rw [hinitial]
    exact hfields.toOption_readItems_eq hdialect hdialect' (fun _ => rfl) hitems
  . intro members others hproper hproper' hget
    have hseen (members : Members) : ∀ name ∈ ([] : List String), members.get? name = none := by
      simp
    have hnodup : (parts.map (·.1)).Nodup := hfields.map_name_eq ▸ hschema.nodup
    unfold Schema.read
    dsimp only
    rw [Schema.toOption_readMembers hschema hproper (hseen _),
      Schema.toOption_readMembers hschema' hproper' (hseen _), Schema.unseen_nil,
      Schema.unseen_nil, hinitial]
    refine hfields.foldl_lookUp_eq ?_
    intro name inner hmem
    have hinner : parts.lookup name = some inner := SortedMap.lookup_of_mem hnodup hmem
    exact hget name inner (by rw [hform]; exact hinner)
  . intro document hscalar
    cases document with
    | array _ | object _ | time _ => exact absurd hscalar id
    | _ => rfl

end Decode

end TextScopes
