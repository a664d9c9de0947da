import Mathlib.Data.List.Pairwise
import TextScopes.Document.Decode
import TextScopes.Proofs.Document.Sorted
import TextScopes.Proofs.Result
import TextScopes.Proofs.SortedMap

/-!
This module contains how records and maps are read from objects. As long as no name occurs twice,
the order of the members makes no difference: every field of a record, and every entry of a map, is
what its name finds in the object.
-/

namespace TextScopes

section Skipped

mutual

theorem Document.IsProper.skipped_eq_none {document : Document} (h : document.IsProper)
    : document.skipped = none := by
  match document with
  | .array items => exact Items.IsProper.skipped_eq_none h
  | .object members => exact Members.IsProper.skipped_eq_none h
  | .null | .bool _ | .integer _ | .decimal _ | .string _ => rfl

theorem Items.IsProper.skipped_eq_none {items : Items} (h : items.IsProper)
    : items.skipped = none := by
  match items with
  | .nil => rfl
  | .cons item rest => rw [Items.skipped, h.1.skipped_eq_none, h.2.skipped_eq_none]

theorem Members.IsProper.skipped_eq_none {members : Members} (h : members.IsProper)
    : members.skipped = none := by
  match members with
  | .nil => rfl
  | .cons (.ok _) value rest => rw [Members.skipped, h.2.1.skipped_eq_none, h.2.2.skipped_eq_none]

end

end Skipped

namespace Decode

variable {α σ : Type}

/-- Whether it makes no difference which of two fields is read first. -/
def RecordField.Commutes (field other : RecordField σ) : Prop :=
  ∀ d d' record, (field.read d record >>= other.read d').toOption
    = (other.read d' record >>= field.read d).toOption

/-- The record behind a field that is looked up by its name. -/
def RecordField.lookUp (get? : String → Option Document) (record : Option σ)
    (field : RecordField σ) : Option σ :=
  record.bind fun record =>
    match get? field.name with
    | some value => (field.read value record).toOption
    | none => if field.inObject then none else some record

/-- Whether the members of an object that a record is read from may stand in any order. -/
structure Schema.IsUnordered (schema : Schema σ) : Prop where
  isOpen : schema.closed = false
  nodup : (schema.fields.map (·.name)).Nodup
  pairwise : schema.fields.Pairwise RecordField.Commutes

namespace RecordField

variable {get? : String → Option Document} {record : Option σ} {field other : RecordField σ}

theorem lookUp_of_eq_some {value : Document} (h : get? field.name = some value)
    : field.lookUp get? record = record.bind fun record => (field.read value record).toOption := by
  rw [lookUp, h]

theorem lookUp_of_eq_none (h : get? field.name = none)
    : field.lookUp get? record = if field.inObject then none else record := by
  rw [lookUp, h]
  cases record with
  | none => simp
  | some record => rfl

theorem foldl_lookUp_none (fields : List (RecordField σ))
    : fields.foldl (lookUp get?) none = none := by
  induction fields with
  | nil => rfl
  | cons field rest ih => exact ih

theorem foldl_lookUp_nil {fields : List (RecordField σ)}
    : fields.foldl (lookUp Members.nil.get?) record
      = if fields.any (·.inObject) then none else record := by
  induction fields generalizing record with
  | nil => rfl
  | cons field rest ih =>
    rw [List.foldl_cons, lookUp_of_eq_none rfl, ih, List.any_cons]
    cases field.inObject with
    | false => rfl
    | true => simp

theorem Commutes.lookUp_comm (h : field.Commutes other)
    : other.lookUp get? (field.lookUp get? record) = field.lookUp get? (other.lookUp get? record)
    := by
  cases hfield : get? field.name with
  | none =>
    rw [lookUp_of_eq_none hfield, lookUp_of_eq_none hfield]
    split
    . rfl
    . rfl
  | some value =>
    cases hother : get? other.name with
    | none =>
      rw [lookUp_of_eq_none hother, lookUp_of_eq_none hother]
      split
      . rfl
      . rfl
    | some value' =>
      simp only [lookUp_of_eq_some hfield, lookUp_of_eq_some hother, Option.bind_assoc,
        ← toOption_bind, h value value']

theorem commutes_of_store {β : Type} {name name' : String}
    {inObject inObject' inArray inArray' : Bool} {decode : Document → Decoded α}
    {decode' : Document → Decoded β} {store : σ → α → σ} {store' : σ → β → σ}
    (h : ∀ record a b, store' (store record a) b = store (store' record b) a)
    : Commutes ⟨name, inObject, inArray, fun d record => do .ok (store record (← decode d))⟩
        ⟨name', inObject', inArray', fun d record => do .ok (store' record (← decode' d))⟩ := by
  intro d d' record
  dsimp only
  cases decode d with
  | error _ =>
    cases decode' d' with
    | error _ => rfl
    | ok b => rfl
  | ok a =>
    cases decode' d' with
    | error _ => rfl
    | ok b => exact congrArg some (h record a b)

theorem foldl_lookUp_perm {fields others : List (RecordField σ)}
    (hpairwise : fields.Pairwise Commutes) (hperm : fields.Perm others)
    : fields.foldl (lookUp get?) record = others.foldl (lookUp get?) record := by
  have hsymm : Std.Symm fun field other => ∀ record : Option σ,
      lookUp get? (lookUp get? record field) other = lookUp get? (lookUp get? record other) field :=
    ⟨fun _ _ h record => (h record).symm⟩
  refine hperm.foldl_eq' ?_ record
  exact List.Pairwise.forall_of_forall (fun _ _ _ => rfl) (hpairwise.imp fun h _ => h.lookUp_comm)

end RecordField

namespace Schema

variable {schema : Schema σ} {seen : List String} {record : σ}

def unseen (schema : Schema σ) (seen : List String) : List (RecordField σ) :=
  schema.fields.filter fun field => !seen.contains field.name

theorem unseen_nil : schema.unseen [] = schema.fields := by simp [unseen]

theorem mem_unseen_iff {field : RecordField σ}
    : field ∈ schema.unseen seen ↔ field ∈ schema.fields ∧ field.name ∉ seen := by
  simp [unseen]

theorem unseen_perm {field : RecordField σ} (hnodup : (schema.fields.map (·.name)).Nodup)
    (hfield : field ∈ schema.unseen seen)
    : (schema.unseen seen).Perm (field :: schema.unseen (field.name :: seen)) := by
  rcases mem_unseen_iff.mp hfield with ⟨hmem, hseen⟩
  rcases List.append_of_mem hmem with ⟨before, behind, hfields⟩
  rw [hfields, List.map_append, List.map_cons, List.nodup_middle, List.nodup_cons] at hnodup
  have hothers {fields : List (RecordField σ)} (h : fields ⊆ before ++ behind)
      : (fields.filter fun other => !(field.name :: seen).contains other.name)
        = fields.filter fun other => !seen.contains other.name := by
    apply List.filter_congr
    intro other hother
    have hne : other.name ≠ field.name := by
      intro heq
      apply hnodup.1
      rw [← heq, ← List.map_append]
      exact List.mem_map_of_mem (h hother)
    simp [hne]
  unfold unseen
  rw [hfields, List.filter_append, List.filter_append, List.filter_cons, List.filter_cons,
    hothers (List.subset_append_left _ _), hothers (List.subset_append_right _ _)]
  simp [hseen]

theorem toOption_finish
    : (schema.finish seen record).toOption
      = (schema.unseen seen).foldl (RecordField.lookUp Members.nil.get?) (some record) := by
  rw [RecordField.foldl_lookUp_nil]
  unfold finish
  split
  . next field hfind =>
    rw [if_pos]
    . rfl
    . have hmem := List.mem_of_find?_eq_some hfind
      have hfield := List.find?_some hfind
      simp only [Bool.and_eq_true] at hfield
      refine List.any_eq_true.mpr ⟨field, mem_unseen_iff.mpr ⟨hmem, ?_⟩, hfield.1⟩
      simpa using hfield.2
  . next hfind =>
    rw [if_neg]
    . rfl
    . intro hany
      rcases List.any_eq_true.mp hany with ⟨field, hfield, hobject⟩
      rcases mem_unseen_iff.mp hfield with ⟨hmem, hseen⟩
      have hnot := List.find?_eq_none.mp hfind field hmem
      simp [hobject, hseen] at hnot

theorem foldl_lookUp_cons {members : Members} {name : String} {value : Document}
    {fields : List (RecordField σ)} {record : Option σ} (h : ∀ field ∈ fields, field.name ≠ name)
    : fields.foldl (RecordField.lookUp (Members.cons (.ok name) value members).get?) record
      = fields.foldl (RecordField.lookUp members.get?) record := by
  apply List.foldl_ext
  intro record field hfield
  unfold RecordField.lookUp
  rw [Members.get?_cons, if_neg (Ne.symm (h field hfield))]

/-- Reading the members of an object looks up the fields that are left, each by its name. -/
theorem toOption_readMembers {schema : Schema σ} {seen : List String} {record : σ}
    {members : Members} (hschema : schema.IsUnordered) (hproper : members.IsProper)
    (hseen : ∀ name ∈ seen, members.get? name = none)
    : (schema.readMembers seen record members).toOption
      = (schema.unseen seen).foldl (RecordField.lookUp members.get?) (some record) := by
  match members with
  | .nil => exact toOption_finish
  | .cons (.ok name) value rest =>
    have hname : name ∉ seen := by
      intro hmem
      simpa [Members.get?_cons] using hseen name hmem
    have hrest : ∀ other ∈ seen, rest.get? other = none := by
      intro other hother
      have hne : name ≠ other := fun heq => hname (heq ▸ hother)
      have hnone := hseen other hother
      rwa [Members.get?_cons, if_neg hne] at hnone
    unfold readMembers
    split
    . next field hfind =>
      have hfield : field.name = name := by simpa using List.find?_some hfind
      have hmem : field ∈ schema.unseen seen :=
        mem_unseen_iff.mpr ⟨List.mem_of_find?_eq_some hfind, hfield ▸ hname⟩
      have hothers : ∀ other ∈ schema.unseen (name :: seen), other.name ≠ name := by
        intro other hother heq
        exact (mem_unseen_iff.mp hother).2 (heq ▸ List.mem_cons_self)
      have hcons : ∀ other ∈ name :: seen, rest.get? other = none := by
        intro other hother
        rcases List.mem_cons.mp hother with rfl | hother
        . exact hproper.1
        . exact hrest other hother
      -- This field is read first, wherever it stands among the fields that are left.
      have hperm := unseen_perm hschema.nodup hmem
      have hpairwise : (schema.unseen seen).Pairwise RecordField.Commutes :=
        hschema.pairwise.sublist List.filter_sublist
      have hvalue : (Members.cons (.ok name) value rest).get? field.name = some value := by
        rw [Members.get?_cons, if_pos hfield.symm]
      rw [if_neg (by simpa using hname), toOption_bind,
        RecordField.foldl_lookUp_perm hpairwise hperm, hfield, List.foldl_cons,
        foldl_lookUp_cons hothers, RecordField.lookUp_of_eq_some hvalue, Option.bind_some]
      cases field.read value record with
      | error _ => exact (RecordField.foldl_lookUp_none _).symm
      | ok record => exact toOption_readMembers hschema hproper.2.2 hcons
    . next hfind =>
      -- No field has this name, so that the value is only passed over.
      have hothers : ∀ other ∈ schema.unseen seen, other.name ≠ name := by
        intro other hother
        simpa using List.find?_eq_none.mp hfind other (mem_unseen_iff.mp hother).1
      have hskip : value.skip = .ok () := by
        rw [Document.skip, hproper.2.1.skipped_eq_none]
      rw [hschema.isOpen, if_neg Bool.false_ne_true, hskip, foldl_lookUp_cons hothers]
      exact toOption_readMembers hschema hproper.2.2 hrest

end Schema

theorem members_eq_ok_iff {decode : Document → Decoded α} {map result : SortedMap String α}
    {members : Members} (hproper : members.IsProper)
    : Decode.members decode map members = .ok result
        ↔ ∀ name,
          match members.get? name with
          | some value => ∃ a, decode value = .ok a ∧ result.get? name = some a
          | none => result.get? name = map.get? name := by
  match members with
  | .nil =>
    constructor
    . intro heq
      cases heq
      exact fun _ => rfl
    . intro heq
      exact congrArg _ (SortedMap.ext_get? fun name => (heq name).symm)
  | .cons (.ok name) value rest =>
    unfold Decode.members
    simp only [bind_eq_ok_iff, members_eq_ok_iff hproper.2.2, Members.get?_cons,
      SortedMap.get?_insert]
    constructor
    . rintro ⟨a, ha, hrest⟩ key
      have hkey := hrest key
      by_cases heq : name = key
      . subst heq
        rw [hproper.1] at hkey
        simpa [ha] using hkey
      . simpa [heq, Ne.symm heq] using hkey
    . intro hall
      -- the name does not come again, so that its value stays
      have hname := hall name
      rw [if_pos rfl] at hname
      rcases hname with ⟨a, ha, hget⟩
      refine ⟨a, ha, ?_⟩
      intro key
      have hkey := hall key
      by_cases heq : name = key
      . subst heq
        rw [hproper.1]
        simpa using hget
      . simpa [heq, Ne.symm heq] using hkey

end Decode

end TextScopes
