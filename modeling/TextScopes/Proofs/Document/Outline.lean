import TextScopes.Proofs.Document.Sorted

/-!
This module contains when two documents say the same as far as they are read. An outline tells the
parts of a document that are read from all others: of some objects only the members of certain
names. Two documents say the same if these parts do, in whatever order the members stand.
-/

namespace TextScopes

/-- What is read of an array or an object. -/
inductive Form (ι : Type) where
  /-- Nothing: a value of another kind is expected. -/
  | leaf
  /-- All values, each as the given part. -/
  | each (part : ι)
  /-- The fields of a record, found by their names in an object and by their places in an array. -/
  | record (fields : List (String × ι))

namespace Form

variable {ι : Type}

def field? (form : Form ι) (name : String) : Option ι :=
  match form with
  | leaf => none
  | each part => some part
  | record fields => fields.lookup name

def item? (form : Form ι) (index : Nat) : Option ι :=
  match form with
  | leaf => none
  | each part => some part
  | record fields => fields[index]?.map (·.2)

end Form

/-- The form of each part of a document. -/
abbrev Outline (ι : Type) := ι → Form ι

section SameAs

variable {ι : Type} (outline : Outline ι)

mutual

/-- Whether two documents say the same of a part, whatever they say of what is not read. -/
def Document.SameAs (part : ι) : Document → Document → Prop
  | .array items, other =>
    ∃ others, other = .array others ∧ items.SameAs (outline part).item? others
  | .object members, other =>
    ∃ others, other = .object others ∧ members.SameAs (outline part).field? others
      ∧ ∀ name, ((outline part).field? name).isSome → (others.get? name).isSome →
        (members.get? name).isSome
  | document, other => other = document

/-- Whether the values of two arrays say the same one by one, each of the part at its place. -/
def Items.SameAs (part? : Nat → Option ι) : Items → Items → Prop
  | .cons item rest, others =>
    ∃ other others', others = .cons other others'
      ∧ (∀ part, part? 0 = some part → item.SameAs part other)
      ∧ rest.SameAs (fun index => part? (index + 1)) others'
  | items, others => others = items

/-- Whether all members that are read have members of the same names that say the same. -/
def Members.SameAs (part? : String → Option ι) : Members → Members → Prop
  | .cons name value rest, others =>
    (∀ key part, name = .ok key → part? key = some part →
      ∃ other, others.get? key = some other ∧ value.SameAs part other)
      ∧ rest.SameAs part? others
  | _, _ => True

end

end SameAs

variable {ι : Type} {outline : Outline ι} {part : ι}

theorem Members.SameAs.exists_get? {members others : Members} {part? : String → Option ι}
    {name : String} {value : Document} (h : members.SameAs outline part? others)
    (hpart : part? name = some part) (hvalue : members.get? name = some value)
    : ∃ other, others.get? name = some other ∧ value.SameAs outline part other := by
  match members with
  | .cons (.ok key) first rest =>
    rw [get?_cons] at hvalue
    split at hvalue
    . next heq =>
      cases hvalue
      exact h.1 name part (by rw [heq]) hpart
    . exact h.2.exists_get? hpart hvalue
  | .cons (.error _) _ rest =>
    have hvalue : rest.get? name = some value := hvalue
    exact h.2.exists_get? hpart hvalue

mutual

/-- Sorting the members of objects changes nothing of what a document says. -/
theorem Document.IsProper.sameAs_sorted {document : Document} (h : document.IsProper) (part : ι)
    : document.SameAs outline part document.sorted := by
  match document with
  | .array items => exact ⟨_, rfl, Items.IsProper.sameAs_sorted h _⟩
  | .object members =>
    have hget := (Members.sorted_of_isProper h).2
    refine ⟨_, rfl, Members.sameAs_of_sorted h _ ?_, ?_⟩
    . intro name value hvalue
      rw [hget, hvalue]
      rfl
    . intro name _ hsome
      rw [hget] at hsome
      simpa using hsome
  | .null | .bool _ | .integer _ | .decimal _ | .string _ => rfl

theorem Items.IsProper.sameAs_sorted {items : Items} (h : items.IsProper) (part? : Nat → Option ι)
    : items.SameAs outline part? items.sorted := by
  match items with
  | .nil => rfl
  | .cons item rest => exact ⟨_, _, rfl, fun part _ => h.1.sameAs_sorted part, h.2.sameAs_sorted _⟩

theorem Members.sameAs_of_sorted {members others : Members} (h : members.IsProper)
    (part? : String → Option ι)
    (hothers : ∀ name value, members.get? name = some value →
      others.get? name = some value.sorted)
    : members.SameAs outline part? others := by
  match members with
  | .nil => trivial
  | .cons (.ok key) first rest =>
    refine ⟨?_, Members.sameAs_of_sorted h.2.2 part? ?_⟩
    . rintro name part ⟨⟩ _
      exact ⟨_, hothers key first (by rw [Members.get?_cons, if_pos rfl]), h.2.1.sameAs_sorted part⟩
    . intro name value hvalue
      have hne : key ≠ name := by
        rintro rfl
        rw [h.1] at hvalue
        contradiction
      exact hothers name value (by rw [Members.get?_cons, if_neg hne, hvalue])

end

end TextScopes
