import TextScopes.Proofs.Builtin.JsonRegions

/-!
This module contains what the tokenizer makes of JSON texts. It is shown by induction on the tree of
a text, and the end is that the spans of the text are those that can be read off the tree.
-/

namespace TextScopes.Builtin

open Regex JsonText

section Blanks

variable {before w after : Text} {frames : List Frame} {spans : List Span}

theorem mem_delimiters_of_blank {blanks : List Blank}
    : ∀ c ∈ blanksText blanks, c ∈ delimiters := by
  intro c hc
  rcases List.mem_map.mp hc with ⟨blank, -, rfl⟩
  cases blank with
  | space | tab | lineFeed | carriageReturn => decide

theorem isOneOf_head?_blanks (blanks : List Blank) (h : IsOneOf delimiters after.head?)
    : IsOneOf delimiters (blanksText blanks ++ after).head? := by
  refine IsOneOf.head?_append ?_ h
  intro c hc
  exact mem_delimiters_of_blank c (List.mem_of_mem_head? hc)

theorem isOneOf_getLast?_append (h : IsOneOf delimiters before.getLast?)
    (hw : IsOneOf delimiters w.getLast?) : IsOneOf delimiters (before ++ w).getLast? := by
  intro c hc
  rw [List.getLast?_append, Option.or_eq_some_iff] at hc
  rcases hc with hc | ⟨-, hc⟩
  . exact hw c hc
  . exact h c hc

theorem isOneOf_getLast?_blanks (blanks : List Blank)
    : IsOneOf delimiters (blanksText blanks).getLast? :=
  fun c hc => mem_delimiters_of_blank c (List.mem_of_getLast? hc)

theorem isOneOf_getLast?_singleton {c : Char} (hc : c ∈ delimiters) (before : Text)
    : IsOneOf delimiters (before ++ [c]).getLast? := by
  intro d hd
  rw [List.getLast?_concat] at hd
  cases hd
  exact hc

theorem Reads.then_blanks {blanks : List Blank}
    (h : Reads before w (blanksText blanks ++ after) frames spans)
    : Reads before (w ++ blanksText blanks) after frames spans := by
  rw [← List.append_nil spans]
  exact h.append (reads_blanks _ _ _ _)

theorem Reads.after_blanks {blanks : List Blank}
    (h : Reads (before ++ blanksText blanks) w after frames spans)
    : Reads before (blanksText blanks ++ w) after frames spans :=
  (reads_blanks _ _ _ _).append h

end Blanks

theorem reads_separated {item rest : Text} {sep : Char} {scope : String}
    {behind front : List Blank} {before after : Text} {frames : List Frame}
    {spans : List Span} (spansFrom : Nat → List Span)
    (hsep : sep ∈ delimiters) (hsize : Text.size [sep] = 1)
    (hitem : ∀ after : Text, IsOneOf delimiters after.head? → Reads before item after frames spans)
    (hseparator : ∀ before after : Text, Reads before [sep] after frames
      [⟨scope :: jsonGrammar.scopesIn frames, before.size, before.size + Text.size [sep]⟩])
    (hrest : ∀ before : Text, IsOneOf delimiters before.getLast? →
      Reads before rest after frames (spansFrom before.size))
    : Reads before ((item ++ blanksText behind) ++ ([sep] ++ (blanksText front ++ rest))) after
        frames
        (spans
          ++ (⟨scope :: jsonGrammar.scopesIn frames, before.size + (item ++ blanksText behind).size,
              before.size + (item ++ blanksText behind).size + 1⟩
            :: spansFrom (before.size + (item ++ blanksText behind).size + 1
              + (blanksText front).size))) := by
  have hfirst := (hitem (blanksText behind ++ ([sep] ++ (blanksText front ++ rest) ++ after))
    (isOneOf_head?_blanks behind (IsOneOf.cons hsep))).then_blanks
  have hmiddle := hseparator (before ++ (item ++ blanksText behind))
    (blanksText front ++ rest ++ after)
  have hbefore : IsOneOf delimiters
      (before ++ (item ++ blanksText behind) ++ [sep] ++ blanksText front).getLast? :=
    isOneOf_getLast?_append (isOneOf_getLast?_singleton hsep _) (isOneOf_getLast?_blanks front)
  have hlast := (hrest _ hbefore).after_blanks
  have hall := hfirst.append (hmiddle.append hlast)
  rw [Text.size_append _ (blanksText front), Text.size_append _ [sep], Text.size_append before,
    hsize] at hall
  exact hall

theorem valueMayStand_root : ValueMayStand [] where
  active := by decide
  notInString := nofun

section Frames

variable (scopes : ScopeStack) (start : Nat) (frames : List Frame)

theorem valueMayStand_frame {d : Delimiters} (hactive : ∀ id ∈ jsonValueRules, d.active.contains id)
    (hid : d.id ≠ Delimiters.string.id) : ValueMayStand (d.frame scopes start :: frames) where
  active := hactive
  notInString := fun heq => hid (Option.some.inj heq)

theorem valueMayStand_array : ValueMayStand (Delimiters.array.frame scopes start :: frames) :=
  valueMayStand_frame scopes start frames (by decide) (by decide)

theorem valueMayStand_object : ValueMayStand (Delimiters.object.frame scopes start :: frames) :=
  valueMayStand_frame scopes start frames (by decide) (by decide)

variable (before after : Text)

theorem reads_arrayComma
    : Reads before [','] after (Delimiters.array.frame scopes start :: frames)
        [⟨"punctuation.separator.array.json" :: Delimiters.array.scopes.name :: scopes, before.size,
          before.size + Text.size [',']⟩] :=
  reads_separator 1 rfl rfl (by decide) (by decide) (by decide) (by decide) (by decide) before after

theorem reads_objectComma
    : Reads before [','] after (Delimiters.object.frame scopes start :: frames)
        [⟨"punctuation.separator.dictionary.pair.json" :: Delimiters.object.scopes.name :: scopes,
          before.size, before.size + Text.size [',']⟩] :=
  reads_separator 13 rfl rfl (by decide) (by decide) (by decide) (by decide) (by decide) before
    after

theorem reads_colon
    : Reads before [':'] after (Delimiters.object.frame scopes start :: frames)
        [⟨"punctuation.separator.dictionary.key-value.json" :: Delimiters.object.scopes.name
            :: scopes,
          before.size, before.size + Text.size [':']⟩] :=
  reads_separator 12 rfl rfl (by decide) (by decide) (by decide) (by decide) (by decide) before
    after

end Frames

mutual

theorem reads_value (value : Value) {before after : Text} {frames : List Frame}
    (hframes : ValueMayStand frames) (hprev : IsOneOf delimiters before.getLast?)
    (hnext : IsOneOf delimiters after.head?)
    : Reads before value.text after frames
        (value.spans (jsonGrammar.scopesIn frames) before.size) := by
  match value with
  | .constant constant => exact reads_constant constant hframes hprev hnext
  | .number number => exact reads_number number hframes hprev hnext
  | .string parts => exact reads_quoted frames hframes parts
  | .emptyArray blanks =>
    exact reads_delimited (Delimiters.isKnown_of_mem (d := .array) (by simp)) hframes
      (reads_blanks _ _ _ blanks)
  | .array front elements =>
    have helements : Reads (before ++ ['['] ++ blanksText front) elements.text ([']'] ++ after)
        _ _ :=
      reads_elements elements (jsonGrammar.scopesIn frames) before.size frames
        (isOneOf_getLast?_append (isOneOf_getLast?_singleton (by decide) _)
          (isOneOf_getLast?_blanks front))
        (IsOneOf.cons (by decide))
    rw [Text.size_append, Text.size_append] at helements
    exact reads_delimited (Delimiters.isKnown_of_mem (d := .array) (by simp)) hframes
      helements.after_blanks
  | .emptyObject blanks =>
    exact reads_delimited (Delimiters.isKnown_of_mem (d := .object) (by simp)) hframes
      (reads_blanks _ _ _ blanks)
  | .object front members =>
    have hmembers : Reads (before ++ ['\x7b'] ++ blanksText front) members.text
        (['\x7d'] ++ after) _ _ :=
      reads_members members (jsonGrammar.scopesIn frames) before.size frames
        (IsOneOf.cons (by decide))
    rw [Text.size_append, Text.size_append] at hmembers
    exact reads_delimited (Delimiters.isKnown_of_mem (d := .object) (by simp)) hframes
      hmembers.after_blanks
termination_by structural value

theorem reads_elements (elements : Elements) {before after : Text} (scopes : ScopeStack)
    (start : Nat) (frames : List Frame) (hprev : IsOneOf delimiters before.getLast?)
    (hnext : IsOneOf delimiters after.head?)
    : Reads before elements.text after (Delimiters.array.frame scopes start :: frames)
        (elements.spans (Delimiters.array.scopes.name :: scopes) before.size) := by
  have hframes := valueMayStand_array scopes start frames
  match elements with
  | .last value behind =>
    exact (reads_value value hframes hprev (isOneOf_head?_blanks behind hnext)).then_blanks
  | .more value behind front others =>
    exact reads_separated (fun start => others.spans _ start) (by decide) rfl
      (fun _ hafter => reads_value value hframes hprev hafter)
      (reads_arrayComma scopes start frames)
      (fun _ hbefore => reads_elements others scopes start frames hbefore hnext)
termination_by structural elements

theorem reads_member (member : Member) {before after : Text} (scopes : ScopeStack) (start : Nat)
    (frames : List Frame) (hnext : IsOneOf delimiters after.head?)
    : Reads before member.text after (Delimiters.object.frame scopes start :: frames)
        (member.spans (Delimiters.object.scopes.name :: scopes) before.size) := by
  have hframes := valueMayStand_object scopes start frames
  match member with
  | .mk key behind front value =>
    exact reads_separated (fun start => value.spans _ start) (by decide) rfl
      (fun _ _ => reads_quoted _ hframes key)
      (reads_colon scopes start frames)
      (fun _ hbefore => reads_value value hframes hbefore hnext)
termination_by structural member

theorem reads_members (members : JsonText.Members) {before after : Text} (scopes : ScopeStack)
    (start : Nat) (frames : List Frame) (hnext : IsOneOf delimiters after.head?)
    : Reads before members.text after (Delimiters.object.frame scopes start :: frames)
        (members.spans (Delimiters.object.scopes.name :: scopes) before.size) := by
  match members with
  | .last member behind =>
    exact (reads_member member scopes start frames (isOneOf_head?_blanks behind hnext)).then_blanks
  | .more member behind front others =>
    exact reads_separated (fun start => others.spans _ start) (by decide) rfl
      (fun _ hafter => reads_member member scopes start frames hafter)
      (reads_objectComma scopes start frames)
      (fun _ _ => reads_members others scopes start frames hnext)
termination_by structural members

end

theorem perm_tokenize_of_passes {text : Text} {spans : List Span}
    (h : Passes [] text [] [] [] spans) : (jsonGrammar.tokenize text).Perm spans := by
  have hmoves := (h ⟨.zero _ _, .zero _ _⟩).2
  rw [List.append_nil, List.nil_append] at hmoves
  have hlt : ∀ c ∈ jsonGrammar.scan text, c.start < text.size := by
    intro c hc
    rcases exists_of_mem_scan hc with ⟨before, x, tail, rfl, hstart, -⟩
    have := x.utf8Size_pos
    rw [hstart, Text.size_append, Text.size_cons]
    omega
  have hperm := hmoves.perm_tokenize hlt
  rw [List.map_nil, List.flatten_nil, List.append_nil] at hperm
  exact hperm

theorem tokenize_of_reads {text : Text} {spans : List Span} (h : Reads [] text [] [] spans)
    : jsonGrammar.tokenize text = spans := by
  apply h.inOrder.mergeSort_eq
  exact (List.mergeSort_perm _ _).symm.trans (perm_tokenize_of_passes h.passes)

theorem tokenize_jsonGrammar (json : JsonText) : jsonGrammar.tokenize json.text = json.spans := by
  have hvalue : Reads ([] ++ blanksText json.before) json.value.text
      (blanksText json.behind ++ []) _ _ :=
    reads_value json.value valueMayStand_root
      (isOneOf_getLast?_append nofun (isOneOf_getLast?_blanks json.before))
      (isOneOf_head?_blanks json.behind nofun)
  exact tokenize_of_reads hvalue.then_blanks.after_blanks

/-- The scopes of comments and of a backslash that starts no escape. -/
def strayScopes : List String :=
  ["comment.block.json", "comment.line.double-slash.json", "punctuation.definition.comment.json",
    "invalid.illegal.unrecognized-string-escape.json"]

/-- The spans of a JSON text are those that can be read off its tree: nothing in it is taken for a
comment or for a wrong escape. -/
theorem tokenize_json
    : ∃ grammar, json.build = .ok grammar ∧ ∀ text : JsonText,
        grammar.tokenize text.text = text.spans
          ∧ ∀ span ∈ grammar.tokenize text.text, ∀ scope ∈ span.scopes, scope ∉ strayScopes := by
  refine ⟨jsonGrammar, build_json, fun text => ?_⟩
  rw [tokenize_jsonGrammar]
  refine ⟨rfl, ?_⟩
  intro span hspan scope hscope
  have hknown : ∀ scope ∈ "source.json" :: tokenScopes, scope ∉ strayScopes := by decide
  rcases text.value.isOfTokens_spans _ _ span hspan scope hscope with hscope | hscope
  . exact hknown scope (List.mem_singleton.mp hscope ▸ List.mem_cons_self)
  . exact hknown scope (List.mem_cons_of_mem _ hscope)

end TextScopes.Builtin
