import TextScopes.Proofs.Builtin.Json
import TextScopes.Proofs.Builtin.JsoncComments
import TextScopes.Proofs.Tokenizer.Origin
import TextScopes.Proofs.Tokenizer.Spans

/-!
This module contains what the tokenizer makes of JSON texts with comments. If every line comment
begins with the first two slashes of its line, all comments are found and nothing else changes.
Otherwise one of them is missed.
-/

namespace TextScopes.Builtin

open Regex JsoncText
open JsonText (Blank blanksText quotedText)

/-- Whether the given comments stand in a piece of a text, and if they lead their lines, the
tokenizer finds them and makes the given other spans. -/
structure Finds (before w after : Text) (frames : List Frame) (comments : List Placed)
    (spans : List Span) : Prop where
  stand : ∀ placed ∈ comments, placed.front ++ placed.comment.text <+: before ++ w
  passes : (∀ placed ∈ comments, placed.Leads) →
    Passes before w after frames frames (comments.flatMap Placed.spans ++ spans)

namespace Finds

variable {before v w after : Text} {frames : List Frame} {comments comments' : List Placed}
  {spans spans' : List Span}

theorem of_reads (h : Reads before w after frames spans) : Finds before w after frames [] spans :=
  ⟨nofun, fun _ => h.passes⟩

theorem append (h : Finds before v (w ++ after) frames comments spans)
    (h' : Finds (before ++ v) w after frames comments' spans')
    : Finds before (v ++ w) after frames (comments ++ comments') (spans ++ spans') := by
  constructor
  . rw [← List.append_assoc, List.forall_mem_append]
    exact ⟨fun placed hplaced => (h.stand placed hplaced).trans (List.prefix_append _ _), h'.stand⟩
  . intro hleads
    rw [List.forall_mem_append] at hleads
    apply ((h.passes hleads.1).trans (h'.passes hleads.2)).perm
    rw [List.flatMap_append, List.append_assoc, List.append_assoc]
    apply List.Perm.append_left
    rw [← List.append_assoc, ← List.append_assoc]
    exact List.perm_append_comm.append_right _

theorem delimited {d : Delimiters} (hd : d.IsKnown) (hframes : ValueMayStand frames)
    {blanked : Text} (hblanked : blanked.size = w.size)
    (h : Finds (before ++ [d.opening]) w ([d.closing] ++ after)
      (d.frame (jsonGrammar.scopesIn frames) before.size :: frames) comments spans)
    : Finds before ([d.opening] ++ (w ++ [d.closing])) after frames comments
        (d.scopes.spans (jsonGrammar.scopesIn frames) before.size blanked.size spans) := by
  constructor
  . intro placed hplaced
    apply (h.stand placed hplaced).trans
    rw [← List.append_assoc, ← List.append_assoc]
    exact List.prefix_append _ _
  . intro hleads
    rw [hblanked]
    apply (passes_delimited hd hframes (h.passes hleads)).perm
    unfold JsonText.DelimiterScopes.spans
    dsimp only
    rw [List.append_assoc]
    exact (List.perm_middle.trans (List.perm_middle.cons _)).symm

end Finds

section Gaps

variable {before w after : Text} {frames : List Frame} {comments : List Placed}
  {spans : List Span}

theorem finds_comment (hframes : ValueMayStand frames) (comment : Comment)
    (hafter : comment.ending ≠ [] → ∀ c, after.head? = some c → c = '\n')
    : Finds before comment.text after frames [⟨before, jsonGrammar.scopesIn frames, comment⟩] []
    := by
  constructor
  . intro placed hplaced
    rw [List.mem_singleton.mp hplaced]
  . intro hleads
    rw [List.flatMap_singleton, List.append_nil]
    have hleads := hleads _ (List.mem_singleton_self _)
    cases comment with
    | block content => exact passes_block hframes content
    | line content => exact passes_line hframes hleads content (hafter (List.cons_ne_nil _ _))

theorem finds_filler (hframes : ValueMayStand frames) (filler : Filler)
    : Finds before filler.text after frames (filler.comments before (jsonGrammar.scopesIn frames))
        [] := by
  cases filler with
  | blank b => exact .of_reads (reads_blanks _ _ _ [b])
  | comment c =>
    have hcomment : Finds before c.text (blanksText c.ending ++ after) frames
        [⟨before, jsonGrammar.scopesIn frames, c⟩] [] := by
      apply finds_comment hframes c
      cases c with
      | block content => exact fun h => absurd rfl h
      | line content =>
        rintro - d ⟨⟩
        rfl
    exact hcomment.append (.of_reads (reads_blanks _ _ _ c.ending))

theorem finds_gap (hframes : ValueMayStand frames) (gap : Gap)
    : Finds before (gapText gap) after frames
        (gapComments before (jsonGrammar.scopesIn frames) gap) [] := by
  induction gap generalizing before with
  | nil => exact .of_reads (.nil _ _ _)
  | cons filler gap ih =>
    have hfiller : Finds before filler.text (gapText gap ++ after) frames _ [] :=
      finds_filler hframes filler
    exact hfiller.append ih

theorem Finds.then_gap (hframes : ValueMayStand frames) {gap : Gap}
    (h : Finds before w (gapText gap ++ after) frames comments spans)
    : Finds before (w ++ gapText gap) after frames
        (comments ++ gapComments (before ++ w) (jsonGrammar.scopesIn frames) gap) spans := by
  rw [← List.append_nil spans]
  exact h.append (finds_gap hframes gap)

theorem Finds.after_gap (hframes : ValueMayStand frames) {gap : Gap}
    (h : Finds (before ++ gapText gap) w after frames comments spans)
    : Finds before (gapText gap ++ w) after frames
        (gapComments before (jsonGrammar.scopesIn frames) gap ++ comments) spans :=
  (finds_gap hframes gap).append h

theorem isOneOf_head?_comment (comment : Comment) (after : Text)
    : IsOneOf delimiters (comment.text ++ after).head? := by
  cases comment with
  | block content => exact IsOneOf.cons (by decide)
  | line content => exact IsOneOf.cons (by decide)

theorem isOneOf_head?_gap (gap : Gap) (h : IsOneOf delimiters after.head?)
    : IsOneOf delimiters (gapText gap ++ after).head? := by
  cases gap with
  | nil => exact h
  | cons filler gap =>
    cases filler with
    | blank b =>
      exact IsOneOf.cons
        (mem_delimiters_of_blank _ (List.mem_map_of_mem (List.mem_singleton_self b)))
    | comment c =>
      unfold gapText
      rw [List.flatMap_cons, List.append_assoc, Filler.text, List.append_assoc]
      exact isOneOf_head?_comment c _

theorem isOneOf_getLast?_filler (filler : Filler)
    : IsOneOf delimiters filler.text.getLast? := by
  cases filler with
  | blank b => exact isOneOf_getLast?_blanks [b]
  | comment c =>
    cases c with
    | block content =>
      have htext : (Filler.comment (.block content)).text
          = ['/', '*'] ++ content.val ++ ['*'] ++ ['/'] := by
        simp [Filler.text, Comment.text, Comment.ending, blanksText]
      rw [htext]
      exact isOneOf_getLast?_singleton (by decide) _
    | line content => exact isOneOf_getLast?_singleton (by decide) _

theorem isOneOf_getLast?_gap (gap : Gap) (h : IsOneOf delimiters before.getLast?)
    : IsOneOf delimiters (before ++ gapText gap).getLast? := by
  induction gap generalizing before with
  | nil =>
    rw [gapText, List.flatMap_nil, List.append_nil]
    exact h
  | cons filler gap ih =>
    rw [gapText, List.flatMap_cons, ← List.append_assoc]
    exact ih (isOneOf_getLast?_append h (isOneOf_getLast?_filler filler))

end Gaps

theorem finds_separated {item blanked rest : Text} {sep : Char} {scope : String}
    {behind front : Gap} {before after : Text} {frames : List Frame} {comments : List Placed}
    {spans : List Span} (commentsFrom : Text → List Placed) (spansFrom : Nat → List Span)
    (hframes : ValueMayStand frames) (hblanked : blanked.size = item.size)
    (hsep : sep ∈ delimiters) (hsize : Text.size [sep] = 1)
    (hitem : ∀ after : Text, IsOneOf delimiters after.head? →
      Finds before item after frames comments spans)
    (hseparator : ∀ before after : Text, Reads before [sep] after frames
      [⟨scope :: jsonGrammar.scopesIn frames, before.size, before.size + Text.size [sep]⟩])
    (hrest : ∀ before : Text, IsOneOf delimiters before.getLast? →
      Finds before rest after frames (commentsFrom before) (spansFrom before.size))
    : Finds before ((item ++ gapText behind) ++ ([sep] ++ (gapText front ++ rest))) after frames
        ((comments ++ gapComments (before ++ item) (jsonGrammar.scopesIn frames) behind)
          ++ (gapComments (before ++ (item ++ gapText behind) ++ [sep])
              (jsonGrammar.scopesIn frames) front
            ++ commentsFrom (before ++ (item ++ gapText behind) ++ [sep] ++ gapText front)))
        (spans
          ++ (⟨scope :: jsonGrammar.scopesIn frames,
              before.size + (blanked ++ blanksText (gapBlanks behind)).size,
              before.size + (blanked ++ blanksText (gapBlanks behind)).size + 1⟩
            :: spansFrom (before.size + (blanked ++ blanksText (gapBlanks behind)).size + 1
              + (blanksText (gapBlanks front)).size))) := by
  have hfirst := (hitem (gapText behind ++ ([sep] ++ (gapText front ++ rest) ++ after))
    (isOneOf_head?_gap behind (IsOneOf.cons hsep))).then_gap hframes
  have hmiddle := Finds.of_reads (hseparator (before ++ (item ++ gapText behind))
    (gapText front ++ rest ++ after))
  have hlast := (hrest _ (isOneOf_getLast?_gap front
    (isOneOf_getLast?_singleton hsep (before ++ (item ++ gapText behind))))).after_gap hframes
  have hall := hfirst.append (hmiddle.append hlast)
  -- the spans have the offsets of the text with blanks in place of comments
  have hgap : (blanked ++ blanksText (gapBlanks behind)).size = (item ++ gapText behind).size := by
    rw [Text.size_append, Text.size_append, hblanked, size_gapBlanks]
  rw [Text.size_append _ (gapText front), Text.size_append _ [sep], Text.size_append before,
    hsize] at hall
  rw [hgap, size_gapBlanks]
  exact hall

mutual

theorem finds_value (value : Value) {before after : Text} {frames : List Frame}
    (hframes : ValueMayStand frames) (hprev : IsOneOf delimiters before.getLast?)
    (hnext : IsOneOf delimiters after.head?)
    : Finds before value.text after frames (value.comments before (jsonGrammar.scopesIn frames))
        (value.blanked.spans (jsonGrammar.scopesIn frames) before.size) := by
  match value with
  | .constant constant => exact .of_reads (reads_constant constant hframes hprev hnext)
  | .number number => exact .of_reads (reads_number number hframes hprev hnext)
  | .string parts => exact .of_reads (reads_quoted frames hframes parts)
  | .emptyArray gap =>
    exact .delimited (Delimiters.isKnown_of_mem (d := .array) (by simp)) hframes
      (size_gapBlanks gap) (finds_gap (valueMayStand_array _ _ _) gap)
  | .array front elements =>
    have hinner := valueMayStand_array (jsonGrammar.scopesIn frames) before.size frames
    have helements : Finds (before ++ ['['] ++ gapText front) elements.text ([']'] ++ after)
        _ _ _ :=
      finds_elements elements (jsonGrammar.scopesIn frames) before.size frames
        (isOneOf_getLast?_gap front (isOneOf_getLast?_singleton (by decide) _))
        (IsOneOf.cons (by decide))
    rw [Text.size_append, Text.size_append, ← size_gapBlanks] at helements
    exact .delimited (Delimiters.isKnown_of_mem (d := .array) (by simp)) hframes
      (by simp [size_gapBlanks, elements.size_blanked]) (helements.after_gap hinner)
  | .emptyObject gap =>
    exact .delimited (Delimiters.isKnown_of_mem (d := .object) (by simp)) hframes
      (size_gapBlanks gap) (finds_gap (valueMayStand_object _ _ _) gap)
  | .object front members =>
    have hinner := valueMayStand_object (jsonGrammar.scopesIn frames) before.size frames
    have hmembers : Finds (before ++ ['\x7b'] ++ gapText front) members.text
        (['\x7d'] ++ after) _ _ _ :=
      finds_members members (jsonGrammar.scopesIn frames) before.size frames
        (IsOneOf.cons (by decide))
    rw [Text.size_append, Text.size_append, ← size_gapBlanks] at hmembers
    exact .delimited (Delimiters.isKnown_of_mem (d := .object) (by simp)) hframes
      (by simp [size_gapBlanks, members.size_blanked]) (hmembers.after_gap hinner)
termination_by structural value

theorem finds_elements (elements : Elements) {before after : Text} (scopes : ScopeStack)
    (start : Nat) (frames : List Frame) (hprev : IsOneOf delimiters before.getLast?)
    (hnext : IsOneOf delimiters after.head?)
    : Finds before elements.text after (Delimiters.array.frame scopes start :: frames)
        (elements.comments before (Delimiters.array.scopes.name :: scopes))
        (elements.blanked.spans (Delimiters.array.scopes.name :: scopes) before.size) := by
  have hframes := valueMayStand_array scopes start frames
  match elements with
  | .last value behind =>
    exact (finds_value value hframes hprev (isOneOf_head?_gap behind hnext)).then_gap hframes
  | .more value behind front others =>
    exact finds_separated (fun before => others.comments before _)
      (fun start => others.blanked.spans _ start) hframes value.size_blanked (by decide) rfl
      (fun _ hafter => finds_value value hframes hprev hafter)
      (reads_arrayComma scopes start frames)
      (fun _ hbefore => finds_elements others scopes start frames hbefore hnext)
termination_by structural elements

theorem finds_member (member : Member) {before after : Text} (scopes : ScopeStack) (start : Nat)
    (frames : List Frame) (hnext : IsOneOf delimiters after.head?)
    : Finds before member.text after (Delimiters.object.frame scopes start :: frames)
        (member.comments before (Delimiters.object.scopes.name :: scopes))
        (member.blanked.spans (Delimiters.object.scopes.name :: scopes) before.size) := by
  have hframes := valueMayStand_object scopes start frames
  match member with
  | .mk key behind front value =>
    exact finds_separated (fun before => value.comments before _)
      (fun start => value.blanked.spans _ start) hframes rfl (by decide) rfl
      (fun _ _ => .of_reads (reads_quoted _ hframes key))
      (reads_colon scopes start frames)
      (fun _ hbefore => finds_value value hframes hbefore hnext)
termination_by structural member

theorem finds_members (members : JsoncText.Members) {before after : Text} (scopes : ScopeStack)
    (start : Nat) (frames : List Frame) (hnext : IsOneOf delimiters after.head?)
    : Finds before members.text after (Delimiters.object.frame scopes start :: frames)
        (members.comments before (Delimiters.object.scopes.name :: scopes))
        (members.blanked.spans (Delimiters.object.scopes.name :: scopes) before.size) := by
  have hframes := valueMayStand_object scopes start frames
  match members with
  | .last member behind =>
    exact (finds_member member scopes start frames (isOneOf_head?_gap behind hnext)).then_gap
      hframes
  | .more member behind front others =>
    exact finds_separated (fun before => others.comments before _)
      (fun start => others.blanked.spans _ start) hframes member.size_blanked (by decide) rfl
      (fun _ hafter => finds_member member scopes start frames hafter)
      (reads_objectComma scopes start frames)
      (fun _ _ => finds_members others scopes start frames hnext)
termination_by structural members

end

section Missed

variable {before rest : Text}

theorem exists_leads_of_not_leads (h : ¬ LeadsBehind before)
    : ∃ a b : Text, before ++ ['/'] = a ++ '/' :: '/' :: b ∧ '\n' ∉ b ∧ LeadsBehind a := by
  induction hlength : before.length using Nat.strong_induction_on generalizing before with
  | _ n ih =>
    subst hlength
    unfold LeadsBehind at h
    push Not at h
    rcases h with ⟨a, b, heq, hb⟩
    by_cases hleads : LeadsBehind a
    . exact ⟨a, b, heq, hb, hleads⟩
    . have hlength := congrArg List.length heq
      simp only [List.length_append, List.length_cons, List.length_nil] at hlength
      rcases ih a.length (by omega) hleads rfl with ⟨first, second, hfirst, hsecond, hleads⟩
      refine ⟨first, second ++ '/' :: b, ?_, ?_, hleads⟩
      . rw [heq, List.append_cons, hfirst]
        simp
      . rw [List.mem_append, List.mem_cons]
        rintro (hmem | hmem | hmem)
        . exact hsecond hmem
        . contradiction
        . exact hb hmem

theorem start_ne_of_not_leads (h : ¬ LeadsBehind before) {hit : Hit}
    (hhit : hit ∈ lineCommentRegex.hits (before ++ '/' :: rest)) : hit.start ≠ before.size := by
  intro hstart
  rcases exists_leads_of_not_leads h with ⟨a, b, heq, hb, hleads⟩
  let line := rest.takeWhile (· != '\n')
  let behind := rest.dropWhile (· != '\n')
  have hline : '\n' ∉ b ++ line := by
    rw [List.mem_append]
    rintro (hmem | hmem)
    . exact hb hmem
    . exact absurd (List.mem_takeWhile_imp hmem) (by decide)
  have hbehind : ∀ c, behind.head? = some c → c = '\n' := by
    intro c hc
    have hnot := List.head?_dropWhile_not (· != '\n') rest
    rw [hc] at hnot
    simpa using hnot
  have htext : before ++ '/' :: rest = a ++ (('/' :: '/' :: (b ++ line)) ++ behind) := by
    rw [List.append_cons, heq, ← List.takeWhile_append_dropWhile (p := (· != '\n')) (l := rest)]
    simp [line, behind]
  -- the match at the first two slashes runs to the end of the line
  have hfirst := lineHit_mem_hits hleads hline hbehind
  rw [← htext] at hfirst
  have hslash : ('/').utf8Size = 1 := by decide
  have hsize := congrArg Text.size heq
  simp only [Text.size_append, Text.size_cons, Text.size_nil, hslash] at hsize
  have hreach : a.size + Text.size ('/' :: '/' :: (b ++ line)) ≤ hit.start := by
    apply isClear_start hhit _ hfirst
    change a.size < hit.start
    omega
  simp only [Text.size_append, Text.size_cons, hslash] at hreach
  omega

end Missed

section Texts

variable (jsonc : JsoncText)

theorem finds_last (front : Text) (last : Option Comment)
    : Finds front (last.elim [] Comment.text) [] []
        (last.map fun comment => ⟨front, ["source.json"], comment⟩).toList [] := by
  cases last with
  | none => exact .of_reads (.nil _ _ _)
  | some comment => exact finds_comment valueMayStand_root comment fun _ _ h => nomatch h

theorem finds_text : Finds [] jsonc.text [] [] jsonc.comments jsonc.blanked.spans := by
  have hlast : IsOneOf delimiters (jsonc.lastComment.elim [] Comment.text ++ []).head? := by
    cases jsonc.lastComment with
    | none => exact nofun
    | some comment => exact isOneOf_head?_comment comment []
  have hprev : IsOneOf delimiters ([] ++ gapText jsonc.before).getLast? :=
    isOneOf_getLast?_gap jsonc.before nofun
  have hvalue : Finds ([] ++ gapText jsonc.before) jsonc.value.text
      (gapText jsonc.behind ++ jsonc.lastComment.elim [] Comment.text ++ []) [] _ _ :=
    finds_value jsonc.value valueMayStand_root hprev (by
      rw [List.append_assoc]
      exact isOneOf_head?_gap jsonc.behind hlast)
  have hbehind := (finds_last (gapText jsonc.before ++ jsonc.value.text ++ gapText jsonc.behind)
    jsonc.lastComment).after_gap valueMayStand_root
  have hall := (hvalue.append hbehind).after_gap valueMayStand_root
  have hsize : (blanksText jsonc.blanked.before).size = (gapText jsonc.before).size :=
    size_gapBlanks _
  rw [List.append_nil] at hall
  unfold JsonText.spans
  rw [hsize]
  exact hall

/-- If all comments lead their lines, they are found, and nothing else changes. -/
theorem tokenize_of_leads (h : ∀ placed ∈ jsonc.comments, placed.Leads)
    : jsonGrammar.tokenize jsonc.text = jsonc.spans := by
  have hperm := perm_tokenize_of_passes ((finds_text jsonc).passes h)
  have hemitted := hperm.symm.trans (List.mergeSort_perm _ _)
  exact ((Grammar.layered_emitted build_json jsonc.text).mergeSort_eq_of_perm hemitted).symm

theorem rule_of_gives {c : Candidate} {rule : Rule} {span : Span}
    (hrule : jsonGrammar.rule? c.rule = some rule) (hgives : rule.Gives c span)
    (hhead : span.scopes.head? = some "comment.line.double-slash.json")
    : c.rule = 4 ∧ span.start = c.start := by
  have hrules : ∀ id < jsonGrammar.ruleCount, ∀ rule ∈ jsonGrammar.rule? id,
      "comment.line.double-slash.json" ∉ rule.partScopes
        ∧ (rule.name = some "comment.line.double-slash.json" → id = 4) := by
    decide
  rcases hrules c.rule (List.getElem?_eq_some_iff.mp hrule).1 rule hrule with ⟨hpart, hname⟩
  rcases hgives with ⟨scope, hscope, hgives⟩
  cases hhead.symm.trans hscope
  rcases hgives with hgives | hgives
  . exact ⟨hname hgives.1, hgives.2⟩
  . contradiction

theorem hit_mem_hits_of_line {text : Text} {c : Candidate} (hc : c ∈ jsonGrammar.scan text)
    (hline : c.rule = 4) : c.hit ∈ lineCommentRegex.hits text := by
  rcases Grammar.mem_scan_iff.mp hc with ⟨-, rule, hrule, hc⟩
  rw [hline] at hrule
  cases hrule
  have hmatch : c ∈ (lineCommentRegex.hits text).map (⟨c.rule, .matching, ·⟩) := hc
  exact (Rule.mem_map_mk_iff.mp hmatch).2.2

theorem leads_of_mem_tokenize {front : Text} {scopes : ScopeStack} {content : LineContent}
    (hplaced : ⟨front, scopes, .line content⟩ ∈ jsonc.comments)
    (h : ⟨"comment.line.double-slash.json" :: scopes, front.size,
      front.size + (Comment.line content).text.size⟩ ∈ jsonGrammar.tokenize jsonc.text)
    : LeadsBehind front := by
  by_contra hleads
  rcases Grammar.stems_of_mem_tokenize h with ⟨c, hc, rule, hrule, hgives⟩
  rcases rule_of_gives hrule hgives rfl with ⟨hline, hstart⟩
  have hhit := hit_mem_hits_of_line hc hline
  rcases (finds_text jsonc).stand _ hplaced with ⟨rest, htext⟩
  have hslash : jsonc.text = front ++ '/' :: ('/' :: content.val ++ rest) := by
    rw [← List.nil_append jsonc.text, ← htext]
    simp [Comment.text]
  rw [hslash] at hhit
  exact start_ne_of_not_leads hleads hhit hstart.symm

theorem leads_of_tokenize_eq (h : jsonGrammar.tokenize jsonc.text = jsonc.spans)
    : ∀ placed ∈ jsonc.comments, placed.Leads := by
  intro placed hplaced
  have hspans : ∀ span ∈ placed.spans, span ∈ jsonGrammar.tokenize jsonc.text := by
    intro span hspan
    rw [h, JsoncText.spans, List.mem_mergeSort]
    exact List.mem_append_left _ (List.mem_flatMap.mpr ⟨placed, hplaced, hspan⟩)
  rcases placed with ⟨front, scopes, comment⟩
  cases comment with
  | block content => trivial
  | line content => exact leads_of_mem_tokenize jsonc hplaced (hspans _ List.mem_cons_self)

end Texts

/-- All comments of a text are found, and the other spans are those of the text with blanks in their
place, exactly if each line comment begins with the first two slashes of its line. -/
theorem tokenize_jsonc
    : ∃ grammar, json.build = .ok grammar ∧ ∀ text : JsoncText,
        grammar.tokenize text.text = text.spans ↔ ∀ placed ∈ text.comments, placed.Leads := by
  refine ⟨jsonGrammar, build_json, fun text => ?_⟩
  constructor
  . exact leads_of_tokenize_eq text
  . exact tokenize_of_leads text

/-- A comment behind a string with two slashes. -/
def behindSlashes : JsoncText where
  before := []
  value := .string [.plain ⟨'/', by decide⟩, .plain ⟨'/', by decide⟩]
  behind := [.blank .space]
  last := some ⟨" c".toList, by decide⟩

/-- The two slashes of a string hide a comment behind it on its line. -/
theorem tokenize_ne_behindSlashes
    : behindSlashes.text = "\"//\" // c".toList
      ∧ ∃ grammar, json.build = .ok grammar
        ∧ grammar.tokenize behindSlashes.text ≠ behindSlashes.spans
        ∧ ⟨["comment.line.double-slash.json", "source.json"], 5, 9⟩
          ∉ grammar.tokenize behindSlashes.text := by
  have hplaced : ⟨"\"//\" ".toList, ["source.json"], .line ⟨" c".toList, by decide⟩⟩
      ∈ behindSlashes.comments := List.mem_singleton_self _
  have hleads : ¬ LeadsBehind "\"//\" ".toList :=
    fun h => absurd (h ['"'] ['"', ' ', '/'] rfl) (by decide)
  refine ⟨rfl, jsonGrammar, build_json, ?_, ?_⟩
  . exact fun h => hleads (leads_of_tokenize_eq behindSlashes h _ hplaced)
  . exact fun h => hleads (leads_of_mem_tokenize behindSlashes hplaced h)

end TextScopes.Builtin
