import TextScopes.Proofs.Builtin.JsonRegions
import TextScopes.Proofs.Builtin.JsoncText

/-!
This module contains what the tokenizer makes of comments where a value may stand. A block comment
is found wherever it stands. The pattern of line comments matches once in each line, at the first
two slashes, so that a line comment is found if it begins there.
-/

namespace TextScopes.Builtin

open Regex JsoncText

section LinePattern

variable {before w after : Text} {content : Text}

theorem spells_lineComment (h : lineCommentRegex.expr.Spells w)
    : ∃ v : Text, w = '/' :: '/' :: v ∧ '\n' ∉ v := by
  have hlineFeed : lineCommentRegex.expr.avoids ['\n'] := rfl
  have hline : '\n' ∉ w := fun hmem =>
    Expr.not_mem_of_avoids lineCommentRegex.expr hlineFeed w h _ hmem
      (List.mem_singleton_self _)
  rcases h with ⟨a, b, rfl, ha, -⟩
  cases ha
  refine ⟨b, rfl, fun hmem => hline ?_⟩
  exact List.mem_append_right _ hmem

theorem prefers_lineComment (prev : Option Char) (hcontent : '\n' ∉ content)
    (hafter : ∀ c, after.head? = some c → c = '\n')
    : lineCommentRegex.expr.Prefers prev ('/' :: '/' :: content) after := by
  have hmarks : (Expr.group 1 (.literal ['/', '/'])).Prefers prev ['/', '/'] (content ++ after) :=
    Expr.prefers_group 1 (Expr.prefers_literal _ _ _)
  have hrun (prev : Option Char)
      : (Expr.repetition 0 none true (.set ⟨[(0, 0x9), (0xB, 0x10FFFF)]⟩)).Prefers prev content
          after := by
    refine Expr.prefers_run rfl ?_ (Nat.zero_le _) nofun (Or.inr ?_)
    . intro c hc
      exact contains_lineChars fun heq => hcontent (heq ▸ hc)
    . intro c hc
      rw [hafter c hc]
      rfl
  have hlook (prev : Option Char) : (Expr.look .lineEnd).Prefers prev [] after := by
    apply Expr.prefers_look
    unfold Look.holds
    dsimp only
    cases hhead : after.head? with
    | none => rfl
    | some c =>
      rw [hafter c hhead]
      rfl
  have htail := Expr.PreferInTurn.cons (hrun (lastOf prev ['/', '/'])) (.last (hlook _))
  rw [List.append_nil] at htail
  exact Expr.prefers_concat (.cons hmarks htail)

def lineHit (start stop : Nat) : Hit := ⟨start, stop, [some (start, stop), some (start, start + 2)]⟩

theorem groups_of_mem_ends {address : Address} {s t : Thread}
    (h : t ∈ ends lineCommentRegex.expr address s)
    : t.groups = (1, s.offset, s.offset + 2) :: s.groups := by
  have hlook (address : Address) (s t : Thread) (ht : t ∈ ends (.look .lineEnd) address s)
      : t.groups = s.groups := by
    rw [ends] at ht
    split at ht
    . rw [List.mem_singleton] at ht
      rw [ht]
    . contradiction
  have hrun (chars : CharSet) (address : Address) (s t : Thread)
      (ht : t ∈ ends (.repetition 0 none true (.set chars)) address s) : t.groups = s.groups := by
    rw [ends] at ht
    apply progress_groups.repeated _ (fun _ _ => trivial) ht
    intro copy s t ht
    rw [ends] at ht
    exact progress_groups.read trivial (Option.mem_toList.mp ht)
  unfold lineCommentRegex at h
  rw [ends] at h
  simp only [endsAll] at h
  rcases exists_of_mem_each (hlook _) h with ⟨second, hsecond, hlook⟩
  rcases exists_of_mem_each (hrun _ _) hsecond with ⟨first, hfirst, hrun⟩
  rcases List.mem_map.mp hfirst with ⟨marks, hmarks, rfl⟩
  rw [ends] at hmarks
  have hread := Option.mem_toList.mp hmarks
  have hgroups := progress_groups.readAll? (fun _ _ => trivial) hread
  have hoffset : marks.offset = s.offset + Text.size ['/', '/'] :=
    (Thread.Reads.of_readAll? hread).2
  rw [hlook, hrun, Thread.record, hgroups, hoffset]
  rfl

theorem matchAt?_lineComment (hcontent : '\n' ∉ content)
    (hafter : ∀ c, after.head? = some c → c = '\n')
    : lineCommentRegex.matchAt? (.between before (('/' :: '/' :: content) ++ after))
      = some (lineHit before.size (before.size + Text.size ('/' :: '/' :: content))) := by
  let s : Thread := ⟨.between before (('/' :: '/' :: content) ++ after), [], []⟩
  rcases prefers_lineComment (before.getLast?) hcontent hafter [] s rfl rfl nofun
    with ⟨t, ht, hgoes⟩
  have hoffset : t.offset = before.size + Text.size ('/' :: '/' :: content) :=
    congrArg Cursor.offset hgoes.cursor
  have hgroups : t.groups = [(1, before.size, before.size + 2)] :=
    groups_of_mem_ends (List.mem_of_mem_head? ht)
  have hcount : lineCommentRegex.groupCount = 2 := rfl
  unfold matchAt?
  rw [ht, hcount]
  simp [Thread.hit, lineHit, hoffset, hgroups, Cursor.between]

/-- No match reaches over the first two slashes of a line. -/
theorem isClear_of_leads (h : LeadsBehind before)
    : lineCommentRegex.IsClear (before ++ '/' :: after) before.size := by
  apply isClear_of_not_spells
  rintro a b ha hb ⟨front, rfl⟩ ⟨tail, htail⟩ hspells
  rcases spells_lineComment hspells with ⟨v, heq, hv⟩
  match a with
  | [] => contradiction
  | [x] =>
    -- the second slash of the match is the first one behind the place
    cases heq
    exact absurd (h front [] (by simp)) List.not_mem_nil
  | x :: y :: a =>
    cases heq
    have hmem := h front (a ++ ['/']) (by simp)
    rcases List.mem_append.mp hmem with hmem | hmem
    . exact hv (List.mem_append_left b hmem)
    . exact absurd hmem (by decide)

theorem lineHit_mem_hits (h : LeadsBehind before) (hcontent : '\n' ∉ content)
    (hafter : ∀ c, after.head? = some c → c = '\n')
    : lineHit before.size (before.size + Text.size ('/' :: '/' :: content))
        ∈ lineCommentRegex.hits (before ++ (('/' :: '/' :: content) ++ after)) :=
  mem_hits (isClear_of_leads h) (matchAt?_lineComment hcontent hafter)

end LinePattern

section Escapes

variable {before after : Text}

theorem aligned_of_line (hafter : ∀ c, after.head? = some c → c = '\n')
    : Aligned (before ++ after) before.size := by
  have hnext (c : Char) (hc : after.head? = some c) : c ∈ ['\n'] :=
    List.mem_singleton.mpr (hafter c hc)
  exact ⟨isClear_of_avoids_next rfl hnext, isClear_of_avoids_next rfl hnext⟩

theorem isClear_of_slash {re : Regex} {es : List Expr}
    (hexpr : re.expr = .concat (.literal ['\\'] :: es))
    (hes : ∀ v, Expr.SpellInTurn es v → v.length ≤ 1 ∨ '/' ∉ v)
    (hbefore : before.getLast? = some '/') : re.IsClear (before ++ after) before.size := by
  apply isClear_of_not_spells
  rintro a b ha hb ⟨front, rfl⟩ - hspells
  rw [List.getLast?_append, List.getLast?_eq_some_getLast ha, Option.some_or] at hbefore
  rw [hexpr] at hspells
  rcases hspells with ⟨_, v, heq, rfl, hv⟩
  match a with
  | [] => contradiction
  | [x] =>
    cases heq
    cases hbefore
  | x :: y :: a =>
    cases heq
    have hslash : '/' ∈ y :: a := by
      rw [← Option.some.inj hbefore, List.getLast_cons (List.cons_ne_nil y a)]
      exact List.getLast_mem _
    rcases hes _ hv with hlength | hmem
    . have := List.length_pos_iff.mpr hb
      simp only [List.append_eq, List.length_append, List.length_cons] at hlength
      omega
    . exact hmem (List.mem_append_left b hslash)

theorem aligned_of_slash (hbefore : before.getLast? = some '/')
    : Aligned (before ++ after) before.size := by
  have hset {chars : CharSet} {v : Text} (h : (Expr.set chars).Spells v) : v.length ≤ 1 := by
    rcases h with ⟨c, -, rfl⟩
    exact Nat.le_refl 1
  constructor
  . refine isClear_of_slash rfl ?_ hbefore
    rintro v ⟨v, w, rfl, hv, rfl⟩
    rw [List.append_nil]
    rcases hv with hv | hv | hv
    . exact Or.inl (hset hv)
    . exact Or.inr fun hmem =>
        Expr.not_mem_of_avoids _ (show Expr.avoids ['/'] _ from rfl) v hv _ hmem
          (List.mem_singleton_self _)
    . contradiction
  . refine isClear_of_slash rfl ?_ hbefore
    rintro v ⟨v, w, rfl, hv, rfl⟩
    rw [List.append_nil]
    exact Or.inl (hset hv)

end Escapes

section Comments

variable {before after : Text} {frames : List Frame}

theorem exists_spelled {rest : Text} {rule : Rule} {regex : Regex} {d : Candidate}
    (hd : d ∈ jsonGrammar.scan (before ++ rest)) (hstart : d.start = before.size)
    (hrule : jsonGrammar.rule? d.rule = some rule) (hregex : rule.regex? d.phase = some regex)
    : ∃ w tail, rest = w ++ tail ∧ regex.expr.Spells w := by
  rcases Grammar.exists_word_of_mem_scan hd hrule hregex with ⟨front, w, tail, htext, hw, hfront, -⟩
  rcases Text.append_inj_of_size htext (hfront.symm.trans hstart) with ⟨-, rfl⟩
  exact ⟨w, tail, rfl, hw⟩

theorem rulesAt_slash {pattern : RuleId × Phase} (h : pattern ∈ rulesAt '/')
    : pattern = (3, .opening) ∨ pattern = (4, .matching) := by
  rcases List.mem_cons.mp h with h | h
  . exact Or.inl h
  . exact Or.inr (List.mem_singleton.mp h)

def lineCandidate (start stop : Nat) : Candidate := ⟨4, .matching, lineHit start stop⟩

theorem captureSpans_line {start stop : Nat} (scope : String) (base : ScopeStack)
    : captureSpans (lineCandidate start stop) (.ofList [(1, scope)]) base
      = [⟨scope :: base, start, start + 2⟩] := by
  have hle : ¬ start + 2 ≤ start := by omega
  unfold captureSpans captureSpans.go
  simp [Candidate.group?, lineCandidate, lineHit, hle, captureSpans.go]

theorem tokenSpans_line (scopes : ScopeStack) {start stop : Nat} (hlt : start < stop)
    : jsonGrammar.tokenSpans scopes (lineCandidate start stop)
      = [⟨"punctuation.definition.comment.json" :: "comment.line.double-slash.json" :: scopes,
            start, start + 2⟩,
          ⟨"comment.line.double-slash.json" :: scopes, start, stop⟩] := by
  have hwhole : spanOf ("comment.line.double-slash.json" :: scopes) start stop
      = [⟨"comment.line.double-slash.json" :: scopes, start, stop⟩] := if_pos hlt
  have hspans : jsonGrammar.tokenSpans scopes (lineCandidate start stop)
      = captureSpans (lineCandidate start stop)
          (.ofList [(1, "punctuation.definition.comment.json")])
          ("comment.line.double-slash.json" :: scopes)
        ++ spanOf ("comment.line.double-slash.json" :: scopes) start stop := rfl
  rw [hspans, captureSpans_line, hwhole]
  rfl

theorem passes_line (hframes : ValueMayStand frames) (hleads : LeadsBehind before)
    (content : LineContent) (hafter : ∀ c, after.head? = some c → c = '\n')
    : Passes before (Comment.line content).text after frames frames
        (Placed.spans ⟨before, jsonGrammar.scopesIn frames, .line content⟩) := by
  intro _
  let w : Text := '/' :: '/' :: content.val
  have hw : (Comment.line content).text = w := rfl
  have hlt : before.size < before.size + w.size :=
    Nat.lt_add_of_pos_right (Text.size_pos (List.cons_ne_nil _ _))
  have hc : lineCandidate before.size (before.size + w.size)
      ∈ jsonGrammar.scan (before ++ (w ++ after)) :=
    Grammar.mem_scan (by decide) rfl rfl (lineHit_mem_hits hleads content.property hafter)
  rw [hw]
  constructor
  . rw [← List.append_assoc]
    exact aligned_of_line hafter
  . rw [Text.size_append]
    apply (Grammar.Moves.of_token nodup_scanOrder hc hlt _ rfl
      (hframes.active 4 (by decide))).perm
    . rw [tokenSpans_line _ hlt]
      exact List.Perm.swap _ _ _
    . intro d hd hstart
      rcases rulesAt_slash (mem_rulesAt hd hstart) with heq | heq
      . -- a block comment does not begin with two slashes
        rcases Prod.mk.inj heq with ⟨hrule, hphase⟩
        rcases exists_spelled hd hstart (by rw [hrule]; rfl) (by rw [hphase]; rfl)
          with ⟨v, tail, hrest, hv⟩
        cases hv
        cases hrest
      . rcases Prod.mk.inj heq with ⟨hrule, hphase⟩
        exact Or.inl (Grammar.eq_of_mem_scan hc hd hrule hphase hstart)

def blockRegion : Region where
  opening := ⟨"/\\*", .literal ['/', '*']⟩
  closing := ⟨"\\*/", .literal ['*', '/']⟩
  contentName := none
  beginCaptures := .ofList [(0, "punctuation.definition.comment.json")]
  endCaptures := .ofList [(0, "punctuation.definition.comment.json")]
  patterns := []

/-- The open region of a block comment, in which nothing is active. -/
def blockFrame (scopes : ScopeStack) (start : Nat) : Frame where
  rule := 3
  name := some "comment.block.json"
  region := blockRegion
  opening := ⟨3, .opening, .whole start (start + 2)⟩
  children := some ⟨[]⟩
  outer := "comment.block.json" :: scopes
  inner := "comment.block.json" :: scopes

theorem spans_blockFrame (scopes : ScopeStack) {start stop : Nat} (hlt : start < stop + 2)
    (textSize : Nat)
    : (blockFrame scopes start).spans textSize (some ⟨3, .closing, .whole stop (stop + 2)⟩)
      = [⟨"punctuation.definition.comment.json" :: "comment.block.json" :: scopes, start,
            start + 2⟩,
          ⟨"punctuation.definition.comment.json" :: "comment.block.json" :: scopes, stop, stop + 2⟩,
          ⟨"comment.block.json" :: scopes, start, stop + 2⟩] := by
  have hopening := captureSpans_whole 3 .opening (Nat.lt_add_of_pos_right (n := start) Nat.two_pos)
    "punctuation.definition.comment.json" ("comment.block.json" :: scopes)
  have hclosing := captureSpans_whole 3 .closing (Nat.lt_add_of_pos_right (n := stop) Nat.two_pos)
    "punctuation.definition.comment.json" ("comment.block.json" :: scopes)
  have hwhole : spanOf ("comment.block.json" :: scopes) start (stop + 2)
      = [⟨"comment.block.json" :: scopes, start, stop + 2⟩] := if_pos hlt
  unfold Frame.spans
  dsimp only [blockFrame, blockRegion, Option.elim]
  rw [hopening, hclosing]
  exact congrArg _ hwhole

theorem moves_blockOpening (hframes : ValueMayStand frames)
    : jsonGrammar.Moves (before ++ (['/', '*'] ++ after)) before.size (before.size + 2) frames
        (blockFrame (jsonGrammar.scopesIn frames) before.size :: frames) [] := by
  have hhit := whole_mem_hits_pair "/\\*" before (c := '/') (d := '*') (by decide) after
  have hc : ⟨3, .opening, .whole before.size (before.size + 2)⟩
      ∈ jsonGrammar.scan (before ++ (['/', '*'] ++ after)) :=
    Grammar.mem_scan (by decide) rfl rfl hhit
  apply Grammar.Moves.of_opening nodup_scanOrder hc (Nat.lt_add_of_pos_right Nat.two_pos) _ rfl
    (hframes.active 3 (by decide)) rfl
  intro d hd hstart
  rcases rulesAt_slash (mem_rulesAt hd hstart) with heq | heq
  . rcases Prod.mk.inj heq with ⟨hrule, hphase⟩
    exact Or.inl (Grammar.eq_of_mem_scan hc hd hrule hphase hstart)
  . -- a line comment does not begin with a slash and a star
    rcases Prod.mk.inj heq with ⟨hrule, hphase⟩
    rcases exists_spelled hd hstart (by rw [hrule]; rfl) (by rw [hphase]; rfl)
      with ⟨v, tail, hrest, hv⟩
    rcases spells_lineComment hv with ⟨v, rfl, -⟩
    cases hrest

theorem infix_of_append_eq {front tail w after : Text} {c d e : Char} (hne : d ≠ e)
    (h : front ++ c :: d :: tail = before ++ (w ++ e :: after)) (hle : before.size ≤ front.size)
    (hlt : front.size < (before ++ w).size) : [c, d] <:+: w := by
  have hfront : ∃ u, front = before ++ u ∧ u ++ c :: d :: tail = w ++ e :: after := by
    rcases List.append_eq_append_iff.mp h with ⟨a, rfl, heq⟩ | ⟨a, rfl, heq⟩
    . have ha : a = [] := by
        apply Text.eq_nil_of_size_eq_zero
        rw [Text.size_append] at hle
        omega
      subst ha
      exact ⟨[], by simp, heq⟩
    . exact ⟨a, rfl, heq.symm⟩
  rcases hfront with ⟨u, rfl, heq⟩
  rw [Text.size_append, Text.size_append] at hlt
  rcases List.append_eq_append_iff.mp heq with ⟨v, rfl, hv⟩ | ⟨v, rfl, -⟩
  . match v with
    | [] =>
      rw [List.append_nil] at hlt
      exact absurd hlt (Nat.lt_irrefl _)
    | [x] =>
      cases hv
      contradiction
    | x :: y :: v =>
      cases hv
      exact ⟨u, v, by simp⟩
  . rw [Text.size_append] at hlt
    omega

theorem moves_blockContent (content : BlockContent) (scopes : ScopeStack) (start : Nat)
    : jsonGrammar.Moves (before ++ (content.val ++ '*' :: after)) before.size
        (before ++ content.val).size (blockFrame scopes start :: frames)
        (blockFrame scopes start :: frames) [] := by
  apply Grammar.Moves.of_skips (by simp)
  intro d hd hstart hlt
  refine ⟨?_, Or.inr nofun⟩
  rintro ⟨hphase, hrule⟩
  replace hrule : d.rule = 3 := (Option.some.inj hrule).symm
  rcases Grammar.exists_word_of_mem_scan hd (by rw [hrule]; rfl) (by rw [hphase]; rfl)
    with ⟨front, w, tail, htext, hw, hfront, -⟩
  cases hw
  rw [hfront] at hstart hlt
  exact content.property (infix_of_append_eq (by decide) htext hstart hlt)

theorem moves_blockClosing {start : Nat} (hstart : start < before.size + 2) (scopes : ScopeStack)
    : jsonGrammar.Moves (before ++ (['*', '/'] ++ after)) before.size (before.size + 2)
        (blockFrame scopes start :: frames) frames
        [⟨"punctuation.definition.comment.json" :: "comment.block.json" :: scopes, start,
            start + 2⟩,
          ⟨"punctuation.definition.comment.json" :: "comment.block.json" :: scopes, before.size,
            before.size + 2⟩,
          ⟨"comment.block.json" :: scopes, start, before.size + 2⟩] := by
  have hhit := whole_mem_hits_pair "\\*/" before (c := '*') (d := '/') (by decide) after
  have hc : ⟨3, .closing, .whole before.size (before.size + 2)⟩
      ∈ jsonGrammar.scan (before ++ (['*', '/'] ++ after)) :=
    Grammar.mem_scan (by decide) rfl rfl hhit
  rw [← spans_blockFrame scopes hstart]
  apply Grammar.Moves.of_closing nodup_scanOrder hc (Nat.lt_add_of_pos_right Nat.two_pos) _
    ⟨rfl, rfl⟩
  intro d hd hstart
  have heq := List.mem_singleton.mp (mem_rulesAt hd hstart)
  rcases Prod.mk.inj heq with ⟨hrule, hphase⟩
  exact Or.inl (Grammar.eq_of_mem_scan hc hd hrule hphase hstart)

theorem spans_block (scopes : ScopeStack) (content : BlockContent)
    : (Placed.mk before scopes (.block content)).spans
      = [⟨"comment.block.json" :: scopes, before.size, before.size + 2 + content.val.size + 2⟩,
        ⟨"punctuation.definition.comment.json" :: "comment.block.json" :: scopes, before.size,
          before.size + 2⟩,
        ⟨"punctuation.definition.comment.json" :: "comment.block.json" :: scopes,
          before.size + 2 + content.val.size, before.size + 2 + content.val.size + 2⟩] := by
  have hsize : (Comment.block content).text.size = 2 + content.val.size + 2 := by
    have hmarks : Text.size ['/', '*'] = 2 ∧ Text.size ['*', '/'] = 2 := by decide
    unfold Comment.text
    rw [Text.size_append, Text.size_append, hmarks.1, hmarks.2, Nat.add_assoc]
  unfold Placed.spans
  dsimp only
  rw [hsize, ← Nat.add_assoc, ← Nat.add_assoc, Nat.add_sub_cancel]

/-- A block comment is found. -/
theorem passes_block (hframes : ValueMayStand frames) (content : BlockContent)
    : Passes before (Comment.block content).text after frames frames
        (Placed.spans ⟨before, jsonGrammar.scopesIn frames, .block content⟩) := by
  intro _
  have hpieces : before ++ (Comment.block content).text
      = before ++ ['/', '*'] ++ content.val ++ ['*', '/'] := by simp [Comment.text]
  constructor
  . have hlast : before ++ (Comment.block content).text
        = before ++ ['/', '*'] ++ content.val ++ ['*'] ++ ['/'] := by simp [Comment.text]
    rw [← List.append_assoc]
    apply aligned_of_slash
    rw [hlast, List.getLast?_concat]
  . have hstart : (before ++ ['/', '*']).size = before.size + 2 := by
      rw [Text.size_append]
      rfl
    have hmiddle : (before ++ ['/', '*'] ++ content.val).size
        = before.size + 2 + content.val.size := by rw [Text.size_append, hstart]
    have hstop : (before ++ ['/', '*'] ++ content.val ++ ['*', '/']).size
        = before.size + 2 + content.val.size + 2 := by
      rw [Text.size_append, hmiddle]
      rfl
    let inside := blockFrame (jsonGrammar.scopesIn frames) before.size :: frames
    have hopening : jsonGrammar.Moves
        (before ++ (['/', '*'] ++ (content.val ++ (['*', '/'] ++ after)))) _ _ frames inside [] :=
      moves_blockOpening hframes
    have hcontent : jsonGrammar.Moves
        (before ++ ['/', '*'] ++ (content.val ++ '*' :: '/' :: after)) _ _ inside inside [] :=
      moves_blockContent content _ _
    have hclosing : jsonGrammar.Moves
        (before ++ ['/', '*'] ++ content.val ++ (['*', '/'] ++ after)) _ _ inside frames _ :=
      moves_blockClosing (by omega) _
    rw [hstart, hmiddle] at hcontent
    rw [hmiddle] at hclosing
    -- the three pieces lie in one text
    have htext : before ++ ((Comment.block content).text ++ after)
        = before ++ ['/', '*'] ++ content.val ++ (['*', '/'] ++ after) := by simp [Comment.text]
    have htextOpening : before ++ (['/', '*'] ++ (content.val ++ (['*', '/'] ++ after)))
        = before ++ ['/', '*'] ++ content.val ++ (['*', '/'] ++ after) := by simp
    have htextContent : before ++ ['/', '*'] ++ (content.val ++ '*' :: '/' :: after)
        = before ++ ['/', '*'] ++ content.val ++ (['*', '/'] ++ after) := by simp
    rw [htextOpening] at hopening
    rw [htextContent] at hcontent
    rw [htext, hpieces, hstop, spans_block]
    have hall := hopening.trans (hcontent.trans hclosing (by omega) (by omega)) (by omega)
      (by omega)
    apply hall.perm
    exact perm_delimited _ _ _ []

end Comments

end TextScopes.Builtin
