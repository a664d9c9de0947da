import TextScopes.Regex.Basic

/-!
This module contains what the reader makes of patterns whose parts are known, and of patterns that
stand for a single character. A backslash makes the characters with a meaning of their own stand for
themselves.
-/

namespace TextScopes.Regex

theorem parse_eq {pattern : List Char} {rounds : Nat} {item : Item}
    (hrounds : pattern.length = rounds) (hrun : Reader.initial.run rounds pattern = .ok item)
    (hdepth : item.depth ≤ depthLimit) (hsize : item.expr.size ≤ Expr.sizeLimit)
    : parse pattern = .ok item.expr := by
  unfold parse
  rw [hrounds, hrun]
  dsimp only [bind, Except.bind]
  rw [if_neg (Nat.not_lt.mpr hdepth), if_neg (Nat.not_lt.mpr hsize)]

theorem Reader.run_class {rounds depth : Nat} {r : Reader} {rest left : List Char} {chars : CharSet}
    (hflags : r.flags = .initial) (hclass : charClass .initial rest = .ok (chars, depth, left))
    : Reader.run (rounds + 1) r ('[' :: rest) = Reader.run rounds (r.add (.ofSet chars) depth) left
    := by
  have hrun : Reader.run (rounds + 1) r ('[' :: rest)
      = r.step '[' rest >>= fun next => Reader.run rounds next.1 next.2 := by
    cases r
    cases hflags
    rfl
  have hstep : r.step '[' rest = .ok (r.add (.ofSet chars) depth, left) := by
    rw [← hflags] at hclass
    unfold Reader.step
    dsimp only
    rw [hclass]
    rfl
  rw [hrun, hstep]
  rfl

/-- The characters that have a meaning of their own in patterns, or would have it with some flag. -/
def metaChars : List Char :=
  ['\\', '.', '+', '*', '?', '(', ')', '|', '[', ']', '\x7b', '\x7d', '^', '$', '#', '&', '-', '~']

def literalPattern (c : Char) : String :=
  String.ofList (if c ∈ metaChars then ['\\', c] else [c])

theorem Reader.step_plain {c : Char} (hc : c ∉ metaChars) (r : Reader) (rest : List Char)
    : r.step c rest = .ok (r.add (r.flags.charExpr c) 0, rest) := by
  have hne (d : Char) (hd : d ∈ metaChars) : c ≠ d := fun heq => hc (heq ▸ hd)
  unfold Reader.step
  dsimp only
  split
  case h_13 => rfl
  all_goals exact absurd rfl (hne _ (by decide))

theorem Reader.run_literalPattern (c : Char)
    : Reader.initial.run (literalPattern c).toList.length (literalPattern c).toList
      = .ok ⟨.literal [c], 0, true⟩ := by
  unfold literalPattern
  rw [String.toList_ofList]
  split
  . next hc =>
    simp only [metaChars, List.mem_cons, List.not_mem_nil, or_false] at hc
    rcases hc with rfl | rfl | rfl | rfl | rfl | rfl | rfl | rfl | rfl | rfl | rfl | rfl | rfl | rfl
      | rfl | rfl | rfl | rfl
    all_goals rfl
  . next hc =>
    have hrun : Reader.initial.run [c].length [c]
        = Reader.initial.step c [] >>= fun next => Reader.run 0 next.1 next.2 := rfl
    rw [hrun, step_plain hc]
    rfl

theorem compile_literalPattern (c : Char)
    : compile (literalPattern c) = .ok ⟨literalPattern c, .literal [c]⟩ := by
  have hsize : (Expr.literal [c]).size ≤ Expr.sizeLimit := by
    have hexpr : (Expr.literal [c]).size = c.utf8Size * 32 := rfl
    have hlimit : Expr.sizeLimit = 10485760 := by decide
    have := c.utf8Size_le_four
    omega
  have hparse : parse (literalPattern c).toList = .ok (.literal [c]) :=
    parse_eq rfl (Reader.run_literalPattern c) (Nat.zero_le _) hsize
  unfold compile
  rw [hparse]
  rfl

example : literalPattern '[' = "\\[" ∧ literalPattern 'a' = "a" := by decide

end TextScopes.Regex
