import TextScopes.Run
import TextScopes.Tokenizer

/-!
This module contains highlighting: the runs of a text by the spans that a grammar finds in it.
-/

namespace TextScopes.Grammar

/-- The runs of a text, joined where neighbours have the same scopes if `merge` says so. -/
def highlight (grammar : Grammar) (merge : Bool) (text : Text) : List Run :=
  let runs := flatten text (grammar.tokenize text) grammar.rootScopes
  if merge then mergeRuns text runs else runs

end TextScopes.Grammar
