import TextScopes.Grammar.Load

/-!
This module contains the grammar of JSON with comments: the text it is stored as, which is loaded
like any other, and the rules that the text stands for.
-/

namespace TextScopes.Builtin

def jsonText : String := "\x7b
  \"name\": \"JSON\",
  \"scopeName\": \"source.json\",
  \"fileTypes\": [\"json\", \"jsonc\", \"code-workspace\", \".babelrc\", \".eslintrc\"],
  \"foldingStartMarker\": \"[\x7b\\\\[]\\\\s*$\",
  \"foldingStopMarker\": \"^\\\\s*[\x7d\\\\]]\",
  \"patterns\": [\x7b \"include\": \"#value\" \x7d],
  \"repository\": \x7b
    \"value\": \x7b
      \"patterns\": [
        \x7b \"include\": \"#comments\" \x7d,
        \x7b \"include\": \"#constant\" \x7d,
        \x7b \"include\": \"#number\" \x7d,
        \x7b \"include\": \"#string\" \x7d,
        \x7b \"include\": \"#array\" \x7d,
        \x7b \"include\": \"#object\" \x7d
      ]
    \x7d,
    \"comments\": \x7b
      \"patterns\": [
        \x7b
          \"begin\": \"/\\\\*\",
          \"end\": \"\\\\*/\",
          \"name\": \"comment.block.json\",
          \"captures\": \x7b \"0\": \x7b \"name\": \"punctuation.definition.comment.json\" \x7d \x7d
        \x7d,
        \x7b
          \"match\": \"(//).*$\",
          \"name\": \"comment.line.double-slash.json\",
          \"captures\": \x7b \"1\": \x7b \"name\": \"punctuation.definition.comment.json\" \x7d \x7d
        \x7d
      ]
    \x7d,
    \"constant\": \x7b
      \"match\": \"\\\\b(?:true|false|null)\\\\b\",
      \"name\": \"constant.language.json\"
    \x7d,
    \"number\": \x7b
      \"match\": \"-?(?:0|[1-9][0-9]*)(?:\\\\.[0-9]+)?(?:[eE][+-]?[0-9]+)?\",
      \"name\": \"constant.numeric.json\"
    \x7d,
    \"string\": \x7b
      \"begin\": \"\\\"\",
      \"end\": \"\\\"\",
      \"name\": \"string.quoted.double.json\",
      \"beginCaptures\": \x7b \"0\": \x7b \"name\": \"punctuation.definition.string.begin.json\" \x7d \x7d,
      \"endCaptures\": \x7b \"0\": \x7b \"name\": \"punctuation.definition.string.end.json\" \x7d \x7d,
      \"patterns\": [\x7b \"include\": \"#escape\" \x7d]
    \x7d,
    \"escape\": \x7b
      \"patterns\": [
        \x7b
          \"match\": \"\\\\\\\\(?:[\\\"\\\\\\\\/bfnrt]|u[0-9a-fA-F]\x7b4\x7d)\",
          \"name\": \"constant.character.escape.json\"
        \x7d,
        \x7b
          \"match\": \"\\\\\\\\.\",
          \"name\": \"invalid.illegal.unrecognized-string-escape.json\"
        \x7d
      ]
    \x7d,
    \"array\": \x7b
      \"begin\": \"\\\\[\",
      \"end\": \"\\\\]\",
      \"name\": \"meta.structure.array.json\",
      \"beginCaptures\": \x7b \"0\": \x7b \"name\": \"punctuation.definition.array.begin.json\" \x7d \x7d,
      \"endCaptures\": \x7b \"0\": \x7b \"name\": \"punctuation.definition.array.end.json\" \x7d \x7d,
      \"patterns\": [
        \x7b \"include\": \"#value\" \x7d,
        \x7b \"match\": \",\", \"name\": \"punctuation.separator.array.json\" \x7d
      ]
    \x7d,
    \"object\": \x7b
      \"begin\": \"\\\\\x7b\",
      \"end\": \"\\\\\x7d\",
      \"name\": \"meta.structure.dictionary.json\",
      \"beginCaptures\": \x7b \"0\": \x7b \"name\": \"punctuation.definition.dictionary.begin.json\" \x7d \x7d,
      \"endCaptures\": \x7b \"0\": \x7b \"name\": \"punctuation.definition.dictionary.end.json\" \x7d \x7d,
      \"patterns\": [
        \x7b \"include\": \"#value\" \x7d,
        \x7b \"match\": \":\", \"name\": \"punctuation.separator.dictionary.key-value.json\" \x7d,
        \x7b \"match\": \",\", \"name\": \"punctuation.separator.dictionary.pair.json\" \x7d
      ]
    \x7d
  \x7d
\x7d"

def loadJson : Except Error Grammar := Grammar.ofJson jsonText

def captureTable (entries : List (String × String)) : Option CaptureTable :=
  some (.ofList (entries.map fun (key, name) => (key, ⟨some name⟩)))

def includeRule (target : String) : RuleSource := { includeTarget := some target }

def matchRule (pattern name : String) : RuleSource :=
  { matchPattern := some pattern, name := some name }

def jsonValue : RuleSource where
  patterns := some (["#comments", "#constant", "#number", "#string", "#array", "#object"].map
    includeRule)

/-- A comment between slashes and stars, or from two slashes to the end of the line. -/
def jsonComments : RuleSource where
  patterns := some [
    { beginPattern := some "/\\*"
      endPattern := some "\\*/"
      name := some "comment.block.json"
      captures := captureTable [("0", "punctuation.definition.comment.json")] },
    { matchPattern := some "(//).*$"
      name := some "comment.line.double-slash.json"
      captures := captureTable [("1", "punctuation.definition.comment.json")] }]

def jsonNumber : RuleSource :=
  matchRule "-?(?:0|[1-9][0-9]*)(?:\\.[0-9]+)?(?:[eE][+-]?[0-9]+)?" "constant.numeric.json"

def jsonString : RuleSource where
  beginPattern := some "\""
  endPattern := some "\""
  name := some "string.quoted.double.json"
  beginCaptures := captureTable [("0", "punctuation.definition.string.begin.json")]
  endCaptures := captureTable [("0", "punctuation.definition.string.end.json")]
  patterns := some [includeRule "#escape"]

/-- An escape inside a string, and a backslash that starts none. -/
def jsonEscape : RuleSource where
  patterns := some [
    matchRule "\\\\(?:[\"\\\\/bfnrt]|u[0-9a-fA-F]\x7b4\x7d)" "constant.character.escape.json",
    matchRule "\\\\." "invalid.illegal.unrecognized-string-escape.json"]

def jsonArray : RuleSource where
  beginPattern := some "\\["
  endPattern := some "\\]"
  name := some "meta.structure.array.json"
  beginCaptures := captureTable [("0", "punctuation.definition.array.begin.json")]
  endCaptures := captureTable [("0", "punctuation.definition.array.end.json")]
  patterns := some [includeRule "#value", matchRule "," "punctuation.separator.array.json"]

def jsonObject : RuleSource where
  beginPattern := some "\\\x7b"
  endPattern := some "\\\x7d"
  name := some "meta.structure.dictionary.json"
  beginCaptures := captureTable [("0", "punctuation.definition.dictionary.begin.json")]
  endCaptures := captureTable [("0", "punctuation.definition.dictionary.end.json")]
  patterns := some [
    includeRule "#value",
    matchRule ":" "punctuation.separator.dictionary.key-value.json",
    matchRule "," "punctuation.separator.dictionary.pair.json"]

def json : GrammarSource where
  name := some "JSON"
  scopeName := "source.json"
  fileTypes := ["json", "jsonc", "code-workspace", ".babelrc", ".eslintrc"]
  foldingStartMarker := some "[\x7b\\[]\\s*$"
  foldingStopMarker := some "^\\s*[\x7d\\]]"
  patterns := [includeRule "#value"]
  repository := .ofList [
    ("value", jsonValue),
    ("comments", jsonComments),
    ("constant", matchRule "\\b(?:true|false|null)\\b" "constant.language.json"),
    ("number", jsonNumber),
    ("string", jsonString),
    ("escape", jsonEscape),
    ("array", jsonArray),
    ("object", jsonObject)]

end TextScopes.Builtin
