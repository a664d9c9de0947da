import TextScopes.Builtin.Json

/-!
This module contains the grammar of configuration files made of sections and entries: the text it is
stored as and the rules that the text stands for.
-/

namespace TextScopes.Builtin

def iniText : String := "\x7b
  \"name\": \"INI\",
  \"scopeName\": \"source.ini\",
  \"fileTypes\": [\"ini\", \"cfg\", \"conf\", \"properties\", \".gitconfig\", \".editorconfig\"],
  \"firstLineMatch\": \"^\\\\[[\\\\w. -]+\\\\][ \\\\t]*$\",
  \"patterns\": [
    \x7b \"include\": \"#comment\" \x7d,
    \x7b \"include\": \"#section\" \x7d,
    \x7b \"include\": \"#entry\" \x7d,
    \x7b \"include\": \"#string\" \x7d,
    \x7b \"include\": \"#boolean\" \x7d,
    \x7b \"include\": \"#number\" \x7d
  ],
  \"repository\": \x7b
    \"comment\": \x7b
      \"match\": \"^[ \\\\t]*([;#]).*$\",
      \"name\": \"comment.line.ini\",
      \"captures\": \x7b \"1\": \x7b \"name\": \"punctuation.definition.comment.ini\" \x7d \x7d
    \x7d,
    \"section\": \x7b
      \"match\": \"^[ \\\\t]*(\\\\[)([^\\\\]\\\\n]*)(\\\\])\",
      \"name\": \"meta.section.ini\",
      \"captures\": \x7b
        \"1\": \x7b \"name\": \"punctuation.definition.section.begin.ini\" \x7d,
        \"2\": \x7b \"name\": \"entity.name.section.ini\" \x7d,
        \"3\": \x7b \"name\": \"punctuation.definition.section.end.ini\" \x7d
      \x7d
    \x7d,
    \"entry\": \x7b
      \"match\": \"^[ \\\\t]*([\\\\w.-]+)[ \\\\t]*(=|:)\",
      \"captures\": \x7b
        \"1\": \x7b \"name\": \"variable.other.key.ini\" \x7d,
        \"2\": \x7b \"name\": \"keyword.operator.assignment.ini\" \x7d
      \x7d
    \x7d,
    \"string\": \x7b
      \"begin\": \"\\\"\",
      \"end\": \"\\\"|$\",
      \"name\": \"string.quoted.double.ini\",
      \"patterns\": [\x7b \"match\": \"\\\\\\\\.\", \"name\": \"constant.character.escape.ini\" \x7d]
    \x7d,
    \"boolean\": \x7b
      \"match\": \"\\\\b(?:true|false|yes|no|on|off)\\\\b\",
      \"name\": \"constant.language.boolean.ini\"
    \x7d,
    \"number\": \x7b
      \"match\": \"\\\\b-?[0-9]+(?:\\\\.[0-9]+)?\\\\b\",
      \"name\": \"constant.numeric.ini\"
    \x7d
  \x7d
\x7d"

def loadIni : Except Error Grammar := Grammar.ofJson iniText

def iniComment : RuleSource where
  matchPattern := some "^[ \\t]*([;#]).*$"
  name := some "comment.line.ini"
  captures := captureTable [("1", "punctuation.definition.comment.ini")]

def iniSection : RuleSource where
  matchPattern := some "^[ \\t]*(\\[)([^\\]\\n]*)(\\])"
  name := some "meta.section.ini"
  captures := captureTable [
    ("1", "punctuation.definition.section.begin.ini"),
    ("2", "entity.name.section.ini"),
    ("3", "punctuation.definition.section.end.ini")]

/-- The name of an entry and the sign behind it. -/
def iniEntry : RuleSource where
  matchPattern := some "^[ \\t]*([\\w.-]+)[ \\t]*(=|:)"
  captures := captureTable [
    ("1", "variable.other.key.ini"),
    ("2", "keyword.operator.assignment.ini")]

/-- A string, which ends with its line if nothing closes it. -/
def iniString : RuleSource where
  beginPattern := some "\""
  endPattern := some "\"|$"
  name := some "string.quoted.double.ini"
  patterns := some [matchRule "\\\\." "constant.character.escape.ini"]

def ini : GrammarSource where
  name := some "INI"
  scopeName := "source.ini"
  fileTypes := ["ini", "cfg", "conf", "properties", ".gitconfig", ".editorconfig"]
  firstLineMatch := some "^\\[[\\w. -]+\\][ \\t]*$"
  patterns :=
    ["#comment", "#section", "#entry", "#string", "#boolean", "#number"].map includeRule
  repository := .ofList [
    ("comment", iniComment),
    ("section", iniSection),
    ("entry", iniEntry),
    ("string", iniString),
    ("boolean", matchRule "\\b(?:true|false|yes|no|on|off)\\b" "constant.language.boolean.ini"),
    ("number", matchRule "\\b-?[0-9]+(?:\\.[0-9]+)?\\b" "constant.numeric.ini")]

end TextScopes.Builtin
