import TextScopes.Document.Decode

/-!
This module contains the styles in which runs are shown.
-/

namespace TextScopes

inductive Color where
  /-- The color of the terminal. -/
  | default
  | black
  | red
  | green
  | yellow
  | blue
  | magenta
  | cyan
  | white
  | brightBlack
  | brightRed
  | brightGreen
  | brightYellow
  | brightBlue
  | brightMagenta
  | brightCyan
  | brightWhite
  deriving DecidableEq, Repr, Inhabited

namespace Color

def name : Color → String
  | default => "default"
  | black => "black"
  | red => "red"
  | green => "green"
  | yellow => "yellow"
  | blue => "blue"
  | magenta => "magenta"
  | cyan => "cyan"
  | white => "white"
  | brightBlack => "bright-black"
  | brightRed => "bright-red"
  | brightGreen => "bright-green"
  | brightYellow => "bright-yellow"
  | brightBlue => "bright-blue"
  | brightMagenta => "bright-magenta"
  | brightCyan => "bright-cyan"
  | brightWhite => "bright-white"

def all : List Color :=
  [default, black, red, green, yellow, blue, magenta, cyan, white, brightBlack, brightRed,
    brightGreen, brightYellow, brightBlue, brightMagenta, brightCyan, brightWhite]

def decode (dialect : Dialect) (d : Document) : Decoded Color :=
  Decode.choice (all.map fun color => (color.name, color)) dialect d

end Color

structure Style where
  fg : Color := .default
  bg : Color := .default
  bold : Bool := false
  italic : Bool := false
  underline : Bool := false
  reverse : Bool := false
  deriving DecidableEq, Repr, Inhabited

namespace Style

def ofFg (color : Color) : Style := { fg := color }

def ofBg (color : Color) : Style := { bg := color }

def withBg (color : Color) (style : Style) : Style := { style with bg := color }

def withBold (style : Style) : Style := { style with bold := true }

def withItalic (style : Style) : Style := { style with italic := true }

def withUnderline (style : Style) : Style := { style with underline := true }

def withReverse (style : Style) : Style := { style with reverse := true }

def isDefault (style : Style) : Bool := style = {}

open Decode

/-- A field of a style, which may be left out. -/
def field (name : String) (decode : Document → Decoded α) (store : Style → α → Style) :
    RecordField Style :=
  ⟨name, false, false, fun d s => do .ok (store s (← decode d))⟩

def schema (dialect : Dialect) : Schema Style where
  title := "struct Style"
  fields :=
    [field "fg" (Color.decode dialect) fun s x => { s with fg := x },
      field "bg" (Color.decode dialect) fun s x => { s with bg := x },
      field "bold" bool fun s x => { s with bold := x },
      field "italic" bool fun s x => { s with italic := x },
      field "underline" bool fun s x => { s with underline := x },
      field "reverse" bool fun s x => { s with reverse := x }]
  closed := true
  initial := {}

def decode (dialect : Dialect) (d : Document) : Decoded Style := (schema dialect).read dialect d

end Style

end TextScopes
