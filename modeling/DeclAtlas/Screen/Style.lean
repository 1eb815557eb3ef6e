/-!
# Styles

How a character on a screen looks.  A style may leave its colours open; laid over another style it
changes only what it states.
-/

namespace DeclAtlas.Screen

/-- A colour of a screen. -/
inductive Color where
  | black
  /-- A mixture of red, green and blue, each below 256. -/
  | mixed (red green blue : Nat)
  deriving DecidableEq, Repr

/-- How a character looks.  A colour that is not stated is that of the screen. -/
structure Style where
  /-- The colour of the character. -/
  foreground : Option Color := none
  /-- The colour behind the character. -/
  background : Option Color := none
  bold : Bool := false
  italic : Bool := false
  underlined : Bool := false
  deriving DecidableEq, Repr, Inhabited

namespace Style

/-- A style that states the colour of the character only. -/
def colored (color : Color) : Style :=
  { foreground := some color }

/-- The style `top` laid over the style `base`. -/
def onto (top base : Style) : Style :=
  { foreground := top.foreground.or base.foreground
    background := top.background.or base.background
    bold := top.bold || base.bold
    italic := top.italic || base.italic
    underlined := top.underlined || base.underlined }

/-- On top of the plain style a style is itself. -/
@[simp]
theorem onto_default (style : Style) : style.onto {} = style := by
  cases style
  simp only [onto, Option.or_none, Bool.or_false]

/-- The plain style changes no style below it. -/
@[simp]
theorem default_onto (style : Style) : Style.onto {} style = style := by
  cases style
  simp only [onto, Option.none_or, Bool.false_or]

/-- Of three styles it does not matter which two are put together first. -/
theorem onto_assoc (a b c : Style) : (a.onto b).onto c = a.onto (b.onto c) := by
  simp only [onto, Option.or_assoc, Bool.or_assoc]

end Style

end DeclAtlas.Screen
