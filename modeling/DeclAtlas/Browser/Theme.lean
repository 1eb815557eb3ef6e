import DeclAtlas.Element.Basic
import DeclAtlas.Screen.Style

/-!
# Colours of the browser

Each colour has a role; kinds of declarations have colours of their own.
-/

namespace DeclAtlas.Theme

open Screen

/-- Plain text. -/
def text : Color := .mixed 205 214 244

/-- Headings, names of facts and the number of elements. -/
def primary : Color := .mixed 137 180 250

/-- What is being edited. -/
def secondary : Color := .mixed 250 179 135

/-- What stands back behind plain text. -/
def faint : Color := .mixed 108 112 134

/-- Work that goes on. -/
def success : Color := .mixed 166 227 161

/-- The frame of the pane that takes the keys. -/
def focusedFrame : Color := .mixed 249 226 175

/-- The frame of any other pane. -/
def plainFrame : Color := .mixed 108 112 134

/-- Behind the selected row and the status bar. -/
def highlight : Color := .mixed 50 50 70

/-- The labels of declarations of a kind. -/
def ofKind : Kind → Color
  | .nameSpace => .mixed 203 166 247
  | .classType | .structType => .mixed 148 226 213
  | .interfaceType => .mixed 137 220 235
  | .enumType => .mixed 245 194 231
  | .function => .mixed 249 226 175
  | .property => .mixed 166 227 161
  | .field => .mixed 205 214 244

/-- The frame of a pane. -/
def frame (isFocused : Bool) : Style :=
  if isFocused then { foreground := some focusedFrame, bold := true }
  else Style.colored plainFrame

end DeclAtlas.Theme
