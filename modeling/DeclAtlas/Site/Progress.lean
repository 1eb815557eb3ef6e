import DeclAtlas.Number.Rounding
import DeclAtlas.Text.Basic

/-!
# Progress

While a site is written, its progress is reported as a sequence of events: status lines and whole
percentages.
-/

namespace DeclAtlas

/-- One report of a running export. -/
inductive ProgressEvent where
  | status (line : Text)
  | percent (value : Nat)
  deriving DecidableEq, Repr

namespace ProgressEvent

/-- The status lines among events. -/
def statuses (events : List ProgressEvent) : List Text :=
  events.filterMap fun event =>
    match event with
    | .status line => some line
    | .percent _ => none

/-- The percentages among events. -/
def percents (events : List ProgressEvent) : List Nat :=
  events.filterMap fun event =>
    match event with
    | .status _ => none
    | .percent value => some value

end ProgressEvent

namespace Progress

/-- How many of the pages are written, in whole percent. -/
def wholePercent (written pages : Nat) : Nat :=
  min (written * 100 / max pages 1) 100

/-- How many of the pages are written, in percent with two places.  The percentage is taken as a
binary fraction of double precision, and that fraction is rounded to two places. -/
def exactPercent (written pages : Nat) : Text :=
  let fraction := Number.binaryFraction (written * 100) (max pages 1)
  let hundredths := Number.roundDiv (fraction.mantissa * 100) (1 <<< fraction.scale)
  let places := Text.ofNat (hundredths % 100)
  Text.ofNat (hundredths / 100) ++ '.' :: List.replicate (2 - places.length) '0' ++ places

/-- The status line after a page of the given label. -/
def exportingLine (label : Text) (written pages : Nat) : Text :=
  "Exporting " ++ label ++ " (" ++ exactPercent written pages ++ "%)..."

/-- The events after a page: the `written`th of `pages` pages, with the given label. -/
def afterPage (label : Text) (written pages : Nat) : List ProgressEvent :=
  [.status (exportingLine label written pages), .percent (wholePercent written pages)]

end Progress

end DeclAtlas
