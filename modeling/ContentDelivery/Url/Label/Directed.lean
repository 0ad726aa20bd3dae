/-
ContentDelivery.Url.Label.Directed — labels that keep their order on a line.

Where a domain holds a character that runs from right to left, each of
its labels has to run one way from end to end. Its first letter tells
which way; what else it holds must not be torn from it when a line is
put in order, and marks at its end belong to what precedes them.
-/
import ContentDelivery.Text.Direction

namespace ContentDelivery.Url.Label

open Text (Direction)

def rightToLeft : List Direction := [.rightToLeft, .arabicLetter, .arabicNumber]

/-- What may stand in a label whichever way it runs. -/
def eitherWay : List Direction :=
  [.europeanNumber, .europeanSeparator, .commonSeparator, .europeanTerminator, .otherNeutral,
    .boundaryNeutral, .nonspacingMark]

/-- Whether a code point makes a domain one that runs both ways. None in ASCII does. -/
def isRightToLeft (codePoint : Nat) : Bool :=
  128 ≤ codePoint && rightToLeft.contains (Direction.ofCodePoint codePoint)

/-- What may follow the first letter of a label that runs from left to right. -/
def runsLeftToRight (rest : List Direction) : Bool :=
  rest.all (.leftToRight :: eitherWay).contains &&
    rest.getLast?.all [.leftToRight, .europeanNumber].contains

/-- What may follow the first letter of a label that runs from right to left, with digits of
one kind only. -/
def runsRightToLeft (rest : List Direction) : Bool :=
  rest.all (rightToLeft ++ eitherWay).contains &&
    rest.getLast?.all (.europeanNumber :: rightToLeft).contains &&
    !(rest.contains .europeanNumber && rest.contains .arabicNumber)

/-- Whether a label runs one way, whichever. -/
def isDirected (codePoints : List Nat) : Bool :=
  match codePoints.map Direction.ofCodePoint with
  | [] => true
  | first :: rest =>
    let core := (rest.reverse.dropWhile (· == .nonspacingMark)).reverse
    match first with
    | .leftToRight => runsLeftToRight core
    | .rightToLeft | .arabicLetter => runsRightToLeft core
    | _ => false

end ContentDelivery.Url.Label
