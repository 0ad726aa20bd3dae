/-
ContentDelivery.Text.Ranges — sets of code points.

A property of characters is kept as the ranges of the code points that
have it.
-/
namespace ContentDelivery.Text

/-- First and last code points of ranges, in ascending order. -/
abbrev Ranges := List (Nat × Nat)

/-- Whether one of the ranges holds a code point. -/
def Ranges.covers (ranges : Ranges) (codePoint : Nat) : Bool :=
  ranges.any fun range => range.1 ≤ codePoint && codePoint ≤ range.2

end ContentDelivery.Text
