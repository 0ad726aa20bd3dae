/-
ContentDelivery.Url.Label.Composed — the one spelling of letters with marks.

A letter with marks can be spelled by one character or by several, and
marks of different classes in any order. A label is spelled with as few
characters as there are: `compose` takes a label apart, sorts the marks
behind each letter by class and joins what one character stands for.
-/
import ContentDelivery.Url.Label.Composite

namespace ContentDelivery.Url.Label

open Text (combiningClass)

/-- Puts a code point behind the marks of lower class with which a list begins. -/
def insertByClass (codePoint : Nat) : List Nat → List Nat
  | [] => [codePoint]
  | next :: rest =>
    if 0 < combiningClass next && combiningClass next < combiningClass codePoint then
      next :: insertByClass codePoint rest
    else codePoint :: next :: rest

/-- The parts of all code points, with the marks behind each letter in ascending order of
class; marks of one class keep their order. -/
def decompose (codePoints : List Nat) : List Nat :=
  (codePoints.flatMap parts).foldr insertByClass []

/-- A mark that stands between hides a letter from the marks of its own and of lower class. -/
def isHidden (passed : List Nat) (codePoint : Nat) : Bool :=
  match passed with
  | [] => false
  | mark :: _ => combiningClass codePoint ≤ combiningClass mark

/-- Joins a letter with what follows it. `passed` are the marks between that stay, the last
one first. -/
def composeFrom (letter : Nat) (passed : List Nat) : List Nat → List Nat
  | [] => letter :: passed.reverse
  | next :: rest =>
    match if isHidden passed next then none else ofParts? (parts letter ++ [next]) with
    | some composite => composeFrom composite passed rest
    | none =>
      if combiningClass next = 0 then letter :: (passed.reverse ++ composeFrom next [] rest)
      else composeFrom letter (next :: passed) rest

def compose (codePoints : List Nat) : List Nat :=
  match decompose codePoints with
  | [] => []
  | letter :: rest => composeFrom letter [] rest

/-- Whether a label has its one spelling. -/
def isComposed (codePoints : List Nat) : Bool := compose codePoints == codePoints

end ContentDelivery.Url.Label
