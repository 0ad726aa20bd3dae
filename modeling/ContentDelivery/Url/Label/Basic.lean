/-
ContentDelivery.Url.Label.Basic — the parts of a domain between its dots.

A label has a spelling in ASCII. One beyond ASCII is spelled after the
prefix "xn--"; it has to be well formed, whether it is given itself or
by that spelling: its characters permitted, their marks composed, and
its joiners in places where they show. Other labels are spelled as they
are.
-/
import ContentDelivery.Text.Joining
import ContentDelivery.Url.Punycode
import ContentDelivery.Url.Label.Permitted
import ContentDelivery.Url.Label.Composed
import ContentDelivery.Url.Label.Directed

namespace ContentDelivery.Url

open Text (Joining)

/-- A label with its spelling. -/
structure Label where
  codePoints : List Nat
  ascii : List Char
deriving DecidableEq

namespace Label

/-- What the spelling of a label beyond ASCII begins with. -/
def encodedPrefix : List Char := ['x', 'n', '-', '-']

/-! ## Joiners -/

def nonJoiner : Nat := 0x200c

def joiner : Nat := 0x200d

/-- The first letter that is not a mark, as it joins its neighbours. -/
def firstJoining? (codePoints : List Nat) : Option Joining :=
  (codePoints.map Joining.ofCodePoint).find? (· != .transparent)

/-- Whether two letters would join if nothing stood between them. -/
def wouldJoin (before after : List Nat) : Bool :=
  (firstJoining? before).any (·.joinsBehind) && (firstJoining? after).any (·.joinsBefore)

/-- Whether a code point may stand between those before it, the last one first, and those
behind it. A joiner follows a virama; one that keeps letters apart may also stand between
letters that would join. -/
def fits (before : List Nat) (codePoint : Nat) (after : List Nat) : Bool :=
  if codePoint = nonJoiner || codePoint = joiner then
    before.head?.any (Text.combiningClass · == Text.virama) ||
      (codePoint == nonJoiner && wouldJoin before after)
  else true

def joinersFit (before : List Nat) : List Nat → Bool
  | [] => true
  | codePoint :: after => fits before codePoint after && joinersFit (codePoint :: before) after

/-! ## Reading -/

/-- Whether a label beyond ASCII is well formed. -/
def isWellFormed (codePoints : List Nat) : Bool :=
  codePoints.any (128 ≤ ·) &&
    codePoints.all isPermitted &&
    !codePoints.head?.any Text.isMark &&
    isComposed codePoints &&
    joinersFit [] codePoints

/-- The most characters that may stand for a label beyond ASCII. -/
def maxEncoded : Nat := 2000

/-- The label that is written in ASCII. -/
def ofText? (text : List Char) : Option Label :=
  match text with
  | 'x' :: 'n' :: '-' :: '-' :: encoded =>
    if encoded.getLast? = some '-' || maxEncoded < encoded.length then none
    else
      ((Punycode.decode? encoded).filter isWellFormed).map fun codePoints =>
        { codePoints, ascii := text }
  | _ => some { codePoints := text.map Char.toNat, ascii := text }

/-- The label that folded code points spell. What begins with "xn--" has to be ASCII. -/
def ofCodePoints? (codePoints : List Nat) : Option Label :=
  if codePoints.all (· < 128) then ofText? (codePoints.map Char.ofNat)
  else if isWellFormed codePoints && !(encodedPrefix.map Char.toNat).isPrefixOf codePoints then
    some { codePoints, ascii := encodedPrefix ++ Punycode.encode codePoints }
  else none

/-- Whether labels can stand in one domain. -/
def areCompatible (labels : List Label) : Bool :=
  !labels.any (·.codePoints.any isRightToLeft) || labels.all (isDirected ·.codePoints)

end Label

end ContentDelivery.Url
