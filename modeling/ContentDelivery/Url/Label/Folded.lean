/-
ContentDelivery.Url.Label.Folded — one spelling for all forms of a character.

Domains do not tell capitals from small letters, nor letters from their
forms in other styles. `fold?` gives what a character stands for: itself,
another one or several, or none where it is passed over. A character
that has no place in a label stands for nothing.
-/
import ContentDelivery.Url.Label.IdeographForms
import ContentDelivery.Url.Label.LetterForms
import ContentDelivery.Url.Label.Permitted
import ContentDelivery.Url.Label.Sequences

namespace ContentDelivery.Url.Label

/-- What is passed over: hyphens and joints that show at the end of a line only, fillers, and
marks that choose among the forms of the character before them. -/
def dropped : Text.Ranges :=
  [ (0xad, 0xad), (0x34f, 0x34f), (0x115f, 0x1160), (0x17b4, 0x17b5), (0x180b, 0x180f),
    (0x200b, 0x200b), (0x2060, 0x2064), (0x206a, 0x206f), (0x3164, 0x3164), (0xfe00, 0xfe0f),
    (0xfeff, 0xfeff), (0xffa0, 0xffa0), (0x1bca0, 0x1bca3), (0x1d173, 0x1d17a),
    (0xe0100, 0xe01ef) ]

/-- The letter for which one in a row of letters stands. -/
def ofAlphabets? (codePoint : Nat) : Option Nat :=
  alphabets.findSome? fun (first, last, distance, letter) =>
    if first ≤ codePoint && codePoint ≤ last && (codePoint - first) % distance == 0 then
      some (letter + (codePoint - first))
    else none

/-- What a table of neighbours holds for a code point. -/
def ofNeighbours? (table : List (Nat × List α)) (codePoint : Nat) : Option α :=
  table.findSome? fun (first, forms) =>
    if first ≤ codePoint then forms[codePoint - first]? else none

/-- The character of which a code point beyond ASCII is a form. -/
def original? (codePoint : Nat) : Option Nat :=
  ((ofAlphabets? codePoint).or (ofNeighbours? letterForms codePoint)).or
    (ofNeighbours? ideographForms codePoint)

/-- The characters that one beyond ASCII writes at once. -/
def sequence? (codePoint : Nat) : Option (List Nat) :=
  ((ofNeighbours? sequencesNear codePoint).or (ofNeighbours? sequencesSquared codePoint)).or
    (ofNeighbours? sequencesFar codePoint)

/-- What a code point stands for, if it has a place in a label. -/
def fold? (codePoint : Nat) : Option (List Nat) :=
  if codePoint < 128 then some [(Char.ofNat codePoint).toLower.toNat]
  else if dropped.covers codePoint then some []
  else if isPermitted codePoint then some [codePoint]
  else ((original? codePoint).map ([·])).or (sequence? codePoint)

/-- What a text stands for, unless something in it has no place in a label. -/
def foldAll? (codePoints : List Nat) : Option (List Nat) :=
  (codePoints.mapM fold?).map List.flatten

end ContentDelivery.Url.Label
