/-
ContentDelivery.Url.Form — names and values in a query.

Pairs are joined by ampersands, a name and its value by an equals sign.
Letters, digits and `* - . _` stand for themselves, a plus sign for a
blank, and all else is percent-encoded, so none of the separators occurs
inside a name or a value.
-/
import ContentDelivery.Url.Percent

namespace ContentDelivery.Url.Form

/-! ## Encoding -/

def isKept (c : Char) : Bool := c.isAlphanum || c = '*' || c = '-' || c = '.' || c = '_'

def encodeChar (c : Char) : List Char :=
  if c = ' ' then ['+'] else Percent.encodeChar isKept c

def encodeText (cs : List Char) : List Char := cs.flatMap encodeChar

def encodePair (pair : String × String) : List Char :=
  encodeText pair.1.toList ++ '=' :: encodeText pair.2.toList

/-- Puts a pair after what a query holds already. -/
def appendPair (query : List Char) (pair : String × String) : List Char :=
  if query.isEmpty then encodePair pair else query ++ '&' :: encodePair pair

/-! ## Decoding -/

/-- The pieces between the ampersands. -/
def splitPairs (query : List Char) : List (List Char) := query.splitOn '&'

/-- The bytes of a name or a value. -/
def decodeText (cs : List Char) : List UInt8 :=
  Percent.decode (cs.map fun c => if c = '+' then ' ' else c)

/-- Name and value of a piece; one without an equals sign is a name with an empty value. -/
def decodePair (piece : List Char) : List UInt8 × List UInt8 :=
  (decodeText (piece.takeWhile (· != '=')), decodeText ((piece.dropWhile (· != '=')).drop 1))

/-- The pairs of a query, as bytes; empty pieces are passed over. -/
def decode (query : List Char) : List (List UInt8 × List UInt8) :=
  ((splitPairs query).filter (fun piece => !piece.isEmpty)).map decodePair

end ContentDelivery.Url.Form
