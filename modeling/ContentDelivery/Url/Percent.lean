/-
ContentDelivery.Url.Percent — percent encoding.

A character that may not stand for itself is written as the bytes of its
UTF-8, each a percent sign and two hexadecimal digits. Which characters
may stand for themselves depends on the part of the URL; none beyond
ASCII, no control character and no blank ever does.
-/
import ContentDelivery.Text.Hex

namespace ContentDelivery.Url.Percent

/-! ## Encoding -/

def encodeByte (b : UInt8) : List Char := '%' :: Text.Hex.ofByte b

def encodeChar (keep : Char → Bool) (c : Char) : List Char :=
  if keep c then [c] else (String.utf8EncodeChar c).flatMap encodeByte

def encode (keep : Char → Bool) (cs : List Char) : List Char := cs.flatMap (encodeChar keep)

/-! ## Decoding -/

/-- The bytes that a text stands for. A percent sign without two digits after it is itself. -/
def decode : List Char → List UInt8
  | [] => []
  | '%' :: hi :: lo :: rest =>
    match Text.Hex.digit? hi, Text.Hex.digit? lo with
    | some h, some l => UInt8.ofNat (h * 16 + l) :: decode rest
    | _, _ => String.utf8EncodeChar '%' ++ decode (hi :: lo :: rest)
  | c :: rest => String.utf8EncodeChar c ++ decode rest

/-! ## What may stand for itself -/

/-- Printable ASCII without the blank. -/
def isGraphic (c : Char) : Bool := '!' ≤ c && c ≤ '~'

def keptExcept (excluded : List Char) (c : Char) : Bool := isGraphic c && !excluded.contains c

def keptInFragment : Char → Bool := keptExcept ['"', '<', '>', '\x60']

def keptInQuery : Char → Bool := keptExcept ['"', '#', '<', '>', '\'']

def keptInPath : Char → Bool := keptExcept ['"', '#', '<', '>', '?', '\x60', '{', '}']

def keptInUserinfo : Char → Bool :=
  keptExcept ['"', '#', '<', '>', '?', '\x60', '{', '}', '/', ':', ';', '=', '@', '[', '\\', ']',
    '^', '|']

end ContentDelivery.Url.Percent
