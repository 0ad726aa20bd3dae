/-
ContentDelivery.Text.Quoted — names between quotes, as messages show them.

Quotes, backslashes and the common controls are written with a
backslash, other invisible characters by their code points, and all
else as it is.
-/
import ContentDelivery.Text.Invisible

namespace ContentDelivery.Text

namespace Quoted

/-- The code point in hexadecimal, between braces. -/
def codePointEscape (c : Char) : List Char :=
  ['\\', 'u', '{'] ++ Nat.toDigits 16 c.toNat ++ ['}']

def escape (c : Char) : List Char :=
  if c = '\x00' then ['\\', '0']
  else if c = '\t' then ['\\', 't']
  else if c = '\r' then ['\\', 'r']
  else if c = '\n' then ['\\', 'n']
  else if c = '\\' ∨ c = '"' then ['\\', c]
  else if c < ' ' then codePointEscape c
  else if c ≤ '~' then [c]
  else if isInvisible c then codePointEscape c
  else [c]

def encode (cs : List Char) : List Char := '"' :: cs.flatMap escape ++ ['"']

end Quoted

/-- A name between quotes. -/
def quoted (name : String) : String := String.ofList (Quoted.encode name.toList)

end ContentDelivery.Text
