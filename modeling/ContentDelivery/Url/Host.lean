/-
ContentDelivery.Url.Host — the hosts of URLs.

A host in brackets is an address of 128 bits. Any other host is
percent-decoded and must then be a domain, whose labels are well formed
and can stand together. It is held in ASCII, without the characters that
delimit the parts of a URL; labels beyond ASCII have a spelling for that.
A domain that ends in a number is an address of 32 bits instead.
-/
import ContentDelivery.Text.Utf8
import ContentDelivery.Url.Percent
import ContentDelivery.Url.Ipv4
import ContentDelivery.Url.Ipv6
import ContentDelivery.Url.Label.Basic
import ContentDelivery.Url.Label.Folded

namespace ContentDelivery.Url

inductive Host where
  | domain (name : List Char)
  | ipv4 (address : Nat)
  | ipv6 (groups : List Nat)
deriving DecidableEq, Repr

namespace Host

/-! ## Reading -/

/-- The characters that delimit the parts of a URL. -/
def delimiters : List Char :=
  ['%', '#', '/', ':', '<', '>', '?', '@', '[', '\\', ']', '^', '|']

/-- The characters that no domain holds. -/
def isForbidden (c : Char) : Bool := !Percent.isGraphic c || delimiters.contains c

/-- The labels that bytes spell, which are folded and composed before they are parted. Everything
that stands for a dot parts labels. -/
def labels? (bytes : List UInt8) : Option (List Label) := do
  let text ← text? bytes
  let codePoints ← Label.foldAll? (text.toList.map Char.toNat)
  ((Label.compose codePoints).splitOn '.'.toNat).mapM Label.ofCodePoints?

/-- The domain that labels make, in ASCII. -/
def join (labels : List Label) : List Char := ['.'].intercalate (labels.map (·.ascii))

/-- The domain that bytes spell, in ASCII. -/
def domain? (bytes : List UInt8) : Option (List Char) := do
  let labels ← labels? bytes
  if (join labels).isEmpty || (join labels).any isForbidden || !Label.areCompatible labels then none
  else some (join labels)

def ofText? (text : List Char) : Option Host :=
  match text with
  | '[' :: rest =>
    if rest.getLast? = some ']' then (Ipv6.ofText? rest.dropLast).map .ipv6 else none
  | _ => do
    let name ← domain? (Percent.decode text)
    if Ipv4.endsInNumber name then (Ipv4.ofHost? name).map .ipv4 else some (.domain name)

/-! ## Writing -/

def toText : Host → List Char
  | .domain name => name
  | .ipv4 address => Ipv4.toText address
  | .ipv6 groups => '[' :: Ipv6.toText groups ++ [']']

end Host

end ContentDelivery.Url
