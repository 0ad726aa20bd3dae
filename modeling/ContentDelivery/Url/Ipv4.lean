/-
ContentDelivery.Url.Ipv4 — hosts that are numbers.

A host whose last label is a number is an address of 32 bits. Its one to
four labels are decimal, octal after a zero or hexadecimal after "0x";
the last one fills all the bits that the others leave.
-/
import ContentDelivery.Text.Hex

namespace ContentDelivery.Url.Ipv4

/-! ## Reading -/

/-- Reads digits of the given base, none of which gives zero. -/
def digitsValue? (base : Nat) (cs : List Char) : Option Nat :=
  cs.foldlM
    (fun n c => do
      let d ← Text.Hex.digit? c
      guard (d < base)
      return n * base + d)
    0

/-- The value of a label, if it is a number. -/
def number? (label : List Char) : Option Nat :=
  match label with
  | [] => none
  | '0' :: 'x' :: digits | '0' :: 'X' :: digits => digitsValue? 16 digits
  | '0' :: d :: digits => digitsValue? 8 (d :: digits)
  | digits => digitsValue? 10 digits

/-- The labels of a host; a final dot ends no label. -/
def labels (host : List Char) : List (List Char) :=
  let labels := host.splitOn '.'
  if labels.getLast? = some [] then labels.dropLast else labels

/-- Whether a host means an address: its last label is a number or holds digits only. -/
def endsInNumber (host : List Char) : Bool :=
  match (labels host).getLast? with
  | none | some [] => false
  | some last => last.all Char.isDigit || (number? last).isSome

/-- The address of labels, most significant first. -/
def ofNumbers? : List Nat → Option Nat
  | [] => none
  | numbers =>
    let leading := numbers.dropLast
    let last := numbers.getLastD 0
    -- The last number fills all the bytes that the others leave.
    let bits := 8 * (5 - numbers.length)
    if numbers.length ≤ 4 ∧ leading.all (· < 256) ∧ last < 1 <<< bits then
      some (leading.foldl (fun n x => n * 256 + x) 0 <<< bits + last)
    else none

def ofHost? (host : List Char) : Option Nat := ((labels host).mapM number?).bind ofNumbers?

/-! ## Writing -/

/-- Four decimal numbers with dots between them. -/
def toText (address : Nat) : List Char :=
  ['.'].intercalate
    ([address >>> 24 % 256, address >>> 16 % 256, address >>> 8 % 256, address % 256].map
      (Nat.toDigits 10))

end ContentDelivery.Url.Ipv4
