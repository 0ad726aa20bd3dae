/-
ContentDelivery.Text.Hex — hexadecimal digits.

Digits of both cases are read. Two digits write a byte, sixteen a word.
-/
namespace ContentDelivery.Text.Hex

/-- The value of a hexadecimal digit of either case. -/
def digit? (c : Char) : Option Nat :=
  if '0' ≤ c ∧ c ≤ '9' then some (c.toNat - '0'.toNat)
  else if 'a' ≤ c ∧ c ≤ 'f' then some (c.toNat - 'a'.toNat + 10)
  else if 'A' ≤ c ∧ c ≤ 'F' then some (c.toNat - 'A'.toNat + 10)
  else none

def lowerDigits : List Char :=
  ['0', '1', '2', '3', '4', '5', '6', '7', '8', '9', 'a', 'b', 'c', 'd', 'e', 'f']

def upperDigits : List Char :=
  ['0', '1', '2', '3', '4', '5', '6', '7', '8', '9', 'A', 'B', 'C', 'D', 'E', 'F']

/-- The digit of a value below sixteen, from a list of digits. -/
def digit (digits : List Char) (n : Nat) : Char := digits.getD n '0'

theorem digit?_upper {n : Nat} (h : n < 16) : digit? (digit upperDigits n) = some n := by
  have all : ∀ m ∈ List.range 16, digit? (digit upperDigits m) = some m := by decide
  exact all n (List.mem_range.2 h)

/-- A byte in two capital digits. -/
def ofByte (b : UInt8) : List Char :=
  [digit upperDigits (b.toNat / 16), digit upperDigits (b.toNat % 16)]

/-- The last `count` digits of a number, in lower case. -/
def ofNat (count n : Nat) : List Char :=
  match count with
  | 0 => []
  | count + 1 => ofNat count (n / 16) ++ [digit lowerDigits (n % 16)]

/-- The bytes of a text of paired digits. -/
def bytes? : List Char → Option (List UInt8)
  | [] => some []
  | hi :: lo :: rest => do
    let b := UInt8.ofNat ((← digit? hi) * 16 + (← digit? lo))
    return b :: (← bytes? rest)
  | [_] => none

end ContentDelivery.Text.Hex
