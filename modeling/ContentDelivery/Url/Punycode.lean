/-
ContentDelivery.Url.Punycode — labels with characters beyond ASCII.

After the prefix "xn--" a label lists its ASCII characters and then, in
ascending order, where each other character goes: the distance from the
one before, as a number of variable length in base 36 whose digit
thresholds adapt to the distances seen. `decode?` gives the code points
of such a label, or nothing if it is malformed, and `encode` lists the
code points of a label.
-/
namespace ContentDelivery.Url.Punycode

/-- Letters count 0 to 25 and digits 26 to 35. -/
def digit? (c : Char) : Option Nat :=
  if 'a' ≤ c ∧ c ≤ 'z' then some (c.toNat - 'a'.toNat)
  else if '0' ≤ c ∧ c ≤ '9' then some (c.toNat - '0'.toNat + 26)
  else none

/-- The least digit that is followed by another one, at place `k / 36`. -/
def threshold (k bias : Nat) : Nat := min 26 (max 1 (k - bias))

/-- Divides a distance until it is small, and counts the places that were taken off. -/
def dampen (delta places : Nat) : Nat × Nat :=
  if 455 < delta then dampen (delta / 35) (places + 36) else (delta, places)
termination_by delta
decreasing_by omega

/-- The bias after a distance, when the label has `count` characters. -/
def adapt (distance count : Nat) (isFirst : Bool) : Nat :=
  let scaled := if isFirst then distance / 700 else distance / 2
  let (delta, places) := dampen (scaled + scaled / count) 0
  places + 36 * delta / (delta + 38)

/-! ## Reading -/

/-- Distances and the weights of their digits stay below this. -/
def limit : Nat := UInt32.size

/-- A distance at the head of a list of digits, and the digits after it. -/
def readDistance (bias : Nat) : (k weight sum : Nat) → List Nat → Option (Nat × List Nat)
  | _, _, _, [] => none
  | k, weight, sum, d :: ds =>
    let t := threshold k bias
    if limit ≤ sum + d * weight then none
    else if d < t then some (sum + d * weight, ds)
    else if limit ≤ weight * (36 - t) then none
    else readDistance bias (k + 36) (weight * (36 - t)) (sum + d * weight) ds

theorem readDistance_length_lt {bias k weight sum : Nat} {ds : List Nat} {n : Nat}
    {rest : List Nat} (h : readDistance bias k weight sum ds = some (n, rest)) :
    rest.length < ds.length := by
  induction ds generalizing k weight sum with
  | nil => simp [readDistance] at h
  | cons d ds ih =>
    simp only [readDistance] at h
    split at h
    · simp at h
    · split at h
      · simp only [Option.some.injEq, Prod.mk.injEq] at h
        simp [← h.2]
      · split at h
        · simp at h
        · exact Nat.lt_succ_of_lt (ih h)

/-- Whether a number is the code point of a character. -/
def isScalar (n : Nat) : Bool := n < 0xD800 || (0xDFFF < n && n < 0x110000)

/-- Puts the characters of the remaining distances into a label, from `codePoint` on. -/
def insertAll (label : List Nat) (codePoint position bias : Nat) (isFirst : Bool)
    (ds : List Nat) : Option (List Nat) :=
  if ds.isEmpty then some label
  else
    match h : readDistance bias 36 1 0 ds with
    | none => none
    | some (distance, rest) =>
      let count := label.length + 1
      let place := position + distance
      let next := codePoint + place / count
      if isScalar next then
        insertAll (label.take (place % count) ++ next :: label.drop (place % count)) next
          (place % count + 1) (adapt distance count isFirst) false rest
      else none
termination_by ds.length
decreasing_by exact readDistance_length_lt h

/-- The code points of a label without its prefix. The last hyphen ends the ASCII part, unless
that part would be empty. -/
def decode? (label : List Char) : Option (List Nat) := do
  let behind := (label.reverse.takeWhile (· != '-')).reverse
  let ascii := (label.take (label.length - behind.length)).dropLast
  let digits ← (if ascii.isEmpty then label else behind).mapM digit?
  insertAll (ascii.map Char.toNat) 128 0 72 true digits

/-! ## Writing -/

def digit (n : Nat) : Char :=
  if n < 26 then Char.ofNat ('a'.toNat + n) else Char.ofNat ('0'.toNat + (n - 26))

/-- The digits of a distance, of which the first stands at place `k / 36`. -/
def distanceDigits (bias k distance : Nat) : List Nat :=
  let t := threshold k bias
  if distance < t then [distance]
  else (t + (distance - t) % (36 - t)) :: distanceDigits bias (k + 36) ((distance - t) / (36 - t))
termination_by distance
decreasing_by
  have positive : 1 ≤ threshold k bias := by
    unfold threshold
    omega
  have smaller := Nat.div_le_self (distance - threshold k bias) (36 - threshold k bias)
  omega

/-- Where the characters of a label go, as far as they are listed. -/
structure Listing where
  digits : List Nat := []
  /-- The distance from the character that was listed last. -/
  distance : Nat := 0
  bias : Nat := 72
  /-- The characters that have their place already. -/
  count : Nat
  isFirst : Bool := true
  /-- The code point that is listed next. -/
  next : Nat := 128

namespace Listing

/-- Goes past one character of the label, which is listed if it is the next one. -/
def pass (l : Listing) (codePoint : Nat) : Listing :=
  if codePoint < l.next then { l with distance := l.distance + 1 }
  else if codePoint = l.next then
    { l with
      digits := l.digits ++ distanceDigits l.bias 36 l.distance
      distance := 0
      bias := adapt l.distance (l.count + 1) l.isFirst
      count := l.count + 1
      isFirst := false }
  else l

/-- Lists a code point wherever the label has it. None of those before it is still to be listed. -/
def add (label : List Nat) (l : Listing) (codePoint : Nat) : Listing :=
  let start :=
    { l with distance := l.distance + (codePoint - l.next) * (l.count + 1), next := codePoint }
  let done := label.foldl pass start
  { done with distance := done.distance + 1, next := codePoint + 1 }

end Listing

/-- Puts a number into a list in ascending order, unless it is there. -/
def insertAscending (n : Nat) : List Nat → List Nat
  | [] => [n]
  | m :: ms => if n < m then n :: m :: ms else if n = m then m :: ms else m :: insertAscending n ms

/-- The spelling of a label, without the prefix. -/
def encode (label : List Nat) : List Char :=
  let ascii := (label.filter (· < 128)).map Char.ofNat
  let others := (label.filter (128 ≤ ·)).foldr insertAscending []
  let listing := others.foldl (Listing.add label) { count := ascii.length }
  (if ascii.isEmpty then [] else ascii ++ ['-']) ++ listing.digits.map digit

example : encode ("bücher".toList.map Char.toNat) = "bcher-kva".toList := by decide +kernel

end ContentDelivery.Url.Punycode
