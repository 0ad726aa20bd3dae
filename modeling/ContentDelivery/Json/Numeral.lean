/-
ContentDelivery.Json.Numeral — the numerals of JSON and the numbers they stand for.

`Numeral.scan` reads the longest numeral at the head of a text;
`Numeral.value?` is its number. A numeral without point and exponent is
a whole number if that fits 64 bits (signed below zero, unsigned above);
every other one is a floating-point number, made from the leading digits
that fit 64 bits and scaled by a power of ten (`Binary64.scaleByTen`).
"-0" is the floating-point negative zero. A numeral beyond the largest
floating-point number stands for nothing.
-/
import ContentDelivery.Json.Basic

namespace ContentDelivery.Json

structure Numeral where
  isNegative : Bool
  whole : List Nat
  /-- The digits after the point, none if there is no point. -/
  fraction : List Nat
  exponent : Option Int
deriving DecidableEq, Repr

namespace Numeral

/-! ## Reading -/

/-- The digits at the head of a text, and the rest. -/
def scanDigits (cs : List Char) : List Nat × List Char :=
  ((cs.takeWhile Char.isDigit).map (fun c => c.toNat - '0'.toNat), cs.dropWhile Char.isDigit)

/-- A whole part: zero stands alone, other numbers do not begin with it. -/
def scanWhole (cs : List Char) : Option (List Nat × List Char) :=
  match cs with
  | '0' :: rest => some ([0], rest)
  | _ =>
    match scanDigits cs with
    | ([], _) => none
    | found => some found

/-- A point needs a digit after it; without a point there are no digits. -/
def scanFraction (cs : List Char) : Option (List Nat × List Char) :=
  match cs with
  | '.' :: rest =>
    match scanDigits rest with
    | ([], _) => none
    | found => some found
  | _ => some ([], cs)

/-- A sign, if the text begins with one. -/
def scanSign (cs : List Char) : Bool × List Char :=
  match cs with
  | '-' :: rest => (true, rest)
  | '+' :: rest => (false, rest)
  | _ => (false, cs)

def natOfDigits (ds : List Nat) : Nat := ds.foldl (fun n d => n * 10 + d) 0

def scanExponentDigits (cs : List Char) : Option (Int × List Char) :=
  let (isNegative, digits) := scanSign cs
  match scanDigits digits with
  | ([], _) => none
  | (ds, rest) => some (if isNegative then -(natOfDigits ds : Int) else natOfDigits ds, rest)

def scanExponent (cs : List Char) : Option (Option Int × List Char) :=
  match cs with
  | c :: rest =>
    if c = 'e' ∨ c = 'E' then (scanExponentDigits rest).map (fun (e, rest) => (some e, rest))
    else some (none, cs)
  | [] => some (none, [])

/-- The numeral at the head of a text, and the rest. -/
def scan (cs : List Char) : Option (Numeral × List Char) := do
  let (isNegative, cs) := match cs with
    | '-' :: rest => (true, rest)
    | _ => (false, cs)
  let (whole, cs) ← scanWhole cs
  let (fraction, cs) ← scanFraction cs
  let (exponent, cs) ← scanExponent cs
  return ({ isNegative, whole, fraction, exponent }, cs)

/-! ## Progress

Every scanner leaves no more than it was given, and the whole part takes
a character at least. -/

theorem scanDigits_length_le (cs : List Char) : (scanDigits cs).2.length ≤ cs.length :=
  (List.dropWhile_suffix _).length_le

theorem scanDigits_length_lt {cs ds rest} (h : scanDigits cs = (ds, rest)) (hd : ds ≠ []) :
    rest.length < cs.length := by
  simp only [scanDigits, Prod.mk.injEq] at h
  obtain ⟨rfl, rfl⟩ := h
  have hsum := congrArg List.length (List.takeWhile_append_dropWhile (p := Char.isDigit) (l := cs))
  rw [List.length_append] at hsum
  have hpos : 0 < (cs.takeWhile Char.isDigit).length :=
    List.length_pos_iff.2 fun h => hd (by rw [h]; rfl)
  omega

theorem scanWhole_length_lt {cs ds rest} (h : scanWhole cs = some (ds, rest)) :
    rest.length < cs.length := by
  unfold scanWhole at h
  split at h
  · simp only [Option.some.injEq, Prod.mk.injEq] at h
    simp [← h.2]
  · split at h
    · simp at h
    · next hne =>
      simp only [Option.some.injEq] at h
      exact scanDigits_length_lt h fun hds => hne rest (by rw [h, hds])

theorem scanFraction_length_le {cs ds rest} (h : scanFraction cs = some (ds, rest)) :
    rest.length ≤ cs.length := by
  unfold scanFraction at h
  split at h
  · next tail =>
    have hdigits := scanDigits_length_le tail
    split at h
    · simp at h
    · simp only [Option.some.injEq] at h
      rw [h] at hdigits
      exact Nat.le_succ_of_le hdigits
  · simp only [Option.some.injEq, Prod.mk.injEq] at h
    exact Nat.le_of_eq (congrArg List.length h.2.symm)

theorem scanSign_length_le (cs : List Char) : (scanSign cs).2.length ≤ cs.length := by
  unfold scanSign
  split <;> simp

theorem scanExponentDigits_length_le {cs e rest} (h : scanExponentDigits cs = some (e, rest)) :
    rest.length ≤ cs.length := by
  unfold scanExponentDigits at h
  have hsign := scanSign_length_le cs
  have hdigits := scanDigits_length_le (scanSign cs).2
  simp only at h
  split at h
  · simp at h
  · next heq =>
    rw [heq] at hdigits
    simp only [Option.some.injEq, Prod.mk.injEq] at h
    rw [← h.2]
    exact Nat.le_trans hdigits hsign

theorem scanExponent_length_le {cs e rest} (h : scanExponent cs = some (e, rest)) :
    rest.length ≤ cs.length := by
  unfold scanExponent at h
  split at h
  · split at h
    · obtain ⟨⟨e', rest'⟩, hdigits, heq⟩ := Option.map_eq_some_iff.1 h
      simp only [Prod.mk.injEq] at heq
      have := scanExponentDigits_length_le hdigits
      rw [← heq.2]
      exact Nat.le_succ_of_le this
    · simp only [Option.some.injEq, Prod.mk.injEq] at h
      simp [← h.2]
  · simp only [Option.some.injEq, Prod.mk.injEq] at h
    simp [← h.2]

/-- A numeral is not empty. -/
theorem scan_length_lt {cs n rest} (h : scan cs = some (n, rest)) : rest.length < cs.length := by
  unfold scan at h
  simp only [Option.bind_eq_bind, Option.pure_def, Option.bind_eq_some_iff, Prod.exists,
    Option.some.injEq, Prod.mk.injEq] at h
  obtain ⟨_, _, hw, _, _, hf, _, _, he, _, rfl⟩ := h
  have h1 := scanWhole_length_lt hw
  have h2 := scanFraction_length_le hf
  have h3 := scanExponent_length_le he
  have h0 : (match cs with
    | '-' :: rest => (true, rest)
    | _ => (false, cs)).2.length ≤ cs.length := by split <;> simp
  omega

/-! ## Meaning -/

/-- The most that the leading digits may be worth, plus one. -/
def significandLimit : Nat := UInt64.size

/-- The value of the leading whole digits that fit, and how many do not. -/
def wholeSignificand (ds : List Nat) : Nat × Nat :=
  ds.foldl
    (fun (value, dropped) d =>
      if dropped = 0 ∧ value * 10 + d < significandLimit then (value * 10 + d, 0)
      else (value, dropped + 1))
    (0, 0)

/-- Appends fraction digits as long as they fit, each of them one power of ten lower. -/
def appendFraction (value : Nat) (exponent : Int) : List Nat → Nat × Int
  | [] => (value, exponent)
  | d :: ds =>
    if value * 10 + d < significandLimit then appendFraction (value * 10 + d) (exponent - 1) ds
    else (value, exponent)

/-- The number of a numeral; none if it is beyond the floating-point numbers. -/
def value? (n : Numeral) : Option JsonNumber :=
  let (value, dropped) := wholeSignificand n.whole
  if n.fraction = [] ∧ n.exponent = none ∧ dropped = 0 then
    if !n.isNegative then some (.int value)
    else if 0 < value ∧ value ≤ 1 <<< 63 then some (.int (-(value : Int)))
    else some (.float ((Binary64.ofNat value).withSign true))
  else
    let (value, exponent) := appendFraction value dropped n.fraction
    ((Binary64.ofNat value).scaleByTen (exponent + n.exponent.getD 0)).map fun x =>
      .float (x.withSign n.isNegative)

end Numeral

end ContentDelivery.Json
