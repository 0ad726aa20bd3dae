/-
ContentDelivery.Number.Binary64 — floating-point numbers of 64 bits, by their bit patterns.

A finite number is a whole number of units of 2^-1074, the smallest
positive one, so every operation here is exact arithmetic on `Nat`
followed by one rounding, `ofRatio`: to the nearest number, a tie to
the one whose last bit is zero, and to infinity from half a unit above
the largest. Only what the program computes is defined: conversion from
whole numbers, products and quotients of magnitudes, and sums of
magnitudes.
-/
namespace ContentDelivery

/-- A floating-point number of 64 bits: sign, eleven bits of exponent, 52 bits of fraction. -/
structure Binary64 where
  bits : UInt64
deriving DecidableEq, Repr, Inhabited

/-- The quotient `n / d` rounded to a whole number, a half to the even neighbour. -/
def roundHalfEven (n d : Nat) : Nat :=
  let q := n / d
  let twice := 2 * (n % d)
  if twice < d then q else if d < twice then q + 1 else q + q % 2

namespace Binary64

/-! ## Fields -/

/-- The sign bit; zero has one too. -/
def isNegative (x : Binary64) : Bool := 1 <<< 63 ≤ x.bits.toNat

def exponentField (x : Binary64) : Nat := x.bits.toNat >>> 52 % 2048

def fractionField (x : Binary64) : Nat := x.bits.toNat % 1 <<< 52

/-- Neither an infinity nor not-a-number. -/
def isFinite (x : Binary64) : Bool := x.exponentField < 2047

/-- The magnitude of a finite number, counted in units of 2^-1074. -/
def units (x : Binary64) : Nat :=
  if x.exponentField = 0 then x.fractionField
  else (1 <<< 52 + x.fractionField) <<< (x.exponentField - 1)

/-- Units in one. -/
def unitsPerOne : Nat := 1 <<< 1074

/-- The bits of positive infinity, above those of every finite magnitude. -/
def infinityBits : Nat := 2047 <<< 52

/-! ## Rounding -/

/-- The bits of the magnitude nearest to `num / den`.

A magnitude of `u` units keeps its 53 leading bits: it is a multiple of
`2 ^ k` units, where `k` is the length of `u` less 53, and the bits of
`m * 2 ^ k` are `k * 2 ^ 52 + m`, also when rounding made `m` a power
of two too large, and also for the subnormal numbers, where `k` is zero. -/
def nearestBits (num den : Nat) : Nat :=
  let k := Nat.log2 (num * unitsPerOne / den) - 52
  k <<< 52 + roundHalfEven (num * unitsPerOne) (den <<< k)

/-- The number nearest to `num / den`, with the given sign; infinite when none is near. -/
def ofRatio (negative : Bool) (num den : Nat) : Binary64 :=
  ⟨UInt64.ofNat ((if negative then 1 <<< 63 else 0) + min (nearestBits num den) infinityBits)⟩

/-! ## Operations -/

def ofNat (n : Nat) : Binary64 := ofRatio false n 1

/-- The nearest number to a whole number; zero is positive. -/
def ofInt (i : Int) : Binary64 := ofRatio (decide (i < 0)) i.natAbs 1

/-- The same magnitude with the given sign. -/
def withSign (negative : Bool) (x : Binary64) : Binary64 :=
  ⟨UInt64.ofNat ((if negative then 1 <<< 63 else 0) + x.bits.toNat % 1 <<< 63)⟩

/-- The product of two finite magnitudes. -/
def mulMagnitudes (x y : Binary64) : Binary64 :=
  ofRatio false (x.units * y.units) (unitsPerOne * unitsPerOne)

/-- The quotient of a finite magnitude by a positive one. -/
def divMagnitudes (x y : Binary64) : Binary64 := ofRatio false x.units y.units

/-- The sum of two finite magnitudes. -/
def addMagnitudes (x y : Binary64) : Binary64 := ofRatio false (x.units + y.units) unitsPerOne

/-- The number nearest to a power of ten. -/
def powerOfTen (k : Nat) : Binary64 := ofNat (Nat.pow 10 k)

/-- The largest power of ten that is a finite number. -/
def maxPowerOfTen : Nat := 308

/-- A finite magnitude times `10 ^ exponent`, in steps of at most 308 places, each rounded;
`none` when it grows beyond the largest number. A zero stays zero. -/
def scaleByTen (x : Binary64) (exponent : Int) : Option Binary64 :=
  if exponent.natAbs ≤ maxPowerOfTen then
    if 0 ≤ exponent then
      let y := x.mulMagnitudes (powerOfTen exponent.natAbs)
      if y.isFinite then some y else none
    else some (x.divMagnitudes (powerOfTen exponent.natAbs))
  else if x.units = 0 then some x
  else if 0 ≤ exponent then none
  else (x.divMagnitudes (powerOfTen maxPowerOfTen)).scaleByTen (exponent + maxPowerOfTen)
termination_by exponent.natAbs
decreasing_by simp only [maxPowerOfTen] at *; omega

/-! ## Examples -/

example : (ofNat 10).bits = 0x4024000000000000 := by decide +kernel
example : (ofNat (2 ^ 64 - 1)).bits = 0x43f0000000000000 := by decide +kernel
example : (ofInt (-12345678901234)).bits = 0xc2a674e79c5fe400 := by decide +kernel
example : (ofRatio true 1 10).bits = 0xbfb999999999999a := by decide +kernel
example : (ofRatio false 1 (2 ^ 1075)).bits = 0 := by decide +kernel

end Binary64

end ContentDelivery
