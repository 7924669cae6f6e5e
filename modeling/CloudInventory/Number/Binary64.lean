/-! Floating point numbers in the binary64 format, given by their bits. Every operation computes
the exact quotient in natural numbers and rounds it once, to nearest, ties to even. -/

namespace CloudInventory

structure Binary64 where
  bits : UInt64
deriving DecidableEq, Inhabited

namespace Binary64

def signBit : Nat := 1 <<< 63
def exponentUnit : Nat := 1 <<< 52

def ofParts (negative : Bool) (magnitude : Nat) : Binary64 :=
  ⟨UInt64.ofNat ((if negative then signBit else 0) + magnitude)⟩

def zero (negative : Bool) : Binary64 := ofParts negative 0

def infinity (negative : Bool) : Binary64 := ofParts negative (2047 * exponentUnit)

def isNegative (x : Binary64) : Bool := decide (signBit ≤ x.bits.toNat)

def magnitude (x : Binary64) : Nat := x.bits.toNat % signBit

def isZero (x : Binary64) : Bool := x.magnitude == 0

def isInfinite (x : Binary64) : Bool := x.magnitude == 2047 * exponentUnit

def negate (x : Binary64) : Binary64 := ofParts (!x.isNegative) x.magnitude

/-- The significand `m` of a finite number of magnitude `m * 2 ^ exponent`. -/
def significand (x : Binary64) : Nat :=
  if x.magnitude < exponentUnit then x.magnitude
  else x.magnitude % exponentUnit + exponentUnit

def exponent (x : Binary64) : Int :=
  Int.ofNat (max 1 (x.magnitude / exponentUnit)) - 1075

/-- Zeros of both signs are the same number. -/
def same (x y : Binary64) : Bool := x == y || (x.isZero && y.isZero)

/-- The numerator and denominator of a finite number's magnitude. -/
def ratio (x : Binary64) : Nat × Nat :=
  if x.exponent < 0 then (x.significand, 1 <<< (-x.exponent).toNat)
  else (x.significand <<< x.exponent.toNat, 1)

/-- The quotient `num / (den * 2 ^ e)` rounded to an integer, ties to even. -/
def roundAt (num den : Nat) (e : Int) : Nat :=
  let n := if e < 0 then num <<< (-e).toNat else num
  let d := if e < 0 then den else den <<< e.toNat
  let q := n / d
  let r := n % d
  if 2 * r > d ∨ (2 * r = d ∧ q % 2 = 1) then q + 1 else q

/-- The exponent at which the quotient has 53 bits before rounding, or the least there is. -/
def exponentFor (num den : Nat) : Int :=
  let e : Int := Int.ofNat (Nat.log2 num) - Int.ofNat (Nat.log2 den) - 52
  let e := if e < 0
    then (if num <<< (-e).toNat < den * exponentUnit then e - 1 else e)
    else (if num < den <<< e.toNat * exponentUnit then e - 1 else e)
  max e (-1074)

/-- The number nearest to `num / den`, for a positive `den`. -/
def ofRatio (negative : Bool) (num den : Nat) : Binary64 :=
  if num = 0 then zero negative
  else
    let e := exponentFor num den
    let m := roundAt num den e
    let (m, e) := if m = 2 * exponentUnit then (exponentUnit, e + 1) else (m, e)
    if e > 971 then infinity negative
    else if m < exponentUnit then ofParts negative m
    else ofParts negative ((e + 1075).toNat * exponentUnit + (m - exponentUnit))

def ofNat (n : Nat) : Binary64 := ofRatio false n 1

def powerOfTen (k : Nat) : Binary64 := ofNat (Nat.pow 10 k)

def mul (x y : Binary64) : Binary64 :=
  let (a, b) := x.ratio
  let (c, d) := y.ratio
  ofRatio (x.isNegative != y.isNegative) (a * c) (b * d)

def div (x y : Binary64) : Binary64 :=
  let (a, b) := x.ratio
  let (c, d) := y.ratio
  ofRatio (x.isNegative != y.isNegative) (a * d) (b * c)

end Binary64

end CloudInventory
