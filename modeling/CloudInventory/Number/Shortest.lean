import CloudInventory.Number.Binary64

/-! The shortest decimal that reads back as a given binary64 number, nearest to it among those of
its length, and the way such a decimal is written. -/

namespace CloudInventory

/-- The decimal `digits * 10 ^ exponent`. -/
structure Decimal where
  digits : Nat
  exponent : Int

namespace Decimal

def digitCount (n : Nat) : Nat := (Nat.toDigits 10 n).length

/-- The power of ten at or below `num / den`, for positive numbers. -/
def magnitudeOf (num den : Nat) : Int :=
  if den ≤ num then Int.ofNat (digitCount (num / den)) - 1
  else -Int.ofNat (digitCount ((den + num - 1) / num - 1))

/-- The numbers whose nearest binary64 is `x`: the bounds are given over `den`, and belong to it
when the significand is even. -/
structure Interval where
  low : Nat
  value : Nat
  high : Nat
  den : Nat
  closed : Bool

def Interval.of (x : Binary64) : Interval :=
  let m := x.significand
  let e := x.exponent
  let below := if m = Binary64.exponentUnit ∧ e > -1074 then 1 else 2
  let num := if e < 0 then 4 else 4 <<< e.toNat
  let unit := num / 4
  { low := num * m - below * unit
    value := num * m
    high := num * m + 2 * unit
    den := if e < 0 then 4 <<< (-e).toNat else 4
    closed := m % 2 == 0 }

/-- Whether `c * 10 ^ k` lies in the interval. -/
def Interval.holds (i : Interval) (c : Nat) (k : Int) : Bool :=
  let n := if k < 0 then c * i.den else c * Nat.pow 10 k.toNat * i.den
  let s := if k < 0 then Nat.pow 10 (-k).toNat else 1
  if i.closed then i.low * s ≤ n && n ≤ i.high * s else i.low * s < n && n < i.high * s

/-- The decimal of the grid `10 ^ k` that reads back and is nearest, an even one on a tie. -/
def Interval.onGrid? (i : Interval) (k : Int) : Option Nat :=
  let n := if k < 0 then i.value * Nat.pow 10 (-k).toNat else i.value
  let d := if k < 0 then i.den else i.den * Nat.pow 10 k.toNat
  let c := n / d
  let r := n % d
  let nearest := if 2 * r > d ∨ (2 * r = d ∧ c % 2 = 1) then c + 1 else c
  let other := if nearest = c then c + 1 else c
  if i.holds nearest k then some nearest
  else if i.holds other k then some other
  else none

def stripZeros : Nat → Nat → Int → Decimal
  | 0, n, k => ⟨n, k⟩
  | fuel + 1, n, k => if n ≠ 0 ∧ n % 10 = 0 then stripZeros fuel (n / 10) (k + 1) else ⟨n, k⟩

/-- The first of the grids with `p`, `p + 1`, … digits on which a decimal reads back. -/
def Interval.shortest (i : Interval) (top : Int) : Nat → Nat → Decimal
  | 0, _ => ⟨0, 0⟩
  | fuel + 1, p =>
    let k := top - Int.ofNat p + 1
    match i.onGrid? k with
    | some c => stripZeros 20 c k
    | none => i.shortest top fuel (p + 1)

/-- For a finite number that is not zero; seventeen digits are always enough. -/
def ofBinary64 (x : Binary64) : Decimal :=
  let i := Interval.of x
  i.shortest (magnitudeOf i.value i.den) 17 1

end Decimal

/-- Numbers are positional where the point stands at most five places before the first digit or
sixteen after it, always with a fraction; otherwise they have a signed exponent of two digits or
more. -/
def Binary64.text (x : Binary64) : String :=
  let sign := if x.isNegative then "-" else ""
  if x.isZero then sign ++ "0.0"
  else
    let d := Decimal.ofBinary64 x
    let ds := Nat.toDigits 10 d.digits
    let point : Int := Int.ofNat ds.length + d.exponent
    let body :=
      if 0 < point ∧ point ≤ 16 then
        let p := point.toNat
        let whole := ds.take p ++ List.replicate (p - ds.length) '0'
        let fraction := ds.drop p
        whole ++ '.' :: (if fraction.isEmpty then ['0'] else fraction)
      else if -5 < point ∧ point ≤ 0 then
        '0' :: '.' :: (List.replicate (-point).toNat '0' ++ ds)
      else
        let fraction := ds.drop 1
        let e := point - 1
        let es := Nat.toDigits 10 e.natAbs
        ds.take 1 ++ (if fraction.isEmpty then [] else '.' :: fraction) ++
          'e' :: (if e < 0 then '-' else '+') :: (if es.length < 2 then '0' :: es else es)
    sign ++ String.ofList body

end CloudInventory
