import TabletFleet.Json.Basic

set_option autoImplicit false

/-! # Decimal numbers in JSON text

A decimal is read as a double by scaling a 64-bit significand by a power of ten: the leading digits
that fit 64 bits make the significand, and the digits beyond only count for its magnitude. A double is
written with the fewest digits that no other double is as near to. -/

namespace TabletFleet.Json.Double

/-- Append digits to a significand while it fits 64 bits: the significand, and how many digits are
left over. -/
def absorb (significand : Nat) : List Char → Nat × Nat
  | [] => (significand, 0)
  | d :: ds =>
    let next := 10 * significand + (d.toNat - '0'.toNat)
    if next < UInt64.size then absorb next ds else (significand, ds.length + 1)

/-- A power of ten; `n` is at most 308. -/
def powerOfTen (n : Nat) : Float := Float.ofScientific 1 false n

/-- `f / 10 ^ n`, in steps that keep the divisor finite. -/
def scaleDown (f : Float) (n : Nat) : Float :=
  if n ≤ 308 then f / powerOfTen n
  else if f == 0 then f
  else scaleDown (f / powerOfTen 308) (n - 308)
termination_by n

/-- `f * 10 ^ e`, unless that is too large for a double. -/
def scale? (f : Float) (e : Int) : Option Float :=
  match e with
  | .ofNat n =>
    if n ≤ 308 then
      let g := f * powerOfTen n
      if g.isInf then none else some g
    else if f == 0 then some f else none
  | .negSucc n => some (scaleDown f (n + 1))

/-- The number for the size of a double and its sign; a zero has a sign, too. -/
def number (negative : Bool) (size : Float) : Json.Number :=
  .float (if negative then -size else size).toBits

/-- The number `± significand * 10 ^ e`. -/
def ofParts? (negative : Bool) (significand : Nat) (e : Int) : Option Json.Number :=
  (scale? significand.toUInt64.toFloat e).map (number negative)

/-- The bit of a significand that is not written, above the 52 that are. -/
def hidden : Nat := 4503599627370496

/-- A double's bits as sign, significand and binary exponent. -/
def parts (bits : UInt64) : Bool × Nat × Int :=
  let n := bits.toNat
  let e : Nat := n / hidden % 2048
  let m : Nat := n % hidden
  (n / (hidden * 2048) == 1, if e == 0 then (m, -1074) else (m + hidden, (e : Int) - 1075))

/-! ## Writing -/

/-- `n * 2 ^ e` in units in which `k` powers of ten are whole, too. -/
def binarySide (n : Nat) (e k : Int) : Nat := n * Nat.pow 2 e.toNat * Nat.pow 10 (-k).toNat

/-- `d * 10 ^ k` in the same units. -/
def decimalSide (d : Nat) (e k : Int) : Nat := d * Nat.pow 10 k.toNat * Nat.pow 2 (-e).toNat

/-- Whether `m * 2 ^ q` is the double nearest to `d * 10 ^ k`. The doubles below a power of two lie
twice as dense; from half way between two doubles the even one is taken. -/
def isNearest (m : Nat) (q : Int) (d : Nat) (k : Int) : Bool :=
  let e := q - 2
  let below := if m == hidden && q > -1074 then 1 else 2
  let low := binarySide (4 * m - below) e k
  let high := binarySide (4 * m + 2) e k
  let x := decimalSide d e k
  if m % 2 == 0 then low ≤ x && x ≤ high else low < x && x < high

/-- The multiple of `10 ^ k` that reads as `m * 2 ^ q`, if there is one; the nearer one of two. -/
def onGrid? (m : Nat) (q k : Int) : Option Nat :=
  let e := q - 2
  let x := binarySide (4 * m) e k
  let unit := decimalSide 1 e k
  let d := x / unit
  let isLowerNearer := 2 * (x % unit) < unit || (2 * (x % unit) == unit && d % 2 == 0)
  match d != 0 && isNearest m q d k, isNearest m q (d + 1) k with
  | true, true => some (if isLowerNearer then d else d + 1)
  | true, false => some d
  | false, true => some (d + 1)
  | false, false => none

/-- The digits, and the power of ten that the last one counts, of the shortest decimal that reads as
`m * 2 ^ q`: the one on the coarsest grid. -/
def shortest (m : Nat) (q : Int) : List Char × Int :=
  -- `m * 2 ^ q` is less than `10 ^ top`, and seventeen digits are always enough
  let top : Int := ((Nat.log2 m : Int) + 1 + q) * 30103 / 100000 + 1
  let found := (List.range 24).findSome? fun (i : Nat) =>
    let k : Int := top - i
    (onGrid? m q k).map fun d => (Nat.toDigits 10 d, k)
  found.getD (['0'], 0)

/-- Digits of which the last one counts `10 ^ k`: with a point where at most sixteen digits stand
before it and at most four zeros after it, and else with an exponent, whose sign is always written. -/
def layout (ds : List Char) (k : Int) : List Char :=
  let point : Int := ds.length + k
  if 0 ≤ k && point ≤ 16 then ds ++ List.replicate k.toNat '0' ++ ['.', '0']
  else if 0 < point && point ≤ 16 then ds.take point.toNat ++ '.' :: ds.drop point.toNat
  else if -5 < point && point ≤ 0 then ['0', '.'] ++ List.replicate (-point).toNat '0' ++ ds
  else
    let places := ds.drop 1
    let sign := if point ≤ 0 then '-' else '+'
    ds.take 1 ++ (if places.isEmpty then [] else '.' :: places)
      ++ 'e' :: sign :: Nat.toDigits 10 (point - 1).natAbs

/-- The text of a double. -/
def text (bits : UInt64) : String :=
  let (negative, m, q) := parts bits
  let digits := if m == 0 then layout ['0'] 0 else
    let (ds, k) := shortest m q
    layout ds k
  String.ofList (if negative then '-' :: digits else digits)

end TabletFleet.Json.Double
