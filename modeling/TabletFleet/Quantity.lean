import TabletFleet.Document
import TabletFleet.Text.Numeral

set_option autoImplicit false

/-! # Resource quantities

A quantity is kept as its text. To compare two of them they are read as whole units: a decimal numeral
times a power of 1024 or of ten, rounded away from zero. All arithmetic is that of signed integers, of
32 bits for exponents and of 128 bits for the rest, and a quantity for which some step leaves their
range has no amount. -/

namespace TabletFleet

/-- The text of a resource quantity, such as `10Gi` or `1500m`. -/
structure Quantity where
  text : String
deriving DecidableEq, Inhabited

namespace Quantity

/-- The first number that is too large for 128 bits with sign, `2 ^ 127`. -/
def limit : Nat := 170141183460469231731687303715884105728

/-- A result that fits. -/
def fit? (n : Nat) : Option Nat := if n < limit then some n else none

/-- `10 ^ n`, if it fits; `10 ^ 38` is the last power of ten that does. -/
def powerOfTen? (n : Nat) : Option Nat := if n ≤ 38 then some (Nat.pow 10 n) else none

/-- How a suffix scales a number: by a power of 1024 and a power of ten. -/
structure Scale where
  binary : Nat
  decimal : Int
deriving DecidableEq

/-- The scale that a suffix denotes. -/
def Scale.ofSuffix? (suffix : List Char) : Option Scale :=
  match suffix with
  | [] => some ⟨0, 0⟩
  | ['K', 'i'] => some ⟨1, 0⟩
  | ['M', 'i'] => some ⟨2, 0⟩
  | ['G', 'i'] => some ⟨3, 0⟩
  | ['T', 'i'] => some ⟨4, 0⟩
  | ['P', 'i'] => some ⟨5, 0⟩
  | ['E', 'i'] => some ⟨6, 0⟩
  | ['m'] => some ⟨0, -3⟩
  | ['k'] => some ⟨0, 3⟩
  | ['M'] => some ⟨0, 6⟩
  | ['G'] => some ⟨0, 9⟩
  | ['T'] => some ⟨0, 12⟩
  | ['P'] => some ⟨0, 15⟩
  | ['E'] => some ⟨0, 18⟩
  | 'e' :: exponent | 'E' :: exponent =>
    (Numeral.signed? minInt32 maxInt32 (String.ofList exponent)).map fun e => ⟨0, e⟩
  | _ => none

/-- The digits before and after the first point of a numeral. -/
def splitPoint (number : List Char) : List Char × List Char :=
  (number.takeWhile (· != '.'), (number.dropWhile (· != '.')).drop 1)

/-- The power of ten that is left of a scale after as many places as there are digits in the fraction.
Both numbers fit 32 bits. -/
def netExponent? (decimal : Int) (places : Nat) : Option Int :=
  if (places : Int) ≤ maxInt32 ∧ minInt32 ≤ decimal - places then some (decimal - places) else none

/-- `n * 10 ^ e` in whole units, rounded up. -/
def shift? (n : Nat) (e : Int) : Option Nat :=
  match e with
  | .ofNat e => do fit? (n * (← powerOfTen? e))
  | .negSucc e => do
    let den ← powerOfTen? (e + 1)
    return n / den + (if n % den = 0 then 0 else 1)

/-- The amount of an unsigned quantity. -/
def magnitude? (cs : List Char) : Option Nat := do
  let number := cs.takeWhile fun c => c.isDigit || c == '.'
  let (whole, fraction) := splitPoint number
  let mantissa ← Numeral.natural? (whole ++ fraction)
  let mantissa ← fit? mantissa
  let scale ← Scale.ofSuffix? (cs.drop number.length)
  let scaled ← fit? (mantissa * Nat.pow 1024 scale.binary)
  let exponent ← netExponent? scale.decimal fraction.length
  shift? scaled exponent

/-- The amount that a text without blanks around it denotes. -/
def ofText? (s : String) : Option Int :=
  match s.toList with
  | [] => none
  | '-' :: cs => (magnitude? cs).map fun n => -(n : Int)
  | '+' :: cs => (magnitude? cs).map Int.ofNat
  | cs => (magnitude? cs).map Int.ofNat

/-- The amount of a quantity. -/
def amount? (q : Quantity) : Option Int := ofText? (String.ofList (Text.trim q.text.toList))

/-- Whether two quantities denote the same amount, whatever their spelling. -/
def same (a b : Quantity) : Bool :=
  match a.amount?, b.amount? with
  | some x, some y => x == y
  | _, _ => false

def ofDocument? {δ : Type} [Document δ] (d : δ) : Option Quantity := (Document.text? d).map .mk

def toJson (q : Quantity) : Json := .str q.text

end Quantity

/-- Amounts by resource name. -/
abbrev ResourceList := OrdMap String Quantity

end TabletFleet
