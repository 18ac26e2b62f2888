set_option autoImplicit false

/-! # Numbers in text

Reading and writing whole numbers as decimal digits. A numeral is one or more ASCII digits, with any
number of leading zeros; a sign is accepted only where the reader says so. The numbers have to fit a word,
whose bounds stand here too, and so does the white space that readers trim off. -/

namespace TabletFleet

/-! ## Word sizes -/

abbrev minInt32 : Int := -2147483648

abbrev maxInt32 : Int := 2147483647

abbrev minInt64 : Int := -9223372036854775808

abbrev maxInt64 : Int := 9223372036854775807

end TabletFleet

namespace TabletFleet.Text

/-! ## White space -/

/-- White space in the sense of Unicode, which has more of it than ASCII. -/
def isBlank (c : Char) : Bool :=
  let n := c.toNat
  (0x09 ≤ n && n ≤ 0x0d) || n == 0x20 || n == 0x85 || n == 0xa0 || n == 0x1680
    || (0x2000 ≤ n && n ≤ 0x200a) || n == 0x2028 || n == 0x2029 || n == 0x202f
    || n == 0x205f || n == 0x3000

theorem isBlank_eq_false_of_isDigit {c : Char} (h : c.isDigit = true) : isBlank c = false := by
  rw [Char.isDigit, Bool.and_eq_true, decide_eq_true_eq, decide_eq_true_eq] at h
  have hlo : 48 ≤ c.toNat := h.1
  have hhi : c.toNat ≤ 57 := h.2
  simp only [isBlank, Bool.or_eq_false_iff, Bool.and_eq_false_iff, decide_eq_false_iff_not,
    beq_eq_false_iff_ne]
  omega

/-- Drop the blanks at both ends. -/
def trim (cs : List Char) : List Char :=
  ((cs.dropWhile isBlank).reverse.dropWhile isBlank).reverse

end TabletFleet.Text

namespace TabletFleet.Numeral

/-! ## Numerals -/

/-- The number that a list of decimal digits denotes. -/
def value (ds : List Char) : Nat :=
  ds.foldl (fun n d => 10 * n + (d.toNat - '0'.toNat)) 0

/-- One or more digits and nothing else. -/
def natural? (cs : List Char) : Option Nat :=
  if cs.isEmpty || !cs.all Char.isDigit then none else some (value cs)

/-- Digits after an optional plus sign, denoting a number below `bound`. -/
def unsigned? (bound : Nat) (s : String) : Option Nat :=
  let digits := match s.toList with
    | '+' :: cs => cs
    | cs => cs
  (natural? digits).filter (· < bound)

/-- Digits after an optional sign, denoting a number from `lo` to `hi`. -/
def signed? (lo hi : Int) (s : String) : Option Int :=
  let number : Option Int := match s.toList with
    | '-' :: cs => (natural? cs).map fun n => -(n : Int)
    | '+' :: cs => (natural? cs).map Int.ofNat
    | cs => (natural? cs).map Int.ofNat
  number.filter fun n => lo ≤ n && n ≤ hi

/-- A number that fits 32 bits without sign. -/
def uint32? (s : String) : Option UInt32 := (unsigned? UInt32.size s).map UInt32.ofNat

/-- A number that fits 64 bits without sign. -/
def uint64? (s : String) : Option UInt64 := (unsigned? UInt64.size s).map UInt64.ofNat

/-- A number that fits 32 bits with sign. -/
def int32? (s : String) : Option Int32 := (signed? minInt32 maxInt32 s).map Int32.ofInt

/-- A number that fits 64 bits with sign. -/
def int64? (s : String) : Option Int64 := (signed? minInt64 maxInt64 s).map Int64.ofInt

/-- The decimal digits of `n`, filled up with zeros on the left to at least `width`. -/
def padded (width n : Nat) : String :=
  let ds := Nat.toDigits 10 n
  String.ofList (List.replicate (width - ds.length) '0' ++ ds)

theorem natural?_eq_some_iff {cs : List Char} {n : Nat} :
    natural? cs = some n ↔ cs ≠ [] ∧ (∀ c ∈ cs, c.isDigit) ∧ value cs = n := by
  simp [natural?, and_assoc]

end TabletFleet.Numeral
