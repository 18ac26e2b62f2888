import Mathlib.Data.Rat.Floor
import Mathlib.Tactic.Ring
import TabletFleet.Proofs.Text.Numeral
import TabletFleet.Quantity

set_option autoImplicit false

/-! # Spellings of quantities

A spelled quantity (`Spelling`) is a sign, digits with perhaps a point among them and a suffix, and
stands for a rational number. An unsigned text is read just when it is spelled so and all numbers that
are come across fit (`Spelling.InRange`), and what is read is that rational number, rounded up
(`Spelling.magnitude?_spelled`, `exists_spelling`). -/

namespace TabletFleet.Quantity

/-! ## Spellings -/

inductive Sign where
  | implicit
  | plus
  | minus
deriving DecidableEq

namespace Sign

def text : Sign → List Char
  | implicit => []
  | plus => ['+']
  | minus => ['-']

def factor : Sign → Int
  | minus => -1
  | _ => 1

end Sign

/-- The suffixes that have a name. -/
def namedSuffixes : List (List Char × Scale) := [
  ("".toList, ⟨0, 0⟩), ("Ki".toList, ⟨1, 0⟩), ("Mi".toList, ⟨2, 0⟩), ("Gi".toList, ⟨3, 0⟩),
  ("Ti".toList, ⟨4, 0⟩), ("Pi".toList, ⟨5, 0⟩), ("Ei".toList, ⟨6, 0⟩), ("m".toList, ⟨0, -3⟩),
  ("k".toList, ⟨0, 3⟩), ("M".toList, ⟨0, 6⟩), ("G".toList, ⟨0, 9⟩), ("T".toList, ⟨0, 12⟩),
  ("P".toList, ⟨0, 15⟩), ("E".toList, ⟨0, 18⟩)]

/-- A suffix scales as its name says, or as its exponent, which fits 32 bits. -/
inductive Scales : List Char → Scale → Prop where
  | named {name : List Char} {scale : Scale} (h : (name, scale) ∈ namedSuffixes) :
      Scales name scale
  | exponent {letter : Char} (hletter : letter = 'e' ∨ letter = 'E') {digits : List Char} {e : Int}
      (h : Numeral.signed? minInt32 maxInt32 (String.ofList digits) = some e) :
      Scales (letter :: digits) ⟨0, e⟩

/-- The parts of a written quantity. -/
structure Spelling where
  sign : Sign
  whole : List Char
  /-- What follows the point, if there is a point. -/
  fraction : Option (List Char)
  suffix : List Char

namespace Spelling

variable (q : Spelling) (scale : Scale)

/-- The number: digits and perhaps a point. -/
def number : List Char := q.whole ++ q.fraction.elim [] ('.' :: ·)

def text : List Char := q.sign.text ++ (q.number ++ q.suffix)

/-- The digits on both sides of the point. -/
def digits : List Char := q.whole ++ q.fraction.getD []

/-- All digits read as one number. -/
def mantissa : Nat := Numeral.value q.digits

/-- The number of digits behind the point. -/
def places : Nat := (q.fraction.getD []).length

/-- The power of ten that the mantissa is multiplied by. -/
def exponent : Int := scale.decimal - q.places

/-- The amount without its sign. -/
def value : ℚ := q.mantissa * 1024 ^ scale.binary * 10 ^ q.exponent scale

/-- At least one digit, and a suffix that means something. -/
structure WellFormed : Prop where
  isDigit : ∀ c ∈ q.digits, c.isDigit = true
  digits_ne_nil : q.digits ≠ []
  scales : Scales q.suffix scale

/-- All numbers that are come across fit, those of exponents 32 bits and the others 128 bits, with
sign. -/
structure InRange : Prop where
  mantissa : q.mantissa < 2 ^ 127
  binary : q.mantissa * 1024 ^ scale.binary < 2 ^ 127
  places : (q.places : Int) ≤ maxInt32
  exponent : minInt32 ≤ q.exponent scale ∧ q.exponent scale ≤ maxInt32
  power : 10 ^ (q.exponent scale).natAbs < 2 ^ 127
  product : 0 ≤ q.exponent scale →
    q.mantissa * 1024 ^ scale.binary * 10 ^ (q.exponent scale).natAbs < 2 ^ 127

end Spelling

/-! ## Suffixes -/

theorem ofSuffix?_of_scales {suffix : List Char} {scale : Scale} (h : Scales suffix scale) :
    Scale.ofSuffix? suffix = some scale := by
  cases h with
  | named h =>
      have htable : ∀ e ∈ namedSuffixes, Scale.ofSuffix? e.1 = some e.2 := by decide
      exact htable _ h
  | @exponent letter hletter digits e h =>
      rcases hletter with rfl | rfl
      · simp [Scale.ofSuffix?, h]
      · -- `E` and `Ei` are names, and what follows the letter there is no exponent
        have hnone : Numeral.signed? minInt32 maxInt32 "" = none := by decide
        have hname : Numeral.signed? minInt32 maxInt32 "i" = none := by decide
        unfold Scale.ofSuffix?
        split <;> simp_all

theorem scales_of_ofSuffix? {suffix : List Char} {scale : Scale}
    (h : Scale.ofSuffix? suffix = some scale) : Scales suffix scale := by
  unfold Scale.ofSuffix? at h
  split at h
  case h_15 digits =>
    obtain ⟨e, he, rfl⟩ := Option.map_eq_some_iff.1 h
    exact .exponent (.inl rfl) he
  case h_16 digits =>
    obtain ⟨e, he, rfl⟩ := Option.map_eq_some_iff.1 h
    exact .exponent (.inr rfl) he
  case h_17 => cases h
  all_goals
    obtain rfl := Option.some.inj h
    exact .named (by decide)

theorem Scales.decimal_le {suffix : List Char} {scale : Scale} (h : Scales suffix scale) :
    scale.decimal ≤ maxInt32 := by
  cases h with
  | named h =>
      have htable : ∀ e ∈ namedSuffixes, e.2.decimal ≤ maxInt32 := by decide
      exact htable _ h
  | exponent hletter h => exact (Numeral.le_of_signed? h).2

/-- The characters of a number. -/
def isNumeric (c : Char) : Bool := c.isDigit || c == '.'

/-- A suffix does not go on with the number. -/
theorem Scales.takeWhile_isNumeric {suffix : List Char} {scale : Scale} (h : Scales suffix scale) :
    suffix.takeWhile isNumeric = [] := by
  cases h with
  | named h =>
      have htable : ∀ e ∈ namedSuffixes, e.1.takeWhile isNumeric = [] := by decide
      exact htable _ h
  | exponent hletter h =>
      refine List.takeWhile_cons_of_neg ?_
      rcases hletter with rfl | rfl <;> decide

/-! ## Numbers -/

namespace Spelling

variable {q : Spelling} {scale : Scale}

theorem isNumeric_of_mem_number (h : ∀ c ∈ q.digits, c.isDigit = true) :
    ∀ c ∈ q.number, isNumeric c = true := by
  intro c hc
  rw [isNumeric, Bool.or_eq_true, beq_iff_eq]
  rw [number, List.mem_append] at hc
  rcases hc with hc | hc
  · exact .inl (h c (List.mem_append_left _ hc))
  · cases hfraction : q.fraction with
    | none =>
        rw [hfraction] at hc
        cases hc
    | some fraction =>
        rw [hfraction] at hc
        rcases List.mem_cons.1 hc with rfl | hc
        · exact .inr rfl
        · exact .inl (h c (List.mem_append_right _ (by rwa [hfraction])))

theorem takeWhile_text (h : q.WellFormed scale) :
    (q.number ++ q.suffix).takeWhile isNumeric = q.number := by
  rw [List.takeWhile_append_of_pos (isNumeric_of_mem_number h.isDigit),
    h.scales.takeWhile_isNumeric, List.append_nil]

theorem splitPoint_number (h : ∀ c ∈ q.digits, c.isDigit = true) :
    splitPoint q.number = (q.whole, q.fraction.getD []) := by
  have hwhole : ∀ c ∈ q.whole, (c != '.') = true := by
    intro c hc
    have hdigit := h c (List.mem_append_left _ hc)
    rw [bne_iff_ne]
    rintro rfl
    exact absurd hdigit (by decide)
  rw [splitPoint, number, List.takeWhile_append_of_pos hwhole, List.dropWhile_append_of_pos hwhole]
  cases q.fraction <;> simp

end Spelling

/-! ## Bounds -/

theorem limit_eq : limit = 2 ^ 127 := by decide

theorem fit?_eq_some_iff {n m : Nat} : fit? n = some m ↔ n < 2 ^ 127 ∧ m = n := by
  rw [fit?, limit_eq]
  by_cases h : n < 2 ^ 127
  · rw [if_pos h, Option.some.injEq]
    exact ⟨fun hm => ⟨h, hm.symm⟩, fun hm => hm.2.symm⟩
  · rw [if_neg h]
    exact ⟨nofun, fun hm => absurd hm.1 h⟩

theorem powerOfTen?_eq_some_iff {k d : Nat} :
    powerOfTen? k = some d ↔ 10 ^ k < 2 ^ 127 ∧ d = 10 ^ k := by
  have hlast : 10 ^ k < 2 ^ 127 ↔ k ≤ 38 := by
    constructor
    · intro hlt
      refine Nat.le_of_not_lt fun hk => ?_
      have hmono : 10 ^ 39 ≤ 10 ^ k := Nat.pow_le_pow_right (by decide) hk
      exact absurd (Nat.lt_of_le_of_lt hmono hlt) (by decide)
    · intro hk
      have hmono : 10 ^ k ≤ 10 ^ 38 := Nat.pow_le_pow_right (by decide) hk
      exact Nat.lt_of_le_of_lt hmono (by decide)
  rw [powerOfTen?, hlast]
  split <;> simp [*, eq_comm]

theorem netExponent?_eq_some_iff {decimal e : Int} {places : Nat} (h : decimal ≤ maxInt32) :
    netExponent? decimal places = some e ↔
      e = decimal - places ∧ (places : Int) ≤ maxInt32 ∧ minInt32 ≤ e ∧ e ≤ maxInt32 := by
  unfold netExponent?
  split
  · rw [Option.some.injEq]
    omega
  · simp only [reduceCtorEq, false_iff]
    omega

/-! ## Rounding -/

/-- Division that rounds up. -/
theorem ceil_div {n d : Nat} (hd : 0 < d) :
    ⌈(n : ℚ) / d⌉ = ((n / d + if n % d = 0 then 0 else 1 : Nat) : Int) := by
  have hsplit : (n : ℚ) = d * (n / d : Nat) + (n % d : Nat) := by
    exact_mod_cast (Nat.div_add_mod n d).symm
  have hpos : (0 : ℚ) < d := by exact_mod_cast hd
  have hmod : ((n % d : Nat) : ℚ) < d := by exact_mod_cast Nat.mod_lt n hd
  generalize n / d = quotient at *
  generalize n % d = rest at *
  rw [Int.ceil_eq_iff, lt_div_iff₀ hpos, div_le_iff₀ hpos, hsplit]
  split
  · next hrest =>
      rw [hrest, Int.cast_natCast]
      push_cast
      constructor <;> nlinarith
  · next hrest =>
      have hrest : (1 : ℚ) ≤ (rest : ℚ) := by exact_mod_cast Nat.one_le_iff_ne_zero.2 hrest
      rw [Int.cast_natCast]
      push_cast
      constructor <;> nlinarith

theorem shift?_eq_some_iff {n m : Nat} {e : Int} :
    shift? n e = some m ↔
      10 ^ e.natAbs < 2 ^ 127 ∧ (0 ≤ e → n * 10 ^ e.natAbs < 2 ^ 127) ∧
        (m : Int) = ⌈(n : ℚ) * 10 ^ e⌉ := by
  cases e with
  | ofNat k =>
      have hceil : ⌈(n : ℚ) * 10 ^ (Int.ofNat k)⌉ = ((n * 10 ^ k : Nat) : Int) := by
        rw [Int.ofNat_eq_natCast, zpow_natCast]
        exact_mod_cast Int.ceil_natCast (n * 10 ^ k)
      rw [hceil, Int.natAbs_ofNat']
      constructor
      · intro h
        obtain ⟨d, hd, h⟩ := Option.bind_eq_some_iff.1 h
        obtain ⟨hpower, rfl⟩ := powerOfTen?_eq_some_iff.1 hd
        obtain ⟨hproduct, rfl⟩ := fit?_eq_some_iff.1 h
        exact ⟨hpower, fun _ => hproduct, rfl⟩
      · rintro ⟨hpower, hproduct, hm⟩
        refine Option.bind_eq_some_iff.2 ⟨_, powerOfTen?_eq_some_iff.2 ⟨hpower, rfl⟩, ?_⟩
        exact fit?_eq_some_iff.2 ⟨hproduct (Int.natCast_nonneg k), Int.ofNat.inj hm⟩
  | negSucc k =>
      have hceil : ⌈(n : ℚ) * 10 ^ (Int.negSucc k)⌉ =
          ((n / 10 ^ (k + 1) + if n % 10 ^ (k + 1) = 0 then 0 else 1 : Nat) : Int) := by
        rw [← ceil_div (Nat.pow_pos (by decide)), zpow_negSucc, div_eq_mul_inv]
        push_cast
        rfl
      rw [hceil, Int.natAbs_negSucc]
      constructor
      · intro h
        obtain ⟨d, hd, h⟩ := Option.bind_eq_some_iff.1 h
        obtain ⟨hpower, rfl⟩ := powerOfTen?_eq_some_iff.1 hd
        obtain rfl := Option.some.inj h
        exact ⟨hpower, fun hnonneg => ((Int.negSucc_not_nonneg k).1 hnonneg).elim, rfl⟩
      · rintro ⟨hpower, -, hm⟩
        refine Option.bind_eq_some_iff.2 ⟨_, powerOfTen?_eq_some_iff.2 ⟨hpower, rfl⟩, ?_⟩
        exact congrArg some (Int.ofNat.inj hm).symm

/-! ## Reading -/

namespace Spelling

variable {q : Spelling} {scale : Scale}

theorem magnitude?_spelled (h : q.WellFormed scale) {n : Nat} :
    magnitude? (q.number ++ q.suffix) = some n ↔
      q.InRange scale ∧ (n : Int) = ⌈q.value scale⌉ := by
  have hnumber : (q.number ++ q.suffix).takeWhile (fun c => c.isDigit || c == '.') = q.number :=
    takeWhile_text h
  have hmantissa : Numeral.natural? (q.whole ++ q.fraction.getD []) = some q.mantissa :=
    Numeral.natural?_eq_some_iff.2 ⟨h.digits_ne_nil, h.isDigit, rfl⟩
  have hread : magnitude? (q.number ++ q.suffix) = (do
      let mantissa ← fit? q.mantissa
      let scaled ← fit? (mantissa * 1024 ^ scale.binary)
      let exponent ← netExponent? scale.decimal q.places
      shift? scaled exponent) := by
    simp only [magnitude?, hnumber, splitPoint_number h.isDigit, hmantissa, List.drop_left,
      ofSuffix?_of_scales h.scales, Option.bind_eq_bind, Option.bind_some, places, Nat.pow_eq]
  have hvalue : ((q.mantissa * 1024 ^ scale.binary : Nat) : ℚ) * 10 ^ q.exponent scale =
      q.value scale := by
    rw [value]
    push_cast
    rfl
  rw [hread]
  constructor
  · intro hn
    obtain ⟨_, hm, hn⟩ := Option.bind_eq_some_iff.1 hn
    obtain ⟨hmantissa, rfl⟩ := fit?_eq_some_iff.1 hm
    obtain ⟨_, hs, hn⟩ := Option.bind_eq_some_iff.1 hn
    obtain ⟨hbinary, rfl⟩ := fit?_eq_some_iff.1 hs
    obtain ⟨_, he, hn⟩ := Option.bind_eq_some_iff.1 hn
    obtain ⟨rfl, hplaces, hexponent⟩ := (netExponent?_eq_some_iff h.scales.decimal_le).1 he
    obtain ⟨hpower, hproduct, hn⟩ := shift?_eq_some_iff.1 hn
    exact ⟨⟨hmantissa, hbinary, hplaces, hexponent, hpower, hproduct⟩, hvalue ▸ hn⟩
  · rintro ⟨hrange, hn⟩
    refine Option.bind_eq_some_iff.2 ⟨_, fit?_eq_some_iff.2 ⟨hrange.mantissa, rfl⟩, ?_⟩
    refine Option.bind_eq_some_iff.2 ⟨_, fit?_eq_some_iff.2 ⟨hrange.binary, rfl⟩, ?_⟩
    refine Option.bind_eq_some_iff.2 ⟨q.exponent scale,
      (netExponent?_eq_some_iff h.scales.decimal_le).2 ⟨rfl, hrange.places, hrange.exponent⟩, ?_⟩
    exact shift?_eq_some_iff.2 ⟨hrange.power, hrange.product, hvalue ▸ hn⟩

end Spelling

theorem exists_fraction (number : List Char) :
    ∃ fraction : Option (List Char),
      number = (splitPoint number).1 ++ fraction.elim [] ('.' :: ·) ∧
        (splitPoint number).2 = fraction.getD [] := by
  have hsplit : number = (splitPoint number).1 ++ number.dropWhile (· != '.') :=
    List.takeWhile_append_dropWhile.symm
  cases hrest : number.dropWhile (· != '.') with
  | nil =>
      rw [hrest] at hsplit
      exact ⟨none, hsplit, by rw [splitPoint, hrest]; rfl⟩
  | cons c fraction =>
      have hpoint : c = '.' := by
        have hhead := List.head?_dropWhile_not (· != '.') number
        rw [hrest] at hhead
        simpa using hhead
      rw [hrest, hpoint] at hsplit
      exact ⟨some fraction, hsplit, by rw [splitPoint, hrest]; rfl⟩

theorem exists_spelling {cs : List Char} {n : Nat} (h : magnitude? cs = some n) (sign : Sign) :
    ∃ (q : Spelling) (scale : Scale),
      q.sign = sign ∧ q.number ++ q.suffix = cs ∧ q.WellFormed scale := by
  obtain ⟨fraction, hnumber, hplaces⟩ := exists_fraction (cs.takeWhile isNumeric)
  obtain ⟨mantissa, hmantissa, h⟩ := Option.bind_eq_some_iff.1 h
  obtain ⟨_, -, h⟩ := Option.bind_eq_some_iff.1 h
  obtain ⟨scale, hscale, -⟩ := Option.bind_eq_some_iff.1 h
  obtain ⟨hne, hdigits, -⟩ := Numeral.natural?_eq_some_iff.1 hmantissa
  let q : Spelling := {
    sign, fraction
    whole := (splitPoint (cs.takeWhile isNumeric)).1
    suffix := cs.drop (cs.takeWhile isNumeric).length }
  have hq : q.digits = (splitPoint (cs.takeWhile isNumeric)).1 ++
      (splitPoint (cs.takeWhile isNumeric)).2 := congrArg _ hplaces.symm
  refine ⟨q, scale, rfl, ?_, ⟨?_, ?_, scales_of_ofSuffix? hscale⟩⟩
  · have htext : q.number = cs.takeWhile isNumeric := hnumber.symm
    rw [htext]
    exact List.prefix_iff_eq_append.1 (List.takeWhile_prefix _)
  · rw [hq]
    exact hdigits
  · rw [hq]
    exact hne

/-- A sign is no part of a magnitude. -/
theorem isNumeric_of_magnitude? {c : Char} {cs : List Char} {n : Nat}
    (h : magnitude? (c :: cs) = some n) : isNumeric c = true := by
  by_contra hc
  obtain ⟨mantissa, hmantissa, -⟩ := Option.bind_eq_some_iff.1 h
  have hnumber : (c :: cs).takeWhile (fun c => c.isDigit || c == '.') = [] :=
    List.takeWhile_cons_of_neg hc
  rw [hnumber] at hmantissa
  cases hmantissa

theorem ofText?_eq_some_iff {s : String} {v : Int} :
    ofText? s = some v ↔ ∃ (sign : Sign) (cs : List Char) (n : Nat),
      s.toList = sign.text ++ cs ∧ magnitude? cs = some n ∧ v = sign.factor * n := by
  constructor
  · intro h
    unfold ofText? at h
    split at h
    · cases h
    · next cs hs =>
        obtain ⟨_, hm, rfl⟩ := Option.map_eq_some_iff.1 h
        obtain ⟨n, hn, hcast⟩ := Option.bind_eq_some_iff.1 hm
        obtain rfl := Option.some.inj hcast
        exact ⟨.minus, cs, n, hs, hn, (Int.neg_one_mul n).symm⟩
    · next cs hs =>
        obtain ⟨n, hn, rfl⟩ := Option.map_eq_some_iff.1 h
        exact ⟨.plus, cs, n, hs, hn, (Int.one_mul n).symm⟩
    · obtain ⟨n, hn, rfl⟩ := Option.map_eq_some_iff.1 h
      exact ⟨.implicit, _, n, rfl, hn, (Int.one_mul n).symm⟩
  · rintro ⟨sign, cs, n, hs, hn, rfl⟩
    cases sign with
    | minus => simp [ofText?, hs, Sign.text, Sign.factor, hn]
    | plus => simp [ofText?, hs, Sign.text, Sign.factor, hn]
    | implicit =>
        cases cs with
        | nil => cases hn
        | cons c cs =>
            have hc := isNumeric_of_magnitude? hn
            unfold ofText?
            rw [hs]
            split
            · next heq => cases heq
            · next heq =>
                obtain ⟨rfl, -⟩ := List.cons.inj heq
                exact absurd hc (by decide)
            · next heq =>
                obtain ⟨rfl, -⟩ := List.cons.inj heq
                exact absurd hc (by decide)
            · simp [Sign.text, Sign.factor, hn]

end TabletFleet.Quantity
