import Mathlib.Data.Nat.Digits.Defs
import TabletFleet.Text.Numeral

set_option autoImplicit false

/-! # Numerals read back

A number that was written in decimal digits, with a sign if it is negative, is read as itself. A number
without sign may be spelled in more ways than it is written in (`Spells`), and is read from all of them. -/

namespace TabletFleet.Numeral

theorem value_toDigits (n : Nat) : value (Nat.toDigits 10 n) = n :=
  Nat.ofDigitChars_eq_foldl.symm.trans Nat.ofDigitChars_ten_toDigits

theorem natural?_toDigits (n : Nat) : natural? (Nat.toDigits 10 n) = some n :=
  natural?_eq_some_iff.2 ⟨Nat.toDigits_ne_nil,
    fun _ hc => Nat.isDigit_of_mem_toDigits (by decide) (by decide) hc, value_toDigits n⟩

/-- The digits of a number do not start with a sign. -/
theorem toDigits_head_ne (n : Nat) {c : Char} {cs : List Char} (h : Nat.toDigits 10 n = c :: cs) :
    c ≠ '-' ∧ c ≠ '+' := by
  have hdigit : c.isDigit = true :=
    Nat.isDigit_of_mem_toDigits (by decide) (by decide) (h ▸ List.mem_cons_self ..)
  constructor <;> rintro rfl <;> exact absurd hdigit (by decide)

theorem signed?_toString {lo hi n : Int} (hlo : lo ≤ n) (hhi : n ≤ hi) :
    signed? lo hi (toString n) = some n := by
  have hrange : (decide (lo ≤ n) && decide (n ≤ hi)) = true := by simp [hlo, hhi]
  rw [Int.toString_eq_repr, Int.repr_eq_if]
  by_cases hn : 0 ≤ n
  · rw [if_pos hn, signed?, Nat.toList_repr]
    split
    · next cs heq => exact absurd rfl (toDigits_head_ne _ heq).1
    · next cs heq => exact absurd rfl (toDigits_head_ne _ heq).2
    · rw [natural?_toDigits]
      simp [Int.toNat_of_nonneg hn, hrange]
  · obtain ⟨k, rfl⟩ : ∃ k : Nat, n = -(k : Int) := ⟨(-n).toNat, by omega⟩
    have hminus : ("-" ++ (- -(k : Int)).toNat.repr).toList = '-' :: Nat.toDigits 10 k := by
      rw [Int.neg_neg, Int.toNat_natCast, String.toList_append, Nat.toList_repr]
      rfl
    rw [if_neg hn, signed?, hminus]
    simp [natural?_toDigits, hrange]

/-- What is read as a whole number consists of digits and signs. -/
theorem chars_of_signed? {lo hi n : Int} {s : String} (h : signed? lo hi s = some n) :
    ∀ c ∈ s.toList, c.isDigit = true ∨ c = '-' ∨ c = '+' := by
  have hdigits : ∀ {cs : List Char}, natural? cs ≠ none →
      ∀ c ∈ cs, c.isDigit = true ∨ c = '-' ∨ c = '+' := by
    intro cs hcs c hc
    obtain ⟨k, hk⟩ := Option.ne_none_iff_exists'.1 hcs
    exact .inl ((natural?_eq_some_iff.1 hk).2.1 c hc)
  have hnumber := (Option.filter_eq_some_iff.1 h).1
  split at hnumber
  · next cs heq =>
      intro c hc
      rcases List.mem_cons.1 (heq ▸ hc) with rfl | hc
      · exact .inr (.inl rfl)
      · refine hdigits (fun hnone => ?_) c hc
        rw [hnone] at hnumber
        cases hnumber
  · next cs heq =>
      intro c hc
      rcases List.mem_cons.1 (heq ▸ hc) with rfl | hc
      · exact .inr (.inr rfl)
      · refine hdigits (fun hnone => ?_) c hc
        rw [hnone] at hnumber
        cases hnumber
  · refine hdigits fun hnone => ?_
    rw [hnone] at hnumber
    cases hnumber

theorem le_of_signed? {lo hi n : Int} {s : String} (h : signed? lo hi s = some n) :
    lo ≤ n ∧ n ≤ hi := by
  simpa using (Option.filter_eq_some_iff.1 h).2

theorem int64?_toString (g : Int64) : int64? (toString g.toInt) = some g := by
  have hlo : minInt64 ≤ g.toInt := g.le_toInt
  have hhi : g.toInt ≤ maxInt64 := Int.le_of_lt_add_one g.toInt_lt
  rw [int64?, signed?_toString hlo hhi, Option.map_some, Int64.ofInt_toInt]

/-! ## Numbers filled up with zeros -/

/-- Zeros in front do not count. -/
theorem value_zeros_append (k : Nat) (ds : List Char) :
    value (List.replicate k '0' ++ ds) = value ds := by
  induction k with
  | zero => rfl
  | succ k ih => exact ih

theorem natural?_padded (width n : Nat) : natural? (padded width n).toList = some n := by
  obtain ⟨hne, hdigits, hvalue⟩ := natural?_eq_some_iff.1 (natural?_toDigits n)
  rw [padded, String.toList_ofList]
  refine natural?_eq_some_iff.2 ⟨List.append_ne_nil_of_right_ne_nil _ hne, fun d hd => ?_, ?_⟩
  · rcases List.mem_append.1 hd with hzero | hdigit
    · rw [List.eq_of_mem_replicate hzero]
      rfl
    · exact hdigits d hdigit
  · rw [value_zeros_append, hvalue]

theorem length_padded {width n : Nat} (hwidth : 0 < width) (hn : n < 10 ^ width) :
    (padded width n).length = width := by
  have hle : (Nat.toDigits 10 n).length ≤ width := Nat.toDigits_length 10 n width hwidth hn
  rw [padded, String.length_ofList, List.length_append, List.length_replicate]
  omega

/-! ## Spellings of numbers without sign -/

/-- The text is one or more digits of the number, perhaps after a plus sign and with zeros in front. -/
def Spells (s : String) (n : Nat) : Prop :=
  ∃ digits, (s.toList = digits ∨ s.toList = '+' :: digits) ∧ digits ≠ [] ∧
    (∀ d ∈ digits, d.isDigit = true) ∧ value digits = n

theorem spells_toString (n : Nat) : Spells (toString n) n := by
  obtain ⟨hne, hdigits, hvalue⟩ := natural?_eq_some_iff.1 (natural?_toDigits n)
  exact ⟨Nat.toDigits 10 n, .inl (Nat.toList_repr ..), hne, hdigits, hvalue⟩

theorem spells_padded (width n : Nat) : Spells (padded width n) n :=
  ⟨_, .inl rfl, natural?_eq_some_iff.1 (natural?_padded width n)⟩

theorem Spells.chars {s : String} {n : Nat} (h : Spells s n) :
    ∀ c ∈ s.toList, c.isDigit = true ∨ c = '+' := by
  obtain ⟨digits, hsign | hsign, -, hdigits, -⟩ := h
  · intro c hc
    exact .inl (hdigits c (hsign ▸ hc))
  · intro c hc
    rw [hsign, List.mem_cons] at hc
    exact hc.symm.imp_left (hdigits c)

theorem spells_plus_iff {s : String} {cs : List Char} (h : s.toList = '+' :: cs) {n : Nat} :
    Spells s n ↔ natural? cs = some n := by
  rw [natural?_eq_some_iff]
  constructor
  · rintro ⟨digits, hsign | hsign, hne, hdigits, hvalue⟩
    · -- a plus sign is no digit
      have hplus := hdigits '+' (hsign ▸ h ▸ List.mem_cons_self)
      exact absurd hplus (by decide)
    · rw [h, List.cons_inj_right] at hsign
      rw [hsign]
      exact ⟨hne, hdigits, hvalue⟩
  · rintro ⟨hne, hdigits, hvalue⟩
    exact ⟨cs, .inr h, hne, hdigits, hvalue⟩

theorem spells_plain_iff {s : String} (h : ∀ cs, s.toList ≠ '+' :: cs) {n : Nat} :
    Spells s n ↔ natural? s.toList = some n := by
  rw [natural?_eq_some_iff]
  constructor
  · rintro ⟨digits, hsign, hne, hdigits, hvalue⟩
    rw [hsign.resolve_right (h digits)]
    exact ⟨hne, hdigits, hvalue⟩
  · rintro ⟨hne, hdigits, hvalue⟩
    exact ⟨s.toList, .inl rfl, hne, hdigits, hvalue⟩

theorem unsigned?_eq_some_iff {bound n : Nat} {s : String} :
    unsigned? bound s = some n ↔ Spells s n ∧ n < bound := by
  unfold unsigned?
  dsimp only
  rw [Option.filter_eq_some_iff, decide_eq_true_iff]
  refine and_congr_left fun _ => ?_
  split
  · next cs hplus => exact (spells_plus_iff hplus).symm
  · next hplain => exact (spells_plain_iff hplain).symm

theorem uint32?_eq_some_iff {s : String} {u : UInt32} : uint32? s = some u ↔ Spells s u.toNat := by
  rw [uint32?, Option.map_eq_some_iff]
  constructor
  · rintro ⟨n, hn, rfl⟩
    obtain ⟨hspells, hlt⟩ := unsigned?_eq_some_iff.1 hn
    rwa [UInt32.toNat_ofNat', Nat.mod_eq_of_lt hlt]
  · intro h
    exact ⟨u.toNat, unsigned?_eq_some_iff.2 ⟨h, u.toNat_lt⟩, UInt32.ofNat_toNat⟩

end TabletFleet.Numeral
