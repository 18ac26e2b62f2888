import Mathlib.Data.List.TakeWhile
import Mathlib.Tactic.NormNum
import TabletFleet.Proofs.Quantity.Spelling

set_option autoImplicit false

/-! # How quantities are read

A quantity is read just when it is spelled as one and its numbers fit, and it is read exactly: as the
rational number that is spelled, rounded away from zero. -/

namespace TabletFleet.Quantity

/-! ## Cuts -/

/-- A text can be cut behind characters of one byte. -/
theorem isValid_of_ascii {s : String} {front back : List Char} (hs : s.toList = front ++ back)
    (hfront : ∀ c ∈ front, c.val ≤ 127) : String.Pos.Raw.IsValid s ⟨front.length⟩ := by
  have hsize : (String.ofList front).utf8ByteSize = front.length := by
    clear hs
    induction front with
    | nil => rfl
    | cons c front ih =>
        have hc := Char.utf8Size_eq_one_iff.2 (hfront c List.mem_cons_self)
        have ih := ih fun d hd => hfront d (List.mem_cons_of_mem _ hd)
        rw [String.ofList_cons, String.utf8ByteSize_append, String.utf8ByteSize_singleton, hc, ih,
          List.length_cons, Nat.add_comm]
  refine String.Pos.Raw.isValid_iff_exists_append.2
    ⟨String.ofList front, String.ofList back, ?_, ?_⟩
  · rw [← String.ofList_append, ← hs, String.ofList_toList]
  · exact String.Pos.Raw.ext hsize.symm

/-- Only a character of one byte starts with a byte of ASCII. -/
theorem ascii_of_head?_encode {c : Char} {b : UInt8}
    (h : (String.utf8EncodeChar c).head? = some b) (hb : b < 128) : c.val ≤ 127 := by
  have hb : b.toNat < 128 := hb
  by_contra hc
  have hc : ¬c.val.toNat ≤ 0x7f := hc
  simp only [String.utf8EncodeChar, if_neg hc] at h
  -- the first bytes of two, three and four
  split at h
  · obtain rfl := Option.some.inj h
    rw [UInt8.toNat_ofNat'] at hb
    omega
  · split at h
    · obtain rfl := Option.some.inj h
      rw [UInt8.toNat_ofNat'] at hb
      omega
    · obtain rfl := Option.some.inj h
      rw [UInt8.toNat_ofNat'] at hb
      omega

theorem ascii_of_head?_bytes {s : String} {b : UInt8} (h : s.toUTF8.data[0]? = some b)
    (hb : b < 128) : ∃ c cs, s.toList = c :: cs ∧ c.val ≤ 127 := by
  have hbytes : s.toUTF8.data = (s.toList.flatMap String.utf8EncodeChar).toArray := by
    rw [String.toUTF8_eq_toByteArray, ← String.ofList_toList (s := s), String.toByteArray_ofList,
      List.utf8Encode, List.data_toByteArray, String.ofList_toList]
  rw [hbytes, List.getElem?_toArray] at h
  cases hs : s.toList with
  | nil =>
      rw [hs] at h
      cases h
  | cons c cs =>
      refine ⟨c, cs, rfl, ascii_of_head?_encode ?_ hb⟩
      have hne : 0 < (String.utf8EncodeChar c).length := by
        rw [String.length_utf8EncodeChar]
        exact c.utf8Size_pos
      rwa [hs, List.flatMap_cons, List.getElem?_append_left hne, ← List.head?_eq_getElem?] at h

theorem ascii_of_isDigit {c : Char} (h : c.isDigit = true) : c.val ≤ 127 := by
  rw [Char.isDigit, Bool.and_eq_true, decide_eq_true_eq, decide_eq_true_eq] at h
  exact UInt32.le_trans h.2 (by decide)

theorem ascii_of_isNumeric {c : Char} (h : isNumeric c = true) : c.val ≤ 127 := by
  rw [isNumeric, Bool.or_eq_true, beq_iff_eq] at h
  rcases h with h | rfl
  · exact ascii_of_isDigit h
  · decide

/-- The byte positions at which a text is cut lie between characters. -/
structure CutsWhole (s : String) : Prop where
  /-- Behind the first byte, if that is a sign. -/
  sign : ∀ b, s.toUTF8.data[0]? = some b → b = '-'.toUInt8 ∨ b = '+'.toUInt8 →
    String.Pos.Raw.IsValid s ⟨1⟩
  /-- Behind the number that the text starts with. -/
  number : String.Pos.Raw.IsValid s ⟨(s.toList.takeWhile isNumeric).length⟩
  /-- Behind the letter of an exponent. -/
  letter : ∀ c, s.toList.head? = some c → c = 'e' ∨ c = 'E' → String.Pos.Raw.IsValid s ⟨1⟩

theorem cutsWhole (s : String) : CutsWhole s where
  sign := by
    intro b hb hsign
    have hb' : b < 128 := by rcases hsign with rfl | rfl <;> decide
    obtain ⟨c, cs, hs, hc⟩ := ascii_of_head?_bytes hb hb'
    exact @isValid_of_ascii s [c] cs hs fun d hd => List.mem_singleton.1 hd ▸ hc
  number := by
    refine isValid_of_ascii List.takeWhile_append_dropWhile.symm fun c hc => ?_
    exact ascii_of_isNumeric (List.mem_takeWhile_imp hc)
  letter := by
    intro c hs hc
    obtain ⟨cs, hs⟩ := List.head?_eq_some_iff.1 hs
    refine @isValid_of_ascii s [c] cs hs fun d hd => List.mem_singleton.1 hd ▸ ?_
    rcases hc with rfl | rfl <;> decide

/-! ## Equal amounts -/

theorem Sign.isBlank_eq_false (sign : Sign) : ∀ c ∈ sign.text, Text.isBlank c = false := by
  intro c hc
  cases sign with
  | implicit => cases hc
  | plus | minus =>
      obtain rfl := List.mem_singleton.1 hc
      decide

theorem Scales.isBlank_eq_false {suffix : List Char} {scale : Scale} (h : Scales suffix scale) :
    ∀ c ∈ suffix, Text.isBlank c = false := by
  cases h with
  | named h =>
      have htable : (namedSuffixes.all fun e => e.1.all fun c => !Text.isBlank c) = true := by decide
      simpa using List.all_eq_true.1 htable _ h
  | exponent hletter h =>
      intro c hc
      rcases List.mem_cons.1 hc with rfl | hc
      · rcases hletter with rfl | rfl <;> decide
      · rcases Numeral.chars_of_signed? h c (by rwa [String.toList_ofList]) with hdigit | rfl | rfl
        · exact Text.isBlank_eq_false_of_isDigit hdigit
        · decide
        · decide

theorem dropWhile_isBlank_eq_self {cs : List Char} (h : ∀ c ∈ cs, Text.isBlank c = false) :
    cs.dropWhile Text.isBlank = cs := by
  refine List.dropWhile_eq_self_iff.2 fun hl => ?_
  rw [h _ (List.getElem_mem hl)]
  decide

theorem trim_eq_self {cs : List Char} (h : ∀ c ∈ cs, Text.isBlank c = false) :
    Text.trim cs = cs := by
  rw [Text.trim, dropWhile_isBlank_eq_self h,
    dropWhile_isBlank_eq_self fun c hc => h c (List.mem_reverse.1 hc), List.reverse_reverse]

namespace Spelling

variable {q : Spelling} {scale : Scale}

theorem isBlank_eq_false (h : q.WellFormed scale) : ∀ c ∈ q.text, Text.isBlank c = false := by
  intro c hc
  rcases List.mem_append.1 hc with hc | hc
  · exact q.sign.isBlank_eq_false c hc
  · rcases List.mem_append.1 hc with hc | hc
    · have hnumeric := isNumeric_of_mem_number h.isDigit c hc
      rw [isNumeric, Bool.or_eq_true, beq_iff_eq] at hnumeric
      rcases hnumeric with hdigit | rfl
      · exact Text.isBlank_eq_false_of_isDigit hdigit
      · decide
    · exact h.scales.isBlank_eq_false c hc

/-- `s` is spelled as `q`, and its numbers fit. -/
structure Accepts (q : Spelling) (scale : Scale) (s : String) : Prop where
  text : s.toList = q.text
  wellFormed : q.WellFormed scale
  inRange : q.InRange scale

theorem ofText?_eq_some_iff_accepts {s : String} {v : Int} :
    ofText? s = some v ↔
      ∃ (q : Spelling) (scale : Scale), q.Accepts scale s ∧ v = q.sign.factor * ⌈q.value scale⌉ := by
  rw [ofText?_eq_some_iff]
  constructor
  · rintro ⟨sign, cs, n, hs, hn, rfl⟩
    obtain ⟨q, scale, rfl, rfl, hq⟩ := exists_spelling hn sign
    obtain ⟨hrange, hceil⟩ := (magnitude?_spelled hq).1 hn
    exact ⟨q, scale, ⟨hs, hq, hrange⟩, by rw [hceil]⟩
  · rintro ⟨q, scale, hs, rfl⟩
    have hnonneg : 0 ≤ ⌈q.value scale⌉ := by
      refine Int.ceil_nonneg (mul_nonneg (mul_nonneg (Nat.cast_nonneg _) ?_) ?_)
      · exact pow_nonneg (by norm_num) _
      · exact zpow_nonneg (by norm_num) _
    have hceil := Int.toNat_of_nonneg hnonneg
    exact ⟨q.sign, _, _, hs.text,
      (magnitude?_spelled hs.wellFormed).2 ⟨hs.inRange, hceil⟩, by rw [hceil]⟩

theorem Accepts.amount? {s : String} (h : q.Accepts scale s) :
    Quantity.amount? ⟨s⟩ = some (q.sign.factor * ⌈q.value scale⌉) := by
  have hblank : ∀ c ∈ s.toList, Text.isBlank c = false := h.text ▸ isBlank_eq_false h.wellFormed
  rw [Quantity.amount?, trim_eq_self hblank, String.ofList_toList]
  exact ofText?_eq_some_iff_accepts.2 ⟨q, scale, h, rfl⟩

end Spelling

/-! ## Steps that are not checked -/

/-- A number that fits and is divided by a power of ten leaves room for the one of rounding up. -/
theorem div_add_one_lt {n k : Nat} (hn : n < 2 ^ 127) (hk : 0 < k) : n / 10 ^ k + 1 < 2 ^ 127 := by
  have hten : 10 ^ 1 ≤ 10 ^ k := Nat.pow_le_pow_right (by decide) hk
  have hdiv : n / 10 ^ k ≤ n / 10 := Nat.div_le_div_left hten (by decide)
  omega

theorem lt_of_shift? {n m : Nat} {e : Int} (hn : n < 2 ^ 127) (h : shift? n e = some m) :
    m < 2 ^ 127 := by
  cases e with
  | ofNat k =>
      obtain ⟨d, -, h⟩ := Option.bind_eq_some_iff.1 h
      obtain ⟨hm, rfl⟩ := fit?_eq_some_iff.1 h
      exact hm
  | negSucc k =>
      obtain ⟨d, hd, h⟩ := Option.bind_eq_some_iff.1 h
      obtain ⟨-, rfl⟩ := powerOfTen?_eq_some_iff.1 hd
      obtain rfl := Option.some.inj h
      have hroom := div_add_one_lt hn (k := k + 1) (Nat.succ_pos k)
      split <;> omega

theorem lt_of_magnitude? {cs : List Char} {n : Nat} (h : magnitude? cs = some n) : n < 2 ^ 127 := by
  obtain ⟨_, -, h⟩ := Option.bind_eq_some_iff.1 h
  obtain ⟨_, -, h⟩ := Option.bind_eq_some_iff.1 h
  obtain ⟨_, -, h⟩ := Option.bind_eq_some_iff.1 h
  obtain ⟨scaled, hscaled, h⟩ := Option.bind_eq_some_iff.1 h
  obtain ⟨_, -, h⟩ := Option.bind_eq_some_iff.1 h
  obtain ⟨hlt, rfl⟩ := fit?_eq_some_iff.1 hscaled
  exact lt_of_shift? hlt h

/-! ## Main result -/

/-- A text has an amount just when it is spelled as a quantity and its numbers fit, and the amount is
the number that is spelled, in whole units. The steps that nothing checks are harmless, whatever the
text: one can be added to the quotient, the amount can be negated, and no cut goes through a
character. Two texts that spell the same number are the same quantity. -/
theorem text_read_exactly :
    (∀ (s : String) (v : Int), ofText? s = some v ↔
      ∃ (q : Spelling) (scale : Scale), q.Accepts scale s ∧ v = q.sign.factor * ⌈q.value scale⌉) ∧
    (∀ (q : Spelling) (scale : Scale), q.mantissa * 1024 ^ scale.binary < 2 ^ 127 →
      q.exponent scale < 0 →
        q.mantissa * 1024 ^ scale.binary / 10 ^ (q.exponent scale).natAbs + 1 < 2 ^ 127) ∧
    (∀ (cs : List Char) (n : Nat), magnitude? cs = some n → n < 2 ^ 127) ∧
    (∀ s : String, CutsWhole s) ∧
    (∀ (s t : String) (q r : Spelling) (scale scale' : Scale), q.Accepts scale s →
      r.Accepts scale' t → q.sign.factor = r.sign.factor → q.value scale = r.value scale' →
        same ⟨s⟩ ⟨t⟩ = true) := by
  refine ⟨fun s v => Spelling.ofText?_eq_some_iff_accepts, ?_, fun cs n => lt_of_magnitude?, cutsWhole,
    ?_⟩
  · intro q scale hscaled hneg
    exact div_add_one_lt hscaled (Int.natAbs_pos.2 (Int.ne_of_lt hneg))
  · intro s t q r scale scale' hs ht hsign hvalue
    simp only [same, hs.amount?, ht.amount?, hsign, hvalue, beq_self_eq_true]

namespace Spelling

/-- `1.5Gi` -/
def sampleGi : Spelling := ⟨.implicit, ['1'], some ['5'], ['G', 'i']⟩

/-- `+1536Mi` -/
def sampleMi : Spelling := ⟨.plus, ['1', '5', '3', '6'], none, ['M', 'i']⟩

theorem sampleGi_accepts : sampleGi.Accepts ⟨3, 0⟩ "1.5Gi" where
  text := by decide
  wellFormed := ⟨List.all_eq_true.1 (by decide), by decide, .named (by decide)⟩
  inRange := ⟨by decide, by decide, by decide, by decide, by decide, by decide⟩

theorem sampleMi_accepts : sampleMi.Accepts ⟨2, 0⟩ "+1536Mi" where
  text := by decide
  wellFormed := ⟨List.all_eq_true.1 (by decide), by decide, .named (by decide)⟩
  inRange := ⟨by decide, by decide, by decide, by decide, by decide, by decide⟩

end Spelling

theorem sample_spellings_same :
    Spelling.sampleGi.exponent ⟨3, 0⟩ = -1 ∧ ofText? "1.5Gi" = some 1610612736 ∧
      15 * 1024 ^ 3 / 10 + 1 < 2 ^ 127 ∧ same ⟨"1.5Gi"⟩ ⟨"+1536Mi"⟩ = true := by
  have hvalue : Spelling.sampleGi.value ⟨3, 0⟩ = Spelling.sampleMi.value ⟨2, 0⟩ := by
    have hgi : Spelling.sampleGi.mantissa = 15 := by decide
    have hmi : Spelling.sampleMi.mantissa = 1536 := by decide
    have hexponent : Spelling.sampleGi.exponent ⟨3, 0⟩ = -1 := by decide
    have hnone : Spelling.sampleMi.exponent ⟨2, 0⟩ = 0 := by decide
    rw [Spelling.value, Spelling.value, hgi, hmi, hexponent, hnone]
    norm_num
  refine ⟨by decide, by decide, ?_, ?_⟩
  · exact text_read_exactly.2.1 Spelling.sampleGi ⟨3, 0⟩ (by decide) (by decide)
  · exact text_read_exactly.2.2.2.2 _ _ _ _ _ _ Spelling.sampleGi_accepts Spelling.sampleMi_accepts
      (by decide) hvalue

end TabletFleet.Quantity
