import TabletFleet.Proofs.Tablet.Alias

set_option autoImplicit false

/-! # Alias texts are a faithful code

The text of an alias fills its number up to ten digits, and digits hold no dash. So the last dash of the
text is the one behind the cell, whatever the cell holds, and cell and number are read off the text again
(`TabletAlias.eq_of_last_dash`). An alias without a cell has a text too, different from that of every other
alias, but it is not read back. -/

namespace TabletFleet

namespace Numeral

/-- A text spells one number at most. -/
theorem Spells.unique {s : String} {m n : Nat} (hm : Spells s m) (hn : Spells s n) : m = n := by
  by_cases hplus : ∃ cs, s.toList = '+' :: cs
  · obtain ⟨cs, hcs⟩ := hplus
    rw [spells_plus_iff hcs] at hm hn
    exact Option.some.inj (hm.symm.trans hn)
  · have hplain : ∀ cs, s.toList ≠ '+' :: cs := fun cs hcs => hplus ⟨cs, hcs⟩
    rw [spells_plain_iff hplain] at hm hn
    exact Option.some.inj (hm.symm.trans hn)

end Numeral

namespace TabletAlias

/-- What stands before and after the last dash of a text is determined by the text. -/
theorem eq_of_last_dash {before after before' after' : String}
    (h : before ++ "-" ++ after = before' ++ "-" ++ after') (hafter : '-' ∉ after.toList)
    (hafter' : '-' ∉ after'.toList) : before = before' ∧ after = after' := by
  have hlist : before.toList ++ '-' :: after.toList = before'.toList ++ '-' :: after'.toList := by
    simpa using congrArg String.toList h
  have hsplit : splitLastDash? (before.toList ++ '-' :: after.toList) =
      some (before.toList, after.toList) := splitLastDash?_append hafter
  rw [hlist, splitLastDash?_append hafter', Option.some.injEq, Prod.mk.injEq] at hsplit
  exact ⟨String.toList_inj.1 hsplit.1.symm, String.toList_inj.1 hsplit.2.symm⟩

theorem dash_notMem_padded (n : Nat) : '-' ∉ (Numeral.padded 10 n).toList :=
  dash_notMem_of_spells (Numeral.spells_padded 10 n)

theorem spelledBy_text {a : TabletAlias} (hcell : a.cell ≠ "") : a.SpelledBy a.text :=
  ⟨hcell, _, rfl, Numeral.spells_padded 10 _⟩

/-- The text of an alias without a cell names no alias. -/
theorem not_spelledBy_text {a : TabletAlias} (hcell : a.cell = "") (b : TabletAlias) :
    ¬b.SpelledBy a.text := by
  rintro ⟨hcell', number, htext, hspells⟩
  obtain ⟨hsame, -⟩ :=
    eq_of_last_dash htext (dash_notMem_padded a.uid.toNat) (dash_notMem_of_spells hspells)
  exact hcell' (hsame.symm.trans hcell)

theorem parse_text (a : TabletAlias) :
    parse a.text = if a.cell = "" then .error ⟨a.text⟩ else .ok a := by
  split
  · next hcell => exact parse_eq_error_iff.2 ⟨not_spelledBy_text hcell, rfl⟩
  · next hcell => exact parse_eq_ok_iff.2 (spelledBy_text hcell)

theorem text_injective : Function.Injective text := by
  intro a b h
  obtain ⟨hcell, hnumber⟩ :=
    eq_of_last_dash h (dash_notMem_padded a.uid.toNat) (dash_notMem_padded b.uid.toNat)
  have huid : a.uid.toNat = b.uid.toNat := by
    refine (Numeral.spells_padded 10 a.uid.toNat).unique ?_
    rw [hnumber]
    exact Numeral.spells_padded 10 b.uid.toNat
  cases a
  cases b
  rw [UInt32.toNat_inj] at huid
  exact congr (congrArg TabletAlias.mk hcell) huid

theorem podName_injective (cluster : String) : Function.Injective (podName cluster) :=
  fun _ _ h => text_injective ((String.append_right_inj _).1 h)

theorem exists_parse_eq_ok_iff {s : String} : (∃ a, parse s = .ok a) ↔
    ∃ before after n, s = before ++ "-" ++ after ∧ '-' ∉ after.toList ∧ before ≠ "" ∧
      Numeral.Spells after n ∧ n < 2 ^ 32 := by
  simp only [parse_eq_ok_iff]
  constructor
  · rintro ⟨a, hcell, number, hs, hspells⟩
    exact ⟨a.cell, number, a.uid.toNat, hs, dash_notMem_of_spells hspells, hcell, hspells,
      a.uid.toNat_lt⟩
  · rintro ⟨before, after, n, hs, -, hbefore, hspells, hn⟩
    have huid : (UInt32.ofNat n).toNat = n := UInt32.toNat_ofNat_of_lt' hn
    exact ⟨⟨before, .ofNat n⟩, hbefore, after, hs, huid.symm ▸ hspells⟩

/-- *Alias text is a faithful code.* The text of an alias is its cell, a dash, and ten digits that denote
its number. It is read back as the alias if there is a cell, and refused otherwise. Different aliases have
different texts, and in every cluster they give different names. A text is read if and only if what stands
before its last dash is not empty and what stands after it spells a number below `2 ^ 32`; and the alias
that was read has a text that is read as the same alias. -/
theorem text_is_faithful :
    (∀ a : TabletAlias, ∃ digits, a.text = a.cell ++ "-" ++ digits ∧ digits.length = 10 ∧
      Numeral.natural? digits.toList = some a.uid.toNat) ∧
    (∀ a : TabletAlias, parse a.text = if a.cell = "" then .error ⟨a.text⟩ else .ok a) ∧
    Function.Injective text ∧
    (∀ cluster, Function.Injective (podName cluster)) ∧
    (∀ s, (∃ a, parse s = .ok a) ↔
      ∃ before after n, s = before ++ "-" ++ after ∧ '-' ∉ after.toList ∧ before ≠ "" ∧
        Numeral.Spells after n ∧ n < 2 ^ 32) ∧
    ∀ s a, parse s = .ok a → parse a.text = .ok a := by
  refine ⟨fun a => ?_, parse_text, text_injective, podName_injective,
    fun s => exists_parse_eq_ok_iff, fun s a hread => ?_⟩
  · have hlt : a.uid.toNat < 10 ^ 10 := Nat.lt_trans a.uid.toNat_lt (by decide)
    exact ⟨_, rfl, Numeral.length_padded (by decide) hlt, Numeral.natural?_padded 10 _⟩
  · obtain ⟨hcell, -⟩ := parse_eq_ok_iff.1 hread
    rw [parse_text, if_neg hcell]

/-- A cell with dashes, and a number with a sign and zeros in front. -/
theorem sample_text_read_back :
    parse "us-east-1-+0042" = .ok ⟨"us-east-1", 42⟩ ∧
      (TabletAlias.mk "us-east-1" 42).text ≠ "us-east-1-+0042" ∧
      parse (TabletAlias.mk "us-east-1" 42).text = .ok ⟨"us-east-1", 42⟩ := by
  have hread : parse "us-east-1-+0042" = .ok ⟨"us-east-1", 42⟩ := by rfl
  obtain ⟨-, -, -, -, -, hagain⟩ := text_is_faithful
  exact ⟨hread, by decide, hagain _ _ hread⟩

end TabletAlias

end TabletFleet
