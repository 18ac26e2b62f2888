import Mathlib.Data.List.TakeDrop
import Mathlib.Data.List.TakeWhile
import TabletFleet.Proofs.Text.Numeral
import TabletFleet.Tablet.Alias

set_option autoImplicit false

/-! # Texts that name an alias

A text names an alias by its cell, a dash and its number, and the number may be spelled in several ways.
Cells may hold dashes and numbers hold none, so the number is what follows the last dash, and a text names
one alias at most. Reading an alias from text finds the one that the text names (`parse?_eq_some_iff`), and
labels tell an alias in the same spellings (`ofLabels?_eq_some_iff`). -/

namespace TabletFleet.TabletAlias

/-! ## The last dash -/

theorem splitLastDash?_append {before after : List Char} (h : '-' ∉ after) :
    splitLastDash? (before ++ '-' :: after) = some (before, after) := by
  have hafter : ∀ c ∈ after.reverse, (c != '-') = true := by
    intro c hc
    simpa using fun hdash : c = '-' => h (hdash ▸ List.mem_reverse.1 hc)
  have hreverse : (before ++ '-' :: after).reverse = after.reverse ++ '-' :: before.reverse := by simp
  rw [splitLastDash?, hreverse, List.span_eq_takeWhile_dropWhile,
    List.takeWhile_append_of_pos hafter, List.dropWhile_append_of_pos hafter]
  simp

theorem of_splitLastDash? {cs before after : List Char}
    (h : splitLastDash? cs = some (before, after)) : cs = before ++ '-' :: after ∧ '-' ∉ after := by
  rw [splitLastDash?, List.span_eq_takeWhile_dropWhile] at h
  split at h
  · next after' before' hsplit =>
      obtain ⟨htake, hdrop⟩ := Prod.mk.inj hsplit
      obtain ⟨rfl, rfl⟩ := Prod.mk.inj (Option.some.inj h)
      constructor
      · rw [← List.reverse_inj, ← List.takeWhile_append_dropWhile (p := (· != '-')) (l := cs.reverse),
          htake, hdrop]
        simp
      · intro hdash
        rw [List.mem_reverse, ← htake] at hdash
        exact absurd (List.mem_takeWhile_imp hdash) (by decide)
  · cases h

theorem splitLastDash?_eq_some_iff {cs before after : List Char} :
    splitLastDash? cs = some (before, after) ↔ cs = before ++ '-' :: after ∧ '-' ∉ after :=
  ⟨of_splitLastDash?, fun ⟨hcs, hafter⟩ => hcs ▸ splitLastDash?_append hafter⟩

/-! ## Spellings -/

/-- The text is the alias's cell, a dash, and a spelling of its number. -/
def SpelledBy (a : TabletAlias) (s : String) : Prop :=
  a.cell ≠ "" ∧ ∃ number, s = a.cell ++ "-" ++ number ∧ Numeral.Spells number a.uid.toNat

theorem dash_notMem_of_spells {s : String} {n : Nat} (h : Numeral.Spells s n) : '-' ∉ s.toList := by
  intro hdash
  rcases h.chars '-' hdash with hdigit | hplus
  · exact absurd hdigit (by decide)
  · exact absurd hplus (by decide)

theorem parse?_eq_some_iff {s : String} {a : TabletAlias} : parse? s = some a ↔ a.SpelledBy s := by
  constructor
  · intro h
    obtain ⟨⟨cell, number⟩, hsplit, h⟩ := Option.bind_eq_some_iff.1 h
    obtain ⟨⟨⟩, hcell, h⟩ := Option.bind_eq_some_iff.1 h
    obtain ⟨uid, huid, h⟩ := Option.bind_eq_some_iff.1 h
    obtain rfl := Option.some.inj h
    obtain ⟨hs, -⟩ := splitLastDash?_eq_some_iff.1 hsplit
    refine ⟨fun hempty => ?_, String.ofList number, ?_, Numeral.uint32?_eq_some_iff.1 huid⟩
    · have hnil : cell = [] := by simpa using hempty
      rw [hnil] at hcell
      cases hcell
    · rw [← String.toList_inj]
      simpa using hs
  · rintro ⟨hcell, number, rfl, hnumber⟩
    have htext : (a.cell ++ "-" ++ number).toList = a.cell.toList ++ '-' :: number.toList := by simp
    have huid : Numeral.uint32? number = some a.uid := Numeral.uint32?_eq_some_iff.2 hnumber
    rw [parse?, htext, splitLastDash?_append (dash_notMem_of_spells hnumber)]
    simp [hcell, huid, guard]

/-- A text that names no alias is refused, and the refusal holds the text. -/
theorem parse_eq_error_iff {s : String} {e : InvalidAlias} :
    parse s = .error e ↔ (∀ a : TabletAlias, ¬a.SpelledBy s) ∧ e = ⟨s⟩ := by
  simp only [← parse?_eq_some_iff, parse]
  cases h : parse? s with
  | none => simp [eq_comm]
  | some a => simp

theorem parse_eq_ok_iff {s : String} {a : TabletAlias} : parse s = .ok a ↔ a.SpelledBy s := by
  rw [← parse?_eq_some_iff, parse]
  cases parse? s <;> simp

/-! ## Labels -/

/-- Labels tell an alias by its cell and a spelling of its number. -/
theorem ofLabels?_eq_some_iff {labels : Option StringMap} {a : TabletAlias} :
    ofLabels? labels = some a ↔
      labels.bind (·.get? LabelKey.cell) = some a.cell ∧
        ∃ number, labels.bind (·.get? LabelKey.tabletUid) = some number ∧
          Numeral.Spells number a.uid.toNat := by
  constructor
  · intro h
    obtain ⟨labels, rfl, h⟩ := Option.bind_eq_some_iff.1 h
    obtain ⟨cell, hcell, h⟩ := Option.bind_eq_some_iff.1 h
    obtain ⟨number, hnumber, h⟩ := Option.bind_eq_some_iff.1 h
    obtain ⟨uid, huid, h⟩ := Option.bind_eq_some_iff.1 h
    obtain rfl := Option.some.inj h
    exact ⟨hcell, number, hnumber, Numeral.uint32?_eq_some_iff.1 huid⟩
  · rintro ⟨hcell, number, hnumber, hspells⟩
    have huid : Numeral.uint32? number = some a.uid := Numeral.uint32?_eq_some_iff.2 hspells
    cases labels with
    | none => cases hcell
    | some labels =>
        rw [Option.bind_some] at hcell hnumber
        simp [ofLabels?, hcell, hnumber, huid]

end TabletFleet.TabletAlias
