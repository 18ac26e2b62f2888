set_option autoImplicit false

/-! # Maps in key order

A finite map kept as the list of its entries in ascending key order. The order of the entries is a
field of the type, so two maps with the same lookups are the same value (`OrdMap.ext_get?`), and
listing a map always gives its keys in order. Every operation is described by what it does to
`get?`; the map is never looked into from outside except through `get?` and `toList`. -/

namespace TabletFleet

variable {κ : Type} {α : Type} {β : Type}

/-! ## Entry lists -/

namespace Entries

/-- The value of the first entry with key `k`. -/
def lookup [Ord κ] (k : κ) : List (κ × α) → Option α
  | [] => none
  | (k', v) :: rest => if compare k k' = .eq then some v else lookup k rest

/-- Put an entry in its place, over an entry of the same key. -/
def insert [Ord κ] (k : κ) (v : α) : List (κ × α) → List (κ × α)
  | [] => [(k, v)]
  | (k', v') :: rest =>
    match compare k k' with
    | .lt => (k, v) :: (k', v') :: rest
    | .eq => (k, v) :: rest
    | .gt => (k', v') :: insert k v rest

/-- Entries in strictly ascending key order. -/
def Sorted [Ord κ] (l : List (κ × α)) : Prop :=
  l.Pairwise fun a b => compare a.1 b.1 = .lt

theorem mem_insert [Ord κ] {k : κ} {v : α} {e : κ × α} {l : List (κ × α)} :
    e ∈ insert k v l → e = (k, v) ∨ e ∈ l := by
  induction l with
  | nil => simp [insert]
  | cons hd tl ih =>
    obtain ⟨k', v'⟩ := hd
    rw [insert]
    split <;> grind

theorem Sorted.insert [Ord κ] [Std.TransOrd κ] [Std.LawfulEqOrd κ] {k : κ} {v : α}
    {l : List (κ × α)} (h : Sorted l) : Sorted (insert k v l) := by
  induction l with
  | nil => simp [Entries.insert, Sorted]
  | cons hd tl ih =>
    obtain ⟨k', v'⟩ := hd
    obtain ⟨hhd, htl⟩ := List.pairwise_cons.1 h
    rw [Entries.insert]
    split
    · rename_i hlt
      refine List.pairwise_cons.2 ⟨fun e he => ?_, h⟩
      rcases List.mem_cons.1 he with rfl | he
      · exact hlt
      · exact Std.TransCmp.lt_trans hlt (hhd e he)
    · rename_i heq
      obtain rfl := Std.LawfulEqCmp.eq_of_compare heq
      exact List.pairwise_cons.2 ⟨hhd, htl⟩
    · rename_i hgt
      refine List.pairwise_cons.2 ⟨fun e he => ?_, ih htl⟩
      rcases mem_insert he with rfl | he
      · exact Std.OrientedCmp.gt_iff_lt.1 hgt
      · exact hhd e he

theorem Sorted.filter [Ord κ] {l : List (κ × α)} (p : κ × α → Bool) (h : Sorted l) :
    Sorted (l.filter p) :=
  List.Pairwise.filter p h

theorem Sorted.map [Ord κ] {l : List (κ × α)} (f : κ → α → β) (h : Sorted l) :
    Sorted (l.map fun e => (e.1, f e.1 e.2)) :=
  List.Pairwise.map _ (fun _ _ h => h) h

theorem lookup_insert [Ord κ] [Std.TransOrd κ] [Std.LawfulEqOrd κ] (k k' : κ) (v : α)
    (l : List (κ × α)) :
    lookup k' (insert k v l) = if compare k' k = .eq then some v else lookup k' l := by
  induction l with
  | nil => simp [insert, lookup]
  | cons hd tl ih =>
    obtain ⟨a, b⟩ := hd
    rw [insert]
    split
    · simp [lookup]
    · rename_i heq
      obtain rfl := Std.LawfulEqCmp.eq_of_compare heq
      by_cases h : compare k' k = .eq <;> simp [lookup, h]
    · rename_i hgt
      by_cases h : compare k' a = .eq
      · obtain rfl := Std.LawfulEqCmp.eq_of_compare h
        have : compare k' k = .lt := Std.OrientedCmp.gt_iff_lt.1 hgt
        simp [lookup, this]
      · simp [lookup, h, ih]

theorem lookup_filter_ne [Ord κ] [Std.TransOrd κ] [Std.LawfulEqOrd κ] (k k' : κ)
    (l : List (κ × α)) :
    lookup k' (l.filter fun e => compare k e.1 ≠ .eq)
      = if compare k' k = .eq then none else lookup k' l := by
  induction l with
  | nil => simp [lookup]
  | cons hd tl ih =>
    obtain ⟨a, b⟩ := hd
    rw [List.filter_cons]
    by_cases h : compare k a = .eq
    · obtain rfl := Std.LawfulEqCmp.eq_of_compare h
      by_cases hk : compare k' k = .eq <;> simp_all [lookup]
    · by_cases hk : compare k' a = .eq
      · obtain rfl := Std.LawfulEqCmp.eq_of_compare hk
        have : compare k' k ≠ .eq := fun e => h (by
          obtain rfl := Std.LawfulEqCmp.eq_of_compare e
          exact Std.ReflCmp.compare_self)
        simp [h, this, lookup]
      · rw [if_pos (by simpa using h), lookup, if_neg hk, lookup, if_neg hk, ih]

theorem lookup_map [Ord κ] [Std.LawfulEqOrd κ] (f : κ → α → β) (k : κ) (l : List (κ × α)) :
    lookup k (l.map fun e => (e.1, f e.1 e.2)) = (lookup k l).map (f k) := by
  induction l with
  | nil => rfl
  | cons hd tl ih =>
    obtain ⟨a, b⟩ := hd
    by_cases h : compare k a = .eq
    · obtain rfl := Std.LawfulEqCmp.eq_of_compare h
      simp [lookup]
    · simp [lookup, h, ih]

theorem lookup_eq_some_iff [Ord κ] [Std.TransOrd κ] [Std.LawfulEqOrd κ] {k : κ} {v : α}
    {l : List (κ × α)} (hl : Sorted l) : lookup k l = some v ↔ (k, v) ∈ l := by
  induction l with
  | nil => simp [lookup]
  | cons hd tl ih =>
    obtain ⟨a, b⟩ := hd
    obtain ⟨hhd, htl⟩ := List.pairwise_cons.1 hl
    by_cases h : compare k a = .eq
    · obtain rfl := Std.LawfulEqCmp.eq_of_compare h
      have hnot : (k, v) ∉ tl := fun hm => by simpa using hhd _ hm
      simp [lookup, hnot, eq_comm]
    · have hne : k ≠ a := fun e => h (e ▸ Std.ReflCmp.compare_self)
      simp [lookup, h, hne, ih htl]

theorem eq_of_lookup_eq [Ord κ] [Std.TransOrd κ] [Std.LawfulEqOrd κ] {l m : List (κ × α)}
    (hl : Sorted l) (hm : Sorted m) (h : ∀ k, lookup k l = lookup k m) : l = m := by
  induction l generalizing m with
  | nil =>
    cases m with
    | nil => rfl
    | cons e tl => simpa [lookup] using h e.1
  | cons e tl ih =>
    cases m with
    | nil => simpa [lookup] using h e.1
    | cons e' tl' =>
      obtain ⟨he, htl⟩ := List.pairwise_cons.1 hl
      obtain ⟨he', htl'⟩ := List.pairwise_cons.1 hm
      -- the least key of either list is a key of the other
      have hmem : e ∈ e' :: tl' := (lookup_eq_some_iff hm).1 (by
        rw [← h]; simp [lookup])
      have hmem' : e' ∈ e :: tl := (lookup_eq_some_iff hl).1 (by
        rw [h]; simp [lookup])
      have hee : e = e' := by
        rcases List.mem_cons.1 hmem with h1 | h1
        · exact h1
        · rcases List.mem_cons.1 hmem' with h2 | h2
          · exact h2.symm
          · have := Std.OrientedCmp.gt_iff_lt.2 (he' e h1)
            simp [he e' h2] at this
      subst hee
      refine congrArg _ (ih htl htl' fun k => ?_)
      by_cases hk : compare k e.1 = .eq
      · have hnone : ∀ t : List (κ × α), (∀ x ∈ t, compare e.1 x.1 = .lt) → lookup k t = none := by
          intro t ht
          induction t with
          | nil => rfl
          | cons x xs ihx =>
            have hx := ht x (List.mem_cons_self ..)
            have hkx : compare k x.1 = .lt := by
              obtain rfl : k = e.1 := Std.LawfulEqCmp.eq_of_compare hk
              exact hx
            simp [lookup, hkx, ihx fun y hy => ht y (List.mem_cons_of_mem _ hy)]
        rw [hnone tl he, hnone tl' he']
      · have := h k
        simpa [lookup, hk] using this

end Entries

/-! ## The type -/

/-- A finite map from `κ` to `α` whose entries are listed in ascending key order. -/
structure OrdMap (κ α : Type) [Ord κ] where
  entries : List (κ × α)
  sorted : Entries.Sorted entries

/-- Text to text, as labels, annotations and flags are. -/
abbrev StringMap := OrdMap String String

namespace OrdMap

variable [Ord κ]

instance [DecidableEq κ] [DecidableEq α] : DecidableEq (OrdMap κ α) := fun a b =>
  decidable_of_iff (a.entries = b.entries) ⟨fun h => by cases a; cases b; simp_all, fun h => h ▸ rfl⟩

/-- The map without entries. -/
def empty : OrdMap κ α := ⟨[], List.Pairwise.nil⟩

instance : EmptyCollection (OrdMap κ α) := ⟨empty⟩

instance : Inhabited (OrdMap κ α) := ⟨empty⟩

/-- The entries in ascending key order. -/
def toList (m : OrdMap κ α) : List (κ × α) := m.entries

/-- The keys in ascending order. -/
def keys (m : OrdMap κ α) : List κ := m.entries.map (·.1)

/-- The values in the order of their keys. -/
def values (m : OrdMap κ α) : List α := m.entries.map (·.2)

def isEmpty (m : OrdMap κ α) : Bool := m.entries.isEmpty

def size (m : OrdMap κ α) : Nat := m.entries.length

/-- The value at a key. -/
def get? (m : OrdMap κ α) (k : κ) : Option α := Entries.lookup k m.entries

def contains (m : OrdMap κ α) (k : κ) : Bool := (m.get? k).isSome

/-- Keep the entries that satisfy `p`. -/
def filter (p : κ → α → Bool) (m : OrdMap κ α) : OrdMap κ α :=
  ⟨m.entries.filter fun e => p e.1 e.2, m.sorted.filter _⟩

/-- Drop the entry at a key. -/
def erase (m : OrdMap κ α) (k : κ) : OrdMap κ α :=
  ⟨m.entries.filter fun e => compare k e.1 ≠ .eq, m.sorted.filter _⟩

/-- Change every value. -/
def map (f : κ → α → β) (m : OrdMap κ α) : OrdMap κ β :=
  ⟨m.entries.map fun e => (e.1, f e.1 e.2), m.sorted.map f⟩

/-- Change the value at a key, if there is one. -/
def modify (m : OrdMap κ α) (k : κ) (f : α → α) : OrdMap κ α :=
  m.map fun k' v => if compare k' k = .eq then f v else v

variable [Std.TransOrd κ] [Std.LawfulEqOrd κ]

/-- Set the value at a key. -/
def insert (m : OrdMap κ α) (k : κ) (v : α) : OrdMap κ α :=
  ⟨Entries.insert k v m.entries, m.sorted.insert⟩

/-- Add every entry of a list, later ones over earlier ones. -/
def insertMany (m : OrdMap κ α) (l : List (κ × α)) : OrdMap κ α :=
  l.foldl (fun m e => m.insert e.1 e.2) m

/-- The map of a list of entries; of two entries with one key the later counts. -/
def ofList (l : List (κ × α)) : OrdMap κ α := empty.insertMany l

/-- All entries of both maps; where both have a key, the second one's value counts. -/
def merge (dst src : OrdMap κ α) : OrdMap κ α := dst.insertMany src.toList

/-! ## What the operations do to lookups -/

omit [Std.TransOrd κ] [Std.LawfulEqOrd κ] in
@[simp] theorem get?_empty (k : κ) : (empty : OrdMap κ α).get? k = none := rfl

@[simp] theorem get?_insert [DecidableEq κ] (m : OrdMap κ α) (k k' : κ) (v : α) :
    (m.insert k v).get? k' = if k' = k then some v else m.get? k' := by
  simp [insert, get?, Entries.lookup_insert]

@[simp] theorem get?_erase [DecidableEq κ] (m : OrdMap κ α) (k k' : κ) :
    (m.erase k).get? k' = if k' = k then none else m.get? k' := by
  simp only [erase, get?, Entries.lookup_filter_ne, Std.compare_eq_iff_eq]

omit [Std.TransOrd κ] in
@[simp] theorem get?_map (f : κ → α → β) (m : OrdMap κ α) (k : κ) :
    (m.map f).get? k = (m.get? k).map (f k) :=
  Entries.lookup_map f k m.entries

omit [Std.TransOrd κ] in
@[simp] theorem get?_modify [DecidableEq κ] (m : OrdMap κ α) (k k' : κ) (f : α → α) :
    (m.modify k f).get? k' = if k' = k then (m.get? k').map f else m.get? k' := by
  rw [modify, get?_map]
  by_cases h : k' = k
  · subst h; simp
  · cases hg : m.get? k' <;> simp [h]

theorem mem_toList {m : OrdMap κ α} {k : κ} {v : α} : (k, v) ∈ m.toList ↔ m.get? k = some v :=
  (Entries.lookup_eq_some_iff m.sorted).symm

theorem mem_keys {m : OrdMap κ α} {k : κ} : k ∈ m.keys ↔ (m.get? k).isSome := by
  rw [Option.isSome_iff_exists]
  simp [keys, ← mem_toList, toList]

/-- Maps with equal lookups are equal. -/
theorem ext_get? {m m' : OrdMap κ α} (h : ∀ k, m.get? k = m'.get? k) : m = m' := by
  have := Entries.eq_of_lookup_eq m.sorted m'.sorted h
  cases m; cases m'; simp_all

theorem get?_insertMany_of_notMem [DecidableEq κ] {m : OrdMap κ α} {l : List (κ × α)} {k : κ}
    (h : k ∉ l.map (·.1)) : (m.insertMany l).get? k = m.get? k := by
  induction l generalizing m with
  | nil => rfl
  | cons e l ih =>
    simp only [List.map_cons, List.mem_cons, not_or] at h
    have := ih (m := m.insert e.1 e.2) h.2
    simpa [insertMany, h.1] using this

/-- Merging takes the second map's value at each of its keys and the first one's elsewhere. -/
theorem get?_merge (dst src : OrdMap κ α) (k : κ) :
    (dst.merge src).get? k = (src.get? k).or (dst.get? k) := by
  obtain ⟨l, hl⟩ := src
  simp only [merge, toList, get?]
  induction l generalizing dst with
  | nil => simp [insertMany, Entries.lookup]
  | cons e l ih =>
    obtain ⟨he, htl⟩ := List.pairwise_cons.1 hl
    have step := ih (dst.insert e.1 e.2) htl
    simp only [insertMany, List.foldl_cons] at step ⊢
    rw [step]
    by_cases hk : compare k e.1 = .eq
    · obtain rfl : k = e.1 := Std.LawfulEqCmp.eq_of_compare hk
      have hnone : Entries.lookup e.1 l = none := by
        cases hx : Entries.lookup e.1 l with
        | none => rfl
        | some v => simpa using he _ ((Entries.lookup_eq_some_iff htl).1 hx)
      rw [hnone]
      simp [Entries.lookup, insert, Entries.lookup_insert]
    · have : k ≠ e.1 := fun h => hk (h ▸ Std.ReflCmp.compare_self)
      simp [Entries.lookup, insert, Entries.lookup_insert, this]

end OrdMap

/-! ## Sets of keys -/

/-- The distinct elements of a list in ascending order. -/
def sortedDistinct [Ord κ] [Std.TransOrd κ] [Std.LawfulEqOrd κ] (l : List κ) : List κ :=
  (OrdMap.ofList (l.map fun k => (k, ()))).keys

end TabletFleet
