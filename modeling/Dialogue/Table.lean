/-
# Ordered tables

A `Table κ α` is a finite map whose entries stand in strictly ascending order of
key. The order is part of the type, so a table has one representation: two
tables that answer every look-up alike are equal, and listing a table always
gives the same order. Nothing here is claimed about speed; every operation walks
the entries.
-/

namespace Dialogue

universe u v w

/-- A finite map from `κ` to `α`, its entries in strictly ascending order of key. -/
structure Table (κ : Type u) [LT κ] (α : Type v) where
  /-- The entries, smallest key first. -/
  entries : List (κ × α)
  /-- Keys ascend strictly, hence no key stands twice. -/
  ascending : entries.Pairwise fun a b => a.1 < b.1

namespace Table

section Entries

variable {κ : Type u} {α : Type v} [DecidableEq κ]

/-- The value stored under a key in a list of entries. -/
def lookupIn (key : κ) : List (κ × α) → Option α
  | [] => none
  | (other, value) :: rest => if key = other then some value else lookupIn key rest

/-- The entries without those of one key. -/
def eraseIn (key : κ) : List (κ × α) → List (κ × α)
  | [] => []
  | (other, value) :: rest =>
      if key = other then eraseIn key rest else (other, value) :: eraseIn key rest

theorem lookupIn_eraseIn (key other : κ) (entries : List (κ × α)) :
    lookupIn other (eraseIn key entries) =
      if other = key then none else lookupIn other entries := by
  induction entries with
  | nil => simp [lookupIn, eraseIn]
  | cons head rest ih =>
      obtain ⟨k, v⟩ := head
      grind [lookupIn, eraseIn]

theorem mem_of_mem_eraseIn {key : κ} {entries : List (κ × α)} {entry : κ × α}
    (h : entry ∈ eraseIn key entries) : entry ∈ entries := by
  induction entries with
  | nil => simp [eraseIn] at h
  | cons head rest ih =>
      obtain ⟨k, v⟩ := head
      grind [eraseIn]

theorem mem_of_lookupIn {key : κ} {value : α} {entries : List (κ × α)}
    (h : lookupIn key entries = some value) : (key, value) ∈ entries := by
  induction entries with
  | nil => simp [lookupIn] at h
  | cons head rest ih =>
      obtain ⟨k, v⟩ := head
      grind [lookupIn]

theorem lookupIn_eq_none_of_forall_ne {key : κ} {entries : List (κ × α)}
    (h : ∀ entry ∈ entries, key ≠ entry.1) : lookupIn key entries = none := by
  induction entries with
  | nil => rfl
  | cons head rest ih =>
      have here := h head List.mem_cons_self
      have there := ih fun entry he => h entry (List.mem_cons_of_mem _ he)
      simp [lookupIn, here, there]

theorem lookupIn_isSome_iff {key : κ} {entries : List (κ × α)} :
    (lookupIn key entries).isSome ↔ key ∈ entries.map (·.1) := by
  induction entries with
  | nil => simp [lookupIn]
  | cons head rest ih =>
      obtain ⟨k, v⟩ := head
      rcases Decidable.em (key = k) with rfl | ne
      · simp [lookupIn]
      · rw [List.map_cons, List.mem_cons, ← ih]
        simp [lookupIn, ne]

variable [LT κ] [DecidableLT κ]

/-- Put an entry at its place, over an earlier entry of the same key. -/
def insertIn (key : κ) (value : α) : List (κ × α) → List (κ × α)
  | [] => [(key, value)]
  | (other, previous) :: rest =>
      if key = other then (key, value) :: rest
      else if key < other then (key, value) :: (other, previous) :: rest
      else (other, previous) :: insertIn key value rest

theorem lookupIn_insertIn (key other : κ) (value : α) (entries : List (κ × α)) :
    lookupIn other (insertIn key value entries) =
      if other = key then some value else lookupIn other entries := by
  induction entries with
  | nil => simp [lookupIn, insertIn]
  | cons head rest ih =>
      obtain ⟨k, v⟩ := head
      grind [lookupIn, insertIn]

theorem mem_of_mem_insertIn {key : κ} {value : α} {entries : List (κ × α)} {entry : κ × α}
    (h : entry ∈ insertIn key value entries) : entry = (key, value) ∨ entry ∈ entries := by
  induction entries with
  | nil => simpa [insertIn] using h
  | cons head rest ih =>
      obtain ⟨k, v⟩ := head
      grind [insertIn]

end Entries

variable {κ : Type u} {α : Type v} {β : Type w} [LT κ]

/-- The table without entries. -/
def empty : Table κ α := ⟨[], .nil⟩

instance : EmptyCollection (Table κ α) := ⟨empty⟩

instance : Inhabited (Table κ α) := ⟨∅⟩

instance [DecidableEq κ] [DecidableEq α] : DecidableEq (Table κ α) := fun s t =>
  decidable_of_iff (s.entries = t.entries) <| by
    obtain ⟨s, _⟩ := s
    obtain ⟨t, _⟩ := t
    simp

/-- The entries in ascending order of key. -/
def toList (t : Table κ α) : List (κ × α) := t.entries

/-- The keys in ascending order. -/
def keys (t : Table κ α) : List κ := t.entries.map (·.1)

/-- The number of entries. -/
def size (t : Table κ α) : Nat := t.entries.length

/-- Apply a function to every value. -/
def map (f : α → β) (t : Table κ α) : Table κ β :=
  ⟨t.entries.map fun e => (e.1, f e.2), by
    have h := t.ascending
    rw [List.pairwise_map]
    exact h⟩

/-- Keep the entries that satisfy a test. -/
def filter (keep : κ → α → Bool) (t : Table κ α) : Table κ α :=
  ⟨t.entries.filter fun e => keep e.1 e.2, t.ascending.filter _⟩

section Lookup

variable [DecidableEq κ]

/-- The value stored under a key, if any. -/
def get? (t : Table κ α) (key : κ) : Option α := lookupIn key t.entries

/-- Whether a key has a value. -/
def contains (t : Table κ α) (key : κ) : Bool := (t.get? key).isSome

/-- The table without one key. -/
def erase (t : Table κ α) (key : κ) : Table κ α :=
  ⟨eraseIn key t.entries, by
    obtain ⟨entries, h⟩ := t
    induction entries with
    | nil => exact .nil
    | cons head rest ih =>
        obtain ⟨k, v⟩ := head
        rw [List.pairwise_cons] at h
        simp only [eraseIn]
        split
        · exact ih h.2
        · exact List.pairwise_cons.2 ⟨fun e he => h.1 e (mem_of_mem_eraseIn he), ih h.2⟩⟩

omit [LT κ] in
theorem lookupIn_map (f : α → β) (key : κ) (entries : List (κ × α)) :
    lookupIn key (entries.map fun e => (e.1, f e.2)) = (lookupIn key entries).map f := by
  induction entries with
  | nil => rfl
  | cons head rest ih =>
      rw [List.map_cons, lookupIn, lookupIn]
      split
      · rfl
      · exact ih

theorem get?_map (f : α → β) (t : Table κ α) (key : κ) :
    (t.map f).get? key = (t.get? key).map f :=
  lookupIn_map f key t.entries

theorem mem_keys_iff {t : Table κ α} {key : κ} : key ∈ t.keys ↔ (t.get? key).isSome :=
  lookupIn_isSome_iff.symm

theorem get?_erase (t : Table κ α) (key other : κ) :
    (t.erase key).get? other = if other = key then none else t.get? other :=
  lookupIn_eraseIn key other t.entries

theorem get?_erase_eq_some_iff {t : Table κ α} {key other : κ} {value : α} :
    (t.erase key).get? other = some value ↔ other ≠ key ∧ t.get? other = some value := by
  rw [get?_erase]
  rcases Decidable.em (other = key) with same | ne
  · simp [same]
  · simp [ne]

@[simp]
theorem get?_erase_self (t : Table κ α) (key : κ) : (t.erase key).get? key = none := by
  simp [get?_erase]

end Lookup

section Insert

variable [DecidableEq κ] [DecidableLT κ] [LE κ] [Std.IsLinearOrder κ] [Std.LawfulOrderLT κ]

/-- The table with one more entry, over an earlier entry of the same key. -/
def insert (t : Table κ α) (key : κ) (value : α) : Table κ α :=
  ⟨insertIn key value t.entries, by
    obtain ⟨entries, h⟩ := t
    induction entries with
    | nil => exact List.pairwise_singleton _ _
    | cons head rest ih =>
        obtain ⟨k, v⟩ := head
        rw [List.pairwise_cons] at h
        simp only [insertIn]
        split
        · next e => exact List.pairwise_cons.2 ⟨fun x hx => e ▸ h.1 x hx, h.2⟩
        · next ne =>
          split
          · next lt =>
            refine List.pairwise_cons.2 ⟨fun x hx => ?_, List.pairwise_cons.2 h⟩
            rcases List.mem_cons.1 hx with rfl | hx
            · exact lt
            · exact Std.lt_trans lt (h.1 x hx)
          · next nlt =>
            have gt : k < key := by
              rcases Std.lt_trichotomy k key with g | g | g
              · exact g
              · exact absurd g.symm ne
              · exact absurd g nlt
            refine List.pairwise_cons.2 ⟨fun x hx => ?_, ih h.2⟩
            rcases mem_of_mem_insertIn hx with rfl | hx
            · exact gt
            · exact h.1 x hx⟩

/-- The table of a list of entries; of two entries of one key the later one counts. -/
def ofList (entries : List (κ × α)) : Table κ α :=
  entries.foldl (fun t e => t.insert e.1 e.2) ∅

/-- Insertion changes exactly one look-up. -/
theorem get?_insert (t : Table κ α) (key other : κ) (value : α) :
    (t.insert key value).get? other = if other = key then some value else t.get? other :=
  lookupIn_insertIn key other value t.entries

@[simp]
theorem get?_insert_self (t : Table κ α) (key : κ) (value : α) :
    (t.insert key value).get? key = some value := by
  simp [get?_insert]

theorem get?_insert_eq_some_iff {t : Table κ α} {key other : κ} {value stored : α} :
    (t.insert key value).get? other = some stored ↔
      other = key ∧ value = stored ∨ other ≠ key ∧ t.get? other = some stored := by
  rw [get?_insert]
  rcases Decidable.em (other = key) with same | ne
  · simp [same]
  · simp [ne]

end Insert

section Ext

variable [DecidableEq κ] [LE κ] [Std.IsLinearOrder κ] [Std.LawfulOrderLT κ]

omit [Std.IsLinearOrder κ] in
theorem lookupIn_tail_of_pairwise {key : κ} {value : α} {rest : List (κ × α)}
    (h : ((key, value) :: rest).Pairwise fun a b => a.1 < b.1) : lookupIn key rest = none :=
  lookupIn_eq_none_of_forall_ne fun entry he e =>
    Std.lt_irrefl (a := key) (by
      have lt : key < entry.1 := (List.pairwise_cons.1 h).1 entry he
      exact e ▸ lt)

omit [Std.IsLinearOrder κ] in
/-- Filtering ascending entries filters every look-up: no later entry of the key comes to light. -/
theorem lookupIn_filter {keep : κ → α → Bool} {entries : List (κ × α)}
    (h : entries.Pairwise fun a b => a.1 < b.1) (key : κ) :
    lookupIn key (entries.filter fun e => keep e.1 e.2) =
      (lookupIn key entries).filter (keep key) := by
  induction entries with
  | nil => rfl
  | cons head rest ih =>
      obtain ⟨k, v⟩ := head
      have tail := ih (List.pairwise_cons.1 h).2
      rw [List.filter_cons]
      rcases Decidable.em (key = k) with rfl | ne
      · have unique : lookupIn key rest = none := lookupIn_tail_of_pairwise h
        rw [unique] at tail
        split
        · next kept => simp [lookupIn, Option.filter, show keep key v = true from kept]
        · next dropped =>
            simp [lookupIn, Option.filter, show ¬ keep key v = true from dropped, tail]
      · split <;> simp [lookupIn, ne, tail]

omit [Std.IsLinearOrder κ] in
theorem get?_filter (keep : κ → α → Bool) (t : Table κ α) (key : κ) :
    (t.filter keep).get? key = (t.get? key).filter (keep key) :=
  lookupIn_filter t.ascending key

omit [Std.IsLinearOrder κ] in
/-- An entry stands in ascending entries exactly if it is the one that is looked up. -/
theorem lookupIn_eq_some_iff {entries : List (κ × α)}
    (h : entries.Pairwise fun a b => a.1 < b.1) {key : κ} {value : α} :
    lookupIn key entries = some value ↔ (key, value) ∈ entries := by
  refine ⟨mem_of_lookupIn, fun listed => ?_⟩
  induction entries with
  | nil => cases listed
  | cons head rest ih =>
      rcases List.mem_cons.1 listed with rfl | later
      · simp [lookupIn]
      · have lt : head.1 < key := (List.pairwise_cons.1 h).1 _ later
        have ne : key ≠ head.1 := fun e => Std.lt_irrefl (a := key) (by rwa [← e] at lt)
        simp [lookupIn, ne, ih (List.pairwise_cons.1 h).2 later]

omit [Std.IsLinearOrder κ] in
/-- The number of entries that a test drops is the number of keys that lose their value. -/
theorem size_sub_size_filter (keep : κ → α → Bool) (t : Table κ α) :
    t.size - (t.filter keep).size =
      (t.keys.filter fun key => !(t.filter keep).contains key).length := by
  have lost : ∀ e ∈ t.entries, (!(t.filter keep).contains e.1) = !keep e.1 e.2 := by
    intro e listed
    have stored : t.get? e.1 = some e.2 := (lookupIn_eq_some_iff t.ascending).2 listed
    simp [contains, get?_filter, stored, Option.filter_some, apply_ite]
  have dropped : (t.keys.filter fun key => !(t.filter keep).contains key).length =
      t.entries.countP fun e => !keep e.1 e.2 := by
    rw [keys, List.filter_map, List.length_map, List.countP_eq_length_filter]
    exact congrArg List.length (List.filter_congr lost)
  have total : t.entries.length =
      (t.entries.countP fun e => keep e.1 e.2) + t.entries.countP fun e => !keep e.1 e.2 := by
    simpa using t.entries.length_eq_countP_add_countP fun e => keep e.1 e.2
  rw [dropped, size, size, filter, ← List.countP_eq_length_filter]
  omega

/-- Ascending lists that answer every look-up alike are the same list. -/
theorem entries_eq_of_lookupIn {s t : List (κ × α)}
    (hs : s.Pairwise fun a b => a.1 < b.1) (ht : t.Pairwise fun a b => a.1 < b.1)
    (h : ∀ key, lookupIn key s = lookupIn key t) : s = t := by
  induction s generalizing t with
  | nil =>
      cases t with
      | nil => rfl
      | cons head rest =>
          obtain ⟨k, v⟩ := head
          have := h k
          simp [lookupIn] at this
  | cons head rest ih =>
      obtain ⟨k, v⟩ := head
      cases t with
      | nil =>
          have := h k
          simp [lookupIn] at this
      | cons head' rest' =>
          obtain ⟨k', v'⟩ := head'
          have hk : k = k' := by
            rcases Decidable.em (k = k') with e | ne
            · exact e
            · exfalso
              have h₁ : lookupIn k' rest = some v' := by
                have := h k'
                simpa [lookupIn, Ne.symm ne] using this
              have h₂ : lookupIn k rest' = some v := by
                have := h k
                simpa [lookupIn, ne] using this.symm
              have l₁ : k < k' := (List.pairwise_cons.1 hs).1 _ (mem_of_lookupIn h₁)
              have l₂ : k' < k := (List.pairwise_cons.1 ht).1 _ (mem_of_lookupIn h₂)
              exact Std.lt_irrefl (Std.lt_trans l₁ l₂)
          subst hk
          have hv : v = v' := by
            have := h k
            simpa [lookupIn] using this
          subst hv
          have tails : ∀ key, lookupIn key rest = lookupIn key rest' := by
            intro key
            rcases Decidable.em (key = k) with rfl | ne
            · rw [lookupIn_tail_of_pairwise hs, lookupIn_tail_of_pairwise ht]
            · have := h key
              simpa [lookupIn, ne] using this
          rw [ih (List.pairwise_cons.1 hs).2 (List.pairwise_cons.1 ht).2 tails]

/-- Tables are determined by their look-ups. -/
theorem ext_get? {s t : Table κ α} (h : ∀ key, s.get? key = t.get? key) : s = t := by
  obtain ⟨s, hs⟩ := s
  obtain ⟨t, ht⟩ := t
  congr 1
  exact entries_eq_of_lookupIn hs ht h

theorem insert_insert_self [DecidableLT κ] (t : Table κ α) (key : κ) (value : α) :
    (t.insert key value).insert key value = t.insert key value := by
  apply ext_get?
  intro other
  rw [get?_insert, get?_insert]
  split
  · rfl
  · rfl

end Ext

end Table

end Dialogue
