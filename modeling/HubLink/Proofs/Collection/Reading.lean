import HubLink.Collection.SortedMap
import Mathlib.Data.List.Induction
import Mathlib.Data.List.Sort

/-! # Readings of sorted maps

A sorted map is determined by what `get?` reads (`SortedMap.ext_get?`), and the listed keys are the
ones with a reading, in increasing order. It is also determined by its entries in any order
(`SortedMap.ofList_of_perm`), as long as they agree on what a key holds (`get?_ofList_iff`). Changes
of what different keys hold may be made in either order (`SortedMap.alter_comm`). -/

namespace HubLink.SortedMap

variable {κ α : Type} [LT κ]

/-- The listed keys increase strictly. -/
theorem keys_pairwise (m : SortedMap κ α) : m.keys.Pairwise (· < ·) :=
  List.pairwise_map.2 m.sorted

/-- No key is listed twice. -/
theorem keys_nodup [StrictTotal κ] (m : SortedMap κ α) : m.keys.Nodup := by
  refine m.keys_pairwise.imp ?_
  intro a b hab heq
  subst heq
  exact StrictTotal.irrefl a hab

variable [DecidableEq κ] [StrictTotal κ]

/-- A key is listed exactly when it has a reading. -/
theorem mem_keys {m : SortedMap κ α} {k : κ} : k ∈ m.keys ↔ (m.get? k).isSome := by
  rw [Option.isSome_iff_exists, keys, List.mem_map]
  constructor
  · rintro ⟨⟨k', x⟩, he, rfl⟩
    exact ⟨x, get?_eq_some_iff.2 he⟩
  · rintro ⟨x, hx⟩
    exact ⟨(k, x), get?_eq_some_iff.1 hx, rfl⟩

/-- **Maps with the same readings are equal.** Both list the same entries in the same order. -/
theorem ext_get? {m m' : SortedMap κ α} (h : ∀ k, m.get? k = m'.get? k) : m = m' := by
  have : Std.Irrefl (fun a b : κ × α => a.1 < b.1) := ⟨fun a => StrictTotal.irrefl a.1⟩
  have : IsTrans (κ × α) (fun a b => a.1 < b.1) := ⟨fun _ _ _ => StrictTotal.trans⟩
  have hentries : m.entries = m'.entries := by
    refine List.Pairwise.eq_of_mem_iff m.sorted m'.sorted fun e => ?_
    rw [← get?_eq_some_iff (k := e.1) (x := e.2), ← get?_eq_some_iff, h]
  cases m
  cases m'
  simpa using hentries

/-- An entry of a map is read at its key. -/
theorem get?_of_mem {m : SortedMap κ α} {e : κ × α} (h : e ∈ m.entries) :
    m.get? e.1 = some e.2 :=
  get?_eq_some_iff.2 h

variable [DecidableLT κ]

/-- Entries with different keys are all read after they have been stored one by one. -/
theorem get?_foldl_insert {l : List (κ × α)} (hl : (l.map (·.1)).Nodup) (m : SortedMap κ α)
    {k : κ} {x : α} :
    (l.foldl (fun m e => m.insert e.1 e.2) m).get? k = some x ↔
      (k, x) ∈ l ∨ k ∉ l.map (·.1) ∧ m.get? k = some x := by
  induction l generalizing m with
  | nil => simp
  | cons e l ih =>
    obtain ⟨hnew, hl⟩ := List.nodup_cons.1 hl
    rw [List.foldl_cons, ih hl, get?_insert]
    by_cases hk : e.1 = k
    · subst hk
      have hne : (e.1, x) ∉ l := fun h => hnew (List.mem_map_of_mem (f := (·.1)) h)
      simp_all [Prod.ext_iff, eq_comm]
    · have hne : ¬(k, x) = e := fun h => hk (h ▸ rfl)
      simp [hk, hne, Ne.symm hk]

/-- **A map is what its entries make**, in whatever order they are stored. -/
theorem ofList_of_perm {l : List (κ × α)} {m : SortedMap κ α} (h : l.Perm m.entries) :
    ofList l = m := by
  have hl : (l.map (·.1)).Nodup := (h.map Prod.fst).nodup_iff.2 m.keys_nodup
  refine ext_get? fun k => Option.ext fun x => ?_
  have hempty : (empty : SortedMap κ α).get? k = none := rfl
  rw [ofList, get?_foldl_insert hl, hempty, get?_eq_some_iff, h.mem_iff]
  simp

/-! ## Entries stored in any order -/

omit [DecidableEq κ] in
theorem ofList_concat (l : List (κ × α)) (e : κ × α) :
    ofList (l ++ [e]) = (ofList l).insert e.1 e.2 := by
  rw [ofList, List.foldl_append]
  rfl

/-- What is read was stored. -/
theorem mem_of_get?_ofList {l : List (κ × α)} {k : κ} {x : α} (h : (ofList l).get? k = some x) :
    (k, x) ∈ l := by
  induction l using List.reverseRecOn with
  | nil => cases h
  | append_singleton l e ih =>
    rw [ofList_concat, get?_insert] at h
    split at h
    · rename_i hk
      obtain rfl := Option.some.inj h
      exact List.mem_append_right _ (by simp [← hk])
    · exact List.mem_append_left _ (ih h)

/-- Whatever was stored under a key, something is read there. -/
theorem exists_get?_ofList {l : List (κ × α)} {k : κ} {x : α} (h : (k, x) ∈ l) :
    ∃ y, (ofList l).get? k = some y := by
  induction l using List.reverseRecOn with
  | nil => cases h
  | append_singleton l e ih =>
    rw [ofList_concat, get?_insert]
    split
    · exact ⟨_, rfl⟩
    · rename_i hk
      rcases List.mem_append.1 h with h | h
      · exact ih h
      · obtain rfl := List.mem_singleton.1 h
        exact absurd rfl hk

/-- **Entries that agree where their keys do are all read**, in whatever order they are stored. -/
theorem get?_ofList_iff {l : List (κ × α)}
    (hl : ∀ k x y, (k, x) ∈ l → (k, y) ∈ l → x = y) {k : κ} {x : α} :
    (ofList l).get? k = some x ↔ (k, x) ∈ l := by
  refine ⟨mem_of_get?_ofList, fun h => ?_⟩
  obtain ⟨y, hy⟩ := exists_get?_ofList h
  rw [hy, hl k x y h (mem_of_get?_ofList hy)]

/-- Such entries make the same map in any order. -/
theorem ofList_eq_of_mem_iff {l l' : List (κ × α)}
    (hl : ∀ k x y, (k, x) ∈ l → (k, y) ∈ l → x = y) (h : ∀ e, e ∈ l ↔ e ∈ l') :
    ofList l = ofList l' := by
  have hl' : ∀ k x y, (k, x) ∈ l' → (k, y) ∈ l' → x = y := fun k x y hx hy =>
    hl k x y ((h _).2 hx) ((h _).2 hy)
  refine ext_get? fun k => Option.ext fun x => ?_
  rw [get?_ofList_iff hl, get?_ofList_iff hl', h]

/-! ## Changing what one key holds -/

/-- Store a value under a key, or make the key hold none. -/
def alter (m : SortedMap κ α) (k : κ) : Option α → SortedMap κ α
  | some x => m.insert k x
  | none => m.erase k

/-- Reading after a change sees it at its key and the old values elsewhere. -/
@[simp] theorem get?_alter (m : SortedMap κ α) (k : κ) (x : Option α) (k' : κ) :
    (m.alter k x).get? k' = if k' = k then x else m.get? k' := by
  cases x with
  | none => exact get?_erase m k k'
  | some x =>
    rw [alter, get?_insert]
    by_cases h : k' = k
    · rw [if_pos h, if_pos h.symm]
    · rw [if_neg h, if_neg (Ne.symm h)]

/-- A key may be made to hold what it holds. -/
theorem alter_self (m : SortedMap κ α) (k : κ) : m.alter k (m.get? k) = m := by
  apply ext_get?
  intro k'
  rw [get?_alter]
  split
  · rename_i h
    rw [h]
  · rfl

/-- **Changes of different keys may be made in either order.** -/
theorem alter_comm (m : SortedMap κ α) {k k' : κ} (h : k ≠ k') (x x' : Option α) :
    (m.alter k x).alter k' x' = (m.alter k' x').alter k x := by
  apply ext_get?
  intro i
  simp only [get?_alter]
  by_cases hi : i = k
  · have hne : i ≠ k' := fun heq => h (hi.symm.trans heq)
    rw [if_neg hne, if_pos hi, if_pos hi]
  · rw [if_neg hi, if_neg hi]

/-- The entries after a change: what the key holds, and those of the others. -/
theorem entries_alter_perm (m : SortedMap κ α) (k : κ) (x : Option α) :
    (m.alter k x).entries.Perm (x.toList.map (k, ·) ++ (m.erase k).entries) := by
  cases x with
  | none => exact List.Perm.refl _
  | some x =>
    have hnodup (m : SortedMap κ α) : m.entries.Nodup := List.Nodup.of_map _ m.keys_nodup
    have hnew : (k, x) ∉ (m.erase k).entries := by
      rw [← get?_eq_some_iff, get?_erase, if_pos rfl]
      exact nofun
    show (m.alter k (some x)).entries.Perm ((k, x) :: (m.erase k).entries)
    rw [List.perm_ext_iff_of_nodup (hnodup _) (List.nodup_cons.2 ⟨hnew, hnodup _⟩)]
    rintro ⟨i, y⟩
    simp only [List.mem_cons, Prod.mk.injEq, ← get?_eq_some_iff, get?_alter, get?_erase]
    by_cases hi : i = k
    · simp [hi, eq_comm]
    · simp [hi]

end HubLink.SortedMap
