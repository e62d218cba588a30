/-! # Cutting lists

Cutting a list at separators, taking a fixed beginning off it, and looking for a list inside
another. Joining undoes cutting: `cut_eq_some_iff` for the first separator, `join_pieces` for
all of them; and cutting undoes joining (`pieces_intercalate`). Looking for a list finds it exactly
where it stands (`occursIn_iff`). -/

namespace HubLink.Text

variable {α : Type} [DecidableEq α]

/-- What stands before and after the first `sep`. -/
def cut (sep : α) : List α → Option (List α × List α)
  | [] => none
  | c :: rest =>
    if c = sep then some ([], rest)
    else (cut sep rest).map fun (before, after) => (c :: before, after)

/-- The pieces between the separators; one more than there are separators. -/
def pieces (sep : α) : List α → List (List α)
  | [] => [[]]
  | c :: rest =>
    if c = sep then [] :: pieces sep rest
    else
      match pieces sep rest with
      | [] => [[c]]
      | piece :: more => (c :: piece) :: more

/-- What follows `lead` in a list that starts with it. -/
def afterLead : List α → List α → Option (List α)
  | [], l => some l
  | _ :: _, [] => none
  | a :: lead, c :: l => if a = c then afterLead lead l else none

/-- Whether `part` stands somewhere in a list without interruption. -/
def occursIn (part : List α) : List α → Bool
  | [] => part.isEmpty
  | c :: l => (afterLead part (c :: l)).isSome || occursIn part l

/-- The list without the elements passing `p` at its two ends. -/
def trimBy (p : α → Bool) (l : List α) : List α :=
  (((l.dropWhile p).reverse).dropWhile p).reverse

/-- Cutting finds the only way to write a list as a part without `sep`, then `sep`, then a rest. -/
theorem cut_eq_some_iff {sep : α} {l before after : List α} :
    cut sep l = some (before, after) ↔ l = before ++ sep :: after ∧ sep ∉ before := by
  induction l generalizing before with
  | nil => simp [cut]
  | cons c rest ih =>
    rw [cut]
    split
    · rename_i h
      subst h
      cases before with
      | nil => simp [eq_comm]
      | cons b before => simp; intro h; simp [h]
    · rename_i h
      rw [Option.map_eq_some_iff]
      cases before with
      | nil => simp [h]
      | cons b before =>
        constructor
        · rintro ⟨⟨x, y⟩, hc, he⟩
          obtain ⟨rfl, rfl⟩ : x = before ∧ y = after := by simp_all
          obtain ⟨rfl, hx⟩ := ih.1 hc
          obtain rfl : c = b := by simp_all
          simp [hx, Ne.symm h]
        · rintro ⟨he, hn⟩
          rw [List.cons_append, List.cons.injEq] at he
          obtain ⟨rfl, rfl⟩ := he
          exact ⟨(before, after), ih.2 ⟨rfl, fun hm => hn (by simp [hm])⟩, rfl⟩

/-- A list without the separator is not cut. -/
theorem cut_eq_none_iff {sep : α} {l : List α} : cut sep l = none ↔ sep ∉ l := by
  induction l with
  | nil => simp [cut]
  | cons c rest ih =>
    rw [cut]
    split
    · rename_i h; simp [h]
    · rename_i h; simp [ih, Ne.symm h]

theorem pieces_ne_nil (sep : α) (l : List α) : pieces sep l ≠ [] := by
  cases l with
  | nil => simp [pieces]
  | cons c rest =>
    rw [pieces]
    split
    · simp
    · split <;> simp

/-- Joining the pieces by the separator gives the list back. -/
theorem join_pieces (sep : α) (l : List α) : [sep].intercalate (pieces sep l) = l := by
  induction l with
  | nil => simp [pieces]
  | cons c rest ih =>
    rw [pieces]
    have hne := pieces_ne_nil sep rest
    split
    · rename_i h
      subst h
      cases hp : pieces c rest with
      | nil => exact absurd hp hne
      | cons piece more =>
        rw [hp] at ih
        simpa [List.intercalate, List.intersperse] using ih
    · cases hp : pieces sep rest with
      | nil => exact absurd hp hne
      | cons piece more =>
        rw [hp] at ih
        cases more with
        | nil => simpa [List.intercalate, List.intersperse] using ih
        | cons p more => simpa [List.intercalate, List.intersperse] using ih

/-- A list without the separator is one piece. -/
theorem pieces_of_not_mem {sep : α} {l : List α} (h : sep ∉ l) : pieces sep l = [l] := by
  induction l with
  | nil => rfl
  | cons c rest ih =>
    rw [List.mem_cons, not_or] at h
    rw [pieces, if_neg (Ne.symm h.1), ih h.2]

/-- Cutting at a separator that was put between two lists cuts both. -/
theorem pieces_append (sep : α) (before after : List α) :
    pieces sep (before ++ sep :: after) = pieces sep before ++ pieces sep after := by
  induction before with
  | nil =>
    change pieces sep (sep :: after) = [] :: pieces sep after
    rw [pieces, if_pos rfl]
  | cons c before ih =>
    rw [List.cons_append, pieces, pieces, ih]
    split
    · rfl
    · cases hpieces : pieces sep before with
      | nil => exact absurd hpieces (pieces_ne_nil sep before)
      | cons piece more => rfl

/-- What stands before the first separator is the first piece. -/
theorem pieces_append_cons {sep : α} {before : List α} (h : sep ∉ before) (after : List α) :
    pieces sep (before ++ sep :: after) = before :: pieces sep after := by
  rw [pieces_append, pieces_of_not_mem h, List.singleton_append]

/-- Cutting at the separator undoes joining by it. -/
theorem pieces_intercalate {sep : α} {parts : List (List α)} (hne : parts ≠ [])
    (h : ∀ part ∈ parts, sep ∉ part) : pieces sep ([sep].intercalate parts) = parts := by
  induction parts with
  | nil => exact absurd rfl hne
  | cons part more ih =>
    have hpart := h part List.mem_cons_self
    cases more with
    | nil => simpa [List.intercalate, List.intersperse] using pieces_of_not_mem hpart
    | cons next more =>
      have hjoin : [sep].intercalate (part :: next :: more) =
          part ++ sep :: [sep].intercalate (next :: more) := by
        simp [List.intercalate, List.intersperse]
      rw [hjoin, pieces_append_cons hpart, ih (by simp) fun p hp => h p (List.mem_cons_of_mem _ hp)]

/-- No piece has a separator. -/
theorem not_mem_of_mem_pieces {sep : α} {l piece : List α} (h : piece ∈ pieces sep l) :
    sep ∉ piece := by
  induction l generalizing piece with
  | nil => simp_all [pieces]
  | cons c rest ih =>
    rw [pieces] at h
    split at h
    · rcases List.mem_cons.1 h with rfl | h
      · exact List.not_mem_nil
      · exact ih h
    · rename_i hc
      cases hp : pieces sep rest with
      | nil => exact absurd hp (pieces_ne_nil sep rest)
      | cons first more =>
        rw [hp] at h ih
        rcases List.mem_cons.1 h with rfl | h
        · rw [List.mem_cons, not_or]
          exact ⟨Ne.symm hc, ih List.mem_cons_self⟩
        · exact ih (List.mem_cons_of_mem _ h)

/-- There is one piece more than there are separators. -/
theorem length_pieces (sep : α) (l : List α) : (pieces sep l).length = l.count sep + 1 := by
  induction l with
  | nil => rfl
  | cons c rest ih =>
    rw [pieces]
    split
    · rename_i h
      rw [List.length_cons, ih, h, List.count_cons_self]
    · rename_i h
      rw [List.count_cons_of_ne h]
      cases hp : pieces sep rest with
      | nil => exact absurd hp (pieces_ne_nil sep rest)
      | cons piece more =>
        rw [hp] at ih
        exact ih

/-- No piece is longer than the list. -/
theorem length_le_of_mem_pieces {sep : α} {l piece : List α} (h : piece ∈ pieces sep l) :
    piece.length ≤ l.length := by
  induction l generalizing piece with
  | nil => simp_all [pieces]
  | cons c rest ih =>
    rw [pieces] at h
    split at h
    · rcases List.mem_cons.1 h with rfl | h
      · simp
      · exact Nat.le_succ_of_le (ih h)
    · cases hp : pieces sep rest with
      | nil => exact absurd hp (pieces_ne_nil sep rest)
      | cons first more =>
        rw [hp] at h ih
        rcases List.mem_cons.1 h with rfl | h
        · exact Nat.succ_le_succ (ih List.mem_cons_self)
        · exact Nat.le_succ_of_le (ih (List.mem_cons_of_mem _ h))

/-- Taking a beginning off a list is the only way to write the list with that beginning. -/
theorem afterLead_eq_some_iff {lead l rest : List α} :
    afterLead lead l = some rest ↔ l = lead ++ rest := by
  induction lead generalizing l with
  | nil => simp [afterLead]
  | cons a lead ih =>
    cases l with
    | nil => simp [afterLead]
    | cons c l =>
      rw [afterLead, List.cons_append, List.cons.injEq]
      split
      · rename_i h
        rw [ih, and_iff_right h.symm]
      · rename_i h
        simp [Ne.symm h]

/-- A list that starts differently has no such beginning. -/
theorem afterLead_eq_none_iff {lead l : List α} :
    afterLead lead l = none ↔ ¬lead <+: l := by
  rw [Option.eq_none_iff_forall_ne_some]
  simp only [ne_eq, afterLead_eq_some_iff, List.IsPrefix, not_exists]
  exact forall_congr' fun _ => not_congr eq_comm

/-- Lists with different first elements do not start alike. -/
theorem afterLead_cons_of_ne {a b : α} (h : a ≠ b) (lead rest : List α) :
    afterLead (a :: lead) (b :: rest) = none := by
  rw [afterLead, if_neg h]

/-- Nor do lists that differ after some common elements. -/
theorem afterLead_append_of_ne {a b : α} (h : a ≠ b) (common lead rest : List α) :
    afterLead (common ++ a :: lead) (common ++ b :: rest) = none := by
  induction common with
  | nil => exact afterLead_cons_of_ne h lead rest
  | cons c common ih => rw [List.cons_append, List.cons_append, afterLead, if_pos rfl, ih]

/-- A list stands in another exactly if the other goes on from it somewhere. -/
theorem occursIn_iff {part l : List α} : occursIn part l = true ↔ part <:+: l := by
  induction l with
  | nil => rw [occursIn, List.isEmpty_iff, List.infix_nil]
  | cons c l ih =>
    have hlead : (afterLead part (c :: l)).isSome = true ↔ part <+: c :: l := by
      rw [← Option.ne_none_iff_isSome, ne_eq, afterLead_eq_none_iff, Decidable.not_not]
    rw [occursIn, Bool.or_eq_true, hlead, ih, List.infix_cons_iff]

/-- Elements that cannot begin it do not matter. -/
theorem occursIn_append_of_not_mem {a : α} {l : List α} (h : a ∉ l) (part rest : List α) :
    occursIn (a :: part) (l ++ rest) = occursIn (a :: part) rest := by
  induction l with
  | nil => rfl
  | cons c l ih =>
    rw [List.mem_cons, not_or] at h
    rw [List.cons_append, occursIn, afterLead_cons_of_ne h.1, Option.isSome_none, Bool.false_or,
      ih h.2]

end HubLink.Text
