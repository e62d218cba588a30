import HubLink.Text.Split

/-! # White space

The characters with the Unicode property `White_Space`, and trimming and splitting by it. Trimming
finds the only way to read a text as a bare one with white space around it (`trim_eq_iff`). -/

namespace HubLink.Text

/-- The characters with the Unicode property `White_Space`. -/
def blanks : List Char :=
  ['\u0009', '\u000a', '\u000b', '\u000c', '\u000d', '\u0020', '\u0085', '\u00a0', '\u1680',
    '\u2000', '\u2001', '\u2002', '\u2003', '\u2004', '\u2005', '\u2006', '\u2007', '\u2008',
    '\u2009', '\u200a', '\u2028', '\u2029', '\u202f', '\u205f', '\u3000']

/-- Whether a character is white space. -/
def isBlank (c : Char) : Bool := blanks.contains c

/-- A text without the white space at its two ends. -/
def trim (l : List Char) : List Char := trimBy isBlank l

/-- A text that neither starts nor ends with white space. -/
def IsBare (l : List Char) : Prop :=
  (∀ c ∈ l.head?, isBlank c = false) ∧ ∀ c ∈ l.getLast?, isBlank c = false

/-- Nothing but white space stands around `t` in a text. -/
def IsPadded (l t : List Char) : Prop :=
  ∃ before after, l = before ++ t ++ after ∧ (∀ c ∈ before, isBlank c) ∧ ∀ c ∈ after, isBlank c

/-- White space around a text adds no other character. -/
theorem IsPadded.not_mem {l t : List Char} (h : IsPadded l t) {c : Char} (hc : isBlank c = false)
    (ht : c ∉ t) : c ∉ l := by
  obtain ⟨before, after, rfl, hbefore, hafter⟩ := h
  rw [List.mem_append, List.mem_append, not_or, not_or]
  refine ⟨⟨fun hmem => ?_, ht⟩, fun hmem => ?_⟩
  · rw [hbefore c hmem] at hc
    cases hc
  · rw [hafter c hmem] at hc
    cases hc

theorem dropWhile_isBlank_of_head? {l : List Char} (h : ∀ c ∈ l.head?, isBlank c = false) :
    l.dropWhile isBlank = l := by
  cases l with
  | nil => rfl
  | cons c rest => exact List.dropWhile_cons_of_neg (Bool.not_eq_true _ ▸ h c rfl)

theorem isBlank_of_head?_dropWhile {l : List Char} : ∀ c ∈ (l.dropWhile isBlank).head?,
    isBlank c = false := by
  intro c hc
  have h := List.head?_dropWhile_not isBlank l
  rw [Option.mem_def.1 hc] at h
  exact h

/-- **Trimming finds the bare text** that a text is with white space around it; there is one. -/
theorem trim_eq_iff {l t : List Char} : trim l = t ↔ IsBare t ∧ IsPadded l t := by
  constructor
  · rintro rfl
    have hstart : l.takeWhile isBlank ++ l.dropWhile isBlank = l := List.takeWhile_append_dropWhile
    have hend : trim l ++ ((l.dropWhile isBlank).reverse.takeWhile isBlank).reverse =
        l.dropWhile isBlank := by
      rw [trim, trimBy, ← List.reverse_append, List.takeWhile_append_dropWhile, List.reverse_reverse]
    refine ⟨⟨?_, ?_⟩, l.takeWhile isBlank,
      ((l.dropWhile isBlank).reverse.takeWhile isBlank).reverse, ?_, ?_, ?_⟩
    · -- What is left at both ends starts as what is left at the first.
      intro c hc
      refine isBlank_of_head?_dropWhile (l := l) c ?_
      rw [← hend, List.head?_append, Option.mem_def.1 hc]
      rfl
    · intro c hc
      rw [trim, trimBy, List.getLast?_reverse] at hc
      exact isBlank_of_head?_dropWhile c hc
    · rw [List.append_assoc, hend, hstart]
    · exact List.all_eq_true.1 List.all_takeWhile
    · intro c hc
      exact List.all_eq_true.1 List.all_takeWhile c (List.mem_reverse.1 hc)
  · rintro ⟨⟨hfirst, hlast⟩, before, after, rfl, hbefore, hafter⟩
    rw [trim, trimBy, List.append_assoc, List.dropWhile_append_of_pos hbefore]
    cases t with
    | nil =>
      have hnone : after.dropWhile isBlank = [] := by
        rw [← List.append_nil after, List.dropWhile_append_of_pos hafter, List.dropWhile_nil]
      rw [List.nil_append, hnone, List.reverse_nil, List.dropWhile_nil, List.reverse_nil]
    | cons c rest =>
      have hrest : ∀ d ∈ (c :: rest).reverse.head?, isBlank d = false := by
        rwa [List.head?_reverse]
      have hreverse : ∀ d ∈ after.reverse, isBlank d = true := fun d hd =>
        hafter d (List.mem_reverse.1 hd)
      rw [dropWhile_isBlank_of_head? (l := c :: rest ++ after) hfirst, List.reverse_append,
        List.dropWhile_append_of_pos hreverse, dropWhile_isBlank_of_head? hrest,
        List.reverse_reverse]

/-- A bare text is one that trimming leaves as it is. -/
theorem isBare_iff {l : List Char} : IsBare l ↔ trim l = l := by
  rw [trim_eq_iff, and_iff_left]
  exact ⟨[], [], by simp, by simp, by simp⟩

instance (l : List Char) : Decidable (IsBare l) := decidable_of_iff _ isBare_iff.symm

/-- A text of nothing but white space is trimmed away, and no other is. -/
theorem isEmpty_trim_iff {l : List Char} : (trim l).isEmpty = true ↔ ∀ c ∈ l, isBlank c = true := by
  rw [List.isEmpty_iff, trim_eq_iff]
  constructor
  · rintro ⟨-, before, after, rfl, hbefore, hafter⟩ c hc
    rw [List.append_nil, List.mem_append] at hc
    exact hc.elim (hbefore c) (hafter c)
  · exact fun h => ⟨⟨by simp, by simp⟩, l, [], by simp, h, by simp⟩

/-- A text without the white space it starts with. -/
def trimStart (l : List Char) : List Char := l.dropWhile isBlank

/-- The maximal parts of a text that are free of white space. -/
def words (l : List Char) : List (List Char) :=
  go [] l
where
  /-- `word` is the part read so far, last character first. -/
  go (word : List Char) : List Char → List (List Char)
    | [] => if word.isEmpty then [] else [word.reverse]
    | c :: rest =>
      if isBlank c then
        if word.isEmpty then go [] rest else word.reverse :: go [] rest
      else go (c :: word) rest

end HubLink.Text
