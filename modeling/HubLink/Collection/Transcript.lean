/-! # Transcripts

What a machine puts out while it takes inputs one after the other. Every output of a transcript
stands between the outputs on the inputs before and the outputs on the inputs after
(`transcript_split`). -/

namespace HubLink

/-! ## Where a member stands -/

section Split

variable {α : Type} {as bs pre pre' post post' : List α} {a b : α}

/-- A member of an append stands in the first list or in the second. -/
theorem split_append (h : as ++ bs = pre ++ a :: post) :
    (∃ mid, as = pre ++ a :: mid ∧ post = mid ++ bs) ∨
      ∃ mid, pre = as ++ mid ∧ bs = mid ++ a :: post := by
  obtain ⟨mid, hpre, hbs⟩ | ⟨mid, has, hbs⟩ := List.append_eq_append_iff.1 h
  · exact .inr ⟨mid, hpre, hbs⟩
  · cases mid with
    | nil => exact .inr ⟨[], by rw [has, List.append_nil, List.append_nil], hbs.symm⟩
    | cons a' mid =>
      obtain ⟨rfl, rfl⟩ := List.cons.inj hbs
      exact .inl ⟨mid, has, rfl⟩

/-- A member of the second of two lists, and not of the first, stands behind the first in their
append. -/
theorem split_append_of_notMem (h : as ++ bs = pre ++ a :: post) (ha : a ∉ as) :
    ∃ mid, pre = as ++ mid ∧ bs = mid ++ a :: post := by
  obtain ⟨mid, rfl, -⟩ | hmid := split_append h
  · simp at ha
  · exact hmid

/-- What stands in a list with one more member is that member or stood there before. -/
theorem split_concat (h : as ++ [b] = pre ++ a :: post) :
    (pre = as ∧ a = b ∧ post = []) ∨ ∃ post', post = post' ++ [b] ∧ as = pre ++ a :: post' := by
  obtain ⟨post', has, hpost⟩ | ⟨mid, rfl, hlast⟩ := split_append h
  · exact .inr ⟨post', hpost, has⟩
  · obtain ⟨rfl, hlast⟩ | ⟨_, -, hnil⟩ := List.cons_eq_append_iff.1 hlast
    · obtain ⟨rfl, rfl⟩ := List.cons.inj hlast
      exact .inl ⟨List.append_nil as, rfl, rfl⟩
    · simp at hnil

/-- Two members of a list are the same, or one stands before the other. -/
theorem split_split (h : pre ++ a :: post = pre' ++ b :: post') :
    (pre = pre' ∧ a = b ∧ post = post') ∨
      (∃ mid, pre' = pre ++ a :: mid ∧ post = mid ++ b :: post') ∨
      ∃ mid, pre = pre' ++ b :: mid ∧ post' = mid ++ a :: post := by
  obtain ⟨mid, hpre, hpost⟩ | ⟨mid, rfl, hrest⟩ := split_append h
  · exact .inr (.inr ⟨mid, hpre, hpost⟩)
  · cases mid with
    | nil =>
      obtain ⟨rfl, rfl⟩ := List.cons.inj hrest
      exact .inl ⟨(List.append_nil pre).symm, rfl, rfl⟩
    | cons c mid =>
      obtain ⟨rfl, rfl⟩ := List.cons.inj hrest
      exact .inr (.inl ⟨mid, rfl, rfl⟩)

end Split

/-! ## Outputs on inputs -/

variable {σ ι ω : Type} {next : σ → ι → σ} {out : σ → ι → List ω}

/-- What a machine in a state puts out on inputs. -/
def transcript (next : σ → ι → σ) (out : σ → ι → List ω) (s : σ) : List ι → List ω
  | [] => []
  | i :: rest => out s i ++ transcript next out (next s i) rest

theorem transcript_append (s : σ) (inputs inputs' : List ι) :
    transcript next out s (inputs ++ inputs') =
      transcript next out s inputs ++ transcript next out (inputs.foldl next s) inputs' := by
  induction inputs generalizing s with
  | nil => rfl
  | cons i inputs ih => exact (congrArg (_ ++ ·) (ih _)).trans (List.append_assoc ..).symm

/-- The outputs on one more input come last. -/
theorem transcript_concat (s : σ) (inputs : List ι) (i : ι) :
    transcript next out s (inputs ++ [i]) =
      transcript next out s inputs ++ out (inputs.foldl next s) i := by
  rw [transcript_append, transcript, transcript, List.append_nil]

/-- **Where an output stands in a transcript**: among the outputs on one of the inputs, between
those on the inputs before and those on the inputs after. -/
theorem transcript_split {s : σ} {inputs : List ι} {o : ω} {pre post : List ω}
    (h : transcript next out s inputs = pre ++ o :: post) :
    ∃ before i after earlier later, inputs = before ++ i :: after ∧
      out (before.foldl next s) i = earlier ++ o :: later ∧
      pre = transcript next out s before ++ earlier ∧
      post = later ++ transcript next out (next (before.foldl next s) i) after := by
  induction inputs generalizing s pre with
  | nil => simp [transcript] at h
  | cons i inputs ih =>
    rw [transcript] at h
    obtain ⟨later, hout, hpost⟩ | ⟨mid, hpre, hrest⟩ := split_append h
    · -- The output is one on the first input.
      exact ⟨[], i, inputs, pre, later, rfl, hout, rfl, hpost⟩
    · obtain ⟨before, i', after, earlier, later, rfl, hout, rfl, hpost⟩ := ih hrest
      refine ⟨i :: before, i', after, earlier, later, rfl, hout, ?_, hpost⟩
      rw [hpre, transcript, List.append_assoc]

end HubLink
