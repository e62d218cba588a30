import HubLink.Proofs.Connection.Deferring
import Mathlib.Data.List.Induction
import Mathlib.Data.List.Perm.Subperm

/-! # In which order inbound messages are settled

What a worker carries out of the requests to settle inbound messages, and behind it what it puts
off, keeps its order from one input to the next (`Worker.docket_concat`). So a request overtakes an
earlier one exactly if that was put off before the link got busy with what it does when the request
comes (`Worker.pair_settled_iff`): the request comes while the link sends, and the earlier one came
while it connected and has not been carried out meanwhile (`Worker.settled_in_order_iff`). -/

namespace HubLink

/-! ## The order of two members -/

section Pairs

variable {α : Type} {a b : α} {xs ys zs : List α}

/-- Others in between do not matter to the order of two members. -/
theorem pair_of_inserted (h : [a, b].Sublist (xs ++ (ys ++ zs))) (ha : a ∉ ys) (hb : b ∉ ys) :
    [a, b].Sublist (xs ++ zs) := by
  classical
  have hfiltered := h.filter (fun c => decide (c ∉ ys))
  have hys : ys.filter (fun c => decide (c ∉ ys)) = [] := by
    rw [List.filter_eq_nil_iff]
    intro c hc
    simpa using hc
  rw [List.filter_append, List.filter_append, hys, List.nil_append] at hfiltered
  simp only [List.filter_cons, ha, hb, not_false_eq_true, decide_true, ↓reduceIte,
    List.filter_nil] at hfiltered
  exact hfiltered.trans (List.filter_sublist.append List.filter_sublist)

/-- What precedes a member that occurs once stands before it. -/
theorem mem_left_of_pair (h : [a, b].Sublist (xs ++ b :: ys)) (hx : b ∉ xs) (hy : b ∉ ys) :
    a ∈ xs := by
  obtain ⟨us, vs, heq, hus, hvs⟩ := List.sublist_append_iff.1 h
  match us, heq with
  | [], heq =>
    rw [List.nil_append] at heq
    rw [← heq, List.cons_sublist_cons'] at hvs
    obtain hvs | ⟨-, hvs⟩ := hvs
    · exact absurd (hvs.subset (by simp)) hy
    · exact absurd (hvs.subset (by simp)) hy
  | [c], heq =>
    obtain ⟨rfl, -⟩ := List.cons.inj heq
    exact hus.subset (by simp)
  | c :: d :: _, heq =>
    obtain ⟨-, heq⟩ := List.cons.inj heq
    obtain ⟨rfl, -⟩ := List.cons.inj heq
    exact absurd (hus.subset (by simp)) hx

/-- What follows a member that occurs once stands behind it. -/
theorem mem_right_of_pair (h : [b, a].Sublist (xs ++ b :: ys)) (hx : b ∉ xs) : a ∈ ys := by
  obtain ⟨us, vs, heq, hus, hvs⟩ := List.sublist_append_iff.1 h
  match us, heq with
  | [], heq =>
    rw [List.nil_append] at heq
    rw [← heq, List.cons_sublist_cons'] at hvs
    obtain hvs | ⟨-, hvs⟩ := hvs
    · exact hvs.subset (by simp)
    · exact hvs.subset (by simp)
  | c :: _, heq =>
    obtain ⟨rfl, -⟩ := List.cons.inj heq
    exact absurd (hus.subset (by simp)) hx

/-- Two members stand in one order or the other. -/
theorem pair_or_pair (ha : a ∈ xs) (hb : b ∈ xs) (hne : a ≠ b) :
    [a, b].Sublist xs ∨ [b, a].Sublist xs := by
  obtain ⟨us, vs, rfl⟩ := List.append_of_mem ha
  rw [List.mem_append, List.mem_cons] at hb
  obtain hb | rfl | hb := hb
  · exact .inr ((List.singleton_sublist.2 hb).append
      (List.singleton_sublist.2 (List.mem_cons_self ..)))
  · exact absurd rfl hne
  · exact .inl (((List.singleton_sublist.2 hb).cons_cons a).trans (List.sublist_append_right _ _))

end Pairs

/-! ## Runs -/

/-- The request that is carried out. -/
def Occurrence.settled? : Occurrence → Option SettleRequest
  | .did e => e.settle?
  | .took .. => none

namespace History

/-- The requests that were carried out, in order. -/
def settled (h : List Occurrence) : List SettleRequest := h.filterMap (·.settled?)

@[simp] theorem settled_append (h k : List Occurrence) :
    settled (h ++ k) = settled h ++ settled k :=
  List.filterMap_append

theorem settled_took (h : List Occurrence) (w : Worker) (now : Nat) (input : Input) (t : Turn) :
    settled (h ++ .took w now input :: t.effects.map .did) = settled h ++ t.settled := by
  rw [settled_append]
  exact congrArg (settled h ++ ·) (List.filterMap_map ..)

end History

namespace Worker

/-- The request of one input. -/
theorem settlements_singleton (now : Nat) (input : Input) :
    Inputs.settlements [(now, input)] = input.settle?.toList := by
  cases hinput : input.settle? <;> simp [Inputs.settlements, hinput]

/-- If requests are told apart, one of them comes neither before nor after, and none comes both before
and after. -/
theorem settlements_split {now : Nat} {request : SettleRequest} {before after : List (Nat × Input)}
    (hn : (Inputs.settlements (before ++ (now, .command (.settle request)) :: after)).Nodup) :
    (Inputs.settlements before).Nodup ∧ request ∉ Inputs.settlements before ∧
      request ∉ Inputs.settlements after ∧
        ∀ r ∈ Inputs.settlements before, r ∉ Inputs.settlements after := by
  have hsettle : Inputs.settlements [(now, .command (.settle request))] = [request] := rfl
  rw [← List.singleton_append, Inputs.settlements_append, Inputs.settlements_append, hsettle,
    List.singleton_append, List.nodup_append, List.nodup_cons] at hn
  obtain ⟨hbefore, ⟨hafter, -⟩, hapart⟩ := hn
  exact ⟨hbefore, fun hmem => hapart _ hmem _ (List.mem_cons_self ..) rfl, hafter,
    fun r hr hr' => hapart r hr r (List.mem_cons_of_mem _ hr') rfl⟩

/-- What was carried out in a run and, behind it, what is put off. -/
def docket (w : Worker) (inputs : List (Nat × Input)) : List SettleRequest :=
  History.settled (w.history inputs) ++ ((w.after inputs).deferred ++ (w.after inputs).leftover)

section Runs

variable {terms : Terms} {inputs : List (Nat × Input)}

/-- Requests are arranged in every run, and one more input keeps their order. -/
theorem arranged_of_run (terms : Terms) (inputs : List (Nat × Input)) :
    ((new terms).after inputs).Arranged ((new terms).history inputs) := by
  induction inputs using List.reverseRecOn with
  | nil => exact ⟨by rintro ⟨⟩, by rintro ⟨⟩, by rintro _ ⟨⟩, by rintro ⟨⟩, by rintro _ ⟨⟩⟩
  | append_singleton inputs i ih =>
    obtain ⟨now, input⟩ := i
    rw [after_concat, history_concat]
    cases takes : ((new terms).after inputs).takes input with
    | false => simpa [seen, takes, step_of_not_takes now takes] using ih
    | true =>
      rw [seen_of_takes takes, List.append_cons]
      exact (keepsOrder_step ih now takes).arranged.mono (List.subset_append_left _ _)

/-- **One more input keeps the order of the requests**, with the one that comes behind what was
carried out and what came since the link is busy. -/
theorem docket_concat (terms : Terms) (inputs : List (Nat × Input)) (now : Nat) (input : Input) :
    ((new terms).docket (inputs ++ [(now, input)])).Sublist
      (History.settled ((new terms).history inputs) ++ ((new terms).after inputs).deferred ++
        (input.settle?.toList ++ ((new terms).after inputs).leftover)) := by
  rw [docket, after_concat, history_concat]
  cases takes : ((new terms).after inputs).takes input with
  | false =>
    rw [seen, takes, step_of_not_takes now takes, if_neg Bool.false_ne_true, List.append_nil,
      List.append_assoc]
    exact (List.Sublist.refl _).append
      ((List.Sublist.refl _).append (List.sublist_append_right _ _))
  | true =>
    rw [seen_of_takes takes, History.settled_took, List.append_assoc, List.append_assoc]
    exact (List.Sublist.refl _).append
      (keepsOrder_step (arranged_of_run terms inputs) now takes).ordered

/-- **What was carried out and put off was asked for**, each request as often. -/
theorem docket_subperm (terms : Terms) (inputs : List (Nat × Input)) :
    List.Subperm ((new terms).docket inputs) (Inputs.settlements inputs) := by
  induction inputs using List.reverseRecOn with
  | nil => exact List.nil_subperm
  | append_singleton inputs i ih =>
    obtain ⟨now, input⟩ := i
    rw [docket, ← List.append_assoc] at ih
    rw [Inputs.settlements_append, settlements_singleton]
    refine (docket_concat terms inputs now input).subperm.trans ?_
    -- The new request may as well stand last.
    refine (List.Perm.append_left _ List.perm_append_comm).subperm.trans ?_
    rw [← List.append_assoc]
    exact (List.subperm_append_right _).2 ih

/-- A request that came before was carried out or put off before, if it ever is. -/
theorem mem_docket_of_later {a : SettleRequest} {later : List (Nat × Input)}
    (ha : a ∉ Inputs.settlements later) (h : a ∈ (new terms).docket (inputs ++ later)) :
    a ∈ (new terms).docket inputs := by
  induction later using List.reverseRecOn with
  | nil =>
    rw [List.append_nil] at h
    exact h
  | append_singleton later i ih =>
    obtain ⟨now, input⟩ := i
    rw [Inputs.settlements_append, List.mem_append, not_or, settlements_singleton] at ha
    refine ih ha.1 ?_
    rw [← List.append_assoc] at h
    have hmem := (docket_concat terms (inputs ++ later) now input).subset h
    rw [docket]
    simp only [List.mem_append] at hmem ⊢
    tauto

/-- If requests are told apart, each is carried out or put off once. -/
theorem nodup_docket (hn : (Inputs.settlements inputs).Nodup) :
    ((new terms).docket inputs).Nodup := by
  obtain ⟨_, hperm, hsub⟩ := docket_subperm terms inputs
  exact hperm.nodup_iff.1 (hn.sublist hsub)

/-- **Later inputs keep the order** of two requests that came before. -/
theorem pair_docket_of_later {a b : SettleRequest} {later : List (Nat × Input)}
    (ha : a ∉ Inputs.settlements later) (hb : b ∉ Inputs.settlements later)
    (h : [a, b].Sublist ((new terms).docket (inputs ++ later))) :
    [a, b].Sublist ((new terms).docket inputs) := by
  induction later using List.reverseRecOn with
  | nil =>
    rw [List.append_nil] at h
    exact h
  | append_singleton later i ih =>
    obtain ⟨now, input⟩ := i
    rw [Inputs.settlements_append, List.mem_append, not_or, settlements_singleton] at ha hb
    refine ih ha.1 hb.1 ?_
    rw [← List.append_assoc] at h
    have hinserted := h.trans (docket_concat terms (inputs ++ later) now input)
    rw [docket, ← List.append_assoc]
    exact pair_of_inserted hinserted ha.2 hb.2

/-- Two requests are carried out in the order in which they stand when the latter has come: behind
what was carried out and what came since the link is busy. -/
theorem pair_of_settled {x y b : SettleRequest} {now : Nat} {before after : List (Nat × Input)}
    (hn : (Inputs.settlements (before ++ (now, .command (.settle b)) :: after)).Nodup)
    (hx : x = b ∨ x ∈ Inputs.settlements before) (hy : y = b ∨ y ∈ Inputs.settlements before)
    (h : [x, y].Sublist (History.settled
      ((new terms).history (before ++ (now, .command (.settle b)) :: after)))) :
    [x, y].Sublist (History.settled ((new terms).history before) ++
      ((new terms).after before).deferred ++ b :: ((new terms).after before).leftover) := by
  obtain ⟨-, -, hafter, hapart⟩ := settlements_split hn
  rw [List.append_cons] at h
  -- Neither comes again afterwards.
  have hlater {r : SettleRequest} (hr : r = b ∨ r ∈ Inputs.settlements before) :
      r ∉ Inputs.settlements after := by
    obtain rfl | hr := hr
    · exact hafter
    · exact hapart r hr
  refine List.Sublist.trans ?_ (docket_concat terms before now (.command (.settle b)))
  exact pair_docket_of_later (hlater hx) (hlater hy) (h.trans (List.sublist_append_left _ _))

/-- **Two requests are carried out in the order they came**, unless the former was put off before
the link got busy with what it does when the latter comes. -/
theorem pair_settled_iff {a b : SettleRequest} {now : Nat} {before after : List (Nat × Input)}
    (hn : (Inputs.settlements (before ++ (now, .command (.settle b)) :: after)).Nodup)
    (hasked : a ∈ Inputs.settlements before)
    (hadone : a ∈ History.settled
      ((new terms).history (before ++ (now, .command (.settle b)) :: after)))
    (hbdone : b ∈ History.settled
      ((new terms).history (before ++ (now, .command (.settle b)) :: after))) :
    [a, b].Sublist (History.settled
        ((new terms).history (before ++ (now, .command (.settle b)) :: after))) ↔
      a ∉ ((new terms).after before).leftover := by
  -- The latter request comes once, so it is neither carried out nor put off before.
  obtain ⟨hbefore, hnew, -⟩ := settlements_split hn
  have hdistinct : ((new terms).docket before).Nodup := nodup_docket hbefore
  have hdocket : b ∉ (new terms).docket before := fun hmem =>
    hnew ((docket_subperm terms before).subset hmem)
  rw [docket, ← List.append_assoc] at hdistinct hdocket
  rw [List.mem_append, not_or] at hdocket
  constructor
  · intro hordered
    have hleft :=
      mem_left_of_pair (pair_of_settled hn (.inr hasked) (.inl rfl) hordered) hdocket.1 hdocket.2
    exact List.disjoint_of_nodup_append hdistinct hleft
  · intro hleftover
    have hne : a ≠ b := by
      rintro rfl
      exact hnew hasked
    refine (pair_or_pair hadone hbdone hne).resolve_right fun hreversed => hleftover ?_
    exact mem_right_of_pair (pair_of_settled hn (.inl rfl) (.inr hasked) hreversed) hdocket.1

/-- A request is taken once. -/
theorem eq_of_took {v v' : Worker} {now now' : Nat} {request : SettleRequest}
    {pre post : List Occurrence} (hn : (Inputs.settlements inputs).Nodup)
    (hsplit : (new terms).history inputs = pre ++ .took v now (.command (.settle request)) :: post)
    (hmem : .took v' now' (.command (.settle request)) ∈ (new terms).history inputs) : v' = v := by
  rw [hsplit, List.mem_append, List.mem_cons] at hmem
  obtain ⟨before, after, rfl, rfl, rfl, -, rfl⟩ := history_split hsplit
  obtain ⟨-, hearlier, hlater, -⟩ := settlements_split hn
  obtain hmem | heq | hmem := hmem
  · exact absurd (Inputs.mem_settlements.2 ⟨now', mem_of_took hmem⟩) hearlier
  · exact (Occurrence.took.inj heq).1
  · rw [List.mem_append] at hmem
    obtain hdid | hmem := hmem
    · simp at hdid
    · exact absurd (Inputs.mem_settlements.2 ⟨now', mem_of_took hmem⟩) hlater

/-- A request is carried out only after it is taken. -/
theorem notMem_settled_of_took {v : Worker} {now : Nat} {request : SettleRequest}
    {pre post : List Occurrence} (hn : (Inputs.settlements inputs).Nodup)
    (hsplit :
      (new terms).history inputs = pre ++ .took v now (.command (.settle request)) :: post) :
    request ∉ History.settled pre := by
  obtain ⟨before, after, rfl, rfl, -⟩ := history_split hsplit
  obtain ⟨-, hearlier, -⟩ := settlements_split hn
  exact fun hmem => hearlier ((docket_subperm terms before).subset (List.mem_append_left _ hmem))

/-- **Which requests were put off before the link got busy with what it does**: while it sends,
those that came while it connected and that have not been carried out meanwhile. -/
theorem mem_leftover_iff {v : Worker} {now : Nat} {request : SettleRequest}
    {pre mid : List Occurrence} (hn : (Inputs.settlements inputs).Nodup)
    (hsplit : (new terms).history inputs = pre ++ .took v now (.command (.settle request)) :: mid)
    (hdocket : request ∈ (new terms).docket inputs) :
    request ∈ ((new terms).after inputs).leftover ↔
      v.isConnecting ∧ ((new terms).after inputs).isSending ∧ request ∉ History.settled mid := by
  have harranged := arranged_of_run terms inputs
  have hsettled : History.settled ((new terms).history inputs) =
      History.settled pre ++ History.settled mid := by
    rw [hsplit]
    exact History.settled_append ..
  constructor
  · intro hmem
    obtain ⟨v', now', htook, hconnecting⟩ := harranged.earlier request hmem
    obtain rfl := eq_of_took hn hsplit htook
    refine ⟨hconnecting, harranged.isSending_of_mem hmem, fun hmid => ?_⟩
    have hdistinct : ((new terms).docket inputs).Nodup := nodup_docket hn
    rw [docket, hsettled, ← List.append_assoc] at hdistinct
    refine List.disjoint_of_nodup_append hdistinct ?_ hmem
    exact List.mem_append_left _ (List.mem_append_right _ hmid)
  · rintro ⟨hconnecting, hsending, hmid⟩
    rw [docket, List.mem_append, List.mem_append, hsettled, List.mem_append] at hdocket
    obtain (hmem | hmem) | hmem | hmem := hdocket
    · exact absurd hmem (notMem_settled_of_took hn hsplit)
    · exact absurd hmem hmid
    · obtain ⟨v', now', htook, hdoing⟩ := harranged.sending hsending request hmem
      obtain rfl := eq_of_took hn hsplit htook
      rw [isConnecting_of_isSending hdoing] at hconnecting
      cases hconnecting
    · exact hmem

/-- **When requests are carried out in the order they came**: unless the latter comes while the link
sends, and the former came while it connected and has not been carried out meanwhile. -/
theorem settled_in_order_iff {v u : Worker} {now now' : Nat} {a b : SettleRequest}
    {pre mid post : List Occurrence} (hn : (Inputs.settlements inputs).Nodup)
    (hsplit : (new terms).history inputs = pre ++ .took v now (.command (.settle a)) ::
      (mid ++ .took u now' (.command (.settle b)) :: post))
    (ha : a ∈ History.settled ((new terms).history inputs))
    (hb : b ∈ History.settled ((new terms).history inputs)) :
    [a, b].Sublist (History.settled ((new terms).history inputs)) ↔
      ¬(v.isConnecting ∧ u.isSending ∧ a ∉ History.settled mid) := by
  have hsplit' : (new terms).history inputs =
      (pre ++ .took v now (.command (.settle a)) :: mid) ++
        .took u now' (.command (.settle b)) :: post := by
    rw [hsplit, List.append_assoc, List.cons_append]
  obtain ⟨before, after, rfl, hbefore, rfl, -, -⟩ := history_split hsplit'
  have htook : .took v now (.command (.settle a)) ∈ (new terms).history before := by
    rw [← hbefore]
    simp
  have hasked : a ∈ Inputs.settlements before := Inputs.mem_settlements.2 ⟨now, mem_of_took htook⟩
  obtain ⟨hn', hnew, -, hapart⟩ := settlements_split hn
  have hlater : a ∉ Inputs.settlements ((now', .command (.settle b)) :: after) := by
    rw [← List.singleton_append, Inputs.settlements_append, List.mem_append, not_or]
    refine ⟨fun hmem => hnew ?_, hapart a hasked⟩
    rwa [← List.mem_singleton.1 hmem]
  have hdocket : a ∈ (new terms).docket before :=
    mem_docket_of_later hlater (List.mem_append_left _ ha)
  rw [pair_settled_iff hn hasked ha hb, mem_leftover_iff hn' hbefore.symm hdocket]

end Runs

end Worker

/-! ## A request that overtakes another

A request comes while the link connects, with a message to be sent over it. The next one comes while
the message is sent, and is carried out first. -/

namespace Overtaking

/-- A request that comes while the link connects. -/
def early : SettleRequest := ⟨⟨"7"⟩, .complete, 2⟩

/-- A request that comes while the link sends. -/
def late : SettleRequest := ⟨⟨"8"⟩, .complete, 3⟩

/-- What happens until the link connects, with a message to be sent over it. -/
def opening : List (Nat × Input) :=
  [(0, .command (.open 1)), (1, .command (.submit (Renewal.reading 1) 101 900))]

/-- What happens until the link sends the message. -/
def sending : List (Nat × Input) :=
  opening ++ [(2, .command (.settle early)), (3, .connected (.ok ()))]

/-- What happens altogether. -/
def inputs : List (Nat × Input) :=
  sending ++ [(4, .command (.settle late)), (5, .sent (.ok .awaiting))]

theorem settled_inputs :
    History.settled ((Worker.new Renewal.terms).history inputs) = [late, early] := by
  decide +kernel

/-- Where the requests stand in the history. -/
theorem history_inputs : (Worker.new Renewal.terms).history inputs =
    (Worker.new Renewal.terms).history opening ++
      .took ((Worker.new Renewal.terms).after opening) 2 (.command (.settle early)) ::
        ((((Worker.new Renewal.terms).after opening).step 2
            (.command (.settle early))).worker.history [(3, .connected (.ok ()))] ++
          .took ((Worker.new Renewal.terms).after sending) 4 (.command (.settle late)) ::
            (((Worker.new Renewal.terms).after sending).step 4
              (.command (.settle late))).worker.history [(5, .sent (.ok .awaiting))]) :=
  rfl

/-- The latter request overtakes the former. -/
theorem overtaken_inputs :
    (Inputs.settlements inputs).Nodup ∧
      ¬[early, late].Sublist (History.settled ((Worker.new Renewal.terms).history inputs)) := by
  have hn : (Inputs.settlements inputs).Nodup := by decide
  refine ⟨hn, ?_⟩
  rw [Worker.settled_in_order_iff hn history_inputs (by rw [settled_inputs]; decide)
    (by rw [settled_inputs]; decide), not_not]
  decide +kernel

end Overtaking

/-- **Requests are carried out in the order they came.** -/
def History.SettlesInOrder (h : List Occurrence) : Prop :=
  ∀ pre v now a mid u now' b post,
    h = pre ++ .took v now (.command (.settle a)) ::
      (mid ++ .took u now' (.command (.settle b)) :: post) →
    a ∈ settled h → b ∈ settled h → [a, b].Sublist (settled h)

open Overtaking in
/-- Not every worker carries out requests in the order they came. -/
theorem Worker.not_settlesInOrder_of_overtaking :
    ¬∀ terms inputs, (Inputs.settlements inputs).Nodup →
      History.SettlesInOrder ((new terms).history inputs) := by
  intro h
  have hordered := h Renewal.terms inputs (by decide) _ _ _ early _ _ _ late _ history_inputs
    (by rw [settled_inputs]; decide) (by rw [settled_inputs]; decide)
  rw [settled_inputs] at hordered
  exact absurd hordered (by decide)

end HubLink
