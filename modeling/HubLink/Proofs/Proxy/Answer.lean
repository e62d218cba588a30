import HubLink.Proxy
import HubLink.Proofs.Text.Utf8
import Mathlib.Data.List.Induction

/-! # Answers of a proxy, in pieces

An answer arrives in pieces as the network cuts it. What comes of it is told by its headers, which
end with the first empty line, and whoever cuts it has no say in that but one: the limit on the
length of the headers is looked at before a piece is read and not behind it. So headers that pass
the limit by two octets up to a whole piece are read or refused as the cuts fall, and all others end
the same for every cut (`Proxy.delivered_iff_ends`). -/

namespace HubLink.Proxy

open Text

variable {stream headers before rest : List UInt8} {pieces : List (List UInt8)}
  {outcome : Except Fault Unit}

/-! ## Headers -/

/-- The headers of an answer: what it starts with, up to the first empty line. -/
structure IsHeaders (headers stream : List UInt8) : Prop where
  /-- The answer starts with them. -/
  starts : headers <+: stream
  /-- An empty line ends them. -/
  ends : headersEnd <:+ headers
  /-- No empty line ends earlier. -/
  first : ¬headersEnd <:+: headers.dropLast

/-- An answer with an empty line has headers. -/
theorem exists_isHeaders (h : headersEnd <:+: stream) : ∃ headers, IsHeaders headers stream := by
  induction stream using List.reverseRecOn with
  | nil => simp [headersEnd] at h
  | append_singleton stream b ih =>
    by_cases hearlier : headersEnd <:+: stream
    · obtain ⟨headers, hheaders⟩ := ih hearlier
      exact ⟨headers, { hheaders with starts := hheaders.starts.trans (List.prefix_append _ _) }⟩
    · have hends := (List.infix_concat_iff.1 h).resolve_right hearlier
      exact ⟨stream ++ [b], List.prefix_rfl, hends, by rwa [List.dropLast_concat]⟩

/-- **What has been read of an answer has an empty line in it exactly if it has all headers.** -/
theorem IsHeaders.ended_iff (h : IsHeaders headers stream) (hbefore : before <+: stream) :
    headersEnd <:+: before ↔ headers <+: before := by
  refine ⟨fun hended => ?_, fun hstart => h.ends.isInfix.trans hstart.isInfix⟩
  rcases List.prefix_or_prefix_of_prefix h.starts hbefore with hstart | ⟨more, rfl⟩
  · exact hstart
  · -- An empty line in less than the headers would be an earlier one.
    rcases List.eq_nil_or_concat more with rfl | ⟨more, b, rfl⟩
    · exact (List.append_nil before).symm ▸ List.prefix_rfl
    · rw [List.concat_eq_append] at h
      refine absurd (hended.trans ?_) h.first
      rw [← List.append_assoc, List.dropLast_concat]
      exact (List.prefix_append _ _).isInfix

/-- An answer has no other headers. -/
theorem IsHeaders.eq {other : List UInt8} (h : IsHeaders headers stream)
    (hother : IsHeaders other stream) : headers = other := by
  have hle := (h.ended_iff hother.starts).1 hother.ends.isInfix
  have hge := (hother.ended_iff h.starts).1 h.ends.isInfix
  exact hle.eq_of_length_le hge.length_le

/-! ## The status -/

/-- Behind an end of line nothing belongs to the first line. -/
theorem firstLine_append (line rest : List Char) :
    firstLine (line ++ '\n' :: rest) = firstLine (line ++ ['\n']) := by
  have htake (rest : List Char) :
      (line ++ '\n' :: rest).takeWhile (· ≠ '\n') = line.takeWhile (· ≠ '\n') := by
    rw [List.takeWhile_append, List.takeWhile_cons_of_neg (by simp), List.append_nil]
    split
    · rename_i hlength
      exact ((List.takeWhile_prefix _).eq_of_length hlength).symm
    · rfl
  have hshort (rest : List Char) :
      (line.takeWhile (· ≠ '\n')).length < (line ++ '\n' :: rest).length := by
    have := (List.takeWhile_prefix (p := (· ≠ '\n')) (l := line)).length_le
    rw [List.length_append, List.length_cons]
    omega
  simp only [firstLine, htake, hshort, true_and]

/-- Octets behind the end of a line do not change the status, whatever they are. -/
theorem check_append (line rest : List UInt8) :
    check (line ++ 0x0a :: rest) = check (line ++ [0x0a]) := by
  have hend : String.utf8EncodeChar '\n' = [0x0a] := rfl
  have htext (rest : List UInt8) : Utf8.decodeLenient (line ++ 0x0a :: rest) =
      Utf8.decodeLenient line ++ '\n' :: Utf8.lenientFrom none rest := by
    have h := Utf8.lenientFrom_append_utf8EncodeChar none (by simp) line '\n' rest
    rwa [hend, List.singleton_append] at h
  simp only [check, status?, htext, firstLine_append _ (Utf8.lenientFrom none _)]

/-- Headers say the same with what follows them. -/
theorem IsHeaders.check_eq (h : IsHeaders headers stream) (hstart : headers <+: before) :
    check before = check headers := by
  obtain ⟨lines, rfl⟩ := h.ends
  obtain ⟨rest, rfl⟩ := hstart
  have hline (rest : List UInt8) : lines ++ headersEnd ++ rest =
      (lines ++ [0x0d, 0x0a, 0x0d]) ++ 0x0a :: rest := by simp [headersEnd]
  rw [hline, check_append, ← hline [], List.append_nil]

/-- Reading the status does not find an answer too long. -/
theorem check_ne_tooLarge (answer : List UInt8) : check answer ≠ .error tooLarge := by
  unfold check
  split
  · simp [malformed, tooLarge]
  · split
    · simp
    · split <;> simp [tooLarge]

/-! ## Reading -/

/-- What has been read decides nothing yet. -/
structure Undecided (before : List UInt8) : Prop where
  /-- It has no empty line. -/
  unended : ¬headersEnd <:+: before
  /-- It is not too long. -/
  short : before.length ≤ maxAnswer

/-- Neither did what was read before. -/
theorem Undecided.of_prefix {front : List UInt8} (h : Undecided before)
    (hfront : front <+: before) : Undecided front :=
  ⟨fun hended => h.unended (hended.trans hfront.isInfix), Nat.le_trans hfront.length_le h.short⟩

/-- An empty line ends the reading. -/
theorem readAnswer_of_ended (h : headersEnd <:+: before) (pieces : List (List UInt8)) :
    readAnswer before pieces = check before := by
  cases pieces <;> rw [readAnswer, if_pos (occursIn_iff.2 h)]

/-- So does too much without one. -/
theorem readAnswer_of_long (h : ¬headersEnd <:+: before) (hlong : maxAnswer < before.length)
    (pieces : List (List UInt8)) : readAnswer before pieces = .error tooLarge := by
  cases pieces <;> rw [readAnswer, if_neg (mt occursIn_iff.1 h), if_pos hlong]

/-- So does the end of the stream. -/
theorem Undecided.readAnswer_nil (h : Undecided before) :
    readAnswer before [] = .error closedEarly := by
  rw [readAnswer, if_neg (mt occursIn_iff.1 h.unended), if_neg (Nat.not_lt.2 h.short)]

/-- Nothing else does. -/
theorem Undecided.readAnswer_cons (h : Undecided before) {piece : List UInt8} (hpiece : piece ≠ [])
    (pieces : List (List UInt8)) :
    readAnswer before (piece :: pieces) = readAnswer (before ++ piece) pieces := by
  rw [readAnswer, if_neg (mt occursIn_iff.1 h.unended), if_neg (Nat.not_lt.2 h.short),
    if_neg (by simpa using hpiece)]

/-- Pieces are read one after the other while nothing is decided. -/
theorem Undecided.readAnswer_append (h : Undecided (before ++ pieces.flatten))
    (hne : ∀ piece ∈ pieces, piece ≠ []) (more : List (List UInt8)) :
    readAnswer before (pieces ++ more) = readAnswer (before ++ pieces.flatten) more := by
  induction pieces generalizing before with
  | nil => rw [List.nil_append, List.flatten_nil, List.append_nil]
  | cons piece pieces ih =>
    rw [List.flatten_cons, ← List.append_assoc] at h ⊢
    have hbefore : Undecided before :=
      h.of_prefix ((List.prefix_append _ _).trans (List.prefix_append _ _))
    rw [List.cons_append, hbefore.readAnswer_cons (hne piece List.mem_cons_self),
      ih h fun other hother => hne other (List.mem_cons_of_mem _ hother)]

/-- What is decided does not wait for more. -/
theorem readAnswer_of_not_undecided (h : ¬Undecided before) (pieces more : List (List UInt8)) :
    readAnswer before pieces = readAnswer before more := by
  by_cases hended : headersEnd <:+: before
  · rw [readAnswer_of_ended hended, readAnswer_of_ended hended]
  · have hlong : maxAnswer < before.length := Nat.lt_of_not_le fun hshort => h ⟨hended, hshort⟩
    rw [readAnswer_of_long hended hlong, readAnswer_of_long hended hlong]

/-- An outcome other than the end of the stream is final. -/
theorem readAnswer_append_of_ne (hne : ∀ piece ∈ pieces, piece ≠ [])
    (h : readAnswer before pieces ≠ .error closedEarly) (more : List (List UInt8)) :
    readAnswer before (pieces ++ more) = readAnswer before pieces := by
  induction pieces generalizing before with
  | nil =>
    have hbefore : ¬Undecided before := fun hbefore => h hbefore.readAnswer_nil
    exact readAnswer_of_not_undecided hbefore _ _
  | cons piece pieces ih =>
    by_cases hbefore : Undecided before
    · have hpiece := hne piece List.mem_cons_self
      rw [hbefore.readAnswer_cons hpiece] at h
      rw [List.cons_append, hbefore.readAnswer_cons hpiece, hbefore.readAnswer_cons hpiece,
        ih (fun other hother => hne other (List.mem_cons_of_mem _ hother)) h]
    · exact readAnswer_of_not_undecided hbefore _ _

/-! ## Deliveries -/

/-- An answer arrives in these pieces: none is empty, or longer than what is read at a time. -/
structure Delivers (pieces : List (List UInt8)) (stream : List UInt8) : Prop where
  /-- They are all of it. -/
  whole : pieces.flatten = stream
  /-- They are pieces that a read can give. -/
  sized : ∀ piece ∈ pieces, piece ≠ [] ∧ piece.length ≤ readLength

/-- What can come of an answer. -/
inductive Ends (stream : List UInt8) : Except Fault Unit → Prop
  /-- Its headers are read, be they longer than allowed by up to a piece. -/
  | read {headers : List UInt8} (h : IsHeaders headers stream)
    (hlength : headers.length ≤ maxAnswer + readLength) : Ends stream (check headers)
  /-- It is refused, if an octet too much can arrive before the headers end. -/
  | refused (hlong : maxAnswer < stream.length)
    (h : ∀ headers, IsHeaders headers stream → maxAnswer + 1 < headers.length) :
    Ends stream (.error tooLarge)
  /-- It ends while nothing is decided. -/
  | closed (h : Undecided stream) : Ends stream (.error closedEarly)

/-- What is decided is decided in one of these ways. -/
theorem ends_of_not_undecided (hbefore : before <+: stream)
    (hlength : before.length ≤ maxAnswer + readLength) (h : ¬Undecided before)
    (pieces : List (List UInt8)) : Ends stream (readAnswer before pieces) := by
  by_cases hended : headersEnd <:+: before
  · obtain ⟨headers, hheaders⟩ := exists_isHeaders (hended.trans hbefore.isInfix)
    have hread := (hheaders.ended_iff hbefore).1 hended
    rw [readAnswer_of_ended hended, hheaders.check_eq hread]
    exact .read hheaders (Nat.le_trans hread.length_le hlength)
  · have hlong : maxAnswer < before.length := Nat.lt_of_not_le fun hshort => h ⟨hended, hshort⟩
    rw [readAnswer_of_long hended hlong]
    refine .refused (Nat.lt_of_lt_of_le hlong hbefore.length_le) fun headers hheaders => ?_
    -- Both start the answer, so headers that were not read are longer than what was.
    by_contra hle
    have hread : headers <+: before :=
      List.prefix_of_prefix_length_le hheaders.starts hbefore (by omega)
    exact hended ((hheaders.ended_iff hbefore).2 hread)

/-- **Reading on ends in one of these ways**, however the rest is cut. -/
theorem ends_readAnswer (hwhole : before ++ pieces.flatten = stream)
    (hsized : ∀ piece ∈ pieces, piece ≠ [] ∧ piece.length ≤ readLength)
    (hlength : before.length ≤ maxAnswer + readLength) :
    Ends stream (readAnswer before pieces) := by
  induction pieces generalizing before with
  | nil =>
    rw [List.flatten_nil, List.append_nil] at hwhole
    subst hwhole
    by_cases hbefore : Undecided before
    · rw [hbefore.readAnswer_nil]
      exact .closed hbefore
    · exact ends_of_not_undecided List.prefix_rfl hlength hbefore _
  | cons piece pieces ih =>
    by_cases hbefore : Undecided before
    · obtain ⟨hpiece, hfits⟩ := hsized piece List.mem_cons_self
      rw [hbefore.readAnswer_cons hpiece]
      refine ih (by rwa [List.append_assoc, ← List.flatten_cons])
        (fun other hother => hsized other (List.mem_cons_of_mem _ hother)) ?_
      have hshort := hbefore.short
      rw [List.length_append]
      omega
    · exact ends_of_not_undecided ⟨_, hwhole⟩ hlength hbefore _

/-! ## Every outcome has a delivery -/

/-- The pieces of a stream that arrives octet by octet. -/
def singly (stream : List UInt8) : List (List UInt8) := stream.map fun b => [b]

theorem flatten_singly (stream : List UInt8) : (singly stream).flatten = stream := by
  induction stream with
  | nil => rfl
  | cons b stream ih => simpa [singly] using ih

theorem forall_mem_singly (stream : List UInt8) :
    ∀ piece ∈ singly stream, piece ≠ [] ∧ piece.length ≤ readLength := by
  simp [singly, readLength]

/-- Octet by octet, an answer is read as long as nothing is decided. -/
theorem Undecided.tunnel_singly (h : Undecided before) (more : List (List UInt8)) :
    tunnel (singly before ++ more) = readAnswer before more := by
  have hsingly : Undecided ([] ++ (singly before).flatten) := by
    rwa [flatten_singly, List.nil_append]
  have := hsingly.readAnswer_append (fun piece hpiece => (forall_mem_singly before piece hpiece).1)
    more
  rwa [flatten_singly, List.nil_append] at this

/-- A stream of which one piece arrives at once. -/
theorem delivers_burst {piece : List UInt8} (hpiece : piece ≠ [])
    (hfits : piece.length ≤ readLength) (before rest : List UInt8) :
    Delivers (singly before ++ piece :: singly rest) (before ++ piece ++ rest) where
  whole := by simp [flatten_singly]
  sized other hother := by
    rcases List.mem_append.1 hother with hother | hother
    · exact forall_mem_singly before other hother
    · rcases List.mem_cons.1 hother with rfl | hother
      · exact ⟨hpiece, hfits⟩
      · exact forall_mem_singly rest other hother

/-- There is no empty line before the headers end. -/
theorem no_end_of_isHeaders (hbefore : before <+: stream)
    (h : ∀ headers, IsHeaders headers stream → before.length < headers.length) :
    ¬headersEnd <:+: before := by
  intro hended
  obtain ⟨headers, hheaders⟩ := exists_isHeaders (hended.trans hbefore.isInfix)
  have hread := (hheaders.ended_iff hbefore).1 hended
  exact Nat.not_lt.2 hread.length_le (h headers hheaders)

/-- Headers are read if no more than allowed arrives first, and then the rest of them at once. -/
theorem IsHeaders.tunnel_burst {front piece : List UInt8} (h : IsHeaders (front ++ piece) stream)
    (hshort : front.length ≤ maxAnswer) (hpiece : piece ≠ []) (more : List (List UInt8)) :
    tunnel (singly front ++ piece :: more) = check (front ++ piece) := by
  have hstart : front <+: stream := (List.prefix_append front piece).trans h.starts
  have hundecided : Undecided front := by
    refine ⟨no_end_of_isHeaders hstart fun other hother => ?_, hshort⟩
    rw [← h.eq hother, List.length_append]
    exact Nat.lt_add_of_pos_right (List.length_pos_iff.2 hpiece)
  rw [hundecided.tunnel_singly, hundecided.readAnswer_cons hpiece,
    readAnswer_of_ended h.ends.isInfix]

/-- So headers that are at most a piece too long can be read. -/
theorem IsHeaders.exists_tunnel_eq (h : IsHeaders headers stream)
    (hlength : headers.length ≤ maxAnswer + readLength) :
    ∃ pieces, Delivers pieces stream ∧ tunnel pieces = check headers := by
  obtain ⟨rest, hrest⟩ := h.starts
  have hpos : 4 ≤ headers.length := h.ends.length_le
  have hroom : 0 < readLength := by decide
  -- All that is allowed, but the last octet if that is within it, arrives octet by octet.
  obtain ⟨front, piece, rfl, hfront⟩ : ∃ front piece, headers = front ++ piece ∧
      front.length = min (headers.length - 1) maxAnswer := by
    refine ⟨headers.take (min (headers.length - 1) maxAnswer), _,
      (List.take_append_drop _ _).symm, ?_⟩
    rw [List.length_take]
    omega
  rw [List.length_append] at hlength hfront hpos
  have hpiece : piece ≠ [] := List.ne_nil_of_length_pos (by omega)
  have hdelivers := delivers_burst hpiece (by omega) front rest
  rw [hrest] at hdelivers
  exact ⟨_, hdelivers, h.tunnel_burst (by omega) hpiece _⟩

/-- An answer that is too long with its headers open is refused octet by octet. -/
theorem tunnel_singly_of_long (hlong : maxAnswer < stream.length)
    (h : ∀ headers, IsHeaders headers stream → maxAnswer + 1 < headers.length) :
    tunnel (singly stream) = .error tooLarge := by
  obtain ⟨front, b, rest, rfl, hfront⟩ : ∃ front b rest, stream = front ++ b :: rest ∧
      front.length = maxAnswer :=
    ⟨stream.take maxAnswer, stream[maxAnswer], stream.drop (maxAnswer + 1),
      by rw [← List.drop_eq_getElem_cons, List.take_append_drop],
      by rw [List.length_take]; omega⟩
  have hstart : front ++ [b] <+: front ++ b :: rest := ⟨rest, by simp⟩
  have hended : ¬headersEnd <:+: front ++ [b] := by
    refine no_end_of_isHeaders hstart fun headers hheaders => ?_
    rw [List.length_append, hfront]
    exact h headers hheaders
  have hundecided : Undecided front :=
    ⟨fun hearlier => hended (hearlier.trans (List.prefix_append _ _).isInfix), Nat.le_of_eq hfront⟩
  have hsingly : singly (front ++ b :: rest) = singly front ++ [b] :: singly rest := by
    simp [singly]
  rw [hsingly, hundecided.tunnel_singly, hundecided.readAnswer_cons (by simp),
    readAnswer_of_long hended (by simp [hfront])]

/-- **Every outcome that an answer can have comes of some delivery of it.** -/
theorem exists_delivery_of_ends (h : Ends stream outcome) :
    ∃ pieces, Delivers pieces stream ∧ tunnel pieces = outcome := by
  have hsingly : Delivers (singly stream) stream := ⟨flatten_singly _, forall_mem_singly _⟩
  cases h with
  | read h hlength => exact h.exists_tunnel_eq hlength
  | refused hlong h => exact ⟨_, hsingly, tunnel_singly_of_long hlong h⟩
  | closed h =>
    have hclosed := h.tunnel_singly []
    rw [List.append_nil, h.readAnswer_nil] at hclosed
    exact ⟨_, hsingly, hclosed⟩

/-- An answer whose headers are within the limit, or more than a piece past it, has one outcome. -/
theorem Ends.eq {other : Except Fault Unit} (h : Ends stream outcome) (hother : Ends stream other)
    (hclear : ∀ headers, IsHeaders headers stream →
      headers.length ≤ maxAnswer + 1 ∨ maxAnswer + readLength < headers.length) :
    outcome = other := by
  have hread {headers : List UInt8} (h : IsHeaders headers stream)
      (hlength : headers.length ≤ maxAnswer + readLength) :
      ¬∀ headers, IsHeaders headers stream → maxAnswer + 1 < headers.length := by
    intro hlong
    have := hclear headers h
    have := hlong headers h
    omega
  cases h with
  | read h hlength =>
    cases hother with
    | read hother _ => rw [h.eq hother]
    | refused _ hlong => exact absurd hlong (hread h hlength)
    | closed hopen => exact absurd (h.ends.isInfix.trans h.starts.isInfix) hopen.unended
  | refused hlong h =>
    cases hother with
    | read hother hlength => exact absurd h (hread hother hlength)
    | refused => rfl
    | closed hopen => exact absurd hopen.short (Nat.not_le.2 hlong)
  | closed hopen =>
    cases hother with
    | read h _ => exact absurd (h.ends.isInfix.trans h.starts.isInfix) hopen.unended
    | refused hlong _ => exact absurd hopen.short (Nat.not_le.2 hlong)
    | closed => rfl

/-- **How an answer is cut matters for one kind of headers only.** What can come of an answer, over
all its deliveries, is told by its headers. What arrives behind a delivery changes nothing, unless
the delivery ended too early. And all deliveries of an answer come to the same exactly if its headers
do not pass the limit by two octets up to a whole piece. -/
theorem delivered_iff_ends (stream : List UInt8) :
    (∀ outcome, (∃ pieces, Delivers pieces stream ∧ tunnel pieces = outcome) ↔
      Ends stream outcome) ∧
    (∀ pieces more, Delivers pieces stream → tunnel pieces ≠ .error closedEarly →
      tunnel (pieces ++ more) = tunnel pieces) ∧
    ((∀ one other, Delivers one stream → Delivers other stream → tunnel one = tunnel other) ↔
      ∀ headers, IsHeaders headers stream →
        headers.length ≤ maxAnswer + 1 ∨ maxAnswer + readLength < headers.length) := by
  have hends {pieces} (h : Delivers pieces stream) : Ends stream (tunnel pieces) :=
    ends_readAnswer (by rw [List.nil_append, h.whole]) h.sized (by simp)
  refine ⟨fun outcome => ⟨?_, exists_delivery_of_ends⟩, fun pieces more hpieces hne => ?_, ?_, ?_⟩
  · rintro ⟨pieces, hpieces, rfl⟩
    exact hends hpieces
  · exact readAnswer_append_of_ne (fun piece hpiece => (hpieces.sized piece hpiece).1) hne more
  · intro hsame headers hheaders
    by_contra hwindow
    obtain ⟨one, hone, hread⟩ := hheaders.exists_tunnel_eq (by omega)
    have hlong : maxAnswer < stream.length := by
      have := hheaders.starts.length_le
      omega
    obtain ⟨other, hother, hrefused⟩ := exists_delivery_of_ends
      (.refused hlong fun found hfound => by rw [← hheaders.eq hfound]; omega)
    have hcheck := hread.symm.trans ((hsame one other hone hother).trans hrefused)
    exact check_ne_tooLarge headers hcheck
  · exact fun hclear one other hone hother => (hends hone).eq (hends hother) hclear

/-! ## Headers at the limit -/

/-- A first line and a field are headers. -/
theorem isHeaders_of_field {line field : List UInt8} (hline : 0x0d ∉ line) (hfield : 0x0d ∉ field)
    (hne : field ≠ []) :
    IsHeaders (line ++ 0x0d :: 0x0a :: field ++ headersEnd)
      (line ++ 0x0d :: 0x0a :: field ++ headersEnd) where
  starts := List.prefix_rfl
  ends := List.suffix_append _ _
  first := by
    have hdrop : (line ++ 0x0d :: 0x0a :: field ++ headersEnd).dropLast =
        line ++ 0x0d :: 0x0a :: (field ++ [0x0d, 0x0a, 0x0d]) := by
      rw [List.dropLast_append_of_ne_nil (by decide), List.append_assoc]
      rfl
    -- An empty line begins with one of the two carriage returns, and neither begins one.
    have hlead : afterLead headersEnd (0x0d :: 0x0a :: (field ++ [0x0d, 0x0a, 0x0d])) = none := by
      cases field with
      | nil => exact absurd rfl hne
      | cons b field =>
        have hb : 0x0d ≠ b := fun h => hfield (h ▸ List.mem_cons_self)
        exact afterLead_append_of_ne hb [0x0d, 0x0a] _ _
    have hrest : occursIn headersEnd (0x0a :: field ++ [0x0d, 0x0a, 0x0d]) = false := by
      rw [headersEnd, occursIn_append_of_not_mem (by simpa using hfield)]
      decide
    rw [hdrop, ← occursIn_iff, headersEnd, occursIn_append_of_not_mem hline, ← headersEnd, occursIn,
      hlead, ← List.cons_append, hrest]
    decide

/-- An answer that opens the tunnel, its headers filled up with so many letters. -/
def padded (n : Nat) : List UInt8 :=
  Utf8.ofString "HTTP/1.1 200 OK" ++
    0x0d :: 0x0a :: (Utf8.ofString "X: " ++ List.replicate n 0x61) ++ headersEnd

theorem isHeaders_padded (n : Nat) : IsHeaders (padded n) (padded n) := by
  have hname : Utf8.ofString "X: " ≠ [] := by decide
  refine isHeaders_of_field (by decide) (fun h => ?_) (List.append_ne_nil_of_left_ne_nil hname _)
  rcases List.mem_append.1 h with h | h
  · exact absurd h (by decide)
  · exact absurd (List.eq_of_mem_replicate h) (by decide)

theorem length_padded (n : Nat) : (padded n).length = 24 + n := by
  have hline : (Utf8.ofString "HTTP/1.1 200 OK").length = 15 := by decide
  have hname : (Utf8.ofString "X: ").length = 3 := by decide
  simp only [padded, List.length_append, List.length_cons, List.length_replicate, hline, hname,
    headersEnd, List.length_nil]
  omega

theorem check_padded (n : Nat) : check (padded n) = .ok () := by
  rw [padded, List.append_assoc, List.cons_append, List.cons_append, List.append_cons, check_append]
  rfl

/-- **How an answer is cut matters**: with headers of 8200 octets, this one opens the tunnel if the
last eight arrive at once, and is refused octet by octet. -/
theorem not_indifferent_of_padding :
    Delivers (singly ((padded 8176).take maxAnswer) ++ [(padded 8176).drop maxAnswer])
      (padded 8176) ∧
    Delivers (singly (padded 8176)) (padded 8176) ∧
    tunnel (singly ((padded 8176).take maxAnswer) ++ [(padded 8176).drop maxAnswer]) = .ok () ∧
    tunnel (singly (padded 8176)) = .error tooLarge := by
  have hheaders := isHeaders_padded 8176
  have hlength := length_padded 8176
  have hcheck := check_padded 8176
  generalize padded 8176 = answer at *
  have hsplit := List.take_append_drop maxAnswer answer
  have hmax : maxAnswer = 8192 := rfl
  have hdrop : (answer.drop maxAnswer).length = 8 := by rw [List.length_drop, hlength, hmax]
  have hpiece : answer.drop maxAnswer ≠ [] := List.ne_nil_of_length_pos (by omega)
  have hburst := delivers_burst hpiece (by rw [hdrop]; decide) (answer.take maxAnswer) []
  rw [hsplit, List.append_nil] at hburst
  refine ⟨hburst, ⟨flatten_singly _, forall_mem_singly _⟩, ?_, ?_⟩
  · rw [← hsplit] at hheaders
    rw [hheaders.tunnel_burst (List.length_take_le _ _) hpiece, hsplit, hcheck]
  · exact tunnel_singly_of_long (by omega) fun headers h => by rw [← hheaders.eq h]; omega

end HubLink.Proxy
