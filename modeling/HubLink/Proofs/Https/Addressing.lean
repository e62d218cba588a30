import HubLink.Https.Link
import HubLink.Proofs.Text.Percent

/-! # What a settling request addresses

A message to a device is settled by a request that names the device and the tag of the message in
its path. Both are escaped, so that neither can end its segment, and both are read back from the
path: the method and the path of a request say which message of which device it settles and how, and
say it of one message only (`settlePath_unmistakable`). -/

namespace HubLink.Https

open Text

/-! ## Segments -/

/-- A segment keeps octets of ASCII only, and no percent sign. -/
theorem ascii_of_isPlain {b : UInt8} (h : isPlain b = true) : b.toNat < 128 ∧ b ≠ 0x25 := by
  constructor
  · simp only [isPlain, Bool.and_eq_true, decide_eq_true_eq, UInt8.lt_iff_toNat_lt] at h
    exact Nat.lt_trans h.1.2 (by decide)
  · rintro rfl
    exact absurd h (by decide)

/-- The text that a segment stands for. -/
def segmentText (segment : List Char) : String :=
  Utf8.lenientString (Percent.decodeBytes (Utf8.encode segment))

/-- **A segment is read back**, whatever characters are in its text. -/
theorem segmentText_segment (text : String) : segmentText (segment text) = text := by
  rw [segmentText, segment, Percent.decode_encode fun _ => ascii_of_isPlain, String.ofList_toList]

/-- A segment has none of the characters that end one. -/
theorem not_mem_segment {c : Char} (hc : c ∈ ['/', '?', '#']) (text : String) :
    c ∉ segment text := by
  obtain ⟨hpercent, hdigit, hplain⟩ :
      c ≠ '%' ∧ (∀ k < 16, c ≠ hexUpper k) ∧ isPlain (UInt8.ofNat c.toNat) = false := by
    simp only [List.mem_cons, List.not_mem_nil, or_false] at hc
    rcases hc with rfl | rfl | rfl <;> decide
  exact Percent.not_mem_encode hpercent hdigit hplain text.toList

/-! ## The parts of a path -/

/-- The segments after the tag in the path that settles a message. -/
def settleAction : Disposition → List (List Char)
  | .complete | .reject => []
  | .abandon => ["abandon".toList]

/-- The segments of the path that settles a message. -/
def settleSegments (device : String) (tag : DeliveryTag) (disposition : Disposition) :
    List (List Char) :=
  [] :: "devices".toList :: segment device :: "messages".toList :: "devicebound".toList ::
    segment tag.text :: settleAction disposition

/-- The query of the path that settles a message. -/
def settleQuery : Disposition → List Char
  | .complete | .abandon => apiVersion
  | .reject => "reject&".toList ++ apiVersion

/-- What follows the tag is a segment that says what to do, or none, and the query. -/
theorem intercalate_settleAction (tag : List Char) (disposition : Disposition) :
    ['/'].intercalate (tag :: settleAction disposition) ++ '?' :: settleQuery disposition =
      tag ++ settleEnd disposition := by
  cases disposition with
  | complete =>
    unfold settleAction settleQuery settleEnd
    rw [List.intercalate_singleton]
  | reject =>
    have hend : settleEnd .reject = '?' :: settleQuery .reject := by decide
    unfold settleAction
    rw [List.intercalate_singleton, hend]
  | abandon =>
    have hend : settleEnd .abandon = '/' :: ("abandon".toList ++ '?' :: settleQuery .abandon) := by
      decide
    unfold settleAction
    rw [List.intercalate_cons_cons, List.intercalate_singleton, hend, List.append_assoc,
      List.append_assoc, List.singleton_append]

/-- A path that settles a message is its segments and its query. -/
theorem settlePath_eq (device : String) (tag : DeliveryTag) (disposition : Disposition) :
    (settlePath device tag disposition).2 =
      ['/'].intercalate (settleSegments device tag disposition) ++
        '?' :: settleQuery disposition := by
  have hdevices : "/devices/".toList = ['/'] ++ "devices".toList ++ ['/'] := by decide
  have hinbox : "/messages/devicebound/".toList =
      ['/'] ++ "messages".toList ++ ['/'] ++ "devicebound".toList ++ ['/'] := by decide
  unfold settlePath settleSegments devicePath
  rw [hdevices, hinbox, List.intercalate_cons_cons, List.intercalate_cons_cons,
    List.intercalate_cons_cons, List.intercalate_cons_cons, List.intercalate_cons_cons]
  simp only [List.append_assoc, intercalate_settleAction, List.nil_append]

/-! ## Reading a request -/

/-- How a request with a method and a query settles. -/
def dispositionOf (method : Method) (query : List Char) : Disposition :=
  if method = .post then .abandon else if query = apiVersion then .complete else .reject

/-- The message that a request settles, told by its device and its tag, and how: both stand between
the slashes of its path. -/
def settled? (method : Method) (path : List Char) : Option (String × DeliveryTag × Disposition) :=
  match cut '?' path with
  | none => none
  | some (resource, query) =>
    match pieces '/' resource with
    | _ :: _ :: device :: _ :: _ :: tag :: _ =>
      some (segmentText device, ⟨segmentText tag⟩, dispositionOf method query)
    | _ => none

/-- No segment of a path that settles a message has a character that ends one. -/
theorem not_mem_settleSegments {c : Char} (hc : c ∈ ['/', '?', '#']) {device : String}
    {tag : DeliveryTag} {disposition : Disposition} :
    ∀ s ∈ settleSegments device tag disposition, c ∉ s := by
  obtain ⟨hdevices, hmessages, hinbox, haction⟩ : c ∉ "devices".toList ∧ c ∉ "messages".toList ∧
      c ∉ "devicebound".toList ∧ ∀ s ∈ settleAction disposition, c ∉ s := by
    simp only [List.mem_cons, List.not_mem_nil, or_false] at hc
    rcases hc with rfl | rfl | rfl <;> cases disposition <;> decide
  unfold settleSegments
  simp only [List.forall_mem_cons]
  exact ⟨List.not_mem_nil, hdevices, not_mem_segment hc device, hmessages, hinbox,
    not_mem_segment hc tag.text, haction⟩

theorem dispositionOf_settlePath (device : String) (tag : DeliveryTag)
    (disposition : Disposition) :
    dispositionOf (settlePath device tag disposition).1 (settleQuery disposition) = disposition := by
  have hread : dispositionOf .delete (settleQuery .complete) = .complete ∧
      dispositionOf .delete (settleQuery .reject) = .reject ∧
      dispositionOf .post (settleQuery .abandon) = .abandon := by decide
  cases disposition with
  | complete => exact hread.1
  | reject => exact hread.2.1
  | abandon => exact hread.2.2

/-- **What a settling request addresses is read back from its method and its path.** -/
theorem settled?_settlePath (device : String) (tag : DeliveryTag) (disposition : Disposition) :
    settled? (settlePath device tag disposition).1 (settlePath device tag disposition).2 =
      some (device, tag, disposition) := by
  have hresource : '?' ∉ ['/'].intercalate (settleSegments device tag disposition) := by
    rw [Form.mem_intercalate (by decide)]
    rintro ⟨s, hs, hmem⟩
    exact not_mem_settleSegments (by simp) s hs hmem
  have hpieces : pieces '/' (['/'].intercalate (settleSegments device tag disposition)) =
      settleSegments device tag disposition :=
    pieces_intercalate (List.cons_ne_nil _ _) (not_mem_settleSegments (by simp))
  rw [settled?, settlePath_eq, cut_eq_some_iff.2 ⟨rfl, hresource⟩]
  dsimp only
  rw [hpieces]
  unfold settleSegments
  simp only [segmentText_segment, dispositionOf_settlePath]

/-! ## Slashes -/

/-- A path without a tag between its slashes settles nothing. -/
theorem settled?_of_count {path : List Char} (h : path.count '/' < 5) (method : Method) :
    settled? method path = none := by
  unfold settled?
  match hcut : cut '?' path with
  | none => rfl
  | some (resource, query) =>
    obtain ⟨rfl, -⟩ := cut_eq_some_iff.1 hcut
    have hlength := length_pieces '/' resource
    rw [List.count_append] at h
    dsimp only
    split
    · rename_i hpieces
      rw [hpieces] at hlength
      simp only [List.length_cons] at hlength
      omega
    · rfl

/-- A device adds no character to its paths that ends a segment. -/
theorem count_devicePath_append {c : Char} (hc : c ∈ ['/', '?', '#']) (device : String)
    (rest : List Char) :
    (devicePath device ++ rest).count c = "/devices/".toList.count c + rest.count c := by
  unfold devicePath
  rw [List.count_append, List.count_append, List.count_eq_zero.2 (not_mem_segment hc device),
    Nat.add_zero]

/-- Neither does a tag. -/
theorem count_settlePath {c : Char} (hc : c ∈ ['/', '?', '#']) (device : String)
    (tag : DeliveryTag) (disposition : Disposition) :
    (settlePath device tag disposition).2.count c =
      ("/devices/".toList ++ "/messages/devicebound/".toList ++ settleEnd disposition).count c := by
  unfold settlePath
  simp only [List.append_assoc]
  rw [count_devicePath_append hc, List.count_append, List.count_append, List.count_append,
    List.count_append, List.count_eq_zero.2 (not_mem_segment hc tag.text)]
  omega

/-- The paths of the other requests of a link have at most two more slashes after the device. -/
theorem exists_path_of_request {l : Link} {r : HttpRequest}
    (h : r = l.pollDraft ∨ ∃ m, l.draft m = .ok r) :
    ∃ rest, r.path = devicePath l.identity.device ++ rest ∧ rest.count '/' ≤ 2 := by
  obtain ⟨hinbox, hevents, hupload, hreport⟩ :
      ("/messages/devicebound?".toList ++ apiVersion).count '/' ≤ 2 ∧
        ("/messages/events?".toList ++ apiVersion).count '/' ≤ 2 ∧
        ("/files?".toList ++ apiVersion).count '/' ≤ 2 ∧
        ("/files/notifications?".toList ++ apiVersion).count '/' ≤ 2 := by decide
  rcases h with rfl | ⟨m, h⟩
  · exact ⟨_, List.append_assoc .., hinbox⟩
  unfold Link.draft at h
  cases hkind : m.kind with
  | telemetry =>
    simp only [hkind] at h
    cases hheaders : messageHeaders m.message with
    | error fault =>
      rw [hheaders] at h
      cases h
    | ok headers =>
      rw [hheaders] at h
      cases h
      exact ⟨_, List.append_assoc .., hevents⟩
  | uploadRequest blobName =>
    simp only [hkind] at h
    cases h
    exact ⟨_, List.append_assoc .., hupload⟩
  | uploadComplete =>
    simp only [hkind] at h
    cases h
    exact ⟨_, List.append_assoc .., hreport⟩
  | twinPatch | twinGet | commandResponse =>
    simp only [hkind] at h
    cases h

/-- **The other requests of a link settle nothing.** -/
theorem settled?_of_request {l : Link} {r : HttpRequest}
    (h : r = l.pollDraft ∨ ∃ m, l.draft m = .ok r) : settled? r.method r.path = none := by
  obtain ⟨rest, hpath, hrest⟩ := exists_path_of_request h
  have hdevices : "/devices/".toList.count '/' = 2 := by decide
  refine settled?_of_count ?_ r.method
  rw [hpath, count_devicePath_append List.mem_cons_self]
  omega

/-- **A settling request addresses one message**: its device, its tag and what it does are read back
from its method and its path, so no two settle alike; neither the device nor the tag adds a
character that ends a segment; and no other request of a link is mistaken for one. -/
theorem settlePath_unmistakable :
    (∀ device tag disposition,
      settled? (settlePath device tag disposition).1 (settlePath device tag disposition).2 =
        some (device, tag, disposition)) ∧
    (Function.Injective fun s : String × DeliveryTag × Disposition =>
      settlePath s.1 s.2.1 s.2.2) ∧
    (∀ device tag disposition,
      (settlePath device tag disposition).2.count '#' = 0 ∧
      (settlePath device tag disposition).2.count '?' = 1 ∧
      (settlePath device tag disposition).2.count '/' =
        5 + (settleAction disposition).length) ∧
    ∀ (l : Link) (r : HttpRequest), (r = l.pollDraft ∨ ∃ m, l.draft m = .ok r) →
      ∀ device tag disposition, (r.method, r.path) ≠ settlePath device tag disposition := by
  refine ⟨settled?_settlePath, ?_, ?_, ?_⟩
  · intro s s' h
    have hread := settled?_settlePath s.1 s.2.1 s.2.2
    rw [show settlePath s.1 s.2.1 s.2.2 = settlePath s'.1 s'.2.1 s'.2.2 from h,
      settled?_settlePath] at hread
    exact (Option.some.inj hread).symm
  · intro device tag disposition
    rw [count_settlePath (by simp), count_settlePath (by simp), count_settlePath (by simp)]
    cases disposition <;> decide
  · intro l r h device tag disposition heq
    have hread := settled?_settlePath device tag disposition
    rw [← heq, settled?_of_request h] at hread
    cases hread

/-- A tag that looks like the end of a path is a tag. -/
example : settlePath "pump" ⟨"7/abandon?reject"⟩ .complete =
    (.delete, "/devices/pump/messages/devicebound/7%2Fabandon%3Freject?".toList ++ apiVersion) := by
  decide

end HubLink.Https
