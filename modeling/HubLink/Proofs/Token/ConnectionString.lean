import HubLink.Token.ConnectionString
import Mathlib.Data.List.Forall2

/-! # Reading connection strings

What a connection string says, told from its segments: a segment sets what stands before its first
`=` to what stands behind it, both without the white space around them, and of the segments that set
a key the last counts. Reading finds that, or the fault that comes first: a segment that sets
nothing, no host, no credential (`ConnectionString.parse_eq_iff_reads`). So whatever is written for
a connection string, with its fields in any order and anything unknown between them, is read as that
connection string. -/

namespace HubLink.ConnectionString

open Text

/-! ## What segments say -/

/-- A segment sets a key to a value: between white space, they stand before and behind its first
`=`. -/
def Sets (segment : List Char) (key value : String) : Prop :=
  ∃ before after, segment = before ++ '=' :: after ∧ '=' ∉ before ∧
    (IsBare key.toList ∧ IsPadded before key.toList) ∧
    IsBare value.toList ∧ IsPadded after value.toList

/-- What the last of the segments that set a key sets it to; nothing if none does. -/
def LastSets (segments : List (List Char)) (key : String) : Option String → Prop
  | none => ∀ segment ∈ segments, ∀ value, ¬Sets segment key value
  | some value => ∃ before segment after, segments = before ++ segment :: after ∧
      Sets segment key value ∧ ∀ later ∈ after, ∀ other, ¬Sets later key other

/-- The segments that are not blank. -/
def nonblank (parts : List (List Char)) : List (List Char) :=
  parts.filter fun part => !part.all isBlank

/-- The segments of a string that are not blank, in their order. -/
def IsDivided (s : String) (segments : List (List Char)) : Prop :=
  ∃ parts, parts ≠ [] ∧ (∀ part ∈ parts, ';' ∉ part) ∧ s.toList = [';'].intercalate parts ∧
    segments = nonblank parts

/-- What is read from segments. -/
inductive Reads (segments : List (List Char)) : Except TokenError ConnectionString → Prop
  /-- The first segment that sets nothing is refused as it stands. -/
  | malformed {before segment after} (hsplit : segments = before ++ segment :: after)
    (hbefore : ∀ other ∈ before, '=' ∈ other) (hsegment : '=' ∉ segment) :
    Reads segments (.error (.malformedSegment (String.ofList segment)))
  /-- There is no host, or an empty one. -/
  | hostless (hall : ∀ segment ∈ segments, '=' ∈ segment) {host : Option String}
    (hhost : LastSets segments hostNameKey host) (hempty : host = none ∨ host = some "") :
    Reads segments (.error (.missingField hostNameKey))
  /-- There is a host, but neither a key nor a token. -/
  | keyless (hall : ∀ segment ∈ segments, '=' ∈ segment) {host : String}
    (hhost : LastSets segments hostNameKey (some host)) (hne : host ≠ "")
    (hkey : LastSets segments sharedKeyKey none)
    (hsignature : LastSets segments signatureKey none) :
    Reads segments (.error (.missingField sharedKeyKey))
  /-- Every component is what its key was last set to. -/
  | components (hall : ∀ segment ∈ segments, '=' ∈ segment) {c : ConnectionString}
    (hhost : LastSets segments hostNameKey (some c.hostName)) (hne : c.hostName ≠ "")
    (hdevice : LastSets segments deviceIdKey c.deviceId)
    (hkeyName : LastSets segments keyNameKey c.keyName)
    (hkey : LastSets segments sharedKeyKey c.key)
    (hsignature : LastSets segments signatureKey c.signature)
    (hcredential : c.key ≠ none ∨ c.signature ≠ none) : Reads segments (.ok c)

/-! ## Fields of segments -/

theorem field_eq_ok_iff {segment : List Char} {key value : String} :
    field segment = .ok (key, value) ↔ Sets segment key value := by
  simp only [Sets, ← trim_eq_iff]
  rw [field]
  constructor
  · intro h
    split at h
    · rename_i before after hcut
      obtain ⟨heq, hbefore⟩ := cut_eq_some_iff.1 hcut
      obtain ⟨rfl, rfl⟩ := Prod.mk.inj (Except.ok.inj h)
      exact ⟨before, after, heq, hbefore, by simp, by simp⟩
    · cases h
  · rintro ⟨before, after, rfl, hbefore, hkey, hvalue⟩
    rw [cut_eq_some_iff.2 ⟨rfl, hbefore⟩]
    simp only [hkey, hvalue, String.ofList_toList]

/-- A segment without `=` is no field. -/
theorem field_of_not_mem {segment : List Char} (h : '=' ∉ segment) :
    field segment = .error (.malformedSegment (String.ofList segment)) := by
  rw [field, cut_eq_none_iff.2 h]

/-- A segment sets one key to one value. -/
theorem Sets.eq {segment : List Char} {key value key' value' : String}
    (h : Sets segment key value) (h' : Sets segment key' value') : key = key' ∧ value = value' := by
  rw [← field_eq_ok_iff] at h h'
  exact Prod.mk.inj (Except.ok.inj (h.symm.trans h'))

theorem Sets.mem {segment : List Char} {key value : String} (h : Sets segment key value) :
    '=' ∈ segment := by
  obtain ⟨before, after, rfl, -⟩ := h
  simp

theorem exists_sets_of_mem {segment : List Char} (h : '=' ∈ segment) :
    ∃ key value, Sets segment key value := by
  match hcut : cut '=' segment with
  | none => exact absurd h (cut_eq_none_iff.1 hcut)
  | some (before, after) =>
    refine ⟨String.ofList (trim before), String.ofList (trim after), field_eq_ok_iff.1 ?_⟩
    rw [field, hcut]

/-- **Segments that all set something** are read as fields, one by one. -/
theorem exists_fields {segments : List (List Char)} (h : ∀ segment ∈ segments, '=' ∈ segment) :
    ∃ fields, segments.mapM field = .ok fields ∧
      List.Forall₂ (fun segment f => Sets segment f.1 f.2) segments fields := by
  induction segments with
  | nil => exact ⟨[], rfl, .nil⟩
  | cons segment rest ih =>
    rw [List.forall_mem_cons] at h
    obtain ⟨key, value, hsets⟩ := exists_sets_of_mem h.1
    obtain ⟨fields, hfields, hall⟩ := ih h.2
    refine ⟨(key, value) :: fields, ?_, .cons hsets hall⟩
    rw [List.mapM_cons, field_eq_ok_iff.2 hsets, hfields]
    rfl

/-- Otherwise there is a first one that sets nothing. -/
theorem forall_mem_or_exists_first (segments : List (List Char)) :
    (∀ segment ∈ segments, '=' ∈ segment) ∨
      ∃ before segment after, segments = before ++ segment :: after ∧
        (∀ other ∈ before, '=' ∈ other) ∧ '=' ∉ segment := by
  induction segments with
  | nil => exact .inl (by simp)
  | cons segment rest ih =>
    by_cases hsegment : '=' ∈ segment
    · obtain hall | ⟨before, bad, after, rfl, hbefore, hbad⟩ := ih
      · exact .inl (List.forall_mem_cons.2 ⟨hsegment, hall⟩)
      · exact .inr ⟨segment :: before, bad, after, rfl,
          List.forall_mem_cons.2 ⟨hsegment, hbefore⟩, hbad⟩
    · exact .inr ⟨[], segment, rest, rfl, by simp, hsegment⟩

/-- The first segment that sets nothing ends the reading. -/
theorem mapM_field_of_not_mem {before : List (List Char)} {segment : List Char}
    (hbefore : ∀ other ∈ before, '=' ∈ other) (hsegment : '=' ∉ segment)
    (after : List (List Char)) : (before ++ segment :: after).mapM field =
      .error (.malformedSegment (String.ofList segment)) := by
  obtain ⟨fields, hfields, -⟩ := exists_fields hbefore
  rw [List.mapM_append, hfields, List.mapM_cons, field_of_not_mem hsegment]
  rfl

/-! ## The last value of a key -/

theorem lastSets_cons_none_iff {segment : List Char} {segments : List (List Char)} {key : String} :
    LastSets (segment :: segments) key none ↔
      (∀ value, ¬Sets segment key value) ∧ LastSets segments key none :=
  List.forall_mem_cons

/-- A segment counts only if no segment behind it sets the same key. -/
theorem lastSets_cons_some_iff {segment : List Char} {segments : List (List Char)}
    {key value : String} : LastSets (segment :: segments) key (some value) ↔
      LastSets segments key (some value) ∨
        LastSets segments key none ∧ Sets segment key value := by
  constructor
  · rintro ⟨before, last, after, heq, hsets, hafter⟩
    cases before with
    | nil =>
      obtain ⟨rfl, rfl⟩ := List.cons.inj heq
      exact .inr ⟨hafter, hsets⟩
    | cons first before =>
      obtain ⟨rfl, rfl⟩ := List.cons.inj heq
      exact .inl ⟨before, last, after, rfl, hsets, hafter⟩
  · rintro (⟨before, last, after, rfl, hsets, hafter⟩ | ⟨hafter, hsets⟩)
    · exact ⟨segment :: before, last, after, rfl, hsets, hafter⟩
    · exact ⟨[], segment, segments, rfl, hsets, hafter⟩

theorem lastValue?_cons (f : String × String) (fields : List (String × String)) (key : String) :
    lastValue? (f :: fields) key =
      (lastValue? fields key).or (if f.1 = key then some f.2 else none) := by
  rw [lastValue?, lastValue?, List.reverse_cons, List.find?_append, Option.map_or]
  by_cases h : f.1 = key <;> simp [h]

/-- **The value that is found for a key** is the one that it was last set to. -/
theorem lastValue?_eq_iff {segments : List (List Char)} {fields : List (String × String)}
    (h : List.Forall₂ (fun segment f => Sets segment f.1 f.2) segments fields) (key : String)
    (value : Option String) : lastValue? fields key = value ↔ LastSets segments key value := by
  induction h generalizing value with
  | nil =>
    cases value with
    | none => simp [lastValue?, LastSets]
    | some v => simp [lastValue?, LastSets]
  | @cons segment f segments fields hsets _ ih =>
    have hfield (v : String) : Sets segment key v ↔ f.1 = key ∧ f.2 = v :=
      ⟨hsets.eq, fun ⟨hkey, hvalue⟩ => hkey ▸ hvalue ▸ hsets⟩
    rw [lastValue?_cons]
    cases value with
    | none =>
      rw [lastSets_cons_none_iff, ← ih, Option.or_eq_none_iff, and_comm]
      simp [hfield]
    | some v =>
      rw [lastSets_cons_some_iff, ← ih, ← ih, Option.or_eq_some_iff, hfield]
      simp

/-! ## Reading -/

theorem mem_nonblank_iff {parts : List (List Char)} {part : List Char} :
    part ∈ nonblank parts ↔ part ∈ parts ∧ ¬∀ c ∈ part, isBlank c = true := by
  rw [nonblank, List.mem_filter, Bool.not_eq_true', Bool.eq_false_iff, ne_eq, List.all_eq_true]

theorem nonblank_eq (parts : List (List Char)) :
    nonblank parts = parts.filter fun part => !(trim part).isEmpty := by
  refine List.filter_congr fun part _ => ?_
  rw [Bool.eq_iff_iff, Bool.not_eq_true', Bool.not_eq_true', Bool.eq_false_iff, Bool.eq_false_iff,
    ne_eq, ne_eq, List.all_eq_true, isEmpty_trim_iff]

/-- A string is divided in one way, which is the one that reading finds. -/
theorem isDivided_iff {s : String} {parts : List (List Char)} :
    IsDivided s parts ↔ parts = segments s.toList := by
  constructor
  · rintro ⟨all, hne, hall, heq, rfl⟩
    rw [segments, heq, pieces_intercalate hne hall, nonblank_eq]
  · rintro rfl
    exact ⟨pieces ';' s.toList, pieces_ne_nil _ _, fun _ => not_mem_of_mem_pieces,
      (join_pieces _ _).symm, by rw [segments, nonblank_eq]⟩

section Reading

variable {s : String}

theorem parse_of_error {e : TokenError} (h : (segments s.toList).mapM field = .error e) :
    parse s = .error e := by
  rw [parse, h]
  rfl

theorem parse_of_hostless {fields : List (String × String)}
    (h : (segments s.toList).mapM field = .ok fields)
    (hhost : lastValue? fields hostNameKey = none ∨ lastValue? fields hostNameKey = some "") :
    parse s = .error (.missingField hostNameKey) := by
  have hnone : (lastValue? fields hostNameKey).filter (· ≠ "") = none := by
    rcases hhost with hhost | hhost <;> rw [hhost] <;> rfl
  rw [parse, h]
  simp only [Except.bind, bind, hnone]
  rfl

/-- Once there is a host, a credential decides. -/
theorem parse_of_host {fields : List (String × String)}
    (h : (segments s.toList).mapM field = .ok fields) {host : String}
    (hhost : lastValue? fields hostNameKey = some host) (hne : host ≠ "") :
    parse s =
      if lastValue? fields sharedKeyKey = none ∧ lastValue? fields signatureKey = none then
        .error (.missingField sharedKeyKey)
      else
        .ok {
          hostName := host
          deviceId := lastValue? fields deviceIdKey
          keyName := lastValue? fields keyNameKey
          key := lastValue? fields sharedKeyKey
          signature := lastValue? fields signatureKey } := by
  have hsome : (some host).filter (· ≠ "") = some host := by simp [hne]
  rw [parse, h]
  simp only [Except.bind, bind, hhost, hsome, Option.isNone_iff_eq_none]
  split <;> rfl

/-- Reading gives what the segments say. -/
theorem reads_parse (s : String) : Reads (segments s.toList) (parse s) := by
  obtain hequals | ⟨before, segment, after, hsplit, hbefore, hsegment⟩ :=
    forall_mem_or_exists_first (segments s.toList)
  · obtain ⟨fields, hfields, hall⟩ := exists_fields hequals
    have hlast (key : String) : LastSets (segments s.toList) key (lastValue? fields key) :=
      (lastValue?_eq_iff hall key _).1 rfl
    match hhost : lastValue? fields hostNameKey with
    | none =>
      rw [parse_of_hostless hfields (.inl hhost)]
      exact .hostless hequals (hlast hostNameKey) (.inl hhost)
    | some host =>
      by_cases hne : host = ""
      · subst hne
        rw [parse_of_hostless hfields (.inr hhost)]
        exact .hostless hequals (hlast hostNameKey) (.inr hhost)
      · rw [parse_of_host hfields hhost hne]
        split
        · rename_i hnone
          exact .keyless hequals (hhost ▸ hlast hostNameKey) hne (hnone.1 ▸ hlast sharedKeyKey)
            (hnone.2 ▸ hlast signatureKey)
        · rename_i hsome
          exact .components hequals (hhost ▸ hlast hostNameKey) hne (hlast deviceIdKey)
            (hlast keyNameKey) (hlast sharedKeyKey) (hlast signatureKey)
            (Decidable.not_and_iff_or_not.1 hsome)
  · rw [parse_of_error (hsplit ▸ mapM_field_of_not_mem hbefore hsegment after)]
    exact .malformed hsplit hbefore hsegment

/-- Nothing else is read. -/
theorem parse_of_reads {r : Except TokenError ConnectionString}
    (h : Reads (segments s.toList) r) : parse s = r := by
  cases h with
  | malformed hsplit hbefore hsegment =>
    exact parse_of_error (hsplit ▸ mapM_field_of_not_mem hbefore hsegment _)
  | hostless hall hhost hempty =>
    obtain ⟨fields, hfields, hsets⟩ := exists_fields hall
    rw [← lastValue?_eq_iff hsets] at hhost
    exact parse_of_hostless hfields (hhost ▸ hempty)
  | keyless hall hhost hne hkey hsignature =>
    obtain ⟨fields, hfields, hsets⟩ := exists_fields hall
    rw [← lastValue?_eq_iff hsets] at hhost hkey hsignature
    rw [parse_of_host hfields hhost hne, if_pos ⟨hkey, hsignature⟩]
  | components hall hhost hne hdevice hkeyName hkey hsignature hcredential =>
    obtain ⟨fields, hfields, hsets⟩ := exists_fields hall
    rw [← lastValue?_eq_iff hsets] at hhost hdevice hkeyName hkey hsignature
    rw [parse_of_host hfields hhost hne, hdevice, hkeyName, hkey, hsignature,
      if_neg fun hnone => hcredential.elim (· hnone.1) (· hnone.2)]

end Reading

/-! ## Writing -/

/-- The keys that are known. -/
def knownKeys : List String := [hostNameKey, deviceIdKey, keyNameKey, sharedKeyKey, signatureKey]

/-- What a connection string has under a key. -/
def value? (c : ConnectionString) (key : String) : Option String :=
  if key = hostNameKey then some c.hostName
  else if key = deviceIdKey then c.deviceId
  else if key = keyNameKey then c.keyName
  else if key = sharedKeyKey then c.key
  else if key = signatureKey then c.signature
  else none

/-- What a connection string has, under its keys. -/
def entries (c : ConnectionString) : List (String × String) :=
  knownKeys.filterMap fun key => (c.value? key).map (key, ·)

/-- What may be written as a segment for an entry, or where there is none: white space alone, or
something that sets an unknown key. -/
inductive Spells : Option (String × String) → List Char → Prop
  | entry {key value : String} {before after : List Char} (hkey : IsPadded before key.toList)
    (hvalue : IsPadded after value.toList) : Spells (some (key, value)) (before ++ '=' :: after)
  | unknown {segment : List Char} (hequals : '=' ∈ segment) (hsemicolon : ';' ∉ segment)
    (hkey : ∀ key ∈ knownKeys, ∀ value, ¬Sets segment key value) : Spells none segment
  | blank {segment : List Char} (h : ∀ c ∈ segment, isBlank c) : Spells none segment

/-- A string has the entries of a connection string as its segments, each once and in any order, and
other segments anywhere between them. -/
def Writes (c : ConnectionString) (s : String) : Prop :=
  ∃ written : List (Option (String × String) × List Char),
    (∀ w ∈ written, Spells w.1 w.2) ∧ (written.filterMap (·.1)).Perm c.entries ∧
      s.toList = [';'].intercalate (written.map (·.2))

/-- A connection string that can be written: with a host and a credential, and no value with a
semicolon or with white space around it. -/
structure IsWritable (c : ConnectionString) : Prop where
  host_ne : c.hostName ≠ ""
  credential : c.key ≠ none ∨ c.signature ≠ none
  semicolon_notMem : ∀ e ∈ c.entries, ';' ∉ e.2.toList
  bare : ∀ e ∈ c.entries, IsBare e.2.toList

theorem mem_entries_iff {c : ConnectionString} {key value : String} :
    (key, value) ∈ c.entries ↔ key ∈ knownKeys ∧ c.value? key = some value := by
  simp [entries]

/-- Known keys have no white space around them and no separator. -/
theorem isBare_of_mem_knownKeys : ∀ key ∈ knownKeys,
    IsBare key.toList ∧ '=' ∉ key.toList ∧ ';' ∉ key.toList := by
  decide

section Written

variable {c : ConnectionString} {entry : Option (String × String)} {segment : List Char}

/-- **A segment sets a known key** only to what it was written for. -/
theorem Spells.sets_iff (h : Spells entry segment) (hc : c.IsWritable)
    (hentry : ∀ e ∈ entry, e ∈ c.entries) {key : String} (hkey : key ∈ knownKeys)
    (value : String) : Sets segment key value ↔ entry = some (key, value) := by
  cases h with
  | @entry key' value' before after hbefore hafter =>
    have hmem := hentry _ rfl
    obtain ⟨hbare, hequals, -⟩ := isBare_of_mem_knownKeys key' (mem_entries_iff.1 hmem).1
    have hsets : Sets (before ++ '=' :: after) key' value' :=
      ⟨before, after, rfl, hbefore.not_mem (by decide) hequals, ⟨hbare, hbefore⟩,
        hc.bare _ hmem, hafter⟩
    rw [Option.some.injEq, Prod.mk.injEq]
    refine ⟨hsets.eq, ?_⟩
    rintro ⟨rfl, rfl⟩
    exact hsets
  | unknown hequals hsemicolon hunknown =>
    exact ⟨fun hsets => absurd hsets (hunknown key hkey value), nofun⟩
  | blank hblank =>
    refine ⟨fun hsets => ?_, nofun⟩
    have hequals := hblank '=' hsets.mem
    exact absurd hequals (by decide)

theorem Spells.semicolon_notMem (h : Spells entry segment) (hc : c.IsWritable)
    (hentry : ∀ e ∈ entry, e ∈ c.entries) : ';' ∉ segment := by
  cases h with
  | @entry key value before after hbefore hafter =>
    have hmem := hentry _ rfl
    obtain ⟨-, -, hkey⟩ := isBare_of_mem_knownKeys key (mem_entries_iff.1 hmem).1
    rw [List.mem_append, List.mem_cons, not_or, not_or]
    exact ⟨hbefore.not_mem (by decide) hkey, by decide,
      hafter.not_mem (by decide) (hc.semicolon_notMem _ hmem)⟩
  | unknown hequals hsemicolon hunknown => exact hsemicolon
  | blank hblank => exact fun hmem => absurd (hblank ';' hmem) (by decide)

/-- What is not blank sets something. -/
theorem Spells.equals_mem (h : Spells entry segment) (hne : ¬∀ c ∈ segment, isBlank c) :
    '=' ∈ segment := by
  cases h with
  | entry hkey hvalue => simp
  | unknown hequals hsemicolon hunknown => exact hequals
  | blank hblank => exact absurd hblank hne

end Written

/-- Some segment is the last one to set a key, unless none sets it. -/
theorem exists_lastSets (segments : List (List Char)) (key : String) :
    ∃ value, LastSets segments key value := by
  induction segments with
  | nil => exact ⟨none, by simp [LastSets]⟩
  | cons segment rest ih =>
    obtain ⟨_ | value, hrest⟩ := ih
    · by_cases hsets : ∃ value, Sets segment key value
      · obtain ⟨value, hsets⟩ := hsets
        exact ⟨some value, lastSets_cons_some_iff.2 (.inr ⟨hrest, hsets⟩)⟩
      · exact ⟨none, lastSets_cons_none_iff.2 ⟨not_exists.1 hsets, hrest⟩⟩
    · exact ⟨some value, lastSets_cons_some_iff.2 (.inl hrest)⟩

/-- Where segments agree on a key, the last one does not matter. -/
theorem lastSets_of_forall {segments : List (List Char)} {key : String} {value : Option String}
    (h : ∀ v, (∃ segment ∈ segments, Sets segment key v) ↔ value = some v) :
    LastSets segments key value := by
  obtain ⟨_ | v, hlast⟩ := exists_lastSets segments key
  · cases value with
    | none => exact hlast
    | some v =>
      obtain ⟨segment, hmem, hsets⟩ := (h v).2 rfl
      exact absurd hsets (hlast segment hmem v)
  · obtain ⟨before, segment, after, rfl, hsets, -⟩ := id hlast
    rw [(h v).1 ⟨segment, by simp, hsets⟩]
    exact hlast

/-- **The segments written for a connection string** set every known key to what it has there. -/
theorem lastSets_of_spells {c : ConnectionString} (hc : c.IsWritable)
    {written : List (Option (String × String) × List Char)}
    (hspells : ∀ w ∈ written, Spells w.1 w.2)
    (hentries : ∀ e, (∃ w ∈ written, w.1 = some e) ↔ e ∈ c.entries)
    {key : String} (hkey : key ∈ knownKeys) :
    LastSets (nonblank (written.map (·.2))) key (c.value? key) := by
  have hsets : ∀ w ∈ written, ∀ value, Sets w.2 key value ↔ w.1 = some (key, value) :=
    fun w hw => (hspells w hw).sets_iff hc (fun e he => (hentries e).1 ⟨w, hw, he⟩) hkey
  refine lastSets_of_forall fun value => ⟨?_, fun hvalue => ?_⟩
  · rintro ⟨segment, hsegment, h⟩
    obtain ⟨w, hw, rfl⟩ := List.mem_map.1 (mem_nonblank_iff.1 hsegment).1
    exact (mem_entries_iff.1 ((hentries _).1 ⟨w, hw, (hsets w hw value).1 h⟩)).2
  · obtain ⟨w, hw, heq⟩ := (hentries _).2 (mem_entries_iff.2 ⟨hkey, hvalue⟩)
    have h := (hsets w hw value).2 heq
    have hne : ¬∀ c ∈ w.2, isBlank c := fun hblank => absurd (hblank '=' h.mem) (by decide)
    exact ⟨w.2, mem_nonblank_iff.2 ⟨List.mem_map_of_mem hw, hne⟩, h⟩

/-- **What is written for a connection string says it.** -/
theorem exists_reads_of_writes {c : ConnectionString} {s : String} (hc : c.IsWritable)
    (h : c.Writes s) : ∃ parts, IsDivided s parts ∧ Reads parts (.ok c) := by
  obtain ⟨written, hspells, hperm, hs⟩ := h
  have hentries (e : String × String) : (∃ w ∈ written, w.1 = some e) ↔ e ∈ c.entries := by
    rw [← hperm.mem_iff, List.mem_filterMap]
  refine ⟨nonblank (written.map (·.2)), ⟨written.map (·.2), ?_, ?_, hs, rfl⟩, ?_⟩
  · obtain ⟨w, hw, -⟩ := (hentries (hostNameKey, c.hostName)).2 (mem_entries_iff.2 ⟨by decide, rfl⟩)
    exact List.ne_nil_of_mem (List.mem_map_of_mem hw)
  · intro part hpart
    obtain ⟨w, hw, rfl⟩ := List.mem_map.1 hpart
    exact (hspells w hw).semicolon_notMem hc fun e he => (hentries e).1 ⟨w, hw, he⟩
  · have hlast (key : String) (hkey : key ∈ knownKeys) :=
      lastSets_of_spells hc hspells hentries hkey
    refine .components ?_ (hlast hostNameKey (by decide)) hc.host_ne
      (hlast deviceIdKey (by decide)) (hlast keyNameKey (by decide))
      (hlast sharedKeyKey (by decide)) (hlast signatureKey (by decide)) hc.credential
    intro segment hsegment
    obtain ⟨hpart, hne⟩ := mem_nonblank_iff.1 hsegment
    obtain ⟨w, hw, rfl⟩ := List.mem_map.1 hpart
    exact (hspells w hw).equals_mem hne

/-- **Connection strings are read exactly.** A string is read as what its segments that are not
blank say: the fault that comes first, or each component as its key was last set. So a string that
is written for a connection string is read as that one. -/
theorem parse_eq_iff_reads (s : String) :
    (∀ r, parse s = r ↔ ∃ parts, IsDivided s parts ∧ Reads parts r) ∧
      ∀ c, IsWritable c → c.Writes s → parse s = .ok c := by
  have hexact (r : Except TokenError ConnectionString) :
      parse s = r ↔ ∃ parts, IsDivided s parts ∧ Reads parts r := by
    constructor
    · rintro rfl
      exact ⟨_, isDivided_iff.2 rfl, reads_parse s⟩
    · rintro ⟨parts, hdivided, hreads⟩
      rw [isDivided_iff.1 hdivided] at hreads
      exact parse_of_reads hreads
  exact ⟨hexact, fun c hc hwrites => (hexact _).2 (exists_reads_of_writes hc hwrites)⟩

namespace Pump

/-- The connection string of a pump. -/
def connection : ConnectionString where
  hostName := "hub"
  deviceId := some "d=1"
  keyName := none
  key := some "c2VjcmV0Cg=="
  signature := none

/-- The string of the pump with its fields in disorder, and more than its fields. -/
def disordered : String :=
  "\tDeviceId = d=1;Color=;SharedAccessKey=c2VjcmV0Cg==\r\n;\u00a0;HostName= hub"

theorem isWritable_connection : connection.IsWritable where
  host_ne := by decide
  credential := by decide
  semicolon_notMem := by decide
  bare := by decide

theorem writes_disordered : connection.Writes disordered := by
  refine ⟨[(some ("DeviceId", "d=1"), "\tDeviceId = d=1".toList), (none, "Color=".toList),
    (some ("SharedAccessKey", "c2VjcmV0Cg=="), "SharedAccessKey=c2VjcmV0Cg==\r\n".toList),
    (none, "\u00a0".toList), (some ("HostName", "hub"), "HostName= hub".toList)], ?_, by decide,
    by decide⟩
  have hcolor : field "Color=".toList = .ok ("Color", "") := by decide
  simp only [List.forall_mem_cons]
  refine ⟨@Spells.entry "DeviceId" "d=1" "\tDeviceId ".toList " d=1".toList
      (trim_eq_iff.1 (by decide)).2 (trim_eq_iff.1 (by decide)).2,
    .unknown (by decide) (by decide) fun key hkey value hsets => ?_,
    @Spells.entry "SharedAccessKey" "c2VjcmV0Cg==" "SharedAccessKey".toList
      "c2VjcmV0Cg==\r\n".toList
      (trim_eq_iff.1 (by decide)).2 (trim_eq_iff.1 (by decide)).2,
    .blank (isEmpty_trim_iff.1 (by decide)),
    @Spells.entry "HostName" "hub" "HostName".toList " hub".toList
      (trim_eq_iff.1 (by decide)).2 (trim_eq_iff.1 (by decide)).2, by simp⟩
  rw [← field_eq_ok_iff, hcolor] at hsets
  cases hsets
  exact absurd hkey (by decide)

/-- The pump's string is read as the pump's connection string. -/
theorem parse_disordered : connection.IsWritable ∧ connection.Writes disordered ∧
    parse disordered = .ok connection :=
  ⟨isWritable_connection, writes_disordered,
    (parse_eq_iff_reads disordered).2 connection isWritable_connection writes_disordered⟩

end Pump

end HubLink.ConnectionString
