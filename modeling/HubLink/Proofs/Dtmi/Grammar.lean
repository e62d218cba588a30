import HubLink.Dtmi

/-! # The grammar of model identifiers

Which strings are read as model identifiers, said by a grammar: segments, paths of segments between
colons, and versions, each derived by rules of their own. The reader cuts a string at the first
semicolon and the part before it at every colon; no segment has either, so that it accepts exactly
the strings that the grammar derives (`Dtmi.parse_iff_derives`). -/

namespace HubLink.Dtmi

open Text

/-! ## The rules -/

/-- A segment is a letter, and after it may stand letters, digits and underscores of which the last
is no underscore. Letters and digits are those of ASCII. -/
inductive Segment : List Char → Prop
  | letter {c : Char} (hc : c.isAlpha = true) : Segment [c]
  | word {c last : Char} {middle : List Char} (hc : c.isAlpha = true)
    (hmiddle : ∀ d ∈ middle, d.isAlphanum = true ∨ d = '_') (hlast : last.isAlphanum = true) :
    Segment (c :: (middle ++ [last]))

/-- A path is a segment, and after it may stand a colon and a path. -/
inductive Path : List Char → Prop
  | segment {segment : List Char} (h : Segment segment) : Path segment
  | join {segment path : List Char} (h : Segment segment) (hpath : Path path) :
    Path (segment ++ ':' :: path)

/-- A version is a digit from one to nine and at most eight digits after it. -/
inductive Version : List Char → Prop
  | digits {d : Char} {rest : List Char} (hlow : '1' ≤ d) (hhigh : d ≤ '9')
    (hrest : ∀ c ∈ rest, c.isDigit = true) (hlength : rest.length ≤ 8) : Version (d :: rest)

/-- An identifier is `dtmi:`, a path, a semicolon and a version. -/
inductive Derives : List Char → Prop
  | identifier {path version : List Char} (hpath : Path path) (hversion : Version version) :
    Derives ("dtmi:".toList ++ path ++ ';' :: version)

/-! ## Segments and paths -/

theorem isLetter_eq (c : Char) : isLetter c = c.isAlpha := by
  have hupper : c.isUpper = ('A' ≤ c && c ≤ 'Z') := Bool.decide_and _ _
  have hlower : c.isLower = ('a' ≤ c && c ≤ 'z') := rfl
  have halpha : c.isAlpha = (c.isUpper || c.isLower) := rfl
  rw [isLetter, halpha, hupper, hlower, Bool.or_comm]

theorem isDigit_eq (c : Char) : isDigit c = c.isDigit := rfl

/-- What may stand inside a segment. -/
theorem isInside_iff (c : Char) :
    (isLetter c || isDigit c || c == '_') = true ↔ c.isAlphanum = true ∨ c = '_' := by
  rw [isLetter_eq, isDigit_eq, Bool.or_eq_true, beq_iff_eq, Char.isAlphanum]

/-- **A text is a segment** exactly if the rule of segments derives it. -/
theorem isSegment_iff {text : List Char} : isSegment text = true ↔ Segment text := by
  rw [isSegment, Bool.and_eq_true, Bool.and_eq_true, bne_iff_ne, List.all_eq_true]
  simp only [isInside_iff]
  constructor
  · rintro ⟨⟨hfirst, hlast⟩, hall⟩
    cases text with
    | nil => cases hfirst
    | cons c rest =>
      have hc : c.isAlpha = true := by rw [← isLetter_eq]; exact hfirst
      -- A single letter is the rule's first case; more text has a last character of its own.
      rcases List.eq_nil_or_concat rest with rfl | ⟨middle, last, hrest⟩
      · exact .letter hc
      · rw [List.concat_eq_append] at hrest
        subst hrest
        have hend : last ≠ '_' := by
          rintro rfl
          exact hlast (by simp [List.getLast?_cons])
        refine .word hc (fun d hd => hall d ?_) ((hall last ?_).resolve_right hend)
        · exact List.mem_cons_of_mem _ (List.mem_append_left _ hd)
        · simp
  · intro h
    cases h with
    | @letter c hc =>
      have hne : c ≠ '_' := by rintro rfl; cases hc
      exact ⟨⟨by simpa [isLetter_eq] using hc, by simpa using hne⟩, by simp [Char.isAlphanum, hc]⟩
    | @word c last middle hc hmiddle hlast =>
      have hne : last ≠ '_' := by rintro rfl; cases hlast
      refine ⟨⟨by simpa [isLetter_eq] using hc, ?_⟩, ?_⟩
      · simpa [List.getLast?_cons] using hne
      · intro d hd
        rcases List.mem_cons.1 hd with rfl | hd
        · exact .inl (by simp [Char.isAlphanum, hc])
        · rcases List.mem_append.1 hd with hd | hd
          · exact hmiddle d hd
          · rw [List.mem_singleton.1 hd]
            exact .inl hlast

/-- A segment has no character but letters, digits and underscores. -/
theorem Segment.not_mem {segment : List Char} (h : Segment segment) {c : Char}
    (hc : c.isAlphanum = false) (hne : c ≠ '_') : c ∉ segment := by
  intro hmem
  have hall := isSegment_iff.2 h
  rw [isSegment, Bool.and_eq_true, List.all_eq_true] at hall
  rcases (isInside_iff c).1 (hall.2 c hmem) with h | h
  · rw [hc] at h
    cases h
  · exact hne h

/-- A path has colons besides. -/
theorem Path.not_mem {path : List Char} (h : Path path) {c : Char} (hc : c.isAlphanum = false)
    (hne : c ≠ '_') (hcolon : c ≠ ':') : c ∉ path := by
  induction h with
  | segment h => exact h.not_mem hc hne
  | join h _ ih =>
    rw [List.mem_append, List.mem_cons, not_or, not_or]
    exact ⟨h.not_mem hc hne, hcolon, ih⟩

/-- Segments joined by colons are a path. -/
theorem path_intercalate {segments : List (List Char)} (hne : segments ≠ [])
    (h : ∀ segment ∈ segments, Segment segment) : Path ([':'].intercalate segments) := by
  induction segments with
  | nil => exact absurd rfl hne
  | cons segment more ih =>
    rw [List.forall_mem_cons] at h
    cases more with
    | nil => simpa [List.intercalate, List.intersperse] using Path.segment h.1
    | cons next more =>
      have hjoin := Path.join h.1 (ih (by simp) h.2)
      simpa [List.intercalate, List.intersperse] using hjoin

/-- **All pieces between colons are segments** exactly if the rule of paths derives the text. -/
theorem all_isSegment_iff {path : List Char} :
    (pieces ':' path).all isSegment = true ↔ Path path := by
  constructor
  · intro h
    rw [← join_pieces ':' path]
    exact path_intercalate (pieces_ne_nil ':' path) fun segment hmem =>
      isSegment_iff.1 (List.all_eq_true.1 h segment hmem)
  · intro h
    induction h with
    | segment h =>
      rw [pieces_of_not_mem (h.not_mem (by decide) (by decide))]
      simp [isSegment_iff.2 h]
    | join h _ ih =>
      rw [pieces_append_cons (h.not_mem (by decide) (by decide)), List.all_cons, ih,
        isSegment_iff.2 h]
      rfl

/-! ## Versions and identifiers -/

/-- The digits from one to nine are the digits that are not zero. -/
theorem leading_digit_iff (d : Char) : ('1' ≤ d ∧ d ≤ '9') ↔ d.isDigit = true ∧ d ≠ '0' := by
  have hone : ('1' : Char).val.toNat = 49 := rfl
  have hnine : ('9' : Char).val.toNat = 57 := rfl
  have hzero : ('0' : Char).val.toNat = 48 := rfl
  simp only [Char.isDigit, Char.le_def, UInt32.le_iff_toNat_le, Bool.and_eq_true,
    decide_eq_true_eq, ge_iff_le, ne_eq, ← Char.toNat_inj, Char.toNat]
  omega

/-- **A text is a version** exactly if the rule of versions derives it. -/
theorem isVersion_iff {text : List Char} : isVersion text = true ↔ Version text := by
  cases text with
  | nil => exact ⟨nofun, nofun⟩
  | cons d rest =>
    have hparts : isVersion (d :: rest) = true ↔
        (d.isDigit = true ∧ d ≠ '0') ∧ (∀ c ∈ rest, c.isDigit = true) ∧ rest.length ≤ 8 := by
      simp only [isVersion, Bool.and_eq_true, decide_eq_true_eq, bne_iff_ne, List.all_cons,
        List.head?_cons, ne_eq, Option.some.injEq, List.length_cons, List.all_eq_true, isDigit_eq]
      constructor
      · rintro ⟨⟨⟨-, hlength⟩, hzero⟩, hd, hrest⟩
        exact ⟨⟨hd, hzero⟩, hrest, by omega⟩
      · rintro ⟨⟨hd, hzero⟩, hrest, hlength⟩
        exact ⟨⟨⟨by omega, by omega⟩, hzero⟩, hd, hrest⟩
    rw [hparts, ← leading_digit_iff]
    constructor
    · rintro ⟨⟨hlow, hhigh⟩, hrest, hlength⟩
      exact .digits hlow hhigh hrest hlength
    · rintro ⟨hlow, hhigh, hrest, hlength⟩
      exact ⟨⟨hlow, hhigh⟩, hrest, hlength⟩

/-- **A text is an identifier** exactly if the grammar derives it. -/
theorem isValid_iff {text : List Char} : isValid text = true ↔ Derives text := by
  rw [isValid]
  constructor
  · intro h
    split at h
    · rename_i path version hcut
      obtain ⟨after, hlead, hpath⟩ := Option.bind_eq_some_iff.1 hcut
      rw [Bool.and_eq_true, all_isSegment_iff, isVersion_iff] at h
      rw [afterLead_eq_some_iff.1 hlead, (cut_eq_some_iff.1 hpath).1, ← List.append_assoc]
      exact .identifier h.1 h.2
    · cases h
  · rintro ⟨hpath, hversion⟩
    have hsemicolon := hpath.not_mem (c := ';') (by decide) (by decide) (by decide)
    rw [List.append_assoc, afterLead_eq_some_iff.2 rfl, Option.bind_some,
      cut_eq_some_iff.2 ⟨rfl, hsemicolon⟩]
    simp only [all_isSegment_iff.2 hpath, isVersion_iff.2 hversion, Bool.and_self]

/-- **The identifiers are the strings that the grammar derives.** One is read as itself, and any
other string is refused with a text that quotes it. -/
theorem parse_iff_derives (s : String) :
    (∀ d, parse s = .ok d ↔ Derives s.toList ∧ d.text = s) ∧
      ∀ message, parse s = .error message ↔
        ¬Derives s.toList ∧ message = "'" ++ s ++ "' is not a valid DTMI" := by
  rw [← isValid_iff]
  by_cases hvalid : isValid s.toList = true
  · rw [parse_of_isValid hvalid]
    refine ⟨fun d => ⟨?_, ?_⟩, fun message => ⟨nofun, fun h => absurd hvalid h.1⟩⟩
    · intro hd
      rw [← Except.ok.inj hd]
      exact ⟨hvalid, rfl⟩
    · rintro ⟨-, rfl⟩
      rfl
  · rw [parse_of_not_isValid hvalid]
    refine ⟨fun d => ⟨nofun, fun h => absurd h.1 hvalid⟩, fun message => ⟨?_, ?_⟩⟩
    · intro hmessage
      rw [← Except.error.inj hmessage]
      exact ⟨hvalid, rfl⟩
    · rintro ⟨-, rfl⟩
      rfl

/-- Colons join segments, and an empty one is none. -/
example : Derives "dtmi:foo_bar:u_16:baz33;12".toList ∧ ¬Derives "dtmi:foo::bar;1".toList := by
  rw [← isValid_iff, ← isValid_iff]
  decide

end HubLink.Dtmi
