import HubLink.Connection.Identity
import HubLink.Proxy

/-! # The lines of a request for a tunnel

A request for a tunnel is put together from texts that others chose: a host, a user and a password.
None of them can add a line to it (`Proxy.lines_request`). A host that was accepted has no white
space, and so no end of a line, and whatever stands in a login is written with the symbols of
Base64. -/

namespace HubLink.Proxy

open Text

/-- The parts of a text between the ends of its lines; one more than there are. -/
def lines : List Char → List (List Char)
  | [] => [[]]
  | '\r' :: '\n' :: rest => [] :: lines rest
  | c :: rest =>
    match lines rest with
    | [] => [[c]]
    | line :: more => (c :: line) :: more

/-- A text that no end of a line can be in, nor one half of it. -/
def IsPlain (text : List Char) : Prop := '\r' ∉ text ∧ '\n' ∉ text

instance (text : List Char) : Decidable (IsPlain text) := inferInstanceAs (Decidable (_ ∧ _))

variable {line : List Char}

theorem IsPlain.append {other : List Char} (h : IsPlain line) (hother : IsPlain other) :
    IsPlain (line ++ other) :=
  ⟨by simp [h.1, hother.1], by simp [h.2, hother.2]⟩

/-- A line is split off at its end. -/
theorem lines_append (h : '\r' ∉ line) (rest : List Char) :
    lines (line ++ lineEnd ++ rest) = line :: lines rest := by
  induction line with
  | nil => rfl
  | cons c line ih =>
    rw [List.mem_cons, not_or] at h
    rw [List.cons_append, List.cons_append, lines, ih h.2]
    -- Else the line would end here, with a carriage return.
    rintro _ rfl
    exact absurd rfl h.1

/-- **Lines that are written with their ends are split back.** -/
theorem lines_flatMap {parts : List (List Char)} (h : ∀ part ∈ parts, '\r' ∉ part) :
    lines (parts.flatMap (· ++ lineEnd)) = parts ++ [[]] := by
  induction parts with
  | nil => rfl
  | cons part parts ih =>
    rw [List.flatMap_cons, lines_append (h part List.mem_cons_self),
      ih fun other hother => h other (List.mem_cons_of_mem _ hother), List.cons_append]

/-! ## Texts of others -/

/-- A host that was accepted cannot end a line. -/
theorem isPlain_host {i : Identity} (h : i.validate = .ok ()) : IsPlain i.host.toList := by
  have hblank := Identity.isBlank_of_validate h
  exact ⟨fun hmem => absurd (hblank _ hmem) (by decide),
    fun hmem => absurd (hblank _ hmem) (by decide)⟩

theorem isPlain_decimal (n : Nat) : IsPlain (decimal n) :=
  ⟨fun hmem => absurd (isDigit_of_mem_decimal hmem) (by decide),
    fun hmem => absurd (isDigit_of_mem_decimal hmem) (by decide)⟩

/-- Nor can anything that is written in Base64. -/
theorem isPlain_encode (bytes : List UInt8) : IsPlain (Base64.encode bytes) :=
  ⟨Base64.not_mem_encode (by decide) (by decide) bytes,
    Base64.not_mem_encode (by decide) (by decide) bytes⟩

theorem isPlain_address {i : Identity} (h : i.validate = .ok ()) (port : Nat) :
    IsPlain (address i.host port) :=
  have hcolon : IsPlain [':'] := by decide
  (isPlain_host h).append (hcolon.append (isPlain_decimal port))

/-! ## The request -/

/-- What the login of a proxy is written as. -/
def credentials? (p : ProxySettings) : Option (List Char) :=
  p.username.map fun user => Base64.encode (Utf8.encode (login user p.password))

/-- The lines of a request: where the tunnel leads, twice, and the login if there is one. -/
def requestLines (p : ProxySettings) (host : String) (port : Nat) : List (List Char) :=
  ["CONNECT ".toList ++ address host port ++ " HTTP/1.1".toList,
    "Host: ".toList ++ address host port] ++
    ((credentials? p).map ("Proxy-Authorization: Basic ".toList ++ ·)).toList

/-- A request is its lines and an empty one. -/
theorem request_eq (p : ProxySettings) (host : String) (port : Nat) :
    request p host port = (requestLines p host port ++ [[]]).flatMap (· ++ lineEnd) := by
  -- The fixed texts do not matter, and are kept from being opened.
  unfold request requestLines credentials?
  generalize "CONNECT ".toList = connect
  generalize "Host: ".toList = header
  generalize " HTTP/1.1".toList = version
  generalize "Proxy-Authorization: Basic ".toList = authorization
  cases p.username with
  | none => simp
  | some user => simp

/-- No text of others ends a line of it. -/
theorem isPlain_of_mem_requestLines {i : Identity} (h : i.validate = .ok ()) (p : ProxySettings)
    (port : Nat) : ∀ line ∈ requestLines p i.host port, IsPlain line := by
  have haddress := isPlain_address h port
  intro line hline
  simp only [requestLines, credentials?, Option.map_map, List.mem_append, List.mem_cons,
    List.not_mem_nil, or_false, Option.mem_toList, Option.map_eq_some_iff] at hline
  obtain (rfl | rfl) | ⟨user, -, rfl⟩ := hline
  · exact (IsPlain.append (by decide) haddress).append (by decide)
  · exact IsPlain.append (by decide) haddress
  · exact IsPlain.append (by decide) (isPlain_encode _)

/-- **A request for a tunnel has the lines it should have and no other**, whatever the user and the
password are: where the tunnel leads, where it leads again, the login if there is a user, and an
empty line, behind which nothing stands. The login is read back from its line, and no line has
another end of a line in it, nor one half of it. -/
theorem lines_request {host device : String} (h : Identity.validate ⟨host, device⟩ = .ok ())
    (p : ProxySettings) (port : Nat) :
    ∃ credentials : Option (List Char),
      lines (request p host port) =
        ["CONNECT ".toList ++ host.toList ++ ':' :: decimal port ++ " HTTP/1.1".toList,
          "Host: ".toList ++ host.toList ++ ':' :: decimal port] ++
          (credentials.map ("Proxy-Authorization: Basic ".toList ++ ·)).toList ++ [[], []] ∧
      credentials.map Base64.decode? = p.username.map (fun user =>
        some (Utf8.encode (user.toList ++ ':' :: (p.password.getD "").toList))) ∧
      ∀ line ∈ lines (request p host port), '\r' ∉ line ∧ '\n' ∉ line := by
  have hplain := isPlain_of_mem_requestLines h p port
  have hlines : lines (request p host port) = requestLines p host port ++ [[], []] := by
    rw [request_eq, lines_flatMap, List.append_assoc, List.singleton_append]
    intro line hline
    rcases List.mem_append.1 hline with hline | hline
    · exact (hplain line hline).1
    · simp [List.mem_singleton.1 hline]
  refine ⟨credentials? p, ?_, ?_, fun line hline => ?_⟩
  · rw [hlines, requestLines, address, List.append_assoc _ host.toList,
      List.append_assoc _ host.toList]
  · simp only [credentials?, Option.map_map, Function.comp_def, Base64.decode?_encode, login]
  · rw [hlines, List.mem_append] at hline
    rcases hline with hline | hline
    · exact hplain line hline
    · simp_all

/-- A user that would add a line of its own, if it could. -/
def intruder : ProxySettings :=
  { host := "proxy", port := 8080, username := some "a\r\nX: y" }

/-- Such a user stays within the line of the login. -/
theorem lines_request_intruder :
    Identity.validate ⟨"hub.azure-devices.net", "dev1"⟩ = .ok () ∧
    ∃ credentials : Option (List Char),
      lines (request intruder "hub.azure-devices.net" 443) =
        ["CONNECT ".toList ++ "hub.azure-devices.net".toList ++ ':' :: decimal 443 ++
            " HTTP/1.1".toList,
          "Host: ".toList ++ "hub.azure-devices.net".toList ++ ':' :: decimal 443] ++
          (credentials.map ("Proxy-Authorization: Basic ".toList ++ ·)).toList ++ [[], []] ∧
      credentials.map Base64.decode? = intruder.username.map (fun user =>
        some (Utf8.encode (user.toList ++ ':' :: (intruder.password.getD "").toList))) ∧
      ∀ line ∈ lines (request intruder "hub.azure-devices.net" 443), '\r' ∉ line ∧ '\n' ∉ line :=
  have accepted : Identity.validate ⟨"hub.azure-devices.net", "dev1"⟩ = .ok () := by rfl
  ⟨accepted, lines_request accepted intruder 443⟩

end HubLink.Proxy
