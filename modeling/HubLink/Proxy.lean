import HubLink.Options.Basic
import HubLink.Text.Base64
import HubLink.Text.Utf8

/-! # Proxies

Reaching the hub through an HTTP proxy: the request for a tunnel, and reading the answer piece by
piece until its headers are complete. -/

namespace HubLink.Proxy

open Text

/-- The end of a line. -/
def lineEnd : List Char := ['\r', '\n']

/-- Host and port. -/
def address (host : String) (port : Nat) : List Char := host.toList ++ ':' :: decimal port

/-- User and password. -/
def login (user : String) (password : Option String) : List Char :=
  user.toList ++ ':' :: (password.getD "").toList

/-- The request for a tunnel to a host and a port. -/
def request (p : ProxySettings) (host : String) (port : Nat) : List Char :=
  "CONNECT ".toList ++ address host port ++ " HTTP/1.1".toList ++ lineEnd
    ++ "Host: ".toList ++ address host port ++ lineEnd
    ++ (match p.username with
      | some user =>
        "Proxy-Authorization: Basic ".toList
          ++ Base64.encode (Utf8.encode (login user p.password)) ++ lineEnd
      | none => [])
    ++ lineEnd

/-- How long the headers of an answer may get, in octets. -/
def maxAnswer : Nat := 8192

/-- How many octets are read at a time. -/
def readLength : Nat := 512

/-- The headers of the answer do not end. -/
def tooLarge : Fault := .link .protocol "proxy response headers too large"

/-- The answer ended before its headers did. -/
def closedEarly : Fault := .link .reset "proxy closed the connection during CONNECT"

/-- The answer has no status. -/
def malformed : Fault := .link .protocol "malformed proxy response"

/-- What ends the headers of an answer. -/
def headersEnd : List UInt8 := [0x0d, 0x0a, 0x0d, 0x0a]

/-- The first line of a text. -/
def firstLine (text : List Char) : List Char :=
  let line := text.takeWhile (· ≠ '\n')
  if line.length < text.length ∧ line.getLast? = some '\r' then line.dropLast else line

/-- The status of an answer: the second word of its first line. -/
def status? (answer : List UInt8) : Option Nat :=
  (words (firstLine (Utf8.decodeLenient answer)))[1]?.bind (readNumber? bound16)

/-- Whether an answer with complete headers opens the tunnel. -/
def check (answer : List UInt8) : Except Fault Unit :=
  match status? answer with
  | none => .error malformed
  | some status =>
    if 200 ≤ status ∧ status < 300 then .ok ()
    else if status = 407 then .error (.service 407 "proxy authentication required" none)
    else
      .error (.link .reset
        ("proxy refused tunnel with status " ++ String.ofList (decimal status)))

/-- Read an answer in pieces, after what was read before. An empty piece, or no more pieces, is the
end of the stream. -/
def readAnswer (before : List UInt8) : List (List UInt8) → Except Fault Unit
  | [] =>
    if occursIn headersEnd before then check before
    else if before.length > maxAnswer then .error tooLarge
    else .error closedEarly
  | piece :: rest =>
    if occursIn headersEnd before then check before
    else if before.length > maxAnswer then .error tooLarge
    else if piece.isEmpty then .error closedEarly
    else readAnswer (before ++ piece) rest

/-- Open a tunnel, given the pieces of the answer. -/
def tunnel (pieces : List (List UInt8)) : Except Fault Unit := readAnswer [] pieces

end HubLink.Proxy
