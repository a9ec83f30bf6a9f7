import Stencil.Http.Message
import Stencil.Http.Url
import Stencil.Text.Base64
import Stencil.Text.CharClass
import Stencil.Text.Glob
import Stencil.Text.Quoted

/-!
# Opening web sockets

A request to open a web socket has to say so in its headers, with a key of sixteen bytes.
A browser also says from which page the request comes; that page must be on the host the
request was sent to, or on one that the server lists.
-/

namespace Stencil.Handshake

open Bytes

/-- **Why a web socket is not opened.** -/
inductive Refusal where
  /-- The request does not ask for another protocol. -/
  | notUpgrading (connection : Bytes)
  /-- The request asks for a protocol other than web sockets. -/
  | otherProtocol (upgrade : Bytes)
  /-- The method is wrong. -/
  | badMethod (method : Bytes)
  /-- The version is wrong. -/
  | badVersion (version : Bytes)
  /-- There is no key. -/
  | noKey
  /-- The key is no key. -/
  | badKey (key : Bytes)
  /-- The page is at no address. -/
  | badOrigin (origin : Bytes)
  /-- The address of the page has no host. -/
  | originWithoutHost (origin : Bytes)
  /-- The page is on another host than the request was sent to. -/
  | foreignOrigin (page host : Bytes)
  /-- A listed host cannot be read. -/
  | badPattern
  deriving DecidableEq, Repr

namespace Refusal

/-- The wording of a refusal. -/
def message : Refusal → Bytes
  | .notUpgrading c =>
    "WebSocket protocol violation: Connection header " ++ Quoted.quote c
      ++ " does not contain Upgrade"
  | .otherProtocol u =>
    "WebSocket protocol violation: Upgrade header " ++ Quoted.quote u
      ++ " does not contain websocket"
  | .badMethod m =>
    "WebSocket protocol violation: handshake request method is not GET but " ++ Quoted.quote m
  | .badVersion v =>
    "unsupported WebSocket protocol version (only 13 is supported): " ++ Quoted.quote v
  | .noKey => "WebSocket protocol violation: missing Sec-WebSocket-Key"
  | .badKey k =>
    "WebSocket protocol violation: invalid Sec-WebSocket-Key " ++ Quoted.quote k
      ++ ", must be a 16 byte base64 encoded string"
  | .badOrigin o => "failed to parse Origin header " ++ Quoted.quote o
  | .originWithoutHost o => "request Origin " ++ Quoted.quote o ++ " is not a valid URL with a host"
  | .foreignOrigin o h =>
    "request Origin " ++ Quoted.quote o ++ " is not authorized for Host " ++ Quoted.quote h
  | .badPattern => "Forbidden"

/-- The status of a refusal. -/
def status : Refusal → Nat
  | .notUpgrading _ | .otherProtocol _ => 426
  | .badMethod _ => 405
  | .badVersion _ | .noKey | .badKey _ => 400
  | .badOrigin _ | .originWithoutHost _ | .foreignOrigin _ _ | .badPattern => 403

/-- The response of a refusal. -/
def response (r : Refusal) : Http.Response := .error r.status r.message

end Refusal

/-- Whether a header lists a word, in any case. -/
def lists (h : Http.Headers) (name word : Bytes) : Bool :=
  (splitOn (ch ',') (h.get name)).any fun t => CharClass.equalFold (trim t) word

/-- What is wrong with the headers of a request, if anything is. -/
def headerError? (r : Http.Request) : Option Refusal :=
  let key := trim (r.headers.get "Sec-WebSocket-Key")
  if !lists r.headers "Connection" "Upgrade" then some (.notUpgrading (r.headers.get "Connection"))
  else if !lists r.headers "Upgrade" "websocket" then
    some (.otherProtocol (r.headers.get "Upgrade"))
  else if r.method ≠ "GET" then some (.badMethod r.method)
  else if r.headers.get "Sec-WebSocket-Version" ≠ "13" then
    some (.badVersion (r.headers.get "Sec-WebSocket-Version"))
  else if !r.headers.any fun e => lower e.1 = "sec-websocket-key" then some .noKey
  else if (Base64.decode? key).map List.length ≠ some 16 then some (.badKey key)
  else none

/-- Whether some listed host is the given one; nothing if a listed host cannot be read
before that. -/
def listed? (host : Bytes) : List Bytes → Option Bool
  | [] => some false
  | p :: ps =>
    match Glob.matches? (lower p) (lower host) with
    | none => none
    | some true => some true
    | some false => listed? host ps

/-- What is wrong with the page a request comes from, if anything is. -/
def originError? (hosts : List Bytes) (r : Http.Request) : Option Refusal :=
  let origin := r.headers.get "Origin"
  if origin.isEmpty then none
  else
    match Url.parse? origin with
    | none => some (.badOrigin origin)
    | some u =>
      if CharClass.equalFold r.host u.host then none
      else
        match listed? u.host hosts with
        | none => some .badPattern
        | some true => none
        | some false =>
          if u.host.isEmpty then some (.originWithoutHost origin)
          else some (.foreignOrigin u.host r.host)

/-- **Why a request opens no web socket**, if it does not. -/
def refusal? (hosts : List Bytes) (r : Http.Request) : Option Refusal :=
  (headerError? r).orElse fun _ => originError? hosts r

end Stencil.Handshake
