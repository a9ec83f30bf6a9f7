import Stencil.Http.Address
import Stencil.Text.Utf8

/-!
# URLs

A URL is taken apart into scheme, user, host, path, query and fragment. What is escaped
with percent signs is kept unescaped; where the spelling of the path cannot be found
again that way, it is kept beside it. `Url.render` puts a URL together.

Which characters have to be escaped depends on the part they are in.
-/

namespace Stencil

open Bytes

/-- A part of a URL with its own rules for escaping. -/
inductive UrlPart where
  /-- The host. -/
  | host
  /-- The scope of a host address. -/
  | scope
  /-- A user or password. -/
  | user
  /-- The path. -/
  | path
  /-- The fragment. -/
  | fragment
  deriving DecidableEq, Repr

namespace UrlPart

/-- Whether a byte is one of some characters. -/
def among (chars : String) (c : UInt8) : Bool := (Bytes.ofString chars).any (· = c)

/-- Whether a byte has to be escaped in a part. -/
def escapes (p : UrlPart) (c : UInt8) : Bool :=
  if (isIdentChar c && c ≠ ch '_') then false
  else if (p = .host || p = .scope)
      && (among "!$&()*+,;=:[]<>" c || c = squote || c = dquote) then false
  else if among "-_.~" c then false
  else if among "$&+,/:;=?@" c then
    match p with
    | .path => c = ch '?'
    | .user => among "@/?:" c
    | .fragment => false
    | _ => true
  else if p = .fragment && among "!()*" c then false
  else true

/-- A text with what has to be escaped in a part escaped. -/
def escape (p : UrlPart) (s : Bytes) : Bytes :=
  s.flatMap fun c => if p.escapes c then ch '%' :: upper (hex 2 c.toNat) else [c]

/-- The text that an escaped one stands for; none if it is malformed. -/
def unescape? (p : UrlPart) : Bytes → Option Bytes
  | [] => some []
  | [c] => single c []
  | [c, d] => if c = ch '%' then none else single c [d]
  | c :: a :: b :: r =>
    if c = ch '%' then
      match hexValue? a, hexValue? b with
      | some x, some y =>
        let v := (16 * x + y).toUInt8
        let percent := x = 2 && y = 5
        let bad := match p with
          | .host => x < 8 && !percent
          | .scope => !percent && v ≠ 0x20 && UrlPart.host.escapes v
          | _ => false
        if bad then none else (unescape? p r).map (v :: ·)
      | _, _ => none
    else if forbidden c then none
    else (unescape? p (a :: b :: r)).map (c :: ·)
where
  /-- Whether a byte cannot stand for itself. -/
  forbidden (c : UInt8) : Bool := (p = .host || p = .scope) && c < 0x80 && p.escapes c
  /-- The end of a text that is too short for an escape. -/
  single (c : UInt8) (rest : Bytes) : Option Bytes :=
    if c = ch '%' || (c :: rest).any fun x => x = ch '%' || forbidden x then none
    else some (c :: rest)

end UrlPart

/-- **A URL.** -/
structure Url where
  /-- The scheme, in lower case; empty for none. -/
  scheme : Bytes := []
  /-- What follows the scheme when that is not a path. -/
  rest : Bytes := []
  /-- The user and, if there is one, the password. -/
  user : Option (Bytes × Option Bytes) := none
  /-- The host with the port. -/
  host : Bytes := []
  /-- Whether the slashes for the host are missing. -/
  omitHost : Bool := false
  /-- The path, unescaped. -/
  path : Bytes := []
  /-- The path as written, where it cannot be found from the unescaped one. -/
  rawPath : Bytes := []
  /-- Whether there is a question mark without a query. -/
  bareQuery : Bool := false
  /-- The query. -/
  query : Bytes := []
  /-- The fragment, unescaped. -/
  fragment : Bytes := []
  /-- The fragment as written, where it cannot be found from the unescaped one. -/
  rawFragment : Bytes := []
  deriving DecidableEq, Repr

namespace Url

/-! ## Reading -/

/-- The scheme at the front of a text, and what follows it: the whole text if there is no
scheme, and nothing at all if there is a colon without one. -/
def scheme? (s : Bytes) : Option (Bytes × Bytes) :=
  let isSchemeByte (c : UInt8) := (isIdentChar c && c ≠ ch '_') || UrlPart.among "+-." c
  let (word, r) := s.span isSchemeByte
  match r with
  | c :: r =>
    if c ≠ ch ':' then some ([], s)
    else
      match word with
      | [] => none
      | a :: _ => if isIdentStart a then some (lower word, r) else some ([], s)
  | [] => some ([], s)

/-- Whether a text is empty or a colon and digits. -/
def isOptionalPort : Bytes → Bool
  | [] => true
  | c :: ds => c = ch ':' && ds.all isDigit

/-- The host of an authority. Only an address of eight groups stands in brackets. -/
def host? (s : Bytes) : Option Bytes :=
  if s.any (· = ch '[') then
    match cutLast? (ch ']') s with
    | none => none
    | some (inside, port) =>
      if !isOptionalPort port || s.head? ≠ some (ch '[') then none
      else do
        let inside := inside.drop 1
        let address ← match indexOf? "%25" inside with
          | none => UrlPart.unescape? .host inside
          | some i => do
            let address ← UrlPart.unescape? .host (inside.take i)
            let scope ← UrlPart.unescape? .scope (inside.drop i)
            pure (address ++ scope)
        let port ← UrlPart.unescape? .host port
        if Address.isLong address then some ("[" ++ address ++ "]" ++ port) else none
  else
    let port : Bytes := match cutLast? (ch ':') s with
      | some (_, p) => ch ':' :: p
      | none => []
    if isOptionalPort port then UrlPart.unescape? .host s else none

/-- The characters that a user or a password can hold. -/
def isUserByte (c : UInt8) : Bool :=
  isIdentChar c || UrlPart.among "-._:~!$&()*+,;=%@" c || c = squote

/-- The user and the host of an authority. -/
def authority? (s : Bytes) : Option (Option (Bytes × Option Bytes) × Bytes) :=
  match cutLast? (ch '@') s with
  | none => (host? s).map fun h => (none, h)
  | some (user, host) => do
    let host ← host? host
    if !user.all isUserByte then none
    else if !user.any (· = ch ':') then
      return (some (← UrlPart.unescape? .user user, none), host)
    else
      let (name, password) := cut (ch ':') user
      let name ← UrlPart.unescape? .user name
      return (some (name, some (← UrlPart.unescape? .user password)), host)

/-- The URL with a path as written. -/
def withPath? (u : Url) (s : Bytes) : Option Url :=
  (UrlPart.unescape? .path s).map fun p =>
    { u with path := p, rawPath := if UrlPart.escape .path p = s then [] else s }

/-- The URL of a text without a fragment; of a request, it starts with a slash or a
scheme. -/
def parseBase? (request : Bool) (s : Bytes) : Option Url := do
  if s.any fun c => c < 0x20 || c = 0x7f then none
  else if s.isEmpty && request then none
  else if s = "*" then some { path := "*" }
  else
    let (scheme, rest) ← scheme? s
    let bare := rest.getLast? = some (ch '?') && rest.count (ch '?') = 1
    let (rest, query) := cut (ch '?') rest
    let u : Url := { scheme := scheme, query := query, bareQuery := bare }
    if rest.head? ≠ some slash then
      if !scheme.isEmpty then some { u with rest := rest }
      else if request || (cut slash rest).1.any (· = ch ':') then none
      else u.withPath? rest
    else if (!scheme.isEmpty || (!request && !startsWith rest "///")) && startsWith rest "//" then
      let (authority, path) := (rest.drop 2).span (· ≠ slash)
      let (user, host) ← authority? authority
      ({ u with user := user, host := host } : Url).withPath? path
    else ({ u with omitHost := !scheme.isEmpty } : Url).withPath? rest

/-- **The URL of a text.** -/
def parse? (s : Bytes) : Option Url := do
  let (base, fragment) := cut (ch '#') s
  let u ← parseBase? false base
  let f ← UrlPart.unescape? .fragment fragment
  return { u with
    fragment := f
    rawFragment := if UrlPart.escape .fragment f = fragment then [] else fragment }

/-- The URL of a request. -/
def parseRequest? (s : Bytes) : Option Url := parseBase? true s

/-! ## Writing -/

/-- Whether a text is one that escaping for a part can give. -/
def isEscaped (p : UrlPart) (s : Bytes) : Bool :=
  s.all fun c => UrlPart.among "!$&()*+,;=:@[]%" c || c = squote || !p.escapes c

/-- A part as it was written, if that is what it stands for, and escaped otherwise. -/
def spelling (p : UrlPart) (raw value : Bytes) : Bytes :=
  if !raw.isEmpty && isEscaped p raw && p.unescape? raw = some value then raw
  else p.escape value

/-- The path, escaped. -/
def escapedPath (u : Url) : Bytes :=
  if u.rawPath.isEmpty && u.path = "*" then "*" else spelling .path u.rawPath u.path

/-- The authority with the slashes before it. -/
def authorityText (u : Url) : Bytes :=
  if u.scheme.isEmpty && u.host.isEmpty && u.user.isNone then []
  else if u.omitHost && u.host.isEmpty && u.user.isNone then []
  else
    (if !u.host.isEmpty || !u.path.isEmpty || u.user.isSome then Bytes.ofString "//" else [])
      ++ (match u.user with
        | none => []
        | some (name, none) => UrlPart.escape .user name ++ "@"
        | some (name, some password) =>
          UrlPart.escape .user name ++ ":" ++ UrlPart.escape .user password ++ "@")
      ++ UrlPart.escape .host u.host

/-- **The text of a URL.** -/
def render (u : Url) : Bytes :=
  let start : Bytes := if u.scheme.isEmpty then [] else u.scheme ++ ":"
  let middle : Bytes :=
    if !u.rest.isEmpty then u.rest
    else
      let path := u.escapedPath
      let authority := u.authorityText
      let slashes : Bytes :=
        if !path.isEmpty && path.head? ≠ some slash && !u.host.isEmpty then "/" else []
      let dot : Bytes := if (start ++ authority ++ slashes).isEmpty
        && (cut slash path).1.any (· = ch ':') then "./" else []
      authority ++ slashes ++ dot ++ path
  start ++ middle
    ++ (if u.bareQuery || !u.query.isEmpty then ch '?' :: u.query else [])
    ++ (if u.fragment.isEmpty then [] else ch '#' :: spelling .fragment u.rawFragment u.fragment)

/-- The text of a URL with its password hidden. -/
def concealed (u : Url) : Bytes :=
  let full := u.render
  match u.user with
  | some (name, some password) =>
    let secret := UrlPart.escape .user name ++ ":" ++ UrlPart.escape .user password ++ "@"
    match Bytes.indexOf? secret full with
    | some i => full.take i ++ name ++ ":***@" ++ full.drop (i + secret.length)
    | none => full
  | _ => full

/-- Whether a URL says where to go: it has a scheme and a host. -/
def isAbsolute (u : Url) : Bool := !u.scheme.isEmpty && !u.host.isEmpty

end Url

end Stencil
