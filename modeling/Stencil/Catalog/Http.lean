import Stencil.Catalog
import Stencil.Http.Message
import Stencil.Http.Url

/-!
# Catalogs on the web

A catalog can come from another process: the module of a name is at the path of that name
below some address. `Catalog.respond` is the other end of it.
-/

namespace Stencil.Catalog

open Bytes

/-- What the paths of modules end with. -/
def fileExtension : Bytes := ".mod"

/-- How large a fetched module may be. -/
def maxModuleSize : Nat := 64 * 1024 * 1024

/-! ## Fetching -/

/-- The address of a module below a base address. -/
def address (base name : Bytes) : Bytes :=
  trimSuffix base "/" ++ "/" ++ trimPrefix name "/" ++ fileExtension

/-- **Why a module could not be fetched.** -/
inductive FetchError where
  /-- The address makes no sense. -/
  | badAddress (url : Bytes)
  /-- Nobody answered. -/
  | noAnswer (url cause : Bytes)
  /-- The answer has a status that is no success. -/
  | badStatus (url : Bytes) (status : Nat)
  /-- The module is too large. -/
  | tooLarge (name : Bytes)
  deriving DecidableEq, Repr

/-- The wording of an error. -/
def FetchError.message : FetchError → Bytes
  | .badAddress url => "building request for " ++ url ++ ": invalid URL"
  | .noAnswer url cause => "GET " ++ url ++ ": " ++ cause
  | .badStatus url status =>
    "GET " ++ url ++ ": unexpected status " ++ Bytes.ofNat status ++ " " ++ Http.reason status
  | .tooLarge name => "module " ++ name ++ " exceeds " ++ Bytes.ofNat maxModuleSize ++ " bytes"

/-- The request for a module: the address as it is sent, or an error. -/
def requestFor (base name : Bytes) : Except FetchError Bytes :=
  let url := address base name
  match Url.parse? url with
  | none => .error (.badAddress url)
  | some u =>
    let host := if u.host.getLast? = some (ch ':') then u.host.dropLast else u.host
    .ok ({ u with host := host } : Url).render

/-- The module in the answer to a request, which is a status and a body, or a reason why
there is none. -/
def moduleOfAnswer (base name : Bytes) (answer : Except Bytes (Nat × Bytes)) :
    Except FetchError Bytes :=
  let url := address base name
  match answer with
  | .error cause => .error (.noAnswer url cause)
  | .ok (status, body) =>
    if status < 200 || 299 < status then .error (.badStatus url status)
    else if maxModuleSize < body.length then .error (.tooLarge name)
    else .ok body

/-- What is said about an address whose scheme is not one of the web. -/
def unsupported? (u : Url) : Option Bytes :=
  if u.scheme = "http" || u.scheme = "https" then none
  else some ("unsupported protocol scheme " ++ Quoted.quote u.scheme)

/-- What is said about an address where nobody listens. -/
def refusal (u : Url) : Bytes :=
  let host : Bytes := if u.host.any (· = ch ':') then u.host
    else u.host ++ (if u.scheme = "https" then ":443" else ":80")
  "dial tcp " ++ host ++ ": connect: connection refused"

/-- What answers requests to addresses: a status and a body, or why there is none. -/
abbrev Web := Url → Except Bytes (Nat × Bytes)

/-- **What fetches modules below a base address.** -/
def webFetcher (web : Web) (base : Bytes) : Fetcher := fun name =>
  match requestFor base name with
  | .error e => .error (.plain e.message)
  | .ok text =>
    let u := (Url.parse? text).getD {}
    let answer : Except Bytes (Nat × Bytes) :=
      match unsupported? u with
      | some cause => .error cause
      | none => web u
    match moduleOfAnswer base name
        (answer.mapError fun cause => "Get " ++ Quoted.quote u.concealed ++ ": " ++ cause) with
    | .error e => .error (.plain e.message)
    | .ok data => .ok data

/-! ## Serving -/

/-- The path behind a first part that is to be left out; none if the path does not start
so. -/
def behind? (first : Bytes) (r : Http.Request) : Option Bytes :=
  if first.isEmpty then some r.path
  else
    match dropPrefix? first r.path with
    | none => none
    | some p =>
      if r.rawPath.isEmpty || (dropPrefix? first r.rawPath).isSome then some p else none

/-- **The answer to a request for a module**, with the paths of modules starting as
given. -/
def respond (c : Catalog) (start : Bytes) (r : Http.Request) : Http.Response :=
  match behind? (trimSuffix start "/") r with
  | none => .notFound
  | some path =>
    if r.method ≠ "GET" && r.method ≠ "HEAD" then .error 405 "method not allowed"
    else
      let name := trimPrefix path "/"
      if !endsWith name fileExtension then .notFound
      else
        match c.find? (trimSuffix name fileExtension) with
        | none => .notFound
        | some m => .typed 200 "application/msgpack" m.raw

end Stencil.Catalog
