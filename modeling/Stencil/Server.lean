import Stencil.Cache
import Stencil.Catalog.Http
import Stencil.Catalog.Listing
import Stencil.Config
import Stencil.Server.Handshake
import Stencil.Server.Page
import Stencil.Server.Policy
import Stencil.Server.RateLimit
import Stencil.Server.Session
import Stencil.Version

/-!
# The server

The server compiles what clients send it, against one catalog of reference modules. It
answers with JSON or with a page, shows its catalog and its own state, and gives out the
modules of the catalog, so that one server can be the source of another one's catalog.

What it remembers between requests is a limiter of the rate at which a client may ask for
compilations, and the results of recent ones; either can be switched off. A response depends
on that state, on the time and on the request alone.
-/

namespace Stencil

open Bytes

/-- **A server.** -/
structure Server where
  /-- The configuration. -/
  config : Config
  /-- The modules that compilations can import. -/
  catalog : Catalog
  /-- The build that runs. -/
  build : BuildInfo := .dev
  /-- The limiter of compilations, if they are limited. -/
  limiter : Option (RateLimit.Limiter Float) := none
  /-- The results of recent compilations, if they are kept. -/
  results : Option Cache := none

namespace Server

/-- How long results are kept, in nanoseconds. -/
def resultLifetime : Int64 := 600000000000

/-- Where the modules of the catalog are. -/
def modulesPath : Bytes := "/modules/"

/-- **The server of a configuration.** -/
def ofConfig (c : Config) (catalog : Catalog) : Server where
  config := c
  catalog := catalog
  limiter :=
    if 0 < c.server.rateLimit then some (.ofRate Float c.server.rateLimit c.server.burst) else none
  results :=
    if 0 < c.server.cacheMegabytes then
      some { capacity := Int64.ofInt c.server.cacheMegabytes <<< 20, lifetime := resultLifetime }
    else none

/-! ## Where requests come from -/

/-- The hosts on which the playground's own pages are. -/
def ownHosts (s : Server) : List Bytes :=
  let port : Bytes := ":" ++ Bytes.ofInt s.config.server.port
  [s.config.server.host ++ port, "localhost" ++ port, "127.0.0.1" ++ port]

/-- Whether a request comes from a page of the playground. -/
def isOwnOrigin (s : Server) (origin : Bytes) : Bool :=
  !origin.isEmpty && s.ownHosts.any fun h => origin = "http://" ++ h || origin = "https://" ++ h

/-- Whether a request might change something and comes from a page of someone else. A
request that comes from no page at all is not from a browser. -/
def isForeign (s : Server) (r : Http.Request) : Bool :=
  let origin := r.headers.get "Origin"
  !(r.method = "GET" || r.method = "HEAD" || r.method = "OPTIONS")
    && !origin.isEmpty && !s.isOwnOrigin origin

/-- The headers of every response to a request. -/
def commonHeaders (s : Server) (r : Http.Request) : Http.Headers :=
  let origin := r.headers.get "Origin"
  let shared : Http.Headers :=
    if s.isOwnOrigin origin then
      [("Access-Control-Allow-Origin", origin),
        ("Access-Control-Allow-Methods", "GET, POST, OPTIONS"),
        ("Access-Control-Allow-Headers", "Content-Type")]
    else []
  shared ++ ContentPolicy.headers

/-! ## Where requests go -/

/-- **What a server has to offer.** -/
inductive Route where
  /-- The state of the server. -/
  | health
  /-- What is in the catalog. -/
  | catalog
  /-- A compilation, answered with JSON. -/
  | compile
  /-- A compilation, answered with a page. -/
  | overlay
  /-- A compilation, answered frame by frame. -/
  | socket
  /-- The modules of the catalog. -/
  | modules
  /-- The page of the playground, and whatever is not there. -/
  | index
  deriving DecidableEq, Repr

/-- Whether a client may ask for it only so often. -/
def Route.isLimited : Route → Bool
  | .compile | .overlay | .socket => true
  | _ => false

/-- What is at a path. Everything that starts like one of them is at the two paths that end in a
slash; nothing is at a path that does not start at the root. -/
def Route.ofPath? (path : Bytes) : Option Route :=
  if path = "/health" then some .health
  else if path = "/api/catalog" then some .catalog
  else if path = "/api/compile" then some .compile
  else if path = "/overlay" then some .overlay
  else if path = "/ws" then some .socket
  else if startsWith path modulesPath then some .modules
  else if path.head? = some slash then some .index
  else none

/-- A path in its shortest form that starts at the root, with a slash at its end if it had
one. -/
def cleanPath (p : Bytes) : Bytes :=
  if p.isEmpty then "/"
  else
    let rooted := if p.head? = some slash then p else slash :: p
    let clean := Path.clean rooted
    if rooted.getLast? = some slash && clean ≠ "/" then clean ++ [slash] else clean

/-- Sends a client to another path. -/
def redirect (r : Http.Request) (path : Bytes) : Http.Response :=
  let target := Url.render { path := path, query := r.query }
  let type : Http.Headers :=
    if r.method = "GET" || r.method = "HEAD" then [("Content-Type", "text/html; charset=utf-8")]
    else []
  { status := 301
    headers := ("Location", target) :: type
    body :=
      if r.method = "GET" then
        "<a href=\"" ++ Html.escape target ++ "\">" ++ Http.reason 301 ++ "</a>.\n\n"
      else [] }

/-- Where a request goes: what is there, or another path to try. -/
def route (r : Http.Request) : Except Http.Response Route :=
  let path := if r.method = "CONNECT" then r.path else cleanPath r.path
  if path ++ "/" = modulesPath then .error (redirect r modulesPath)
  else if path ≠ r.path then .error (redirect r path)
  else
    match Route.ofPath? path with
    | some target => .ok target
    | none => .error .notFound

/-! ## Compiling -/

/-- The settings of the compilation that a request asks for. -/
def optionsFor (s : Server) (req : CompileRequest) : Compile.Options :=
  req.options s.config.compileOptions

/-- The compilation that a request asks for. -/
def run (tools : HostTools) (s : Server) (stop : Interrupts) (req : CompileRequest) : Compile.Run :=
  Compile.run tools stop s.catalog.refs req.files (s.optionsFor req)

/-- **The result of a compilation that a request asks for.** A result that is kept anyway is
computed to the end even if whoever asked for it has given up. -/
def compile (tools : HostTools) (s : Server) (now : Int) (cancelled : Bool) (req : CompileRequest) :
    Except Failure Compile.Result × Server :=
  match s.results with
  | none =>
    let stop := if cancelled then Interrupts.always else .never
    ((s.run tools stop req).outcome, s)
  | some cache =>
    let key := Cache.key req.files [req.root, req.route]
    let (outcome, cache) := cache.getOrCompute now key (s.run tools .never req).outcome
    let s := { s with results := some cache }
    match outcome with
    | .error e => (.error (if cancelled then .plain "context canceled" else e), s)
    | .ok (result, hit) =>
      if cancelled && !hit then (.error (.plain "context canceled"), s) else (.ok result, s)

/-! ## Answering -/

/-- A value as a response. -/
def json (status : Nat) (v : Json) : Http.Response :=
  .typed status "application/json" (v.render ++ [newline])

/-- A failure as a response. -/
def failed (status : Nat) (e : Failure) : Http.Response :=
  json status
    (if e.code.isEmpty then .obj [("error", .str e.text)]
      else .obj [("error", .str e.text), ("code", .str e.code)])

/-- A page as a response. -/
def page (body : Bytes) : Http.Response := .typed 200 "text/html; charset=utf-8" body

/-- The method is not the one that is expected. -/
def wrongMethod : Http.Response := .error 405 "Method not allowed"

/-- The state of a server as a value. -/
def healthJson (s : Server) (now : Int) : Json :=
  let cache : List (Bytes × Json) := match s.results with
    | none => []
    | some c =>
      [("cache", .obj [("entries", Json.ofNat c.entries.length), ("size", Json.ofInt c.weight),
        ("hits", Json.ofNat c.hits), ("misses", Json.ofNat c.misses),
        ("evictions", Json.ofNat c.evictions)])]
  let rest : List (Bytes × Json) :=
    [("catalog", Json.ofNat s.catalog.size), ("status", .str "healthy"),
      ("timestamp", .str (Timestamp.ofNanos now).renderExact), ("version", .str s.build.short)]
  .obj (cache ++ rest)

/-- **The answer to a request** for something that the server has, and the server after
it. -/
def answer (tools : HostTools) (s : Server) (now : Int) (r : Http.Request) :
    Route → Http.Response × Server
  | .health => (if r.method ≠ "GET" then wrongMethod else json 200 (s.healthJson now), s)
  | .catalog =>
    (if r.method ≠ "GET" then wrongMethod
      else json 200 s.catalog.toJson, s)
  | .modules => (s.catalog.respond modulesPath r, s)
  | .index =>
    (if r.path ≠ "/" then .notFound
      else if r.method ≠ "GET" then wrongMethod
      else page (Page.index (s.catalog.refs.map Reference.path)), s)
  | .socket =>
    -- nothing is known about the connection here, so it cannot be taken over
    (match Handshake.refusal? s.ownHosts r with
      | some e => e.response
      | none => .error 501 (Http.reason 501), s)
  | .compile =>
    if r.method ≠ "POST" then (wrongMethod, s)
    else
      match CompileRequest.decode r.body with
      | .error e => (failed 400 e.failure, s)
      | .ok req =>
        match s.compile tools now r.cancelled req with
        | (.error e, s) => (failed 500 e, s)
        | (.ok result, s) => (json 200 result.toJson, s)
  | .overlay =>
    if r.method ≠ "POST" then (wrongMethod, s)
    else
      match CompileRequest.decode r.body with
      | .error e => (.error 400 e.failure.text, s)
      | .ok req =>
        match s.compile tools now r.cancelled req with
        | (.error e, s) => (.error 500 e.text, s)
        | (.ok result, s) => (page (Page.overlay result), s)

/-- Asks the limiter whether a request may go on: the headers that say so, and the refusal
if it may not. -/
def checkRate (s : Server) (now : Int) (r : Http.Request) :
    Http.Headers × Option Http.Response × Server :=
  match s.limiter with
  | none => ([], none, s)
  | some l =>
    let (v, l) := l.check now (Http.client r.remote)
    let headers : Http.Headers :=
      [("X-Ratelimit-Limit", Bytes.ofInt l.perMinute),
        ("X-Ratelimit-Remaining", Bytes.ofInt v.remaining)]
    let s := { s with limiter := some l }
    if v.allowed then (headers, none, s)
    else
      (headers.set "Retry-After" (Bytes.ofInt v.retrySeconds),
        some (.error 429 "Rate limit exceeded"), s)

/-- What is answered to a request before anyone looks at what it is for. -/
def early? (s : Server) (r : Http.Request) : Option Http.Response :=
  if r.method = "OPTIONS" then some { status := 204 }
  else if s.isForeign r then some (.error 403 "Forbidden")
  else if r.path = "*" then some { status := 400 }
  else none

/-- The answer to a request, without the headers that every response has. -/
def dispatch (tools : HostTools) (s : Server) (now : Int) (r : Http.Request) :
    Http.Response × Server :=
  match s.early? r with
  | some a => (a, s)
  | none =>
    match route r with
    | .error a => (a, s)
    | .ok target =>
      if !target.isLimited then s.answer tools now r target
      else
        match s.checkRate now r with
        | (headers, some a, s) => (a.withHeaders headers, s)
        | (headers, none, s) =>
          let (a, s) := s.answer tools now r target
          (a.withHeaders headers, s)

/-- **The response to a request** at a time, and the server after it. -/
def respond (tools : HostTools) (s : Server) (now : Int) (r : Http.Request) :
    Http.Response × Server :=
  let (a, after) := s.dispatch tools now r
  (a.withHeaders (s.commonHeaders r), after)

/-- **Opens a web socket**, or refuses to. The connection can be taken over. -/
def openSocket (s : Server) (now : Int) (r : Http.Request) : Option Http.Response × Server :=
  match s.checkRate now r with
  | (headers, some a, s) => (some (a.withHeaders headers), s)
  | (_, none, s) => ((Handshake.refusal? s.ownHosts r).map Handshake.Refusal.response, s)

/-- **The reply to the message** of a client on a web socket. -/
def converse (tools : HostTools) (s : Server) (message : Bytes) : Session.Reply :=
  match CompileRequest.decode message with
  | .error e => Session.refuse e
  | .ok req => Session.reply (s.run tools .never req)

end Server

end Stencil
