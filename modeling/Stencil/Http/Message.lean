import Stencil.Text.Bytes

/-!
# Requests and responses

A request and a response of the web, as far as they matter here. Header names are in
their usual spelling, and a header has one value.
-/

namespace Stencil.Http

open Bytes

/-- The reason that goes with a status, empty for a status without one. -/
def reason (status : Nat) : Bytes :=
  (reasons.find? fun (e : Nat × String) => e.1 = status).elim [] fun e => Bytes.ofString e.2
where
  /-- The reasons by status. -/
  reasons : List (Nat × String) :=
    [(100, "Continue"), (101, "Switching Protocols"), (102, "Processing"), (103, "Early Hints"),
      (200, "OK"), (201, "Created"), (202, "Accepted"), (203, "Non-Authoritative Information"),
      (204, "No Content"), (205, "Reset Content"), (206, "Partial Content"), (207, "Multi-Status"),
      (208, "Already Reported"), (226, "IM Used"), (300, "Multiple Choices"),
      (301, "Moved Permanently"), (302, "Found"), (303, "See Other"), (304, "Not Modified"),
      (305, "Use Proxy"), (307, "Temporary Redirect"), (308, "Permanent Redirect"),
      (400, "Bad Request"), (401, "Unauthorized"), (402, "Payment Required"), (403, "Forbidden"),
      (404, "Not Found"), (405, "Method Not Allowed"), (406, "Not Acceptable"),
      (407, "Proxy Authentication Required"), (408, "Request Timeout"), (409, "Conflict"),
      (410, "Gone"), (411, "Length Required"), (412, "Precondition Failed"),
      (413, "Request Entity Too Large"), (414, "Request URI Too Long"),
      (415, "Unsupported Media Type"), (416, "Requested Range Not Satisfiable"),
      (417, "Expectation Failed"), (418, "I'm a teapot"), (421, "Misdirected Request"),
      (422, "Unprocessable Entity"), (423, "Locked"), (424, "Failed Dependency"),
      (425, "Too Early"), (426, "Upgrade Required"), (428, "Precondition Required"),
      (429, "Too Many Requests"), (431, "Request Header Fields Too Large"),
      (451, "Unavailable For Legal Reasons"), (500, "Internal Server Error"),
      (501, "Not Implemented"), (502, "Bad Gateway"), (503, "Service Unavailable"),
      (504, "Gateway Timeout"), (505, "HTTP Version Not Supported"),
      (506, "Variant Also Negotiates"), (507, "Insufficient Storage"), (508, "Loop Detected"),
      (510, "Not Extended"), (511, "Network Authentication Required")]

/-- Headers, in the order in which they were first set. -/
abbrev Headers := List (Bytes × Bytes)

namespace Headers

/-- The value of a header, in whatever case its name is written; empty if it is not
there. -/
def get (h : Headers) (name : Bytes) : Bytes :=
  ((h.find? fun e => lower e.1 = lower name).map Prod.snd).getD []

/-- The headers with a header set. -/
def set (h : Headers) (name value : Bytes) : Headers :=
  if h.any fun e => e.1 = name then h.map fun e => if e.1 = name then (name, value) else e
  else h ++ [(name, value)]

end Headers

/-- **A request.** -/
structure Request where
  /-- The method. -/
  method : Bytes
  /-- The path, unescaped. -/
  path : Bytes
  /-- The path as written, where it cannot be found from the unescaped one. -/
  rawPath : Bytes := []
  /-- The query behind the path. -/
  query : Bytes := []
  /-- The host it was sent to. -/
  host : Bytes := []
  /-- The headers. -/
  headers : Headers := []
  /-- The body. -/
  body : Bytes := []
  /-- The address it came from. -/
  remote : Bytes := []
  /-- Whether whoever sent it has given up. -/
  cancelled : Bool := false
  deriving DecidableEq, Repr

/-- **A response.** -/
structure Response where
  /-- The status. -/
  status : Nat
  /-- The headers. -/
  headers : Headers := []
  /-- The body. -/
  body : Bytes := []
  deriving DecidableEq, Repr

namespace Response

/-- The response with headers in front of its own. -/
def withHeaders (r : Response) (h : Headers) : Response :=
  { r with headers := r.headers.foldl (fun h e => h.set e.1 e.2) h }

/-- A body of a type. -/
def typed (status : Nat) (type body : Bytes) : Response :=
  ⟨status, [("Content-Type", type)], body⟩

/-- A line of text that says what went wrong. -/
def error (status : Nat) (message : Bytes) : Response :=
  ⟨status, [("Content-Type", "text/plain; charset=utf-8"), ("X-Content-Type-Options", "nosniff")],
    message ++ [newline]⟩

/-- There is nothing at the path. -/
def notFound : Response := error 404 "404 page not found"

end Response

/-! ## Addresses -/

/-- The host of an address with a port, which may be in brackets; none if it is no such
address. -/
def hostOfAddress? (s : Bytes) : Option Bytes :=
  match cutLast? (ch ':') s with
  | none => none
  | some (host, port) =>
    if host.head? = some (ch '[') then
      let inside := host.drop 1
      match inside.span (· ≠ ch ']') with
      | (address, [_]) =>
        if address.contains (ch '[') || port.any fun c => c = ch '[' || c = ch ']' then none
        else some address
      | _ => none
    else if host.any fun c => c = ch ':' || c = ch '[' || c = ch ']' then none
    else if port.any fun c => c = ch '[' || c = ch ']' then none
    else some host

/-- **Who sent a request**: the host of the address it came from. What is said about other
addresses in headers is not believed. -/
def client (remote : Bytes) : Bytes := (hostOfAddress? remote).getD remote

end Stencil.Http
