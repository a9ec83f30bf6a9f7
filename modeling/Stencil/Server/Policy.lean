import Stencil.Http.Message

/-!
# What pages may do

Every response tells the browser what the page may load and talk to, and a few things more
that keep other pages out.
-/

namespace Stencil

open Bytes

/-- **Where the content of a page may come from**, by what it is used for. -/
structure ContentPolicy where
  /-- Anything not named otherwise. -/
  default : List Bytes := []
  /-- Scripts. -/
  script : List Bytes := []
  /-- Styles. -/
  style : List Bytes := []
  /-- Connections that scripts open. -/
  connect : List Bytes := []
  /-- Embedded objects. -/
  object : List Bytes := []
  /-- Pages that may show this page in a frame. -/
  ancestors : List Bytes := []
  /-- Addresses that links may be relative to. -/
  base : List Bytes := []
  deriving DecidableEq, Repr

namespace ContentPolicy

/-- The directives by name, in the order in which they are written. -/
def directives (p : ContentPolicy) : List (Bytes × List Bytes) :=
  [("default-src", p.default), ("script-src", p.script), ("style-src", p.style),
    ("connect-src", p.connect), ("object-src", p.object), ("frame-ancestors", p.ancestors),
    ("base-uri", p.base)]

/-- **The policy as the value of a header**: a directive without sources is left out. -/
def render (p : ContentPolicy) : Bytes :=
  join "; " ((p.directives.filter fun d => !d.2.isEmpty).map fun d => d.1 ++ " " ++ join " " d.2)

/-- A keyword of a policy. -/
def keyword (name : Bytes) : Bytes := [squote] ++ name ++ [squote]

/-- The policy of the playground: its own scripts and styles, also inline ones, and its
web socket. -/
def playground : ContentPolicy :=
  let own := keyword "self"
  let inline := keyword "unsafe-inline"
  let none := keyword "none"
  { default := [own]
    script := [own, inline]
    style := [own, inline]
    connect := [own, "ws:", "wss:"]
    object := [none]
    ancestors := [none]
    base := [own] }

/-- The headers that every response has. -/
def headers : Http.Headers :=
  [("Content-Security-Policy", playground.render), ("X-Content-Type-Options", "nosniff"),
    ("X-Frame-Options", "DENY"), ("Referrer-Policy", "strict-origin-when-cross-origin"),
    ("Cross-Origin-Opener-Policy", "same-origin")]

end ContentPolicy

end Stencil
