import Stencil.Text.Bytes

/-!
# Limiting the rate of requests

Every client has a bucket of tokens. A request takes a token and is refused when there is
none; tokens come back at a steady rate, up to a limit. Buckets that were not used for long
are forgotten: they would be full.

Tokens come in fractions. What is needed of numbers for that is a parameter, so that the
limiter that runs with floating-point numbers and the one whose arithmetic is exact are
the same function.

Times are in nanoseconds.
-/

namespace Stencil.RateLimit

/-- **What is needed of fractions of tokens.** -/
class Fraction (α : Type) extends Add α, Sub α, Mul α, Div α where
  /-- An integer. -/
  ofInt : Int → α
  /-- The order. -/
  le : α → α → Bool
  /-- The integer part. -/
  truncate : α → Int

/-- Floating-point numbers. What is too large for an integer of 64 bits, and what is no
number, becomes the least of them. -/
instance : Fraction Float where
  ofInt n := Float.ofInt n
  le a b := a ≤ b
  truncate x :=
    if x < 9223372036854775808.0 && -9223372036854775808.0 ≤ x then x.toInt64.toInt
    else -9223372036854775808

/-- Exact fractions. -/
instance : Fraction Rat where
  ofInt n := n
  le a b := a ≤ b
  truncate x := Int.tdiv x.num x.den

/-- The nanoseconds of a minute. -/
def minute : Int := 60000000000

/-- How long the bucket of an idle client is kept. -/
def expiry : Int := 10 * minute

/-- The bucket of a client. -/
structure Bucket (α : Type) where
  /-- The tokens in it. -/
  tokens : α
  /-- Up to when tokens have come back. -/
  refilledAt : Int
  /-- When it was last used. -/
  usedAt : Int

/-- **A limiter of requests.** -/
structure Limiter (α : Type) where
  /-- How many tokens come back in a minute. -/
  perMinute : Int
  /-- How many tokens a bucket holds. -/
  burst : Int
  /-- The buckets, by client. -/
  buckets : List (Bytes × Bucket α) := []
  /-- When idle buckets were last looked for. -/
  cleanedAt : Option Int := none

/-- What became of a request. -/
structure Verdict where
  /-- Whether it may go on. -/
  allowed : Bool
  /-- How many requests may follow at once. -/
  remaining : Int
  /-- How long to wait before the next one. -/
  retryAfter : Int
  deriving DecidableEq, Repr

namespace Limiter

/-- The limiter for a rate; without a limit for bursts, a minute's tokens are the limit. -/
def ofRate (α : Type) (perMinute burst : Int) : Limiter α :=
  { perMinute := perMinute, burst := if burst < 1 then perMinute else burst }

variable {α : Type} [Fraction α]

open Fraction

/-- A duration in minutes. -/
def minutes (d : Int) : α :=
  (ofInt (d.tdiv minute) : α) + ofInt (d.tmod minute) / ofInt minute

/-- The limiter after idle buckets are gone, if it is time to look for them. -/
def clean (l : Limiter α) (now : Int) : Limiter α :=
  let due := match l.cleanedAt with
    | none => true
    | some t => expiry / 2 < now - t
  if due then
    { l with
      buckets := l.buckets.filter fun b => !(expiry < now - b.2.usedAt)
      cleanedAt := some now }
  else l

/-- The bucket of a client, a full one if there is none. -/
def bucket (l : Limiter α) (now : Int) (client : Bytes) : Bucket α :=
  match l.buckets.find? fun b => b.1 = client with
  | some b => b.2
  | none => ⟨ofInt l.burst, now, now⟩

/-- A bucket after the tokens up to a time have come back. -/
def refill (l : Limiter α) (now : Int) (b : Bucket α) : Bucket α :=
  let tokens := b.tokens + minutes (now - b.refilledAt) * ofInt l.perMinute
  let limit : α := ofInt l.burst
  { tokens := if le tokens limit then tokens else limit
    refilledAt := now
    usedAt := now }

/-- The limiter with another bucket for a client. -/
def put (l : Limiter α) (client : Bytes) (b : Bucket α) : Limiter α :=
  { l with buckets := (client, b) :: l.buckets.filter fun e => e.1 ≠ client }

/-- **Takes a token for a client** at a time. -/
def check (l : Limiter α) (now : Int) (client : Bytes) : Verdict × Limiter α :=
  let l := l.clean now
  let b := l.refill now (l.bucket now client)
  let one : α := ofInt 1
  if le one b.tokens then
    let b := { b with tokens := b.tokens - one }
    (⟨true, truncate b.tokens, 0⟩, l.put client b)
  else
    let missing := one - b.tokens
    (⟨false, 0, truncate (missing * ofInt minute / ofInt l.perMinute)⟩, l.put client b)

/-- The clients that have buckets, sorted. -/
def clients (l : Limiter α) : List Bytes := Bytes.sort (l.buckets.map Prod.fst)

end Limiter

/-- How many seconds a refused client is told to wait: the whole seconds of its waiting
time, and at least one. -/
def Verdict.retrySeconds (v : Verdict) : Int := max 1 (v.retryAfter.tdiv 1000000000)

end Stencil.RateLimit
