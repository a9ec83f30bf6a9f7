import Stencil.Cache.LinkedList
import Stencil.Compile.Batch
import Stencil.Text.Sha256

/-!
# Results of recent compilations

A cache keeps the answers to recent requests under a key that stands for all that went into
them. It has a size that it never exceeds, and an answer is kept for a limited time. When
room is needed, the answers that were not asked for the longest go first.

A table finds the entry of a key, and a linked list holds the entries in order of use, the
latest first. The total size is kept beside them, and so are the counts of lookups that found
something and that did not, and of answers that had to go.

Sizes and durations are words of 64 bits. A sum of sizes that a word cannot hold wraps around,
and so it may look small; a duration is cut off at the longest one.
-/

namespace Stencil

open Bytes

/-- A number as a word of 64 bits, in which it wraps around. -/
instance wordOfInt : Coe Int Int64 := ⟨Int64.ofInt⟩

/-- The number that a word stands for. -/
instance intOfWord : Coe Int64 Int := ⟨Int64.toInt⟩

/-- **What the key of a request stands for**, as one text: the files, each path and each
text followed by a zero, a one, and the options, each followed by a zero. -/
def Cache.keyText (files : List SourceFile) (options : List Bytes) : Bytes :=
  files.flatMap (fun f => f.path ++ [0] ++ f.text ++ [0]) ++ [1]
    ++ options.flatMap fun o => o ++ [0]

/-- The key of a request. -/
def Cache.key (files : List SourceFile) (options : List Bytes) : Bytes :=
  Sha256.hexDigest (Cache.keyText files options)

/-- About how much memory a diagnostic takes. -/
def Diagnostic.memory (d : Diagnostic) : Nat :=
  d.code.length + d.message.length + d.file.length + 32

/-- About how much memory an answer takes, as far as a word can tell. -/
def Compile.Result.weight (r : Compile.Result) : Int64 :=
  r.diagnostics.foldl (fun w d => w + Int64.ofNat d.memory) (Int64.ofNat r.size)

/-- An answer that is kept. -/
structure CacheEntry where
  /-- The key of the request. -/
  key : Bytes
  /-- The answer. -/
  result : Compile.Result
  /-- How much memory it takes. -/
  weight : Int64
  /-- When it was stored, in nanoseconds. -/
  storedAt : Int
  deriving DecidableEq, Repr

/-- **The answers to recent requests.** -/
structure Cache where
  /-- How much memory all entries may take. -/
  capacity : Int64
  /-- How long an entry is kept, in nanoseconds. -/
  lifetime : Int64
  /-- The entries, the latest used first. -/
  order : LinkedList CacheEntry := {}
  /-- Where the entry of a key is. -/
  entries : List (Bytes × Nat) := []
  /-- How much memory the entries take. -/
  weight : Int64 := 0
  /-- How many lookups found something. -/
  hits : Nat := 0
  /-- How many lookups found nothing. -/
  misses : Nat := 0
  /-- How many entries had to go. -/
  evictions : Nat := 0
  deriving DecidableEq, Repr

namespace Cache

/-- The place of the entry of a key. -/
def place? (c : Cache) (key : Bytes) : Option Nat := c.entries.lookup key

/-- The entry of a key, with its place. -/
def find? (c : Cache) (key : Bytes) : Option (Nat × CacheEntry) :=
  (c.place? key).bind fun i => (c.order.value? i).map fun e => (i, e)

/-- The cache without the entry at a place. -/
def remove (c : Cache) (i : Nat) : Cache :=
  match c.order.value? i with
  | none => c
  | some e =>
    { c with
      order := (c.order.unlink i).release i
      entries := c.entries.filter fun p => p.1 ≠ e.key
      weight := c.weight - e.weight }

/-- How long ago a time was, as a duration: what is longer than the longest duration, which is
about 292 years, counts as that. -/
def age (now earlier : Int) : Int64 := Int64.ofIntClamp (now - earlier)

/-- **Looks up a key** at a time. What is too old is removed. -/
def get (c : Cache) (now : Int) (key : Bytes) : Option Compile.Result × Cache :=
  match c.find? key with
  | none => (none, { c with misses := c.misses + 1 })
  | some (i, e) =>
    if c.lifetime < age now e.storedAt then
      let c := c.remove i
      (none, { c with misses := c.misses + 1 })
    else
      (some e.result, { c with order := c.order.moveToFront i, hits := c.hits + 1 })

/-- The cache after the entries that were not used for the longest are gone, as long as there
is one and a further weight does not fit the capacity. -/
def evict (c : Cache) (extra : Int64) : Nat → Cache
  | 0 => c
  | rounds + 1 =>
    if c.capacity < c.weight + extra ∧ c.order.last ≠ LinkedList.head then
      let c := c.remove c.order.last
      evict { c with evictions := c.evictions + 1 } extra rounds
    else c

/-- The cache with room for a further weight, as far as that can be had. Each round takes one
entry away, so there are at most as many rounds as entries. -/
def makeRoom (c : Cache) (extra : Int64) : Cache := c.evict extra c.entries.length

/-- The cache with a further entry, which is in front of all others. -/
def insert (c : Cache) (e : CacheEntry) : Cache :=
  let i := c.order.links.size
  { c with
    order := (c.order.alloc e).linkFront i
    entries := (e.key, i) :: c.entries.filter fun p => p.1 ≠ e.key
    weight := c.weight + e.weight }

/-- **Stores an answer** at a time, unless it is larger than the whole cache. -/
def set (c : Cache) (now : Int) (key : Bytes) (result : Compile.Result) : Cache :=
  let weight := result.weight
  if c.capacity < weight then c
  else
    let c := match c.find? key with
      | some (i, _) => c.remove i
      | none => c
    (c.makeRoom weight).insert ⟨key, result, weight, now⟩

/-- **The answer to a request**: the one that is kept, or what a computation gives, which
is then kept unless it is a failure. With it, whether it was kept. Time may go by while it is
computed. -/
def getOrCompute (c : Cache) (now : Int) (key : Bytes)
    (compute : Except Failure Compile.Result) (later : Int := now) :
    Except Failure (Compile.Result × Bool) × Cache :=
  match c.get now key with
  | (some r, c) => (.ok (r, true), c)
  | (none, c) =>
    match compute with
    | .error e => (.error e, c)
    | .ok r => (.ok (r, false), c.set later key r)

end Cache

end Stencil
