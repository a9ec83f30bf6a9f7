import Stencil.Watch.Change

/-!
# Batches of changes

Editors change files in bursts. Changes wait until there is silence for a moment, and then
go out together: the last change of each file, sorted by path. A queue of batches is
emptied by whoever handles them; a batch that finds the queue full is dropped, since those
who will empty it look at all files anyway.

The silence is measured by a timer, which every change starts anew. A timer that has run out
can no longer be stopped: what waits goes out on its account, whatever has come in between.

Changes reach the debouncer through a queue of their own, and are dropped if that is full.
-/

namespace Stencil.Watch

open Bytes

/-- **A debouncer**: changes that wait, and batches that went out. -/
structure Debouncer where
  /-- How many batches can wait to be handled. -/
  capacity : Nat
  /-- The changes since the last batch, oldest first. -/
  pending : List Change := []
  /-- Whether a timer runs. -/
  armed : Bool := false
  /-- How many timers have run out on whose account nothing has gone out yet. -/
  expired : Nat := 0
  /-- The batches that wait, oldest first. -/
  output : List (List Change) := []
  deriving DecidableEq, Repr

/-- The last change of each path, sorted by path. -/
def summarize (changes : List Change) : List Change :=
  let paths := Bytes.sort (Bytes.dedup (changes.map Change.path))
  paths.filterMap fun p => changes.reverse.find? fun c => c.path = p

namespace Debouncer

/-- **One more change.** A timer that runs is stopped, and another one started. -/
def add (d : Debouncer) (c : Change) : Debouncer :=
  { d with pending := d.pending ++ [c], armed := true }

/-- The timer runs out. -/
def expire (d : Debouncer) : Debouncer :=
  if d.armed then { d with armed := false, expired := d.expired + 1 } else d

/-- **What waits goes out** as a batch. -/
def flush (d : Debouncer) : Debouncer :=
  if d.pending.isEmpty then d
  else
    { d with
      pending := []
      output := if d.output.length < d.capacity then d.output ++ [summarize d.pending]
        else d.output }

/-- What waits goes out on account of a timer that has run out. -/
def fire (d : Debouncer) : Debouncer :=
  match d.expired with
  | 0 => d
  | n + 1 => ( { d with expired := n } : Debouncer).flush

/-- Whether what waits will go out, unless it does so earlier. -/
def scheduled (d : Debouncer) : Bool := d.armed || 0 < d.expired

/-- The next batch. -/
def take (d : Debouncer) : Option (List Change) × Debouncer :=
  match d.output with
  | [] => (none, d)
  | b :: rest => (some b, { d with output := rest })

end Debouncer

/-! ## The watcher -/

/-- **A watcher**: the changes on their way to the debouncer, and the debouncer. -/
structure Watcher where
  /-- The filters of paths. -/
  filters : List Filter
  /-- How many changes can be on their way. -/
  capacity : Nat := 100
  /-- The changes on their way, oldest first. -/
  queue : List Change := []
  /-- The debouncer. -/
  debouncer : Debouncer := { capacity := 10 }

namespace Watcher

/-- A change that the filters accept happens. -/
def accept (w : Watcher) (c : Change) : Watcher :=
  if w.queue.length < w.capacity then { w with queue := w.queue ++ [c] } else w

/-- **The system reports something** about a file. -/
def report (w : Watcher) (file : FileInfo) (bits : Nat) : Watcher :=
  match Change.ofReport? w.filters file bits with
  | some c => w.accept c
  | none => w

/-- The debouncer receives the next change. -/
def receive (w : Watcher) : Watcher :=
  match w.queue with
  | [] => w
  | c :: rest => { w with queue := rest, debouncer := w.debouncer.add c }

/-- The timer of the debouncer runs out. -/
def expire (w : Watcher) : Watcher := { w with debouncer := w.debouncer.expire }

/-- What waits goes out on account of a timer that has run out. -/
def fire (w : Watcher) : Watcher := { w with debouncer := w.debouncer.fire }

/-- The handler takes the next batch. -/
def handle (w : Watcher) : Option (List Change) × Watcher :=
  let (b, d) := w.debouncer.take
  (b, { w with debouncer := d })

end Watcher

end Stencil.Watch
