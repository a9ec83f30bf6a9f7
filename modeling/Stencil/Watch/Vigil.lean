import Stencil.Watch.Debounce
import Stencil.Watch.Sources

/-!
# The watch of a directory

Whoever watches a directory compiles all sources below it, at first and then whenever there is
a batch of changes. The batch only says that there is something to do: all sources are read
again, however many of the changes were dropped on the way.

Several parties act at the same time and nothing orders them: those who change files, the
system, which reports changes, the debouncer, its timers, and the handler, which takes a batch
and then reads the sources. `Vigil.step` says what an action of one of them does, so a watch
is a list of actions.
-/

namespace Stencil.Watch

/-- **The watch of a directory.** -/
structure Vigil where
  /-- The directory. -/
  dir : Bytes
  /-- The files as they are. -/
  files : Files
  /-- The sources as they were last read. -/
  sources : Except Failure (List SourceFile)
  /-- The batch that is being handled. -/
  batch : Option (List Change) := none
  /-- The watcher. -/
  watcher : Watcher := { filters := filters }

namespace Vigil

/-- The watch of a directory, when it starts. -/
def ofDir (f : Files) (dir : Bytes) : Vigil :=
  { dir := dir, files := f, sources := collectSources f dir }

/-- **What can happen during a watch.** -/
inductive Action where
  /-- Someone changes the files. -/
  | edit (f : Files)
  /-- The system reports something about a file. -/
  | report (file : FileInfo) (bits : Nat)
  /-- The debouncer receives the next change. -/
  | receive
  /-- The timer runs out. -/
  | expire
  /-- What waits goes out on account of a timer that has run out. -/
  | fire
  /-- The handler, which has nothing to do, takes the next batch. -/
  | take
  /-- The handler, which has taken a batch, reads all sources. -/
  | rebuild

/-- **What an action does.** An action that cannot happen does nothing. -/
def step (v : Vigil) : Action → Vigil
  | .edit f => { v with files := f }
  | .report file bits => { v with watcher := v.watcher.report file bits }
  | .receive => { v with watcher := v.watcher.receive }
  | .expire => { v with watcher := v.watcher.expire }
  | .fire => { v with watcher := v.watcher.fire }
  | .take =>
    if v.batch.isSome then v
    else { v with batch := v.watcher.handle.1, watcher := v.watcher.handle.2 }
  | .rebuild =>
    if v.batch.isSome then { v with sources := collectSources v.files v.dir, batch := none } else v

/-- The watch after some actions. -/
def run (v : Vigil) (actions : List Action) : Vigil := actions.foldl step v

/-- Whether the handler, if it were its turn, would take a batch. -/
def takes (v : Vigil) : Bool := v.batch.isNone && !v.watcher.debouncer.output.isEmpty

end Vigil

end Stencil.Watch
