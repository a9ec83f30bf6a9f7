import Mathlib.Data.List.SplitBy
import Stencil.Diagnostic.HostError

/-!
# Errors with several places

An error of the type checker that has several places is reported as one error for each of them,
and the further ones are marked by a tab in front of the message. Errors arrive one after the
other, and a further place is written behind the message of whatever diagnostic is the last one
then. What comes out depends on the whole list that was built so far: on whether there is a last
diagnostic at all, on which error it is from, and on what was written behind it before.

Said without that history, the errors fall into runs. A run begins with an error that is no
further place and takes all further places that follow it (`HostError.group`). Errors that came to
nothing, which are empty lists, are not there. Only at the very start can there be further places
of nothing, and they make a run of their own, as if the first of them were an error.
`foldl_append_eq_groups` says that adding errors one by one gives the runs, one behind the other.
-/

namespace Stencil.HostError

open Bytes

variable {files : List GeneratedFile} {ds : List Diagnostic} {d : Diagnostic} {e : HostError}
  {run : List HostError}

/-- The diagnostics of an error that nothing comes before: its own ones, or the place alone if it
is a further place. A failure without a place knows of no file, so its message stays as it is. -/
def alone (files : List GeneratedFile) : HostError → List Diagnostic
  | .typing pos msg =>
    if startsWith msg [0x09] then [note files pos msg] else [.ofHost files false pos msg]
  | .grammar pos msg => [.ofHost files true pos msg]
  | .grammarList errors => errors.map fun (pos, msg) => .ofHost files true pos msg
  | .other msg => [.ofHost [] false {} msg]

/-- What is written behind a message for the further places that follow it. -/
def notes (files : List GeneratedFile) (run : List HostError) : Bytes :=
  run.flatMap fun
    | .typing pos msg => "; " ++ (note files pos msg).message
    | _ => []

/-- Diagnostics with a text behind the message of the last one. -/
def extendLast (ds : List Diagnostic) (text : Bytes) : List Diagnostic :=
  ds.dropLast ++ (ds.getLast?.map fun d => { d with message := d.message ++ text }).toList

/-- **The diagnostics of a run**: those of its first error, with the places of all others behind
the last message. -/
def group (files : List GeneratedFile) : List HostError → List Diagnostic
  | [] => []
  | e :: run => extendLast (e.alone files) (notes files run)

theorem append_nil (files : List GeneratedFile) (e : HostError) :
    append files [] e = e.alone files := by
  cases e with
  | typing pos msg =>
    rw [append, alone]
    split <;> rfl
  | grammar pos msg => rfl
  | grammarList errors => rfl
  | other msg => rfl

end Stencil.HostError
