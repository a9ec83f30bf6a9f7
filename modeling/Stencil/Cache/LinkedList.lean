/-!
# Lists that are linked in both directions

A list of places, each of which knows the place in front of it and the one behind it. A place
can be taken out or be put in front without a search. Two places that hold nothing are the ends,
so that every other place always has two neighbours.
-/

namespace Stencil

/-- A place in a linked list. -/
structure Link (α : Type) where
  /-- What it holds. -/
  value : Option α
  /-- The place in front of it. -/
  prev : Nat
  /-- The place behind it. -/
  next : Nat
  deriving DecidableEq, Repr

namespace LinkedList

/-- The end in front of all places. -/
def head : Nat := 0

/-- The end behind all places. -/
def tail : Nat := 1

end LinkedList

open LinkedList in
/-- **Places that are linked in both directions**, by their numbers. Nothing is in front of the
head and nothing is behind the tail, and their outer links are never followed. -/
structure LinkedList (α : Type) where
  /-- All places, whether they are linked or not. -/
  links : Array (Link α) := #[⟨none, head, tail⟩, ⟨none, head, tail⟩]
  deriving DecidableEq, Repr

namespace LinkedList

variable {α : Type}

/-- The place behind a place. -/
def next (l : LinkedList α) (i : Nat) : Nat := (l.links[i]?.map Link.next).getD tail

/-- The place in front of a place. -/
def prev (l : LinkedList α) (i : Nat) : Nat := (l.links[i]?.map Link.prev).getD head

/-- What a place holds. -/
def value? (l : LinkedList α) (i : Nat) : Option α := l.links[i]?.bind Link.value

def setNext (l : LinkedList α) (i j : Nat) : LinkedList α :=
  { links := l.links.modify i fun link => { link with next := j } }

def setPrev (l : LinkedList α) (i j : Nat) : LinkedList α :=
  { links := l.links.modify i fun link => { link with prev := j } }

/-- A new place, linked with nothing yet. -/
def alloc (l : LinkedList α) (value : α) : LinkedList α :=
  { links := l.links.push ⟨some value, head, tail⟩ }

/-- A place that is no longer needed. -/
def release (l : LinkedList α) (i : Nat) : LinkedList α :=
  { links := l.links.modify i fun link => { link with value := none } }

/-- Joins the neighbours of a place. -/
def unlink (l : LinkedList α) (i : Nat) : LinkedList α :=
  let l := l.setNext (l.prev i) (l.next i)
  l.setPrev (l.next i) (l.prev i)

/-- Puts a place that is not linked behind the head. -/
def linkFront (l : LinkedList α) (i : Nat) : LinkedList α :=
  let l := l.setPrev i head
  let l := l.setNext i (l.next head)
  let l := l.setPrev (l.next head) i
  l.setNext head i

/-- Puts a place that is linked in front of all others. -/
def moveToFront (l : LinkedList α) (i : Nat) : LinkedList α := (l.unlink i).linkFront i

/-- The last place, the head if there is none. -/
def last (l : LinkedList α) : Nat := l.prev tail

end LinkedList

end Stencil
