import Stencil.Text.Bytes

/-!
# Kinds of compiler messages

What the Go front end reports is a text. A few kinds of text are recognised and get a
stable code and a suggestion; the rest share one code. The kinds are tried in a fixed
order, so a text that would fit two of them is of the earlier kind.
-/

namespace Stencil

open Bytes

/-- **What a compiler message is about.** -/
inductive HostClass where
  /-- The code does not parse. -/
  | badGrammar
  /-- An import that cannot be resolved. -/
  | unresolvedImport
  /-- An import or variable that is not used. -/
  | unused
  /-- A name, field or method that does not exist. -/
  | undefinedName
  /-- Too few or too many arguments or results. -/
  | argumentCount
  /-- Types that do not fit together. -/
  | typeMismatch
  /-- Anything else. -/
  | other
  deriving DecidableEq, Repr

namespace HostClass

/-- The stable code of a kind of message. -/
def code : HostClass → Bytes
  | .badGrammar => "GO1001"
  | .other => "GO2000"
  | .undefinedName => "GO2001"
  | .unused => "GO2002"
  | .typeMismatch => "GO2003"
  | .argumentCount => "GO2004"
  | .unresolvedImport => "GO2005"

/-- What the reader might do about it. -/
def suggestion : HostClass → Bytes
  | .badGrammar => "Check the Go syntax"
  | .unresolvedImport => "Only packages from the reference catalog can be imported"
  | .unused => "Remove the unused import or variable"
  | .undefinedName => "Check the spelling or declare the symbol in a @code block"
  | .argumentCount => "Check the number of arguments"
  | .typeMismatch => "Check the types of the values involved"
  | .other => []

/-- Whether a message reports an import: the opening words and a path behind them. -/
def isImport (msg : Bytes) : Bool :=
  match dropPrefix? "could not import " msg with
  | some (c :: _) => !(c = 0x20 || c = 0x09 || c = 0x0a || c = 0x0c || c = 0x0d)
  | _ => false

/-- Whether a text goes on, on the same line and behind at least one byte, with the
lack of a method. -/
def lacksMethod (rest : Bytes) : Bool :=
  match rest.takeWhile (· ≠ newline) with
  | [] => false
  | _ :: r => contains r " has no field or method" || contains r " has no method"

/-- Whether a message reports a selector that does not exist. -/
def isMissingSelector : Bytes → Bool
  | [] => false
  | c :: s =>
    (match dropPrefix? "undefined (type " (c :: s) with
      | some rest => lacksMethod rest
      | none => false)
    || isMissingSelector s

/-- Whether a message reports a wrong number of arguments or results. -/
def isCount (msg : Bytes) : Bool :=
  startsWith msg "not enough arguments" || startsWith msg "not enough return values"
    || startsWith msg "too many arguments" || startsWith msg "too many return values"

/-- **The kind of a message.** A message of the parser is always about grammar. -/
def ofMessage (msg : Bytes) (grammar : Bool) : HostClass :=
  if grammar then .badGrammar
  else if isImport msg then .unresolvedImport
  else if contains msg "imported and not used" || contains msg "declared and not used" then
    .unused
  else if startsWith msg "undefined: " || isMissingSelector msg then .undefinedName
  else if isCount msg then .argumentCount
  else if startsWith msg "cannot use " || contains msg "mismatched types"
      || startsWith msg "invalid operation" || contains msg "cannot convert" then
    .typeMismatch
  else .other

end HostClass

end Stencil
