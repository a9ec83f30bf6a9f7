import Stencil.Text.CharClass
import Stencil.Text.Path

/-!
# Names in generated code

The type of a component and the file its code is generated into are named after the
component's path.
-/

namespace Stencil.Naming

open Bytes

/-- The letters and digits of a word, with the word's first letter capitalised. -/
def capitalized (word : List Rune) : List Nat :=
  CharClass.capitalize false
    ((word.map Rune.code).filter fun c => CharClass.isLetter c || CharClass.isDigit c)

/-- **The type name of the component at a path**: the words of its file name up to
the first dot, run together with capitals. A name that would not start with a letter
gets one in front. -/
def typeName (path : Bytes) : Bytes :=
  let stem := (cut (ch '.') (Path.base path)).1
  let words := Utf8.fieldsBy (fun c => c = 0x2d || c = 0x5f || c = 0x20) (Utf8.runes stem)
  let codes := words.flatMap capitalized
  let codes := if (codes.head?.map CharClass.isLetter).getD false then codes else 0x43 :: codes
  codes.flatMap Utf8.encode

/-- The name of the file generated for the unit at a path. -/
def fileName (path : Bytes) : Bytes := trimPrefix path "/" ++ ".go"

end Stencil.Naming
