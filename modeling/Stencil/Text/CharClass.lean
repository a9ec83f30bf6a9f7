import Stencil.Text.Utf8
import Stencil.Text.CharTables

/-!
# Classes of characters

The classes of `Stencil.Text.CharTables` as decidable tests, with the ASCII
part answered directly, and the two notions built on them: what an identifier
is, and how a file name is capitalised into a type name.
-/

namespace Stencil.CharClass

/-- Whether a code point lies in one of the ranges of a table. -/
def inRanges (table : List (Nat × Nat)) (c : Nat) : Bool :=
  table.any fun r => r.1 ≤ c && c ≤ r.2

/-- Whether a code point is a letter. -/
def isLetter (c : Nat) : Bool :=
  if c < 0x80 then (97 ≤ c && c ≤ 122) || (65 ≤ c && c ≤ 90) else inRanges CharTables.letters c

/-- Whether a code point is a decimal digit. -/
def isDigit (c : Nat) : Bool :=
  if c < 0x80 then 48 ≤ c && c ≤ 57 else inRanges CharTables.digits c

/-- Whether a code point is shown as it is: anything visible, and the blank. -/
def isPrint (c : Nat) : Bool :=
  if c < 0x80 then 0x20 ≤ c && c < 0x7f else inRanges CharTables.printable c

/-- Whether a letter has case. -/
def isCased (c : Nat) : Bool :=
  if c < 0x80 then isLetter c else inRanges CharTables.cased c

/-- Whether a character is a capital letter. -/
def isUpper (c : Nat) : Bool :=
  if c < 0x80 then 65 ≤ c && c ≤ 90 else inRanges CharTables.capitalLetters c

/-- Whether a letter joins no word and so ends the word before it. -/
def isSolitary (c : Nat) : Bool :=
  if c < 0x80 then false else inRanges CharTables.solitary c

/-- The capital of a letter that is a single letter. -/
def simpleCapital (c : Nat) : Nat :=
  if c < 0x80 then
    if 97 ≤ c && c ≤ 122 then c - 32 else c
  else
    match CharTables.capitals.find? fun (first, count, step, _) =>
        first ≤ c && c < first + count * step && (c - first) % step == 0 with
    | some (_, _, _, distance) => ((c : Int) + distance).toNat
    | none => c

/-- The capital of a letter, which a few letters write with several. -/
def capital (c : Nat) : List Nat :=
  match CharTables.longCapitals.find? (·.1 == c) with
  | some (_, cs) => cs
  | none => [simpleCapital c]

/-- The one character that stands for all that differ in case only. The small I without a dot
differs from every other letter. -/
def caseKey (c : Nat) : Nat :=
  if c = 0x131 then c
  else
    match CharTables.furtherCases.find? fun (first, count, _) => first ≤ c && c < first + count with
    | some (_, _, distance) => ((c : Int) + distance).toNat
    | none => simpleCapital c

/-- **Whether two texts differ in case only.** -/
def equalFold (s t : Bytes) : Bool :=
  (Utf8.runes s).map (fun r => caseKey r.code) = (Utf8.runes t).map fun r => caseKey r.code

/-- The code points of a word with the first letter that has case capitalised.
A solitary letter starts a new word after it. -/
def capitalize : Bool → List Nat → List Nat
  | _, [] => []
  | mid, c :: cs =>
    if isCased c then (if mid then [c] else capital c) ++ capitalize true cs
    else c :: capitalize (mid && !isSolitary c) cs

end Stencil.CharClass
