import Stencil.Host.Token
import Stencil.Text.Path

/-!
# Comments that rename positions

A comment that starts with the word `line` says under which file and line what follows
it is to be shown. The comment has the form `//line name:line` or `//line name:line:column`
at the start of a line, or the same between the signs of a general comment anywhere. It
holds up to the next one.

`LineMark.site` is where a place of a file is shown. Without marks it is the place itself.
Behind a mark that gives no column, columns are unknown, which is written as column zero.
-/

namespace Stencil.Host

open Bytes

/-- **Where a place is shown.** -/
structure Site where
  /-- The name of the file. -/
  file : Bytes
  /-- The line, from one. -/
  line : Nat
  /-- The column, from one; zero if it is unknown. -/
  column : Nat
  deriving DecidableEq, Repr, Inhabited

namespace Site

/-- A place as messages quote it. -/
def render (s : Site) : Bytes :=
  s.file ++ ":" ++ Bytes.ofNat s.line
    ++ (if s.column = 0 then ([] : Bytes) else ":" ++ Bytes.ofNat s.column)

/-- The order of places: by file, then by line, then by column. -/
def le (a b : Site) : Bool :=
  if a.file ≠ b.file then Bytes.le a.file b.file
  else if a.line ≠ b.line then a.line < b.line
  else a.column ≤ b.column

end Site

/-- **A place from which on positions are shown differently.** -/
structure LineMark where
  /-- The place. -/
  start : Place
  /-- How the place itself is shown. -/
  site : Site
  deriving DecidableEq, Repr, Inhabited

/-- A comment of a file. -/
structure Comment where
  /-- Where it starts. -/
  pos : Place
  /-- Its text. -/
  text : Bytes
  /-- Whether it is a general comment, which needs not end with its line. -/
  isGeneral : Bool
  deriving DecidableEq, Repr, Inhabited

namespace LineMark

/-- **Where a place of a file is shown**: the last mark at or before it decides. -/
def locate (marks : List LineMark) (file : Bytes) (p : Place) : Site :=
  match marks.reverse.find? fun m => m.start.offset ≤ p.offset with
  | none => ⟨file, p.line, p.column⟩
  | some m =>
    let down := p.line - m.start.line
    let column :=
      if m.site.column = 0 then 0
      else if down = 0 then m.site.column + (p.offset - m.start.offset)
      else p.column
    ⟨m.site.file, m.site.line + down, column⟩

/-- Lines and columns beyond this are no numbers of either. -/
def limit : Nat := 1073741824

/-- A number behind the last colon of a text: how many bytes there are up to it, and the
number if it is one. -/
def trailing? (s : Bytes) : Option (Nat × Option Nat) :=
  (cutLast? (ch ':') s).map fun (head, digits) =>
    let value := (toNat? digits).bind fun n => if n < Nat.pow 2 64 then some n else none
    (head.length + 1, value)

/-- What a comment that starts with the word asks for. -/
inductive Request where
  /-- Nothing: there is no colon. -/
  | none
  /-- A number in it is wrong, at a distance from the start of the text. -/
  | fault (at_ : Nat) (msg : Bytes)
  /-- A file, a line, and a column or zero. -/
  | mark (file : Bytes) (line column : Nat)
  deriving DecidableEq, Repr

/-- What the text behind the word asks for. -/
def request (s : Bytes) : Request :=
  let badLine (i : Nat) (s : Bytes) : Request := .fault i ("invalid line number: " ++ s.drop i)
  match trailing? s with
  | Option.none => .none
  | some (i, Option.none) => badLine i s
  | some (i, some n) =>
    match trailing? (s.take (i - 1)) with
    | some (j, some line) =>
      if n = 0 || limit < n then .fault i ("invalid column number: " ++ s.drop i)
      else if line = 0 || limit < line then badLine j (s.take (i - 1))
      else .mark (s.take (j - 1)) line n
    | _ => if n = 0 || limit < n then badLine i s else .mark (s.take (i - 1)) n 0

/-- What positions are renamed by starts with this word, behind the two signs that open a
comment. -/
def word : Bytes := "line "

/-- The marks and complaints with those of one more comment, in a file of a given size. A
name that is not absolute is one in the folder of the file; no name at all with a column
means the name so far. -/
def add (file : Bytes) (size : Nat) (found : List LineMark × List Complaint) (c : Comment) :
    List LineMark × List Complaint :=
  let body := if c.isGeneral then c.text.take (c.text.length - 2)
    else trimSuffix c.text [0x0d]
  let applies := startsWith (body.drop 2) word && (c.isGeneral || c.pos.column = 1)
  if !applies then found
  else
    let opening := body.take (2 + word.length)
    match request (body.drop opening.length) with
    | .none => found
    | .fault i msg =>
      let at_ := c.pos.after (body.take (opening.length + i))
      (found.1, found.2 ++ [⟨at_, msg⟩])
    | .mark name line column =>
      let start := c.pos.after (if c.isGeneral then c.text else c.text ++ [newline])
      let name := if name.isEmpty then
          if column = 0 then [] else (locate found.1 file (c.pos.after opening)).file
        else
          let name := Path.clean name
          if Path.isAbs name then name
          else Path.joinTwo ((cutLast? slash file).map Prod.fst |>.getD []) name
      if start.offset < size then (found.1 ++ [⟨start, ⟨name, line, column⟩⟩], found.2) else found

/-- **The marks that the comments of a file set**, and what is wrong with them. -/
def ofComments (file : Bytes) (size : Nat) (cs : List Comment) : List LineMark × List Complaint :=
  cs.foldl (add file size) ([], [])

end LineMark

end Stencil.Host
