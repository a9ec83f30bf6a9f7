import Stencil.Config.Setting

/-!
# Files of variables

Each line of such a file gives a text to a name, with `=` or a colon and a blank between
them. The word `export` may stand in front and a comment behind. The text may be in quotes;
in double quotes or without any, a dollar sign and a name stand for the text that an earlier
line gave to the name.

A text whose quote is not closed on its line goes on over the next ones.
-/

namespace Stencil.Dotenv

open Bytes

/-- The lines of a text, which end with a line feed, a carriage return or both. -/
def lines : Bytes → List Bytes
  | [] => []
  | c :: s =>
    if c = 0x0d then
      match s with
      | d :: r => if d = newline then [] :: lines r else [] :: lines (d :: r)
      | [] => [[]]
    else if c = newline then [] :: lines s
    else
      match lines s with
      | l :: ls => (c :: l) :: ls
      | [] => [[c]]

/-- Whether a character can stand in a name. -/
def isNameByte (c : UInt8) : Bool := isIdentChar c || c = ch '.'

/-- A blank of a line or between lines. -/
def isGap (c : UInt8) : Bool := c = 0x20 || (0x09 ≤ c && c ≤ 0x0d && c ≠ 0x0b)

/-- The text behind gaps. -/
def skipGaps (s : Bytes) : Bytes := s.dropWhile isGap

/-- Whether a text is nothing but gaps and a comment. -/
def isTail (s : Bytes) : Bool :=
  match skipGaps s with
  | [] => true
  | c :: r => c = ch '#' && !r.any (· = newline)

/-- The longest start of a text that ends with a quote and that nothing but a comment
follows. -/
def quoted? (q : UInt8) (s : Bytes) : Option Bytes :=
  (List.range (s.length + 1)).reverse.findSome? fun n =>
    if 2 ≤ n && s[n - 1]? = some q && isTail (s.drop n) then some (s.take n) else none

/-- The text behind the sign that follows a name, comments left out. -/
def given? (s : Bytes) : Option Bytes :=
  let first := match s with
    | c :: _ => if c = squote || c = dquote then quoted? c s else none
    | [] => none
  match first with
  | some v => some v
  | none =>
    let bare := s.takeWhile fun c => c ≠ ch '#' && c ≠ newline
    if isTail (s.drop bare.length) then some bare else none

/-- What a line gives to which name, as it is written. -/
def assignment? (line : Bytes) : Option (Bytes × Bytes) :=
  let s := skipGaps line
  let s := match dropPrefix? "export" s with
    | some r => if r.head?.any isGap then skipGaps r else s
    | none => s
  let name := s.takeWhile isNameByte
  let r := s.drop name.length
  if name.isEmpty then none
  else
    match skipGaps r, r with
    | c :: v, d :: w =>
      if c = ch '=' then (given? (skipGaps v)).map fun v => (name, v)
      else if d = ch ':' && w.head?.any isGap then (given? (w.drop 1)).map fun v => (name, v)
      else none
    | _, _ => none

/-- Variables with their texts. -/
abbrev Variables := List (Bytes × Bytes)

/-- A text with the variables that are named in it. A dollar sign behind a backslash stands
for itself. -/
def expand (known : Variables) : Nat → Bytes → Bytes
  | 0, s => s
  | n + 1, s =>
    match s with
    | [] => []
    | c :: r =>
      if c = backslash && r.head? = some (ch '$') then ch '$' :: expand known n (r.drop 1)
      else if c = ch '$' then
        let braced := r.head? = some lbrace
        let body := if braced then r.drop 1 else r
        let isVariable (c : UInt8) : Bool := isUpper c || isDigit c || c = ch '_'
        let name := body.takeWhile isVariable
        let rest := body.drop name.length
        let rest := if rest.head? = some rbrace then rest.drop 1 else rest
        ((known.find? fun e => e.1 = name).map Prod.snd).getD [] ++ expand known n rest
      else c :: expand known n r

/-- A text with what stands behind backslashes in their place, except dollar signs. -/
def unescape : Bytes → Bytes
  | [] => []
  | c :: s =>
    if c = backslash then
      match s with
      | d :: r => if d = ch '$' then c :: d :: unescape r else d :: unescape r
      | [] => [c]
    else c :: unescape s

/-- The text that is meant by a text as it is written. -/
def meant (known : Variables) (s : Bytes) : Bytes :=
  let s := Bytes.trim s
  let inQuotes (q : UInt8) : Bool := 2 ≤ s.length && s.head? = some q && s.getLast? = some q
  let inner := (s.drop 1).dropLast
  if inQuotes squote then inner
  else if inQuotes dquote then
    let lined := replaceText "\\r" [0x0d] (replaceText "\\n" [newline] inner)
    expand known lined.length (unescape lined)
  else expand known s.length s

/-- The place of the last of some characters. -/
def lastIndex? (q : UInt8) (s : Bytes) : Option Nat :=
  (cutLast? q s).map fun p => p.1.length

/-- The quote that a line leaves open, if it does. -/
def openQuote? (line : Bytes) : Option UInt8 :=
  let sign := (indexOf? "=" line).orElse fun _ => indexOf? ":" line
  match sign with
  | none => none
  | some i =>
    if i = 0 || line.length ≤ i + 1 then none
    else
      match Bytes.trim (line.drop (i + 1)) with
      | q :: v =>
        if q = squote || q = dquote then
          match lastIndex? q (Bytes.trim v) with
          | some j => if (q :: v)[j]? = some backslash then some q else none
          | none => some q
        else none
      | [] => none

/-- A line with those that it goes on over, and the ones behind; none if its quote is never
closed. -/
def closeQuote (q : UInt8) (line : Bytes) : List Bytes → Option (Bytes × List Bytes)
  | [] => none
  | l :: ls =>
    let line := line ++ [newline] ++ l
    match lastIndex? q l with
    | none => closeQuote q line ls
    | some j =>
      if 0 < j && l[j - 1]? = some backslash then closeQuote q line ls else some (line, ls)

/-- What is said about a line that gives nothing. -/
def complaint (known : Variables) (line : Bytes) : Bytes :=
  let s := Bytes.trim line
  let unset : Bool := match dropPrefix? "export" s with
    | some _ =>
      match indexOf? " " s with
      | some i => !known.any fun e => e.1 = s.drop (i + 1)
      | none => false
    | none => false
  let about (s : Bytes) : Bytes := "line " ++ [grave] ++ s ++ [grave]
  if unset then about s ++ " has an unset variable" else about line ++ " doesn't match format"

/-- The variables of lines, of which there are at most `n`. -/
def readLines : Nat → Variables → List Bytes → Except Bytes Variables
  | 0, known, _ => .ok known
  | _, known, [] => .ok known
  | n + 1, known, l :: ls =>
    let line := Bytes.trim l
    if line.isEmpty || line.head? = some (ch '#') then readLines n known ls
    else
      let whole := match openQuote? line with
        | none => some (line, ls)
        | some q => closeQuote q line ls
      match whole with
      | none => .error "missing quotes"
      | some (line, rest) =>
        match assignment? line with
        | none => .error (complaint known line)
        | some (name, v) =>
          readLines n ((known.filter fun e => e.1 ≠ name) ++ [(name, meant known v)]) rest

/-- **The settings of a file of variables**, with all names in lower case, or what is wrong
with it. -/
def readSettings (s : Bytes) : Except Bytes Setting :=
  let s := trimPrefix s [0xef, 0xbb, 0xbf]
  let ls := lines s
  match readLines (ls.length + 1) [] ls with
  | .ok known => .ok (Setting.map (known.map fun (k, v) => (k, .text v))).lowerNames
  | .error e => .error e

end Stencil.Dotenv
