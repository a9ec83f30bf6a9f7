import Stencil.Text.Yaml.Cursor

/-!
# Scalars of YAML as they are written

A scalar is plain, in single or double quotes, or a block of lines. Line breaks inside a
plain or quoted scalar, and inside a folded block, are folded: one between two lines is a
blank, and of several all but the first stay. Reading starts at the first character of the
scalar and ends at the place behind it.
-/

namespace Stencil.Yaml

open Bytes

/-- How a scalar is written. -/
inductive Style where
  /-- Without marks. -/
  | plain
  /-- In quotes. -/
  | quoted
  /-- As a block of lines. -/
  | block
  deriving DecidableEq, Repr

/-- A scalar that has been read: its characters, and the place behind it. -/
abbrev Scanned := Except Error (List Nat × Cursor)

/-! ## Folding -/

/-- White space between two words of a scalar: the blanks of one line, or the first line break
and those that follow it. -/
structure Gap where
  /-- The blanks, if there is no line break. -/
  blanks : List Nat := []
  /-- The first line break. -/
  first : List Nat := []
  /-- The further ones. -/
  more : List Nat := []
  /-- Whether there is a line break, or one that does not count. -/
  broken : Bool := false

/-- What is left of white space between two words. -/
def Gap.text (g : Gap) : List Nat :=
  if !g.broken then g.blanks
  else if g.first.head? = some 0x0a then (if g.more.isEmpty then [0x20] else g.more)
  else g.first ++ g.more

/-- White space from a place on, with the gap so far. In a plain scalar a tab may not stand
where a line has not reached the given column. -/
def readGap (start : Mark) (least : Int) : Nat → Gap → Cursor → Except Error (Gap × Cursor)
  | 0, g, c => .ok (g, c)
  | fuel + 1, g, c =>
    match c.rest with
    | [] => .ok (g, c)
    | d :: _ =>
      if isBlankChar d then
        if g.broken && d = 0x09 && (c.mark.column : Int) < least then
          .error (c.fault start "found a tab character that violates indentation")
        else
          readGap start least fuel
            (if g.broken then g else { g with blanks := g.blanks ++ [d] }) (c.advance 1)
      else if isBreakChar d then
        let (b, c) := c.lineBreak
        readGap start least fuel
          (if g.broken then { g with more := g.more ++ b }
            else { g with blanks := [], first := b, broken := true }) c
      else .ok (g, c)

/-! ## Plain scalars -/

/-- The characters that end a plain scalar inside brackets. -/
def isFlowChar (c : Nat) : Bool := isOneOf ",?[]\x7b\x7d" c

/-- The characters of a word of a plain scalar. -/
def plainWord (inFlow : Bool) : List Nat → List Nat
  | [] => []
  | c :: r =>
    if isWhite c || (c = 0x3a && r.head?.all isWhite) || (inFlow && isFlowChar c) then []
    else c :: plainWord inFlow r

/-- **A plain scalar**, the words so far in reverse and the gap behind them. Outside of brackets
its lines are indented by at least the given number of blanks. The last component says whether
its end is in another line than its last word. -/
def plainTail (inFlow : Bool) (least : Int) (start : Mark) :
    Nat → List Nat → Gap → Cursor → Except Error (List Nat × Bool × Cursor)
  | 0, acc, g, c => .ok (acc.reverse, g.broken, c)
  | fuel + 1, acc, g, c =>
    if c.isDocumentMark || c.startsWith '#' then .ok (acc.reverse, g.broken, c)
    else
      let word := plainWord inFlow c.rest
      let after := c.advance word.length
      let acc := if word.isEmpty then acc else word.reverse ++ (g.text.reverse ++ acc)
      let g := if word.isEmpty then g else {}
      if (after.rest.head?.map isWhite).getD false then
        match readGap start least (after.rest.length + 1) g after with
        | .error e => .error e
        | .ok (g, next) =>
          if !inFlow && (next.mark.column : Int) < least then .ok (acc.reverse, g.broken, next)
          else plainTail inFlow least start fuel acc g next
      else .ok (acc.reverse, g.broken, after)

/-- A plain scalar. -/
def plainScalar (inFlow : Bool) (indent : Int) (c : Cursor) :
    Except Error (List Nat × Bool × Cursor) :=
  plainTail inFlow (indent + 1) c.mark (c.rest.length + 1) [] {} c

/-! ## Scalars in quotes -/

/-- The character of an escape, by its letter. -/
def simpleEscape? (c : Nat) : Option Nat :=
  ([(0x30, 0), (0x61, 7), (0x62, 8), (0x74, 9), (0x09, 9), (0x6e, 10), (0x76, 11), (0x66, 12),
    (0x72, 13), (0x65, 27), (0x20, 0x20), (0x22, 0x22), (0x27, 0x27), (0x5c, 0x5c), (0x4e, 0x85),
    (0x5f, 0xa0), (0x4c, 0x2028), (0x50, 0x2029)] : List (Nat × Nat)).lookup c

/-- How many digits follow the letter of an escape that gives the number of a character. -/
def escapeWidth? (c : Nat) : Option Nat :=
  if c = 0x78 then some 2 else if c = 0x75 then some 4 else if c = 0x55 then some 8 else none

/-- The value of a digit in base sixteen. -/
def hexDigit? (c : Nat) : Option Nat := if c < 0x80 then hexValue? c.toUInt8 else none

/-- A word of a scalar in quotes: its characters so far in reverse, then the characters, whether
an escaped line break ended it, and the place behind it. -/
def quotedWord (double : Bool) (start : Mark) :
    Nat → List Nat → Cursor → Except Error (List Nat × Bool × Cursor)
  | 0, acc, c => .ok (acc.reverse, false, c)
  | fuel + 1, acc, c =>
    match c.rest with
    | [] => .ok (acc.reverse, false, c)
    | d :: r =>
      if isWhite d then .ok (acc.reverse, false, c)
      else if !double then
        if d = 0x27 then
          if r.head? = some 0x27 then quotedWord double start fuel (0x27 :: acc) (c.advance 2)
          else .ok (acc.reverse, false, c)
        else quotedWord double start fuel (d :: acc) (c.advance 1)
      else if d = 0x22 then .ok (acc.reverse, false, c)
      else if d = 0x5c then
        match r with
        | [] => .error (c.fault start "found unknown escape character")
        | e :: ds =>
          if isBreakChar e then .ok (acc.reverse, true, (c.advance 1).lineBreak.2)
          else
            match simpleEscape? e, escapeWidth? e with
            | some v, _ => quotedWord double start fuel (v :: acc) (c.advance 2)
            | none, none => .error (c.fault start "found unknown escape character")
            | none, some width =>
              let digits := (ds.take width).map hexDigit?
              if digits.length < width || digits.any Option.isNone then
                .error ((c.advance 2).fault start "did not find expected hexdecimal number")
              else
                let v := digits.foldl (fun v d => 16 * v + d.getD 0) 0
                if (0xd800 ≤ v && v ≤ 0xdfff) || 0x10ffff < v then
                  .error ((c.advance 2).fault start "found invalid Unicode character escape code")
                else quotedWord double start fuel (v :: acc) (c.advance (2 + width))
      else quotedWord double start fuel (d :: acc) (c.advance 1)

/-- The rest of a scalar in quotes from behind the opening one, with the characters so far in
reverse. -/
def quotedTail (double : Bool) (start : Mark) : Nat → List Nat → Cursor → Scanned
  | 0, _, c => .error (c.fault start "found unexpected end of stream")
  | fuel + 1, acc, c =>
    if c.isDocumentMark then .error (c.fault start "found unexpected document indicator")
    else if c.rest.isEmpty then .error (c.fault start "found unexpected end of stream")
    else
      match quotedWord double start (c.rest.length + 1) [] c with
      | .error e => .error e
      | .ok (word, escaped, c) =>
        let acc := word.reverse ++ acc
        if !escaped && c.startsWith (if double then '"' else Char.ofNat 0x27) then
          .ok (acc.reverse, c.advance 1)
        else
          match readGap start 0 (c.rest.length + 1) { broken := escaped } c with
          | .error e => .error e
          | .ok (g, c) => quotedTail double start fuel (g.text.reverse ++ acc) c

/-- **A scalar in quotes**, from the opening one on. -/
def quotedScalar (double : Bool) (c : Cursor) : Scanned :=
  quotedTail double c.mark (c.rest.length + 1) [] (c.advance 1)

/-! ## Blocks of lines -/

/-- The marks behind the sign of a block: what becomes of the line breaks at its end, and by
how many blanks it is indented, zero if its first line decides. -/
def blockMarks (start : Mark) (c : Cursor) : Except Error (Option Bool × Nat × Cursor) :=
  let chomp (c : Cursor) : Option Bool × Cursor :=
    if c.startsWith '+' then (some true, c.advance 1)
    else if c.startsWith '-' then (some false, c.advance 1)
    else (none, c)
  let digit (c : Cursor) : Except Error (Nat × Cursor) :=
    match c.rest with
    | d :: _ =>
      if d = 0x30 then .error (c.fault start "found an indentation indicator equal to 0")
      else if 0x31 ≤ d && d ≤ 0x39 then .ok (d - 0x30, c.advance 1)
      else .ok (0, c)
    | [] => .ok (0, c)
  match chomp c with
  | (some keep, c) => (digit c).map fun (n, c) => (some keep, n, c)
  | (none, c) => (digit c).map fun (n, c) =>
    if n = 0 then (none, n, c)
    else
      let (keep, c) := chomp c
      (keep, n, c)

/-- Empty lines of a block and the blanks in front of the next line, with the breaks so far and
the longest run of blanks. While the indentation is not known it is zero. -/
def blockBreaks (start : Mark) (indent : Nat) :
    Nat → List Nat → Nat → Cursor → Except Error (List Nat × Nat × Cursor)
  | 0, breaks, longest, c => .ok (breaks, longest, c)
  | fuel + 1, breaks, longest, c =>
    let blanks := (c.rest.takeWhile (· = 0x20)).length
    let c := c.advance (if indent = 0 then blanks else min blanks (indent - c.mark.column))
    let longest := max longest c.mark.column
    if (indent = 0 || c.mark.column < indent) && c.rest.head? = some 0x09 then
      .error (c.fault start "found a tab character where an indentation space is expected")
    else if (c.rest.head?.map isBreakChar).getD false then
      let (b, c) := c.lineBreak
      blockBreaks start indent fuel (breaks ++ b) longest c
    else .ok (breaks, longest, c)

/-- The lines of a block at an indentation: the characters so far in reverse, the last line
break, the empty lines behind it, and whether the last line starts with a blank. -/
def blockLines (literal : Bool) (start : Mark) (indent : Nat) :
    Nat → List Nat → List Nat → List Nat → Bool → Cursor →
      Except Error (List Nat × List Nat × List Nat × Cursor)
  | 0, acc, last, empty, _, c => .ok (acc.reverse, last, empty, c)
  | fuel + 1, acc, last, empty, indented, c =>
    if c.mark.column ≠ indent || c.rest.isEmpty then .ok (acc.reverse, last, empty, c)
    else
      let blank := (c.rest.head?.map isBlankChar).getD false
      let folds := !literal && !indented && !blank && last.head? = some 0x0a
      let gap := (if folds then (if empty.isEmpty then [0x20] else []) else last) ++ empty
      let (line, c) := c.span fun d => !isBreakChar d
      let (b, c) := c.lineBreak
      match blockBreaks start indent (c.rest.length + 1) [] 0 c with
      | .error e => .error e
      | .ok (empty, _, c) =>
        blockLines literal start indent fuel (line.reverse ++ (gap.reverse ++ acc)) b empty blank c

/-- **A block of lines**, from its sign on, inside something that is indented by the given
number of blanks. -/
def blockScalar (literal : Bool) (parent : Int) (c : Cursor) : Scanned := do
  let start := c.mark
  let (keep, given, c) ← blockMarks start (c.advance 1)
  let c := c.skipWhile isBlankChar
  let c := if c.startsWith '#' then c.skipLine else c
  if !c.isAtEnd then
    throw (c.fault start "did not find expected comment or line break")
  let c := c.lineBreak.2
  let known := if given = 0 then 0 else (max parent 0).toNat + given
  let (empty, longest, c) ← blockBreaks start known (c.rest.length + 1) [] 0 c
  let indent := if known = 0 then max longest (max (parent + 1) 1).toNat else known
  let (text, last, empty, c) ←
    blockLines literal start indent (c.rest.length + 1) [] [] empty false c
  let ending : List Nat := match keep with
    | some false => []
    | some true => last ++ empty
    | none => last
  return (text ++ ending, c)

end Stencil.Yaml
