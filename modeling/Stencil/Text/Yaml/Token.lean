import Stencil.Text.Yaml.Scalar

/-!
# Tokens of YAML

A text is cut into tokens. Indentation becomes tokens too: a map or list by indentation has a
token where it starts and one where it ends, so that whoever reads tokens need not count
blanks.

The key of a map need not be marked as one: a scalar turns out to be a key only when the colon
behind it comes, and then the tokens for the key, and for the map if it is the first key, go in
front of the scalar. Until then the scalar is a *candidate*. A candidate must end in its line,
and where a map goes on a candidate is not free to be anything but a key.

Whoever reads tokens sees a complaint about characters when it comes within two tokens of
them, or earlier if a candidate is open: `Scan.isBlocked` says when.
-/

namespace Stencil.Yaml

open Bytes

/-- **What a token is.** -/
inductive TokenKind where
  /-- A directive with a version. -/
  | version (major minor : Nat)
  /-- A directive with a short form for tags. -/
  | tagAlias (handle full : Bytes)
  /-- The start of a document. -/
  | documentStart
  /-- The end of a document. -/
  | documentEnd
  /-- The end of the text. -/
  | streamEnd
  /-- The start of a list by indentation. -/
  | blockList
  /-- The start of a map by indentation. -/
  | blockMap
  /-- The end of a list or map by indentation. -/
  | blockEnd
  /-- The bracket that opens a list. -/
  | listStart
  /-- The bracket that closes a list. -/
  | listEnd
  /-- The brace that opens a map. -/
  | mapStart
  /-- The brace that closes a map. -/
  | mapEnd
  /-- The dash in front of an item. -/
  | item
  /-- The comma between two entries. -/
  | comma
  /-- The start of a key. -/
  | key
  /-- The colon in front of a value. -/
  | value
  /-- A reference to a named node. -/
  | alias (name : Bytes)
  /-- The name of a node. -/
  | anchor (name : Bytes)
  /-- The tag of a node. -/
  | tag (handle suffix : Bytes)
  /-- A scalar. -/
  | scalar (style : Style) (text : Bytes)
  deriving DecidableEq, Repr, Inhabited

/-- A token and where it is. -/
structure Token where
  /-- What it is. -/
  kind : TokenKind
  /-- Where it starts. -/
  start : Mark
  /-- Where it ends. -/
  stop : Mark
  deriving DecidableEq, Repr, Inhabited

/-- A scalar that may turn out to be a key. -/
structure Candidate where
  /-- Whether it can be nothing else. -/
  required : Bool
  /-- The number of its first token. -/
  number : Nat
  /-- Where it starts. -/
  mark : Mark
  deriving DecidableEq, Repr

/-- **How far a text has been cut into tokens.** -/
structure Scanner where
  /-- What is left of the text. -/
  cursor : Cursor
  /-- The tokens so far, in reverse. -/
  tokens : List Token := []
  /-- How many they are. -/
  count : Nat := 0
  /-- The indentation, below zero outside of everything. -/
  indent : Int := -1
  /-- The indentations around it. -/
  outer : List Int := []
  /-- The candidates, one for each bracket that is open and one outside of them, the innermost
  first. -/
  candidates : List (Option Candidate) := [none]
  /-- Whether a candidate may start here. -/
  keyAllowed : Bool := true

namespace Scanner

/-- The most brackets, and the deepest indentation. -/
def maxDepth : Nat := 10000

/-- How many brackets are open. -/
def depth (s : Scanner) : Nat := s.candidates.length - 1

/-- Whether a bracket is open. -/
def inFlow (s : Scanner) : Bool := 1 < s.candidates.length

/-- The candidate of the innermost bracket. -/
def candidate? (s : Scanner) : Option Candidate := s.candidates.head?.join

/-- The scanner with another candidate. -/
def setCandidate (s : Scanner) (k : Option Candidate) : Scanner :=
  { s with candidates := k :: s.candidates.tail }

/-- A complaint about the characters here. -/
def fault (s : Scanner) (start : Mark) (message : Bytes) : Error := s.cursor.fault start message

/-- The scanner with a token more. -/
def push (s : Scanner) (t : Token) : Scanner :=
  { s with tokens := t :: s.tokens, count := s.count + 1 }

/-- The scanner with a token more that has the given number. -/
def insert (s : Scanner) (number : Nat) (t : Token) : Scanner :=
  let behind := s.count - number
  { s with tokens := s.tokens.take behind ++ t :: s.tokens.drop behind, count := s.count + 1 }

/-- The scanner behind a token of so many characters. -/
def take (s : Scanner) (kind : TokenKind) (n : Nat) : Scanner :=
  let c := s.cursor.advance n
  { s with cursor := c }.push ⟨kind, s.cursor.mark, c.mark⟩

/-! ## Candidates -/

/-- What is said when a key has no colon. -/
def noColon : Bytes := "could not find expected ':'"

/-- Whether a candidate has been left behind: it is in a line before, or too long ago. -/
def isStale (s : Scanner) (k : Candidate) : Bool :=
  k.mark.line < s.cursor.mark.line || k.mark.index + 1024 < s.cursor.mark.index

/-- The scanner without the candidate, which must not have been a key. -/
def dropCandidate (s : Scanner) : Except Error Scanner :=
  match s.candidate? with
  | some k => if k.required then .error (s.fault k.mark noColon) else .ok (s.setCandidate none)
  | none => .ok s

/-- The scanner with a candidate that starts here, where one may start. -/
def saveCandidate (s : Scanner) : Except Error Scanner :=
  if !s.keyAllowed then .ok s
  else do
    let required := !s.inFlow && s.indent = s.cursor.mark.column
    let t ← s.dropCandidate
    return t.setCandidate (some ⟨required, s.count, s.cursor.mark⟩)

/-! ## Indentation -/

/-- The scanner inside something that starts at a column, with a token for its start if it is
indented further than what is around it. -/
def open_ (s : Scanner) (column : Nat) (number : Option Nat) (kind : TokenKind) (mark : Mark) :
    Except Error Scanner :=
  if s.inFlow || (column : Int) ≤ s.indent then .ok s
  else
    let t := { s with outer := s.indent :: s.outer, indent := column }
    if maxDepth < t.outer.length then
      .error (s.fault mark ("exceeded max depth of " ++ Bytes.ofNat maxDepth))
    else .ok (t.insert (number.getD s.count) ⟨kind, mark, mark⟩)

/-- The scanner outside of everything that is indented further than a column, with a token for
each end. -/
def close (mark : Mark) (column : Int) : List Int → Scanner → Scanner
  | [], s => s
  | i :: outer, s =>
    if s.indent ≤ column then s
    else
      close mark column outer
        { (s.push ⟨.blockEnd, mark, mark⟩) with indent := i, outer := outer }

/-- The scanner outside of everything that is indented further than a column; inside brackets
indentation says nothing. -/
def unindent (s : Scanner) (mark : Mark) (column : Int) : Scanner :=
  if s.inFlow then s else close mark column s.outer s

/-! ## Between tokens -/

/-- The place behind a comment and the lines below it that hold nothing but comments. -/
def skipComments : Nat → Cursor → Cursor
  | 0, c => c
  | fuel + 1, c =>
    let c := c.skipLine
    let gap := (c.rest.takeWhile isWhite).length
    if c.rest[gap]? = some 0x23 then skipComments fuel (skipWhites gap c) else c
where
  /-- The place behind so many characters of white space. -/
  skipWhites : Nat → Cursor → Cursor
    | 0, c => c
    | n + 1, c =>
      match c.rest with
      | [] => c
      | d :: r =>
        if !isBreakChar d then skipWhites n (c.advance 1)
        else
          -- two characters may make one line break
          if d = 0x0d && r.head? = some 0x0a then skipWhites (n - 1) c.lineBreak.2
          else skipWhites n c.lineBreak.2

/-- The place of the next token, and whether a candidate may start there. A tab does not count
as a blank where a key may start. -/
def skipIdle (inFlow : Bool) : Nat → Bool → Cursor → Bool × Cursor
  | 0, allowed, c => (allowed, c)
  | fuel + 1, allowed, c =>
    let c := if c.mark.column = 0 && c.rest.head? = some 0xfeff then c.advance 1 else c
    let c := c.skipWhile fun d => d = 0x20 || ((inFlow || !allowed) && d = 0x09)
    let c := if c.startsWith '#' then skipComments (c.rest.length + 1) c else c
    if (c.rest.head?.map isBreakChar).getD false then
      skipIdle inFlow fuel (allowed || !inFlow) c.lineBreak.2
    else (allowed, c)

/-- The place behind the comment in the rest of a line, if there is one. -/
def skipLineComment (c : Cursor) : Cursor :=
  if c.fresh then c
  else
    let d := c.skipWhile isBlankChar
    if d.startsWith '#' then d.skipLine else c

/-! ## Names, tags and directives -/

/-- The name behind the sign of an anchor or an alias. -/
def scanName (c : Cursor) : Except Error (Bytes × Cursor) :=
  let (name, next) := (c.advance 1).span isNameChar
  let ends := next.isWhiteAt 0 || (next.rest.head?.map (isOneOf "?:,]\x7d%@\x60")).getD false
  if name.isEmpty || !ends then
    .error (next.fault c.mark "did not find expected alphabetic or numeric character")
  else .ok (encodeAll name, next)

/-- The handle of a tag: what stands between two exclamation marks, with them, or what follows
the first one. -/
def scanHandle (directive : Bool) (start : Mark) (c : Cursor) : Except Error (List Nat × Cursor) :=
  if !c.startsWith '!' then .error (c.fault start "did not find expected '!'")
  else
    let (name, next) := (c.advance 1).span isNameChar
    if next.startsWith '!' then .ok (0x21 :: name ++ [0x21], next.advance 1)
    else if directive && !name.isEmpty then .error (next.fault start "did not find expected '!'")
    else .ok (0x21 :: name, next)

/-- The value of an escaped byte. -/
def escapedByte? (c : Cursor) : Option UInt8 :=
  match c.rest with
  | p :: a :: b :: _ =>
    if p ≠ 0x25 then none
    else
      match hexDigit? a, hexDigit? b with
      | some x, some y => some (16 * x + y).toUInt8
      | _, _ => none
  | _ => none

/-- So many escaped bytes that go on with a character. -/
def escapedTail (start : Mark) : Nat → Cursor → Except Error (Bytes × Cursor)
  | 0, c => .ok ([], c)
  | n + 1, c =>
    match escapedByte? c with
    | none => .error (c.fault start "did not find URI escaped octet")
    | some b =>
      if b.toNat / 0x40 ≠ 2 then .error (c.fault start "found an incorrect trailing UTF-8 octet")
      else (escapedTail start n (c.advance 3)).map fun (bs, c) => (b :: bs, c)

/-- The bytes of an escaped character. -/
def escapedChar (start : Mark) (c : Cursor) : Except Error (Bytes × Cursor) :=
  match escapedByte? c with
  | none => .error (c.fault start "did not find URI escaped octet")
  | some b =>
    let n := b.toNat
    if n < 0x80 then .ok ([b], c.advance 3)
    else
      let width :=
        if n / 0x20 = 6 then 1 else if n / 0x10 = 0xe then 2 else if n / 8 = 0x1e then 3 else 0
      if width = 0 then .error (c.fault start "found an incorrect leading UTF-8 octet")
      else (escapedTail start width (c.advance 3)).map fun (bs, c) => (b :: bs, c)

/-- The characters of a tag, with the bytes so far. -/
def scanUri (start : Mark) : Nat → Bytes → Cursor → Except Error (Bytes × Cursor)
  | 0, acc, c => .ok (acc, c)
  | fuel + 1, acc, c =>
    match c.rest with
    | [] => .ok (acc, c)
    | d :: _ =>
      if d = 0x25 then
        match escapedChar start c with
        | .error e => .error e
        | .ok (bs, c) => scanUri start fuel (acc ++ bs) c
      else if isNameChar d || isOneOf ";/?:@&=+$.,!~*'()[]" d then
        scanUri start fuel (acc ++ Utf8.encode d) (c.advance 1)
      else .ok (acc, c)

/-- The characters of a tag, of which there must be some unless some have been read before. -/
def tagUri (start : Mark) (before : List Nat) (c : Cursor) : Except Error (Bytes × Cursor) :=
  match scanUri start (c.rest.length + 1) (encodeAll (before.drop 1)) c with
  | .error e => .error e
  | .ok (uri, next) =>
    if before.isEmpty && next.mark.index = c.mark.index then
      .error (next.fault start "did not find expected tag URI")
    else .ok (uri, next)

/-- A tag: its handle and what follows it. -/
def scanTag (c : Cursor) : Except Error (Bytes × Bytes × Cursor) := do
  let start := c.mark
  let (handle, suffix, next) ←
    if c.rest[1]? = some 0x3c then do
      let (uri, next) ← tagUri start [] (c.advance 2)
      if !next.startsWith '>' then throw (next.fault start "did not find the expected '>'")
      pure (([] : Bytes), uri, next.advance 1)
    else do
      let (handle, next) ← scanHandle false start c
      if 1 < handle.length && handle.getLast? = some 0x21 then do
        let (uri, next) ← tagUri start [] next
        pure (encodeAll handle, uri, next)
      else do
        let (uri, next) ← tagUri start handle next
        -- a lone exclamation mark is a tag by itself
        if uri.isEmpty then pure (([] : Bytes), ("!" : Bytes), next)
        else pure (("!" : Bytes), uri, next)
  if !next.isWhiteAt 0 then
    throw (next.fault start "did not find expected whitespace or line break")
  return (handle, suffix, next)

/-- A number of a version. -/
def versionNumber (start : Mark) (c : Cursor) : Except Error (Nat × Cursor) :=
  let (ds, next) := c.span fun d => 0x30 ≤ d && d ≤ 0x39
  if 2 < ds.length then .error ((c.advance 2).fault start "found extremely long version number")
  else if ds.isEmpty then .error (c.fault start "did not find expected version number")
  else .ok (ds.foldl (fun v d => 10 * v + (d - 0x30)) 0, next)

/-- A directive. -/
def scanDirective (c : Cursor) : Except Error (TokenKind × Cursor) := do
  let start := c.mark
  let (name, next) := (c.advance 1).span isNameChar
  if name.isEmpty then throw (next.fault start "could not find expected directive name")
  if !next.isWhiteAt 0 then throw (next.fault start "found unexpected non-alphabetical character")
  let (kind, next) ←
    if encodeAll name = "YAML" then do
      let (major, next) ← versionNumber start (next.skipWhile isBlankChar)
      if !next.startsWith '.' then
        throw (next.fault start "did not find expected digit or '.' character")
      let (minor, next) ← versionNumber start (next.advance 1)
      pure (TokenKind.version major minor, next)
    else if encodeAll name = "TAG" then do
      let (handle, next) ← scanHandle true start (next.skipWhile isBlankChar)
      if !(next.rest.head?.map isBlankChar).getD false then
        throw (next.fault start "did not find expected whitespace")
      let (full, next) ← tagUri start [] (next.skipWhile isBlankChar)
      if !next.isWhiteAt 0 then
        throw (next.fault start "did not find expected whitespace or line break")
      pure (TokenKind.tagAlias (encodeAll handle) full, next)
    else throw (next.fault start "found unknown directive name")
  let rest := next.skipWhile isBlankChar
  let rest := if rest.startsWith '#' then rest.skipLine else rest
  if !rest.isAtEnd then throw (rest.fault start "did not find expected comment or line break")
  return (kind, rest.lineBreak.2)

/-! ## Tokens -/

/-- The scanner at the end of the text. -/
def finish (s : Scanner) : Except Error Scanner := do
  let m := s.cursor.mark
  let m := if m.column ≠ 0 then { m with line := m.line + 1, column := 0 } else m
  let s := { s with cursor := { s.cursor with mark := m } }.unindent m (-1)
  let s ← s.dropCandidate
  return { s with keyAllowed := false }.push ⟨.streamEnd, m, m⟩

/-- The scanner behind a directive. -/
def directive (s : Scanner) : Except Error Scanner := do
  let s ← (s.unindent s.cursor.mark (-1)).dropCandidate
  let (kind, next) ← scanDirective s.cursor
  return { s with keyAllowed := false, cursor := next }.push ⟨kind, s.cursor.mark, next.mark⟩

/-- The scanner behind the start or end of a document. -/
def documentMark (s : Scanner) : Except Error Scanner := do
  let s ← (s.unindent s.cursor.mark (-1)).dropCandidate
  let kind := if s.cursor.startsWith '-' then TokenKind.documentStart else .documentEnd
  return { s with keyAllowed := false }.take kind 3

/-- The scanner behind an opening bracket. -/
def openBracket (s : Scanner) (kind : TokenKind) : Except Error Scanner := do
  let s ← s.saveCandidate
  if maxDepth ≤ s.depth then
    throw (s.fault s.cursor.mark ("exceeded max depth of " ++ Bytes.ofNat maxDepth))
  return { s with candidates := none :: s.candidates, keyAllowed := true }.take kind 1

/-- The scanner behind a closing bracket. -/
def closeBracket (s : Scanner) (kind : TokenKind) : Except Error Scanner := do
  let s ← s.dropCandidate
  let outer := if s.inFlow then s.candidates.tail else s.candidates
  return { s with candidates := outer, keyAllowed := false }.take kind 1

/-- The scanner behind a comma. -/
def comma (s : Scanner) : Except Error Scanner := do
  let s ← s.dropCandidate
  return { s with keyAllowed := true }.take .comma 1

/-- The scanner behind a dash. -/
def item (s : Scanner) : Except Error Scanner := do
  let mark := s.cursor.mark
  if !s.inFlow && !s.keyAllowed then
    throw (s.fault mark "block sequence entries are not allowed in this context")
  let s ← s.open_ mark.column none .blockList mark
  let s ← s.dropCandidate
  return { s with keyAllowed := true }.take .item 1

/-- The scanner behind the mark of a key. -/
def key (s : Scanner) : Except Error Scanner := do
  let mark := s.cursor.mark
  if !s.inFlow && !s.keyAllowed then
    throw (s.fault mark "mapping keys are not allowed in this context")
  let s ← s.open_ mark.column none .blockMap mark
  let s ← s.dropCandidate
  return { s with keyAllowed := !s.inFlow }.take .key 1

/-- The scanner behind the colon of a value. -/
def value (s : Scanner) : Except Error Scanner := do
  let mark := s.cursor.mark
  match s.candidate? with
  | some k =>
    if !s.isStale k then
      let t := s.insert k.number ⟨.key, k.mark, k.mark⟩
      let t ← t.open_ k.mark.column (some k.number) .blockMap k.mark
      return { (t.setCandidate none) with keyAllowed := false }.take .value 1
    else if k.required then throw (s.fault k.mark noColon)
    else complex (s.setCandidate none) mark
  | none => complex s mark
where
  /-- The colon behind a key that has a mark of its own, or behind none. -/
  complex (s : Scanner) (mark : Mark) : Except Error Scanner := do
    if !s.inFlow && !s.keyAllowed then
      throw (s.fault mark "mapping values are not allowed in this context")
    let s ← s.open_ mark.column none .blockMap mark
    return { s with keyAllowed := !s.inFlow }.take .value 1

/-- The scanner behind an anchor or an alias. -/
def named (s : Scanner) (kind : Bytes → TokenKind) : Except Error Scanner := do
  let s ← s.saveCandidate
  let (name, next) ← scanName s.cursor
  return { s with keyAllowed := false, cursor := next }.push ⟨kind name, s.cursor.mark, next.mark⟩

/-- The scanner behind a tag. -/
def tag (s : Scanner) : Except Error Scanner := do
  let s ← s.saveCandidate
  let (handle, suffix, next) ← scanTag s.cursor
  return { s with keyAllowed := false, cursor := next }.push
    ⟨.tag handle suffix, s.cursor.mark, next.mark⟩

/-- The scanner behind a block of lines. -/
def block (s : Scanner) (literal : Bool) : Except Error Scanner := do
  let s ← s.dropCandidate
  let (text, next) ← blockScalar literal s.indent s.cursor
  return { s with keyAllowed := true, cursor := next }.push
    ⟨.scalar .block (encodeAll text), s.cursor.mark, next.mark⟩

/-- The scanner behind a scalar in quotes. -/
def quoted (s : Scanner) (double : Bool) : Except Error Scanner := do
  let s ← s.saveCandidate
  let (text, next) ← quotedScalar double s.cursor
  return { s with keyAllowed := false, cursor := next }.push
    ⟨.scalar .quoted (encodeAll text), s.cursor.mark, next.mark⟩

/-- The scanner behind a plain scalar. A candidate may start where it ended in another line. -/
def plain (s : Scanner) : Except Error Scanner := do
  let s ← s.saveCandidate
  let (text, broken, next) ← plainScalar s.inFlow s.indent s.cursor
  return { s with keyAllowed := broken, cursor := next }.push
    ⟨.scalar .plain (encodeAll text), s.cursor.mark, next.mark⟩

/-- Whether a plain scalar starts here. -/
def isPlainStart (s : Scanner) : Bool :=
  match s.cursor.rest with
  | [] => false
  | d :: r =>
    (!isWhite d && !isOneOf "-?:,[]\x7b\x7d#&*!|>'\x22%@\x60" d)
      || (d = 0x2d && !(r.head?.map isBlankChar).getD false)
      || (!s.inFlow && (d = 0x3f || d = 0x3a) && !s.cursor.isWhiteAt 1)

/-- The scanner behind the token that starts with the next character. -/
def token (s : Scanner) : Except Error Scanner :=
  let c := s.cursor
  let spaced := c.isWhiteAt 1
  if c.startsWith '[' then s.openBracket .listStart
  else if c.startsWith '\x7b' then s.openBracket .mapStart
  else if c.startsWith ']' then s.closeBracket .listEnd
  else if c.startsWith '\x7d' then s.closeBracket .mapEnd
  else if c.startsWith ',' then s.comma
  else if c.startsWith '-' && spaced then s.item
  else if c.startsWith '?' && (s.inFlow || spaced) then s.key
  else if c.startsWith ':' && (s.inFlow || spaced) then s.value
  else if c.startsWith '*' then s.named .alias
  else if c.startsWith '&' then s.named .anchor
  else if c.startsWith '!' then s.tag
  else if c.startsWith '|' && !s.inFlow then s.block true
  else if c.startsWith '>' && !s.inFlow then s.block false
  else if c.startsWith '\x27' then s.quoted false
  else if c.startsWith '\x22' then s.quoted true
  else if s.isPlainStart then s.plain
  else .error (s.fault c.mark "found character that cannot start any token")

/-- **The scanner behind the next token**, and those for the indentation in front of it. -/
def next (s : Scanner) : Except Error Scanner :=
  let before := s.cursor.mark
  let (allowed, c) := skipIdle s.inFlow (s.cursor.rest.length + 1) s.keyAllowed s.cursor
  let s := { s with cursor := c, keyAllowed := allowed }.unindent before c.mark.column
  if c.rest.isEmpty then s.finish
  else if c.mark.column = 0 && c.startsWith '%' then s.directive
  else if c.isDocumentMark then s.documentMark
  else
    match s.token with
    | .error e => .error e
    | .ok t =>
      match t.tokens.head? with
      | some ⟨.item, _, _⟩ => .ok t
      | _ => .ok { t with cursor := skipLineComment t.cursor }

end Scanner

/-- **The tokens of a text**, as far as it can be cut into them. -/
structure Scan where
  /-- The tokens. -/
  tokens : List Token
  /-- Why there are no more, and which of them are candidates then. -/
  failure : Option (Error × List Nat) := none

namespace Scan

/-- All tokens from a place on. -/
def run : Nat → Scanner → Scan
  | 0, s => ⟨s.tokens.reverse, none⟩
  | fuel + 1, s =>
    match s.next with
    | .error e =>
      let waiting := s.candidates.filterMap fun k =>
        (k.filter fun k => !s.isStale k).map Candidate.number
      ⟨s.tokens.reverse, some (e, waiting)⟩
    | .ok t =>
      match t.tokens.head? with
      | some ⟨.streamEnd, _, _⟩ => ⟨t.tokens.reverse, none⟩
      | _ => run fuel t

/-- The tokens of a sequence of characters. -/
def ofCharacters (cs : List Nat) : Scan := run (cs.length + 2) { cursor := { rest := cs } }

/-- Why the token of a number cannot be looked at, if so: the complaint comes within the two
tokens behind it, or it is a candidate that waits for its colon. -/
def isBlocked (s : Scan) (number : Nat) : Option Error :=
  match s.failure with
  | some (e, waiting) =>
    if s.tokens.length ≤ number + 2 || waiting.contains number then some e else none
  | none => none

end Scan

end Stencil.Yaml
