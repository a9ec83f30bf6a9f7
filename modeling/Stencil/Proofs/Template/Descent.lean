import Stencil.Template.Reader
import Stencil.Proofs.Text.OneLine

/-!
# Reading by recursive descent

`Reader` keeps the open constructs on a stack and only ever moves forward. The same
documents are read here the other way round: each construct has a function of its own
that calls the others for what stands inside it, the position is an index into the
source with a line counter beside it, and a reader that finds itself on a wrong track
puts both back to where they were.

Written like this there is a good deal to lose. A byte may be asked for where the source
has none, the counter may drift away from the position it belongs to, and nothing bounds
the recursion. So a `Descent` has no result when it asks for what is not there, and none
when it goes round without having moved on: wherever a function calls itself, directly or
through others, it says from where it is to be `onward`. And its state keeps a trail of
every position taken, with the line that was counted for it.

Nothing here says that there is a result. A state is `State.Sound` if the line is right at
every position of its trail, and from a sound state the small moves have a result, which is
again sound and comes after it (`State.Precedes`). Passing bytes is moving the `Cursor` of
the walk, since `State.cursor` moves along.
-/

namespace Stencil

open Bytes Fragment

/-- Why a run of markup ends. -/
inductive Stop where
  /-- Nothing is left. -/
  | endOfSource
  /-- A closing tag stands at the position. -/
  | closingTag
  /-- A closing brace stands at the position. -/
  | brace
  deriving DecidableEq, Repr

/-- What an at sign turned out to be. -/
inductive Found where
  /-- A piece of markup. -/
  | node (n : Node)
  /-- Text. -/
  | text (s : Bytes)
  /-- Nothing that is shown. -/
  | nothing

/-- What an at sign turned out to be is added to the content. -/
def Found.addTo (line : Nat) (k : Content) : Found → Content
  | .node n => k.addNode n
  | .text s => k.addText line s
  | .nothing => k

/-- **The state of a descent**: a position in the source, the line counted for it, and what
was read so far outside of the markup. -/
structure Descent.State where
  /-- The source. -/
  src : Bytes
  /-- The number of bytes before the position. -/
  pos : Nat := 0
  /-- The line the position is taken to be on. -/
  line : Nat := 1
  /-- The directives read so far. -/
  document : Document := {}
  /-- What was wrong so far, last first. -/
  findings : List Finding := []
  /-- Every position taken so far with its line, last first. -/
  trail : List (Nat × Nat) := [(0, 1)]

/-- **A part of a descent.** It has no result if it reads what is not in the source, or goes round
on the spot. -/
abbrev Descent (α : Type) := StateT Descent.State Option α

namespace Descent

namespace State

/-- What is left of the source. -/
def rest (s : State) : Bytes := s.src.drop s.pos

/-- The state at another position. -/
def goTo (pos line : Nat) (s : State) : State :=
  { s with pos, line, trail := (pos, line) :: s.trail }

/-- The state with a fault reported. -/
def report (line : Nat) (fault : Fault) (s : State) : State :=
  { s with findings := ⟨line, fault⟩ :: s.findings }

end State

/-! ## The position -/

/-- The number of bytes before the position. -/
def position : Descent Nat := fun s => some (s.pos, s)

/-- The line counted for the position. -/
def currentLine : Descent Nat := fun s => some (s.line, s)

/-- Whether the source is over. -/
def atEnd : Descent Bool := fun s => some (decide (s.src.length ≤ s.pos), s)

/-- The byte at the position. -/
def byte : Descent UInt8 := fun s => s.src[s.pos]?.map (·, s)

/-- The byte before the position. -/
def byteBefore : Descent UInt8 := fun s =>
  if s.pos = 0 then none else s.src[s.pos - 1]?.map (·, s)

/-- The byte `n` places ahead; zero beyond the end. -/
def peek (n : Nat) : Descent UInt8 := fun s =>
  some (if h : s.pos + n < s.src.length then s.src[s.pos + n] else 0, s)

/-- The source between two positions. -/
def slice (start stop : Nat) : Descent Bytes := fun s =>
  if start ≤ stop ∧ stop ≤ s.src.length then some ((s.src.take stop).drop start, s) else none

/-- The source from `n` bytes ahead on. -/
def ahead (n : Nat) : Descent Bytes := fun s =>
  if s.pos + n ≤ s.src.length then some (s.src.drop (s.pos + n), s) else none

/-- What is to be done further on in the source than `s`. -/
def onward {α : Type} (s : State)
    (go : ∀ t : State, t.rest.length < s.rest.length → Option (α × State)) : Descent α :=
  fun t => if h : t.rest.length < s.rest.length then go t h else none

/-- Back to an earlier position and its line. -/
def goTo (pos line : Nat) : Descent Unit := fun s => some ((), s.goTo pos line)

/-- A fault found on a line. -/
def report (line : Nat) (fault : Fault) : Descent Unit := fun s =>
  some ((), s.report line fault)

/-- A fault found on a line, if there is one. -/
def reportIf (faulty : Bool) (line : Nat) (fault : Fault) : Descent Unit :=
  if faulty then report line fault else pure ()

/-- The byte at the position is passed. -/
def next : Descent Unit := do
  let c ← byte
  let pos ← position
  let line ← currentLine
  goTo (pos + 1) (if c = newline then line + 1 else line)

/-- The next `n` bytes are passed, or all that are left. -/
def advance : Nat → Descent Unit
  | 0 => pure ()
  | n + 1 => do
    if ← atEnd then return
    else
      next
      advance n

/-- Everything that is left is passed. -/
def advanceToEnd : Descent Unit := fun s => advance (s.src.length - s.pos) s

/-- A byte is passed if it is the one expected. -/
def nextIf (b : UInt8) : Descent Unit := do
  if ← atEnd then return
  else if (← byte) = b then next
  else return

/-- A run of bytes that satisfy `p` is passed. -/
def skipWhile (p : UInt8 → Bool) : Descent Unit := fun s => s |> (do
  if ← atEnd then return
  else if p (← byte) then
    next
    onward s fun t _ => skipWhile p t
  else return : Descent Unit)
termination_by s => s.rest.length

/-- A run of bytes that satisfy `p`. -/
def takeWhile (p : UInt8 → Bool) : Descent Bytes := do
  let start ← position
  skipWhile p
  slice start (← position)

/-- The rest of the line; the line feed is passed as well. -/
def restOfLine : Descent Bytes := do
  let text ← takeWhile (· ≠ newline)
  if ← atEnd then return text
  else
    next
    return text

/-! ## Code fragments -/

/-- A literal from behind its opening quote on, and whether it is closed. -/
def literalTail (quote : UInt8) (line : Nat) : Descent Bool := fun s => s |> (do
  if ← atEnd then
    report line .unterminatedString
    return false
  else
    let c ← byte
    if c = backslash ∧ quote ≠ grave then
      advance 2
      onward s fun t _ => literalTail quote line t
    else if c = newline ∧ quote ≠ grave then
      report line .unterminatedString
      return false
    else
      next
      if c = quote then return true
      else onward s fun t _ => literalTail quote line t : Descent Bool)
termination_by s => s.rest.length

/-- A string, character or raw literal, and whether it is closed. -/
def literal : Descent Bool := do
  let line ← currentLine
  let quote ← byte
  next
  literalTail quote line

/-- A bracketed fragment from behind its opening bracket on: `start` is where its text starts
and `line` the line it was opened on, `closer` closes the innermost open bracket and `outer`
those around it. -/
def groupTail (what : Construct) (line start : Nat) (closer : UInt8) (outer : List UInt8) :
    Descent (Option Bytes) := fun s => s |> (do
  if ← atEnd then
    report line (.neverClosed what)
    return none
  else
    let c ← byte
    if isQuote c then
      if ← literal then onward s fun t _ => groupTail what line start closer outer t
      else return none
    else if c = slash ∧ (← peek 1) = slash then
      skipWhile (· ≠ newline)
      onward s fun t _ => groupTail what line start closer outer t
    else if c = slash ∧ (← peek 1) = ch '*' then
      let openLine ← currentLine
      match indexOf? "*/" (← ahead 2) with
      | none =>
        report openLine .unterminatedComment
        advanceToEnd
        return none
      | some n =>
        advance (n + 4)
        onward s fun t _ => groupTail what line start closer outer t
    else if isOpener c then
      next
      onward s fun t _ => groupTail what line start (closerOf c) (closer :: outer) t
    else if c = closer then
      match outer with
      | [] =>
        let text ← slice start (← position)
        next
        return some text
      | closer' :: outer' =>
        next
        onward s fun t _ => groupTail what line start closer' outer' t
    else
      next
      onward s fun t _ => groupTail what line start closer outer t : Descent (Option Bytes))
termination_by s => s.rest.length

/-- The text between the bracket at the position and the one that closes it. -/
def group (what : Construct) : Descent (Option Bytes) := do
  let line ← currentLine
  let c ← byte
  next
  groupTail what line (← position) (closerOf c) []

/-- A condition or clause that began at `start`. -/
def headerTail (what : Construct) (line start : Nat) :
    Descent (Option Bytes) := fun s => s |> (do
  if ← atEnd then
    report line (.noBrace what)
    return none
  else
    let c ← byte
    if c = lbrace then return some (trim (← slice start (← position)))
    else if isQuote c then
      if ← literal then onward s fun t _ => headerTail what line start t
      else return none
    else if c = ch '(' ∨ c = ch '[' then
      match ← group what with
      | some _ => onward s fun t _ => headerTail what line start t
      | none => return none
    else if c = newline then
      report line (.noBraceOnLine what)
      return none
    else
      next
      onward s fun t _ => headerTail what line start t : Descent (Option Bytes))
termination_by s => s.rest.length

/-- A condition or clause up to the brace that opens its block. -/
def header (what : Construct) (line : Nat) : Descent (Option Bytes) := do
  headerTail what line (← position)

/-- The selectors, calls and indices behind a name that began at `start`. -/
def chainTail (start : Nat) : Descent (Option Bytes) := fun s => s |> (do
  if ← atEnd then return some (← slice start (← position))
  else
    let c ← byte
    if c = ch '.' ∧ isIdentStart (← peek 1) then
      next
      skipWhile isIdentChar
      onward s fun t _ => chainTail start t
    else if c = ch '(' ∨ c = ch '[' then
      match ← group .expression with
      | some _ => onward s fun t _ => chainTail start t
      | none => return none
    else return some (← slice start (← position)) : Descent (Option Bytes))
termination_by s => s.rest.length

/-- A name with its selectors, calls and indices. -/
def chain : Descent (Option Bytes) := do
  let start ← position
  skipWhile isIdentChar
  chainTail start

/-! ## Tags -/

/-- The expression behind the at sign of an attribute value. -/
def valueCode : Descent (Option Bytes) := do
  let c ← peek 0
  if c = ch '(' then group .expression
  else if isIdentStart c then chain
  else
    report (← currentLine) .noExpression
    return none

/-- A value without quotes is passed. -/
def skipBareValue : Descent Unit := fun s => s |> (do
  if ← atEnd then return
  else
    let c ← byte
    if isSpace c ∨ c = ch '>' then return
    else if c = slash ∧ (← peek 1) = ch '>' then return
    else
      next
      onward s fun t _ => skipBareValue t : Descent Unit)
termination_by s => s.rest.length

/-- The value of the attribute `name`, from behind the equals sign on. -/
def value (name : Bytes) : Descent (Option AttrValue) := do
  let c ← peek 0
  if c = dquote ∨ c = squote then
    let line ← currentLine
    next
    let text ← takeWhile (· ≠ c)
    if ← atEnd then
      report line (.unterminatedValue name)
      return some (.literal text)
    else
      next
      return some (.literal text)
  else if c = ch '@' then
    next
    return (← valueCode).map .expr
  else
    let start ← position
    skipBareValue
    return some (.literal (← slice start (← position)))

/-- The attribute at the position; an expression that does not parse leaves none. Where no
name starts there is nothing to pass. -/
def attributeHere : Descent (Option (List Attr)) := do
  let name ← takeWhile isAttrNameByte
  if name = [] then return none
  else
    let line ← currentLine
    if ← atEnd then return some [⟨name, .bare, line⟩]
    else if (← byte) = ch '=' then
      next
      match ← value name with
      | none => return some []
      | some v => return some [⟨name, v, line⟩]
    else return some [⟨name, .bare, line⟩]

/-- The attributes of a tag, and how the tag ends. -/
def attributes (tag : Bytes) : Descent (List Attr × TagEnd) := fun s => s |> (do
  skipWhile isSpace
  if ← atEnd then return ([], .endOfSource)
  else
    let c ← byte
    if c = ch '>' then
      next
      return ([], .opened)
    else if c = slash ∧ (← peek 1) = ch '>' then
      advance 2
      return ([], .selfClosed)
    else
      match ← attributeHere with
      | none =>
        report (← currentLine) (.malformedAttribute tag)
        next
        onward s fun t _ => attributes tag t
      | some attrs =>
        let (more, ending) ← onward s fun t _ => attributes tag t
        return (attrs ++ more, ending) : Descent (List Attr × TagEnd))
termination_by s => s.rest.length

/-- The closing tag at the position is passed; what it names. -/
def closingName : Descent Bytes := do
  advance 2
  let name ← takeWhile ElementName.isTagByte
  skipWhile isSpace
  nextIf (ch '>')
  return name

/-- The closing tag at the position closes nothing. -/
def unexpectedClose : Descent Unit := do
  let line ← currentLine
  let name ← closingName
  report line (.unexpectedClose name)

/-! ## Directives -/

/-- A directive adds to the document, or is reported. -/
def declare (line : Nat) (add : Document → Except Fault Document) : Descent Unit := fun s =>
  match add s.document with
  | .ok d => some ((), { s with document := d })
  | .error fault => some ((), s.report line fault)

/-- The rest of the line is passed if only blanks are left of it. -/
def blankRestOfLine : Descent Unit := do
  let backPos ← position
  let backLine ← currentLine
  skipWhile isBlank
  if ← atEnd then
    let _ ← restOfLine
    return
  else if (← byte) = newline then
    let _ ← restOfLine
    return
  else goTo backPos backLine

/-- The declarations in braces at the position. The blank rest of the closing line goes with
them. -/
def codeBlock (line : Nat) : Descent Unit := do
  skipWhile isBlank
  if (← peek 0) ≠ lbrace then
    report line .noCodeBlock
    let _ ← restOfLine
    return
  else
    let openLine ← currentLine
    match ← group .codeBlock with
    | none => return
    | some text =>
      declare openLine fun d => .ok { d with code := d.code ++ [⟨lines text, openLine⟩] }
      blankRestOfLine

/-- A directive from behind its word on. -/
def directive (word : DirectiveWord) (line : Nat) : Descent Unit :=
  match word with
  | .code => codeBlock line
  | word => do
    skipWhile isBlank
    let rest := trim (← restOfLine)
    match word with
    | .page => declare line (·.addPage line rest)
    | .import_ => declare line (·.addImport line rest)
    | _ => declare line (·.addParam line rest)

/-- The value of the quoted literal at the position. -/
def quoted : Descent (Option Bytes) := do
  if ← atEnd then return none
  else
    let c ← byte
    if c = dquote ∨ c = grave then
      let start ← position
      if ← literal then return Quoted.unquote? (← slice start (← position))
      else return none
    else return none

/-- The unit to splice in. -/
def splice (line : Nat) : Descent Node := do
  skipWhile isBlank
  match ← quoted with
  | some path => return .splice path line
  | none =>
    report line .noIncludePath
    return .text [] line

/-! ## Markup -/

/-- A comment, from its two opening bytes on. -/
def comment (line : Nat) : Descent Unit := do
  advance 2
  match indexOf? "*@" (← ahead 0) with
  | none =>
    report line .unterminatedComment
    advanceToEnd
  | some n => advance (n + 2)

/-- The expression in parentheses at the position. -/
def groupExpression (line : Nat) : Descent Found := do
  match ← group .expression with
  | some code => return .node (.expr (trim code) line)
  | none => return .nothing

/-- The expression at the position: a name with its selectors. -/
def expression (line : Nat) : Descent Found := do
  match ← chain with
  | some code => return .node (.expr code line)
  | none => return .nothing

/-- Whether the byte before the position can belong to a name. -/
def behindName : Descent Bool := do
  if (← position) = 0 then return false
  else return isIdentChar (← byteBefore)

/-- The reader of the runs of markup inside a construct: whether the run is inside a block, whether
it is directly inside an element, and whether the names of elements go unchecked. -/
abbrev Runs := (inBlock inElement foreign : Bool) → Descent (List Node × Stop)

/-- The element `tag` from behind its opening tag on. -/
def content (run : Runs) (tag : Bytes) (attrs : List Attr) (line : Nat) (block foreign : Bool) :
    Descent Node := do
  let (children, why) ← run block true foreign
  if why = .closingTag then
    let endLine ← currentLine
    let name ← closingName
    reportIf (name ≠ tag) endLine (.mismatchedClose name tag line)
    return .element tag attrs children false line endLine
  else
    report line (.unclosedElement tag)
    return .element tag attrs children false line line

/-- The element at the position. -/
def element (run : Runs) (block foreign : Bool) : Descent Node := do
  let line ← currentLine
  next
  let tag ← takeWhile ElementName.isTagByte
  reportIf (!ElementName.isComponent tag && !foreign && !ElementName.isKnown tag) line
    (.unknownElement tag)
  let (attrs, ending) ← attributes tag
  match ending with
  | .endOfSource =>
    report line (.unclosedElement tag)
    return .element tag attrs [] false line line
  | .selfClosed => return .element tag attrs [] true line line
  | .opened =>
    if ElementName.isVoid tag then return .element tag attrs [] false line line
    else content run tag attrs line block (foreign || ElementName.isForeign tag)

/-- A block in braces after the markup `body`: what is in it, the line it ends on, and whether it
is closed. -/
def blockTail (run : Runs) (what : Construct) (line : Nat) (foreign : Bool) (body : List Node) :
    Descent (List Node × Nat × Bool) := fun s => s |> (do
  let (more, why) ← run true false foreign
  match why with
  | .brace =>
    let endLine ← currentLine
    next
    return (body ++ more, endLine, true)
  | .closingTag =>
    unexpectedClose
    onward s fun t _ => blockTail run what line foreign (body ++ more) t
  | .endOfSource =>
    report line (.blockNeverClosed what)
    return (body ++ more, ← currentLine, false) : Descent (List Node × Nat × Bool))
termination_by s => s.rest.length

/-- A block in braces, opened on `line`. -/
def block (run : Runs) (what : Construct) (line : Nat) (foreign : Bool) :
    Descent (List Node × Nat × Bool) := do
  next
  blockTail run what line foreign []

/-- A conditional behind its branches `done`, the last of which ended on `endLine`. -/
def elseBranches (run : Runs) (done : List Branch) (endLine : Nat) (foreign : Bool) :
    Descent Node := fun s => s |> (do
  let backPos ← position
  let backLine ← currentLine
  skipWhile isSpace
  if !startsWith (← ahead 0) "else" || isIdentChar (← peek 4) then
    goTo backPos backLine
    return .choice done [] 0 endLine
  else
    let line ← currentLine
    advance 4
    skipWhile isSpace
    if startsWith (← ahead 0) "if" && !isIdentChar (← peek 2) then
      advance 2
      match ← header .elseIfBranch line with
      | none => return .choice done [] 0 endLine
      | some cond =>
        let (body, endLine, closed) ← block run .elseIfBranch line foreign
        if closed then
          onward s fun t _ => elseBranches run (done ++ [.mk cond body line]) endLine foreign t
        else return .choice (done ++ [.mk cond body line]) [] 0 endLine
    else if (← peek 0) = lbrace then
      let (body, endLine, _) ← block run .elseBranch line foreign
      return .choice done body line endLine
    else
      report line (.noBrace .elseBranch)
      return .choice done [] 0 endLine : Descent Node)
termination_by s => s.rest.length

/-- A conditional, from its first condition on. -/
def conditional (run : Runs) (line : Nat) (foreign : Bool) : Descent Node := do
  match ← header .ifBranch line with
  | none => return .text [] line
  | some cond =>
    reportIf cond.isEmpty line .noCondition
    let (body, endLine, closed) ← block run .ifBranch line foreign
    if closed then elseBranches run [.mk cond body line] endLine foreign
    else return .choice [.mk cond body line] [] 0 endLine

/-- A loop, from its clause on. -/
def loop (run : Runs) (line : Nat) (foreign : Bool) : Descent Node := do
  match ← header .loop line with
  | none => return .text [] line
  | some clause =>
    let (body, endLine, _) ← block run .loop line foreign
    return .loop clause body line endLine

/-- The construct that the word at the position starts. A word that starts none is the beginning
of an expression. -/
def keyword (run : Runs) (top foreign : Bool) (line : Nat) : Descent Found := do
  let backPos ← position
  let backLine ← currentLine
  let word ← takeWhile isIdentChar
  if word = "if" then return .node (← conditional run line foreign)
  else if word = "for" then return .node (← loop run line foreign)
  else if word = "include" then return .node (← splice line)
  else if word = "else" then
    report line .strayElse
    return .nothing
  else
    match DirectiveWord.ofName? word with
    | some d =>
      if top then
        directive d line
        return .nothing
      else
        report line (.misplacedDirective word)
        let _ ← restOfLine
        return .nothing
    | none =>
      goTo backPos backLine
      expression line

/-- The at sign at the position. -/
def atSign (run : Runs) (top foreign : Bool) : Descent Found := do
  let line ← currentLine
  let c ← peek 1
  if c = ch '@' then
    advance 2
    return .text [ch '@']
  else if c = ch '*' then
    comment line
    return .nothing
  else if ← behindName then
    next
    return .text [ch '@']
  else if c = ch '(' then
    next
    groupExpression line
  else if isIdentStart c then
    next
    keyword run top foreign line
  else
    next
    return .text [ch '@']

/-- **A run of markup**, after the content `k` that was read of it so far. Directives are allowed
at the `top`, a brace ends the run inside a `block`, a closing tag ends it directly inside an
element, and in `foreign` markup the names of elements go unchecked. -/
def nodes (top block inElement foreign : Bool) (k : Content) : Descent (List Node × Stop) :=
  fun s => s |> (do
  let again (k : Content) := onward s fun t _ => nodes top block inElement foreign k t
  let run : Runs := fun b e g => onward s fun t _ => nodes false b e g {} t
  if ← atEnd then return (k.body, .endOfSource)
  else
    let c ← byte
    if c = ch '<' ∧ (← peek 1) = slash then
      if inElement then return (k.body, .closingTag)
      else
        unexpectedClose
        again k.flush
    else if c = ch '<' ∧ isIdentStart (← peek 1) then
      let n ← element run block foreign
      again (k.addNode n)
    else if c = rbrace ∧ block then return (k.body, .brace)
    else if c = ch '@' then
      let found ← atSign run top foreign
      let line ← currentLine
      again (found.addTo line k)
    else
      let line ← currentLine
      next
      again (k.addText line (Utf8.encode c.toNat)) : Descent (List Node × Stop))
termination_by s => s.rest.length

/-- The markup of a whole source after the part `body`. -/
def wholeBody (body : List Node) : Descent (List Node) := fun s => s |> (do
  let (more, why) ← nodes true false false false {}
  match why with
  | .endOfSource => return body ++ more
  | .closingTag =>
    unexpectedClose
    onward s fun t _ => wholeBody (body ++ more) t
  | .brace => onward s fun t _ => wholeBody (body ++ more) t : Descent (List Node))
termination_by s => s.rest.length

/-- **The document a component source says**, what is wrong with it, and the state the descent
ends in. -/
def read (src : Bytes) : Option ((Document × List Finding) × State) :=
  (wholeBody [] { src }).map fun (body, s) => (({ s.document with body }, s.findings.reverse), s)

end Descent

/-- Passing bytes twice is passing all of them at once. -/
theorem Cursor.advance_advance (m n : Nat) (c : Cursor) :
    (c.advance m).advance n = c.advance (m + n) := by
  have hcount : newlines (c.rest.take (m + n))
      = newlines (c.rest.take m) + newlines ((c.rest.drop m).take n) := by
    rw [List.take_add]
    exact List.count_append
  unfold Cursor.advance
  rw [List.drop_drop, hcount, Nat.add_assoc, List.take_add]
  simp [List.getLastD_eq_getLast?, List.getLast?_append]

/-- A single byte begins a line or does not. -/
theorem Bytes.newlines_singleton (c : UInt8) : newlines [c] = if c = newline then 1 else 0 := by
  rw [newlines, List.count_singleton]
  simp

namespace Descent

variable {α β : Type} {s t u : State} {c : UInt8} {r : Bytes}

/-! ## Positions -/

namespace State

/-- The position, as a cursor. -/
def cursor (s : State) : Cursor where
  rest := s.rest
  line := s.line
  before := (s.src.take s.pos).getLastD 0

@[simp] theorem rest_cursor (s : State) : s.cursor.rest = s.rest := rfl

@[simp] theorem line_cursor (s : State) : s.cursor.line = s.line := rfl

/-- The state behind the byte at the position. -/
def pass (s : State) : State :=
  match s.rest with
  | [] => s
  | c :: _ => s.goTo (s.pos + 1) (if c = newline then s.line + 1 else s.line)

/-- The state `n` bytes further on, or at the end if that is nearer. -/
def forward : Nat → State → State
  | 0, s => s
  | n + 1, s => s.pass.forward n

/-- The state behind a run of bytes that satisfy `p`. -/
def skip (p : UInt8 → Bool) (s : State) : State := s.forward (s.rest.takeWhile p).length

/-- Nothing is left exactly if the position is at the end of the source, or behind it. -/
theorem rest_eq_nil_iff : s.rest = [] ↔ s.src.length ≤ s.pos := List.drop_eq_nil_iff

/-- Where something is left, the position is inside the source. -/
theorem pos_lt_of_rest (h : s.rest = c :: r) : s.pos < s.src.length := by
  refine Nat.not_le.1 fun hle => ?_
  rw [rest_eq_nil_iff.2 hle] at h
  cases h

/-- The byte at the position is the first one that is left, so whoever asks for it gets it. -/
theorem getElem?_of_rest (h : s.rest = c :: r) : s.src[s.pos]? = some c := by
  rw [← List.head?_drop]
  exact congrArg List.head? h

/-- What lies before the next position is what lies before this one, and the byte in between. -/
theorem take_succ_of_rest (h : s.rest = c :: r) :
    s.src.take (s.pos + 1) = s.src.take s.pos ++ [c] := by
  rw [List.take_add_one, getElem?_of_rest h]
  rfl

/-- At the end of the source there is nothing to pass. -/
theorem pass_nil (h : s.rest = []) : s.pass = s := by
  rw [pass, h]

/-- **Passing a byte** moves the position on, and counts a line if the byte is a line feed. -/
theorem pass_cons (h : s.rest = c :: r) :
    s.pass = s.goTo (s.pos + 1) (if c = newline then s.line + 1 else s.line) := by
  rw [pass, h]

/-- However many bytes are asked for, a state at the end of the source stays where it is. -/
theorem forward_nil (h : s.rest = []) (n : Nat) : s.forward n = s := by
  induction n with
  | zero => rfl
  | succ n ih => rw [forward, pass_nil h, ih]

/-- Passing bytes twice is passing all of them at once, also if that leads beyond the end. -/
theorem forward_forward (m n : Nat) (s : State) :
    (s.forward m).forward n = s.forward (m + n) := by
  induction m generalizing s with
  | zero => rw [Nat.zero_add]; rfl
  | succ m ih => rw [forward, ih, Nat.add_right_comm]; rfl

/-- A property that passing a byte keeps is kept on the way forward. -/
theorem forward_induction {P : State → Prop} (hpass : ∀ t, P t → P t.pass) (h : P s) (n : Nat) :
    P (s.forward n) := by
  induction n generalizing s with
  | zero => exact h
  | succ n ih => exact ih (hpass s h)

/-- Passing a byte changes nothing, or there is one and the state moves on behind it. What holds of
both is preserved by `forward`. -/
theorem pass_eq_or (s : State) : s.pass = s
    ∨ ∃ c r, s.rest = c :: r
      ∧ s.pass = s.goTo (s.pos + 1) (if c = newline then s.line + 1 else s.line) := by
  cases h : s.rest with
  | nil => exact .inl (pass_nil h)
  | cons c r => exact .inr ⟨c, r, rfl, pass_cons h⟩

/-- Passing bytes concerns the position only: source, document and findings stay as they are. -/
theorem frame_forward (n : Nat) (s : State) : (s.forward n).src = s.src
    ∧ (s.forward n).document = s.document ∧ (s.forward n).findings = s.findings := by
  refine forward_induction (P := fun t =>
    t.src = s.src ∧ t.document = s.document ∧ t.findings = s.findings) (fun t ht => ?_)
    ⟨rfl, rfl, rfl⟩ n
  rcases t.pass_eq_or with heq | ⟨c, r, -, heq⟩
  · rwa [heq]
  · rwa [heq]

@[simp] theorem src_forward (n : Nat) (s : State) : (s.forward n).src = s.src :=
  (s.frame_forward n).1

@[simp] theorem document_forward (n : Nat) (s : State) : (s.forward n).document = s.document :=
  (s.frame_forward n).2.1

@[simp] theorem findings_forward (n : Nat) (s : State) : (s.forward n).findings = s.findings :=
  (s.frame_forward n).2.2

/-- What is reported on the way does not depend on how far the way leads, so reports can be moved in
front of it. -/
theorem forward_report (line : Nat) (fault : Fault) (n : Nat) (s : State) :
    (s.report line fault).forward n = (s.forward n).report line fault := by
  have hpass : ∀ t : State, (t.report line fault).pass = t.pass.report line fault := fun t => by
    cases h : t.rest with
    | nil => rw [pass_nil h, pass_nil (show (t.report line fault).rest = [] from h)]
    | cons c r => rw [pass_cons h, pass_cons (show (t.report line fault).rest = c :: r from h)]; rfl
  induction n generalizing s with
  | zero => rfl
  | succ n ih => rw [forward, hpass, ih]; rfl

/-- A report leaves the position alone. -/
theorem rest_report (line : Nat) (fault : Fault) (s : State) :
    (s.report line fault).rest = s.rest :=
  rfl

/-- **The cursor moves as the state does.** -/
theorem cursor_pass (s : State) : s.pass.cursor = s.cursor.advance 1 := by
  cases h : s.rest with
  | nil =>
    rw [pass_nil h, Cursor.advance, cursor, h]
    rfl
  | cons c r =>
    have hrest : s.src.drop (s.pos + 1) = r := by
      rw [← List.drop_drop]
      exact congrArg (List.drop 1) h
    rw [pass_cons h, Cursor.advance, cursor, cursor, h, rest, goTo]
    simp only [List.drop_succ_cons, List.drop_zero, List.take_succ_cons, List.take_zero, hrest,
      take_succ_of_rest h, newlines_singleton]
    split <;> simp

/-- **Passing bytes is moving the cursor**: what the walk does to its cursor in one
go, a descent does byte by byte. -/
theorem cursor_forward (n : Nat) (s : State) : (s.forward n).cursor = s.cursor.advance n := by
  induction n generalizing s with
  | zero =>
    show s.cursor = s.cursor.advance 0
    rw [Cursor.advance, List.take_zero, List.drop_zero]
    rfl
  | succ n ih => rw [forward, ih, cursor_pass, Cursor.advance_advance, Nat.add_comm]

/-- What is left behind some bytes. -/
theorem rest_forward (n : Nat) (s : State) : (s.forward n).rest = s.rest.drop n :=
  congrArg Cursor.rest (s.cursor_forward n)

/-- Skipping bytes of a class is what the cursor does, too. -/
theorem cursor_skip (p : UInt8 → Bool) (s : State) : (s.skip p).cursor = s.cursor.skipWhile p :=
  s.cursor_forward _

/-- Behind the word that starts one byte ahead. -/
theorem cursor_word (p : UInt8 → Bool) (s : State) :
    s.cursor.advance (1 + ((s.rest.drop 1).takeWhile p).length)
      = ((s.forward 1).skip p).cursor := by
  rw [cursor_skip, cursor_forward, Cursor.skipWhile, Cursor.advance_advance]
  rfl

/-- What is left, if it is known what was left before. -/
theorem rest_forward_of (h : s.rest = r) (n : Nat) : (s.forward n).rest = r.drop n :=
  h ▸ s.rest_forward n

/-- What is left behind a byte that is known and some more. -/
theorem rest_forward_cons (h : s.rest = c :: r) (n : Nat) :
    (s.forward (1 + n)).rest = r.drop n := by
  rw [rest_forward_of h, ← List.drop_drop]
  rfl

/-- What is left where the bytes of a class end. -/
theorem rest_skip (p : UInt8 → Bool) (s : State) :
    (s.skip p).rest = s.rest.drop (s.rest.takeWhile p).length :=
  s.rest_forward _

/-- The position moves as far as it was told, but not beyond the end of the source. -/
theorem pos_forward (n : Nat) (s : State) : (s.forward n).pos = s.pos + min n s.rest.length := by
  induction n generalizing s with
  | zero => rw [Nat.zero_min]; rfl
  | succ n ih =>
    cases h : s.rest with
    | nil => rw [forward_nil h]; rfl
    | cons c r =>
      have hrest : (s.forward 1).rest = r := by rw [rest_forward, h]; rfl
      have hpos : (s.forward 1).pos = s.pos + 1 := congrArg State.pos (pass_cons h)
      rw [show s.forward (n + 1) = (s.forward 1).forward n from rfl, ih, hrest, hpos,
        List.length_cons]
      omega

/-! ## Sound states -/

end State

/-- **A position of the source with the right line**: one more than there are line feeds in
front of it. -/
def Counted (src : Bytes) (pos line : Nat) : Prop :=
  pos ≤ src.length ∧ line = 1 + newlines (src.take pos)

/-- **A state is sound** if position and line agree, now and at every position that was taken. -/
structure State.Sound (s : State) : Prop where
  here : Counted s.src s.pos s.line
  trail : ∀ p ∈ s.trail, Counted s.src p.1 p.2

/-- **The state `t` comes after `s` in a descent**: it is a sound state of the same source, not in
front of `s`, and has been wherever `s` has. -/
structure State.Precedes (s t : State) : Prop where
  src : t.src = s.src
  pos : s.pos ≤ t.pos
  trail : s.trail <:+ t.trail
  sound : t.Sound

namespace State

/-- A descent starts out sound: at the first byte, on the first line. -/
theorem sound_start (src : Bytes) : Sound { src } :=
  ⟨⟨Nat.zero_le _, rfl⟩, List.forall_mem_singleton.2 ⟨Nat.zero_le _, rfl⟩⟩

/-- Going to a position is sound if the line is the one that was counted for it. -/
theorem Sound.goTo (h : s.Sound) {pos line : Nat} (hpos : Counted s.src pos line) :
    (s.goTo pos line).Sound :=
  ⟨hpos, List.forall_mem_cons.2 ⟨hpos, h.trail⟩⟩

/-- A report does not touch the position, so the state is as sound as before. -/
theorem Sound.report (h : s.Sound) (line : Nat) (fault : Fault) : (s.report line fault).Sound :=
  ⟨h.here, h.trail⟩

/-- **Passing a byte is sound**: the line that is counted is right for the next position, and the
next position goes on the trail. -/
theorem Sound.pass (h : s.Sound) : s.pass.Sound := by
  rcases s.pass_eq_or with heq | ⟨c, r, hrest, heq⟩
  · rwa [heq]
  · have hcount : newlines (s.src.take (s.pos + 1))
        = newlines (s.src.take s.pos) + if c = newline then 1 else 0 := by
      rw [take_succ_of_rest hrest, ← newlines_singleton]
      exact List.count_append
    rw [heq]
    refine h.goTo ⟨pos_lt_of_rest hrest, ?_⟩
    rw [hcount, h.here.2]
    split <;> rfl

/-- So is passing any number of bytes, by induction on how many. -/
theorem Sound.forward (h : s.Sound) (n : Nat) : (s.forward n).Sound :=
  forward_induction (P := Sound) (fun _ => Sound.pass) h n

/-- Skipping is passing bytes, and as sound. -/
theorem Sound.skip (h : s.Sound) (p : UInt8 → Bool) : (s.skip p).Sound := h.forward _

/-- A sound state comes before itself. -/
theorem Precedes.refl (h : s.Sound) : s.Precedes s :=
  ⟨rfl, Nat.le_refl _, List.suffix_refl _, h⟩

/-- A state that comes after one that comes after a state comes after that state. -/
theorem Precedes.trans (h : s.Precedes t) (h' : t.Precedes u) : s.Precedes u :=
  ⟨h'.src.trans h.src, Nat.le_trans h.pos h'.pos, h.trail.trans h'.trail, h'.sound⟩

/-- The trail is only ever added to: the positions that were taken stay on it. -/
theorem trail_forward (n : Nat) (s : State) : s.trail <:+ (s.forward n).trail := by
  refine forward_induction (P := fun t => s.trail <:+ t.trail) (fun t ht => ?_)
    (List.suffix_refl _) n
  rcases t.pass_eq_or with heq | ⟨c, r, -, heq⟩
  · rwa [heq]
  · rw [heq]
    exact ht.trans (List.suffix_cons _ _)

/-- A state comes before those that it gets to by passing bytes. -/
theorem Sound.precedes_forward (h : s.Sound) (n : Nat) : s.Precedes (s.forward n) :=
  ⟨src_forward n s, by rw [pos_forward]; exact Nat.le_add_right .., trail_forward n s,
    h.forward n⟩

/-- Of two states that are reached by passing bytes, the one that has passed fewer comes first. -/
theorem Sound.precedes_further (hs : s.Sound) {m n : Nat} (h : m ≤ n) :
    (s.forward m).Precedes (s.forward n) := by
  rw [← Nat.add_sub_cancel' h, ← State.forward_forward]
  exact (hs.forward m).precedes_forward _


/-- What comes after a state still does when more bytes are passed. -/
theorem Precedes.forward (h : s.Precedes t) (n : Nat) : s.Precedes (t.forward n) :=
  h.trans (h.sound.precedes_forward n)

/-- And when something is reported. -/
theorem Precedes.report (h : s.Precedes t) (line : Nat) (fault : Fault) :
    s.Precedes (t.report line fault) :=
  ⟨h.src, h.pos, h.trail, h.sound.report line fault⟩

/-- Going back to a position that was taken before is no harm. -/
theorem Precedes.goBack (h : s.Precedes t) (hs : s.Sound) : s.Precedes (t.goTo s.pos s.line) :=
  ⟨h.src, Nat.le_refl _, h.trail.trans (List.suffix_cons _ _), h.sound.goTo (h.src ▸ hs.here)⟩

/-- A state that comes after another has no more left than that one. This is what bounds a descent.
-/
theorem Precedes.rest_le (h : s.Precedes t) : t.rest.length ≤ s.rest.length := by
  have := h.pos
  rw [rest, rest, List.length_drop, List.length_drop, h.src]
  omega

/-- **Moving on leaves less**, which is what `onward` asks of a function that calls itself. -/
theorem forward_rest_lt (h : s.rest = c :: r) {n : Nat} (hn : 0 < n) :
    (s.forward n).rest.length < s.rest.length := by
  rw [rest_forward, List.length_drop, h, List.length_cons]
  omega

end State

/-! ## Running one part after another -/

/-- A descent that has a result goes on with it. All that is said about a descent is said by taking
it apart like this, one part after the other. -/
theorem bind_eq {x : Descent α} {a : α} (h : x s = some (a, t)) (f : α → Descent β) :
    (x >>= f) s = f a t := by
  show (x s).bind (fun p => f p.1 p.2) = f a t
  rw [h]
  rfl

/-- Further on, what is to be done there is done. -/
theorem onward_eq {go : ∀ t : State, t.rest.length < s.rest.length → Option (α × State)}
    (h : t.rest.length < s.rest.length) : onward s go t = go t h :=
  dif_pos h

/-- A function may call itself once a byte has been passed. -/
theorem onward_forward {go : ∀ t : State, t.rest.length < s.rest.length → Option (α × State)}
    (h : s.rest = c :: r) {n : Nat} (hn : 0 < n) :
    onward s go (s.forward n) = go (s.forward n) (State.forward_rest_lt h hn) :=
  onward_eq _

/-- Asking for the position gives it and changes nothing. -/
theorem position_eq (s : State) : position s = some (s.pos, s) := rfl

/-- Asking for the line gives it and changes nothing. -/
theorem currentLine_eq (s : State) : currentLine s = some (s.line, s) := rfl

theorem report_eq (line : Nat) (fault : Fault) (s : State) :
    report line fault s = some ((), s.report line fault) := rfl

/-- A fault is reported on a condition, and nothing else happens. -/
theorem reportIf_eq (faulty : Bool) (line : Nat) (fault : Fault) (s : State) :
    reportIf faulty line fault s
      = some ((), if faulty = true then s.report line fault else s) := by
  rw [reportIf]
  split <;> rfl

theorem goTo_eq (pos line : Nat) (s : State) : goTo pos line s = some ((), s.goTo pos line) := rfl

/-- A descent that has nothing left is at the end of the source. -/
theorem atEnd_nil (h : s.rest = []) : atEnd s = some (true, s) :=
  congrArg (fun b => some (b, s)) (decide_eq_true (State.rest_eq_nil_iff.1 h))

/-- A descent that has something left is not. -/
theorem atEnd_cons (h : s.rest = c :: r) : atEnd s = some (false, s) :=
  congrArg (fun b => some (b, s)) (decide_eq_false (Nat.not_le.2 (State.pos_lt_of_rest h)))

/-- At the end of the source. -/
theorem ifAtEnd_nil (h : s.rest = []) (x y : Descent α) :
    (atEnd >>= fun b => if b = true then x else y) s = x s :=
  bind_eq (atEnd_nil h) _

/-- Not at the end of the source. -/
theorem ifAtEnd_cons (h : s.rest = c :: r) (x y : Descent α) :
    (atEnd >>= fun b => if b = true then x else y) s = y s :=
  bind_eq (atEnd_cons h) _

/-- **The byte at the position is there** if anything is left, and asking for it changes nothing. -/
theorem byte_eq (h : s.rest = c :: r) : byte s = some (c, s) :=
  congrArg (Option.map (·, s)) (State.getElem?_of_rest h)

/-- A byte further on can always be asked for: behind the end of the source there are zeros. -/
theorem peek_eq (n : Nat) (s : State) : peek n s = some (s.cursor.peek n, s) := by
  have hbyte : (if h : s.pos + n < s.src.length then s.src[s.pos + n] else 0)
      = (s.rest.drop n).headD 0 := by
    rw [State.rest, List.drop_drop, List.headD_eq_head?_getD, List.head?_drop]
    split
    · next h => rw [List.getElem?_eq_getElem h]; rfl
    · next h => rw [List.getElem?_eq_none (Nat.not_lt.1 h)]; rfl
  exact congrArg (fun b => some (b, s)) hbyte

/-- **A section of the source is there** if its ends are in order and within the source. -/
theorem slice_eq {start stop : Nat} (hstart : start ≤ stop) (hstop : stop ≤ s.src.length) :
    slice start stop s = some ((s.src.drop start).take (stop - start), s) := by
  rw [slice, if_pos ⟨hstart, hstop⟩, List.drop_take]

/-- What is left behind some bytes is a section of the source, so a sound state can ask for it. -/
theorem ahead_eq (hs : s.Sound) {n : Nat} (h : n ≤ s.rest.length) :
    ahead n s = some (s.rest.drop n, s) := by
  have hpos := hs.here.1
  have hlength : s.pos + n ≤ s.src.length := by
    rw [State.rest, List.length_drop] at h
    omega
  rw [ahead, if_pos hlength, State.rest, List.drop_drop]

/-- The next byte can be passed if there is one. -/
theorem next_eq (h : s.rest = c :: r) : next s = some ((), s.forward 1) := by
  rw [next, bind_eq (byte_eq h), bind_eq (position_eq s), bind_eq (currentLine_eq s), goTo_eq]
  exact congrArg (fun t => some ((), t)) (State.pass_cons h).symm

/-- Any number of bytes can be passed, which is the same as moving forward by so many. -/
theorem advance_eq (n : Nat) (s : State) : advance n s = some ((), s.forward n) := by
  induction n generalizing s with
  | zero => rfl
  | succ n ih =>
    rw [advance]
    cases h : s.rest with
    | nil =>
      rw [ifAtEnd_nil h, State.forward_nil h]
      rfl
    | cons c r =>
      rw [ifAtEnd_cons h, bind_eq (next_eq h), ih]
      rfl

/-- All that is left can be passed. -/
theorem advanceToEnd_eq (s : State) :
    advanceToEnd s = some ((), s.forward s.rest.length) := by
  rw [advanceToEnd, advance_eq, State.rest, List.length_drop]

/-- **Skipping bytes of a class has a result**, which is where the cursor of the walk gets to. By
induction on what is left, since each round passes a byte. -/
theorem skipWhile_eq (p : UInt8 → Bool) (s : State) : skipWhile p s = some ((), s.skip p) := by
  generalize hr : s.rest = r
  induction r generalizing s with
  | nil =>
    rw [skipWhile, ifAtEnd_nil hr, State.skip, hr]
    rfl
  | cons c r ih =>
    have hrest : (s.forward 1).rest = r := by rw [State.rest_forward, hr]; rfl
    rw [State.skip, hr, List.takeWhile_cons, skipWhile, ifAtEnd_cons hr, bind_eq (byte_eq hr)]
    split
    · rw [bind_eq (next_eq hr), onward_forward hr Nat.one_pos, ih _ hrest, State.skip,
        State.forward_forward, hrest, List.length_cons, Nat.add_comm]
    · rfl

/-- The text that was passed on the way from an earlier state. -/
theorem slice_forward (hs : s.Sound) (n : Nat) :
    slice s.pos (s.forward n).pos (s.forward n) = some (s.rest.take n, s.forward n) := by
  have htake : s.rest.take (min n s.rest.length) = s.rest.take n := by
    rw [List.take_eq_take_iff, Nat.min_assoc, Nat.min_self]
  rw [slice_eq (hs.precedes_forward n).pos (hs.forward n).here.1, State.src_forward,
    State.pos_forward, Nat.add_sub_cancel_left, ← State.rest, htake]

/-- Bytes of a class can be read, and are what stands at the front of what is left. -/
theorem takeWhile_eq (hs : s.Sound) (p : UInt8 → Bool) :
    takeWhile p s = some (s.rest.takeWhile p, s.skip p) := by
  rw [takeWhile, bind_eq (position_eq s), bind_eq (skipWhile_eq p s), bind_eq (position_eq _),
    State.skip, slice_forward hs, ← List.prefix_iff_eq_take.1 (List.takeWhile_prefix p)]

/-- The rest of the line can be read, without its line feed, which is passed nevertheless. -/
theorem restOfLine_eq (hs : s.Sound) : restOfLine s
    = some (s.cursor.restOfLine.1, s.forward (s.cursor.restOfLine.1.length + 1)) := by
  have hskip : s.forward (s.cursor.restOfLine.1.length + 1) = (s.skip (· ≠ newline)).forward 1 :=
    (State.forward_forward _ 1 s).symm
  rw [restOfLine, bind_eq (takeWhile_eq hs _), hskip]
  cases h : (s.skip (· ≠ newline)).rest with
  | nil =>
    rw [ifAtEnd_nil h, State.forward_nil h]
    rfl
  | cons c r =>
    rw [ifAtEnd_cons h, bind_eq (next_eq h)]
    rfl

end Descent

end Stencil
