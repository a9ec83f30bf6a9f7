import Stencil.Text.Yaml.Token

/-!
# Nodes of YAML

The tokens of a document make a tree: a node is a scalar, a list, a map, or a reference to a
node that was given a name before. Names can be given again, so a reference holds the number
of the node it means and not its name alone; `Document.nodes` has the nodes by number.

A document is read no further than its own end: what follows it is not looked at.
-/

namespace Stencil.Yaml

open Bytes

/-- **A node of a document.** -/
inductive Node where
  /-- A scalar: its line, its tag, how it is written, and its text. -/
  | scalar (line : Nat) (tag : Bytes) (style : Style) (text : Bytes)
  /-- A list: its line, its tag and its items. -/
  | list (line : Nat) (tag : Bytes) (items : List Node)
  /-- A map: its line, its tag and its entries. -/
  | map (line : Nat) (tag : Bytes) (entries : List (Node × Node))
  /-- A reference to a named node: its line, the name, and the number of the node. -/
  | alias (line : Nat) (name : Bytes) (number : Nat)
  deriving Inhabited

/-- **How far the tokens of a document have been read.** -/
structure Reader where
  /-- The tokens of the text. -/
  scan : Scan
  /-- The tokens that are left. -/
  rest : List Token
  /-- How many have been read. -/
  position : Nat := 0
  /-- The short forms of tags. -/
  handles : List (Bytes × Bytes) := []
  /-- The numbers of the names that have been given, the last one first. -/
  names : List (Bytes × Nat) := []
  /-- The named nodes that are complete. -/
  nodes : List (Nat × Node) := []
  /-- How many names have been given. -/
  named : Nat := 0

namespace Reader

/-- The short forms of tags that every document has. -/
def commonHandles : List (Bytes × Bytes) := [("!", "!"), ("!!", "tag:yaml.org,2002:")]

/-- The next token. -/
def peek (r : Reader) : Except Error Token :=
  match r.scan.isBlocked r.position with
  | some e => .error e
  | none => .ok (r.rest.headD (r.scan.tokens.getLastD ⟨.streamEnd, {}, {}⟩))

/-- The reader behind the next token. -/
def skip (r : Reader) : Reader := { r with rest := r.rest.tail, position := r.position + 1 }

/-- The tag of a scalar without one, by how it is written. Plain scalars get theirs from their
text. -/
def emptyNode (mark : Mark) : Node := .scalar (mark.line + 1) [] .plain []

/-- The full form of a tag; the short form must be known. -/
def fullTag? (r : Reader) (handle suffix : Bytes) : Option Bytes :=
  if handle.isEmpty then some suffix
  else (r.handles.lookup handle).map (· ++ suffix)

/-- What can stand in front of a node: its name and its tag, in either order. -/
structure Properties where
  /-- Where the node starts. -/
  start : Mark
  /-- The name. -/
  anchor : Option Bytes := none
  /-- The tag, empty for none. -/
  tag : Bytes := []
  /-- Whether there is a tag, also one that says nothing. -/
  tagged : Bool := false

/-- The properties of the node that comes next. -/
def properties (r : Reader) : Except Error (Properties × Reader) := do
  let t ← r.peek
  match t.kind with
  | .anchor name =>
    let r := r.skip
    let u ← r.peek
    match u.kind with
    | .tag h s =>
      let full ← known r t.start u h s
      return ({ start := t.start, anchor := some name, tag := full, tagged := true }, r.skip)
    | _ => return ({ start := t.start, anchor := some name }, r)
  | .tag h s =>
    let r := r.skip
    let u ← r.peek
    match u.kind with
    | .anchor name =>
      let r := r.skip
      let _ ← r.peek
      let full ← known r t.start t h s
      return ({ start := t.start, anchor := some name, tag := full, tagged := true }, r)
    | _ =>
      let full ← known r t.start t h s
      return ({ start := t.start, tag := full, tagged := true }, r)
  | _ => return ({ start := t.start }, r)
where
  /-- The full form of a tag whose short form is known. -/
  known (r : Reader) (start : Mark) (t : Token) (handle suffix : Bytes) : Except Error Bytes :=
    match r.fullTag? handle suffix with
    | some full => .ok full
    | none => .error (.misplaced start t.start "found undefined tag handle")

/-- The reader with a name given to the node that starts, and the number of the name. -/
def name (r : Reader) (anchor : Option Bytes) : Option Nat × Reader :=
  match anchor with
  | none => (none, r)
  | some a => (some r.named, { r with names := (a, r.named) :: r.names, named := r.named + 1 })

/-- The reader after a node is complete. -/
def complete (r : Reader) (number : Option Nat) (n : Node) : Node × Reader :=
  match number with
  | none => (n, r)
  | some i => (n, { r with nodes := (i, n) :: r.nodes })

/-- Whether a token is one of several kinds. -/
def isKind (t : Token) (kinds : List TokenKind) : Bool := kinds.contains t.kind

/-- What is said when a document nests too deeply to be read. -/
def tooDeep : Error := ⟨0, "exceeded max depth of " ++ Bytes.ofNat Scanner.maxDepth⟩

mutual

/-- **The node that comes next.** Where it stands decides whether it can be a list or map by
indentation, and whether the items of a list may start without one. -/
def node : Nat → Bool → Bool → Reader → Except Error (Node × Reader)
  | 0, _, _, _ => .error tooDeep
  | fuel + 1, inBlock, indentless, r => do
    let first ← r.peek
    if let .alias a := first.kind then
      match r.names.lookup a with
      | none => throw ⟨0, "unknown anchor '" ++ a ++ "' referenced"⟩
      | some i => return (.alias (first.start.line + 1) a i, r.skip)
    let (p, r) ← r.properties
    let t ← r.peek
    let line := p.start.line + 1
    let (number, named) := r.name p.anchor
    let done (n : Node) (r : Reader) : Except Error (Node × Reader) := .ok (r.complete number n)
    match t.kind with
    | .scalar style text => done (.scalar line p.tag style text) named.skip
    | .listStart =>
      let (items, r) ← listItems fuel t.start true named.skip
      done (.list line p.tag items) r
    | .mapStart =>
      let (entries, r) ← mapEntries fuel t.start true named.skip
      done (.map line p.tag entries) r
    | _ =>
      if indentless && t.kind = .item then
        let (items, r) ← looseItems fuel named
        done (.list line p.tag items) r
      else if inBlock && t.kind = .blockList then
        let (items, r) ← blockItems fuel t.start named.skip
        done (.list line p.tag items) r
      else if inBlock && t.kind = .blockMap then
        let (entries, r) ← blockEntries fuel t.start named.skip
        done (.map line p.tag entries) r
      else if p.anchor.isSome || !p.tag.isEmpty then
        done (.scalar line p.tag .plain []) named
      else throw (.misplaced p.start t.start "did not find expected node content")

/-- The items of a list by indentation, from behind its start. -/
def blockItems : Nat → Mark → Reader → Except Error (List Node × Reader)
  | 0, _, _ => .error tooDeep
  | fuel + 1, start, r => do
    let t ← r.peek
    if t.kind = .item then
      let r := r.skip
      let u ← r.peek
      let (v, r) ←
        if isKind u [.item, .blockEnd] then pure (emptyNode t.stop, r)
        else node fuel true false r
      let (vs, r) ← blockItems fuel start r
      return (v :: vs, r)
    else if t.kind = .blockEnd then return ([], r.skip)
    else throw (.misplaced start t.start "did not find expected '-' indicator")

/-- The items of a list that is not indented further than the key it belongs to. -/
def looseItems : Nat → Reader → Except Error (List Node × Reader)
  | 0, _ => .error tooDeep
  | fuel + 1, r => do
    let t ← r.peek
    if t.kind = .item then
      let r := r.skip
      let u ← r.peek
      let (v, r) ←
        if isKind u [.item, .key, .value, .blockEnd] then pure (emptyNode t.stop, r)
        else node fuel true false r
      let (vs, r) ← looseItems fuel r
      return (v :: vs, r)
    else return ([], r)

/-- The entries of a map by indentation, from behind its start. -/
def blockEntries : Nat → Mark → Reader → Except Error (List (Node × Node) × Reader)
  | 0, _, _ => .error tooDeep
  | fuel + 1, start, r => do
    let t ← r.peek
    if t.kind = .key then
      let r := r.skip
      let u ← r.peek
      let (k, r) ←
        if isKind u [.key, .value, .blockEnd] then pure (emptyNode t.stop, r)
        else node fuel true true r
      let w ← r.peek
      let (v, r) ←
        if w.kind = .value then do
          let r := r.skip
          let u ← r.peek
          if isKind u [.key, .value, .blockEnd] then pure (emptyNode w.stop, r)
          else node fuel true true r
        else pure (emptyNode w.start, r)
      let (es, r) ← blockEntries fuel start r
      return ((k, v) :: es, r)
    else if t.kind = .blockEnd then return ([], r.skip)
    else throw (.misplaced start t.start "did not find expected key")

/-- The items of a list in brackets, from behind the opening one or behind an item. -/
def listItems : Nat → Mark → Bool → Reader → Except Error (List Node × Reader)
  | 0, _, _, _ => .error tooDeep
  | fuel + 1, start, first, r => do
    let t ← r.peek
    if t.kind = .listEnd then return ([], r.skip)
    if !first && t.kind ≠ .comma then
      throw (.misplaced start t.start "did not find expected ',' or ']'")
    let r := if first then r else r.skip
    let t ← r.peek
    if t.kind = .listEnd then return ([], r.skip)
    let (v, r) ←
      if t.kind = .key then singlePair fuel t.start r.skip
      else node fuel false false r
    let (vs, r) ← listItems fuel start false r
    return (v :: vs, r)

/-- A map of one entry that stands in a list without braces, from behind the mark of its
key. -/
def singlePair : Nat → Mark → Reader → Except Error (Node × Reader)
  | 0, _, _ => .error tooDeep
  | fuel + 1, start, r => do
    let t ← r.peek
    let (k, r) ←
      -- whatever ends an empty key is taken for its mark
      if isKind t [.value, .comma, .listEnd] then pure (emptyNode t.stop, r.skip)
      else node fuel false false r
    let t ← r.peek
    let (v, r) ←
      if t.kind = .value then do
        let r := r.skip
        let u ← r.peek
        if isKind u [.comma, .listEnd] then pure (emptyNode u.start, r)
        else node fuel false false r
      else pure (emptyNode t.start, r)
    return (.map (start.line + 1) [] [(k, v)], r)

/-- The entries of a map in braces, from behind the opening one or behind an entry. -/
def mapEntries : Nat → Mark → Bool → Reader → Except Error (List (Node × Node) × Reader)
  | 0, _, _, _ => .error tooDeep
  | fuel + 1, start, first, r => do
    let t ← r.peek
    if t.kind = .mapEnd then return ([], r.skip)
    if !first && t.kind ≠ .comma then
      throw (.misplaced start t.start "did not find expected ',' or '\x7d'")
    let r := if first then r else r.skip
    let t ← r.peek
    if t.kind = .mapEnd then return ([], r.skip)
    if t.kind ≠ .key then
      let (k, r) ← node fuel false false r
      let u ← r.peek
      let (es, r) ← mapEntries fuel start false r
      return ((k, emptyNode u.start) :: es, r)
    let r := r.skip
    let t ← r.peek
    let (k, r) ←
      if isKind t [.value, .comma, .mapEnd] then pure (emptyNode t.start, r)
      else node fuel false false r
    let t ← r.peek
    let (v, r) ←
      if t.kind = .value then do
        let r := r.skip
        let u ← r.peek
        if isKind u [.comma, .mapEnd] then pure (emptyNode u.start, r)
        else node fuel false false r
      else pure (emptyNode t.start, r)
    let (es, r) ← mapEntries fuel start false r
    return ((k, v) :: es, r)

end

/-- The directives in front of a document, given those that were there before. -/
def directives : Nat → Bool → Reader → Except Error Reader
  | 0, _, r => .ok r
  | fuel + 1, versioned, r => do
    let t ← r.peek
    match t.kind with
    | .version major minor =>
      if versioned then throw ⟨t.start.line, "found duplicate %YAML directive"⟩
      if major ≠ 1 || minor ≠ 1 then throw ⟨t.start.line, "found incompatible YAML document"⟩
      directives fuel true r.skip
    | .tagAlias handle full =>
      if r.handles.any fun h => h.1 = handle then
        throw ⟨t.start.line, "found duplicate %TAG directive"⟩
      directives fuel versioned { r.skip with handles := r.handles ++ [(handle, full)] }
    | _ => return { r with
        handles := r.handles ++ commonHandles.filter fun h => !r.handles.any fun g => g.1 = h.1 }

end Reader

/-- **A document**: its node, and the nodes that have names. -/
structure Document where
  /-- The node. -/
  root : Node
  /-- The named nodes by number. -/
  nodes : List (Nat × Node)

namespace Document

/-- The document of tokens; there is none where the text ends at once. -/
def ofScan (s : Scan) : Except Error (Option Document) := do
  let r : Reader := { scan := s, rest := s.tokens }
  let t ← r.peek
  let fuel := 2 * s.tokens.length + 10
  let (root, r) ←
    match t.kind with
    | .streamEnd => return none
    | .documentStart | .version _ _ | .tagAlias _ _ =>
      let r ← r.directives (s.tokens.length + 1) false
      let t ← r.peek
      if t.kind ≠ .documentStart then
        throw ⟨t.start.line, "did not find expected <document start>"⟩
      let r := r.skip
      let u ← r.peek
      match u.kind with
      | .version _ _ | .tagAlias _ _ | .documentStart | .documentEnd | .streamEnd =>
        pure (Reader.emptyNode u.start, r)
      | _ => r.node fuel true false
    | _ => ({ r with handles := Reader.commonHandles }).node fuel true false
  -- the end of the document is looked at too
  let _ ← r.peek
  return some ⟨root, r.nodes⟩

/-- **The first document of a text.** -/
def read (s : Bytes) : Except Error (Option Document) := do
  let cs ← characters (trimPrefix s (Utf8.encode 0xfeff))
  ofScan (.ofCharacters cs)

end Document

end Stencil.Yaml
