import Stencil.Text.Quoted
import Stencil.Text.Yaml.Resolve

/-!
# Reading YAML

A document of YAML becomes a setting: maps and lists stay what they are, and scalars become
what they mean. References to named nodes are replaced by these. A map can take in the entries
of others under the key `<<`; its own entries win, and of several maps the first.

The same key must not stand twice in a map. Complaints of this kind are collected, and reading
goes on; all others end it.
-/

namespace Stencil.Yaml

open Bytes

/-- How far reading has come. -/
structure Progress where
  /-- How many nodes have been read. -/
  nodes : Nat := 0
  /-- How many of them inside references. -/
  repeated : Nat := 0
  /-- The complaints so far, in reverse. -/
  complaints : List Bytes := []

/-- Reading of values. -/
abbrev Decode := StateT Progress (Except Error)

namespace Decode

/-- Whether a document consists of references for the most part, which is a way to make it
very long. The longer it is, the less it may. -/
def isExcessive (p : Progress) : Bool :=
  let low := 400000
  let high := 4000000
  let limit := if p.nodes ≤ low then 99 * (high - low)
    else if high ≤ p.nodes then 10 * (high - low)
    else 99 * (high - low) - 89 * (p.nodes - low)
  100 < p.repeated && 1000 < p.nodes && limit * p.nodes < p.repeated * 100 * (high - low)

/-- Counts a node. -/
def count (isRepeated : Bool) : Decode Unit := do
  modify fun p => { p with
    nodes := p.nodes + 1, repeated := if isRepeated then p.repeated + 1 else p.repeated }
  if isExcessive (← get) then throw ⟨0, "document contains excessive aliasing"⟩

/-- Notes a complaint. -/
def complain (line : Nat) (message : Bytes) : Decode Unit :=
  modify fun p => { p with
    complaints := ("line " ++ Bytes.ofNat line ++ ": " ++ message) :: p.complaints }

end Decode

/-! ## Keys -/

/-- What of a key has to differ from that of other keys: its kind and its text. A reference has
its name for a text. -/
def Node.keyText : Node → Nat × Bytes × Nat
  | .scalar line _ _ text => (0, text, line)
  | .list line _ _ => (1, [], line)
  | .map line _ _ => (2, [], line)
  | .alias line name _ => (3, name, line)

/-- The complaints about keys that stand twice, each key against those behind it. -/
def repeatedKeys : List (Node × Node) → List (Nat × Bytes)
  | [] => []
  | (k, _) :: es =>
    let (kind, text, line) := k.keyText
    (es.filterMap fun (other, _) =>
      let (kind', text', line') := other.keyText
      if kind = kind' && text = text' then
        some (line', "mapping key " ++ Quoted.quote text ++ " already defined at line "
          ++ Bytes.ofNat line)
      else none) ++ repeatedKeys es

/-- Whether a key takes in the entries of other maps. -/
def Node.isMerge : Node → Bool
  | .scalar _ tag style text => text = "<<" && scalarTag tag style text = "!!merge"
  | _ => false

/-- The tag of a node, that of the named one for a reference. -/
def Node.tagIn (nodes : List (Nat × Node)) : Nat → Node → Bytes
  | _, .scalar _ tag style text => scalarTag tag style text
  | _, .list _ tag _ => if tag.isEmpty || tag = "!" then "!!seq" else shortTag tag
  | _, .map _ tag _ => if tag.isEmpty || tag = "!" then "!!map" else shortTag tag
  | 0, .alias _ _ _ => []
  | fuel + 1, .alias _ _ i => ((nodes.lookup i).map (tagIn nodes fuel)).getD []

/-- Whether all keys of a map are texts. -/
def hasTextKeys (nodes : List (Nat × Node)) (entries : List (Node × Node)) : Bool :=
  entries.all fun (k, _) =>
    let tag := k.tagIn nodes (nodes.length + 1)
    tag = "!!str" || tag = "!!merge"

/-- The text of a key that may be any scalar. -/
def keyOf : Setting → Bytes
  | .null => []
  | v => v.shown

/-- What is said about a node that cannot be what it should be. -/
def wrongKind (tag text into : Bytes) : Bytes :=
  let value : Bytes :=
    if tag = "!!seq" || tag = "!!map" then []
    else [ch ' ', grave] ++ (if 10 < text.length then text.take 7 ++ "..." else text) ++ [grave]
  "cannot unmarshal " ++ tag ++ value ++ " into " ++ into

mutual

/-- A value with its type, as a complaint about a key shows it. -/
def withType : Setting → Bytes
  | .null => "interface \x7b\x7d(nil)"
  | .text s => Quoted.quote s
  | .list l => "[]interface \x7b\x7d\x7b" ++ join ", " (itemsWithType l) ++ "\x7d"
  | .map ms => "map[string]interface \x7b\x7d\x7b" ++ join ", " (membersWithType ms) ++ "\x7d"
  | v => v.shown

/-- Items with their types. -/
def itemsWithType : List Setting → List Bytes
  | [] => []
  | v :: vs => withType v :: itemsWithType vs

/-- Members with their types. -/
def membersWithType : List (Bytes × Setting) → List Bytes
  | [] => []
  | (k, v) :: ms => (Quoted.quote k ++ ":" ++ withType v) :: membersWithType ms

end

/-! ## Values -/

/-- The entries of a map that have been read, and the keys that count as given when others are
taken in. -/
structure Entries where
  /-- The entries. -/
  members : List (Bytes × Setting) := []
  /-- The keys that are given, if entries are being taken in. -/
  given : Option (List Bytes) := none

/-- What is read along with every value: the named nodes, and those inside which it stands. -/
structure Scope where
  /-- The named nodes by number. -/
  nodes : List (Nat × Node)
  /-- The numbers of the references that are being read. -/
  active : List Nat := []

/-- The node of a reference, and the scope inside it. -/
def Scope.enter (s : Scope) (name : Bytes) (i : Nat) : Except Error (Node × Scope) :=
  match s.nodes.lookup i with
  | some n =>
    if s.active.contains i then .error ⟨0, "anchor '" ++ name ++ "' value contains itself"⟩
    else .ok (n, { s with active := i :: s.active })
  | none => .error ⟨0, "anchor '" ++ name ++ "' value contains itself"⟩

/-- What is said when something other than maps is taken in. -/
def wantsMap : Error := ⟨0, "map merge requires map or sequence of maps as the value"⟩

mutual

/-- **The value of a node**, unless there is a complaint about it. -/
def decode : Nat → Scope → Node → Decode (Option Setting)
  | 0, _, _ => throw Reader.tooDeep
  | fuel + 1, scope, n => do
    Decode.count !scope.active.isEmpty
    match n with
    | .scalar _ tag style text =>
      some <$> (scalarValue (scalarTag tag style text) text : Except Error _)
    | .alias _ name i =>
      let (target, inner) ← (scope.enter name i : Except Error _)
      decode fuel inner target
    | .list _ _ items => do
      let vs ← decodeItems fuel scope items
      return some (.list vs)
    | .map _ _ entries => do
      let es ← decodeMap fuel scope (hasTextKeys scope.nodes entries) entries {}
      return es.map fun es => .map es.members

/-- The values of the items of a list. -/
def decodeItems : Nat → Scope → List Node → Decode (List Setting)
  | 0, _, _ => throw Reader.tooDeep
  | _, _, [] => return []
  | fuel + 1, scope, n :: ns => do
    let v ← decode fuel scope n
    let vs ← decodeItems fuel scope ns
    return v.toList ++ vs

/-- The entries of a map, added to others; nothing if a key stands twice. -/
def decodeMap : Nat → Scope → Bool → List (Node × Node) → Entries → Decode (Option Entries)
  | 0, _, _, _, _ => throw Reader.tooDeep
  | fuel + 1, scope, textKeys, entries, es => do
    let twice := repeatedKeys entries
    if !twice.isEmpty then
      for (line, message) in twice do Decode.complain line message
      return none
    let es ← decodeEntries fuel scope textKeys (entries.filter fun e => !e.1.isMerge) es
    match (entries.filter fun e => e.1.isMerge).getLast? with
    | none => return some es
    | some (_, source) =>
      let given ← match es.given with
        | some g => pure g
        | none => do
          let keys ← decodeItems fuel scope (entries.map (·.1))
          pure (keys.map keyOf)
      let merged ← merge fuel scope textKeys source { es with given := some given }
      return some { merged with given := es.given.bind fun _ => merged.given }

/-- The entries of a map one by one. -/
def decodeEntries : Nat → Scope → Bool → List (Node × Node) → Entries → Decode Entries
  | 0, _, _, _, _ => throw Reader.tooDeep
  | _, _, _, [], es => return es
  | fuel + 1, scope, textKeys, (k, v) :: rest, es => do
    match ← decodeKey fuel scope textKeys k with
    | none => decodeEntries fuel scope textKeys rest es
    | some key =>
      if (es.given.map fun g => g.contains key).getD false then
        decodeEntries fuel scope textKeys rest es
      else
        let es := { es with given := es.given.map fun g => key :: g }
        let value ← decode fuel scope v
        let es := match value with
          | some value => { es with members := Setting.setMember es.members key value }
          | none => es
        decodeEntries fuel scope textKeys rest es

/-- The text of a key, unless it is none. Where keys must be texts every scalar is its own
text. -/
def decodeKey : Nat → Scope → Bool → Node → Decode (Option Bytes)
  | 0, _, _, _ => throw Reader.tooDeep
  | fuel + 1, scope, textKeys, k => do
    if !textKeys then
      match ← decode fuel scope k with
      | some v@(.list _) | some v@(.map _) => throw ⟨0, "invalid map key: " ++ withType v⟩
      | some v => return some (keyOf v)
      | none => return none
    Decode.count !scope.active.isEmpty
    match k with
    | .alias _ name i =>
      let (target, inner) ← (scope.enter name i : Except Error _)
      decodeKey fuel inner textKeys target
    | .scalar _ tag style text => do
      let short := scalarTag tag style text
      match ← (scalarValue short text : Except Error _) with
      | .null => return none
      | .text s => return some s
      | _ => return some text
    | .list line tag _ =>
      Decode.complain line (wrongKind (if tag.isEmpty then "!!seq" else shortTag tag) [] "string")
      return none
    | .map line tag entries =>
      let twice := repeatedKeys entries
      if twice.isEmpty then
        Decode.complain line (wrongKind (if tag.isEmpty then "!!map" else shortTag tag) [] "string")
      else
        for (line, message) in twice do Decode.complain line message
      return none

/-- The entries of other maps taken in: one, a named one, or a list of such. -/
def merge : Nat → Scope → Bool → Node → Entries → Decode Entries
  | 0, _, _, _, _ => throw Reader.tooDeep
  | fuel + 1, scope, textKeys, source, es => do
    match source with
    | .list _ _ items => mergeAll fuel scope textKeys items es
    | n => mergeOne fuel scope textKeys n es

/-- The entries of a list of maps taken in. -/
def mergeAll : Nat → Scope → Bool → List Node → Entries → Decode Entries
  | 0, _, _, _, _ => throw Reader.tooDeep
  | _, _, _, [], es => return es
  | fuel + 1, scope, textKeys, n :: ns, es => do
    let es ← mergeOne fuel scope textKeys n es
    mergeAll fuel scope textKeys ns es

/-- The entries of a map taken in, which may be a named one. -/
def mergeOne : Nat → Scope → Bool → Node → Entries → Decode Entries
  | 0, _, _, _, _ => throw Reader.tooDeep
  | fuel + 1, scope, textKeys, n, es => do
    match n with
    | .map _ _ entries =>
      Decode.count !scope.active.isEmpty
      return (← decodeMap fuel scope textKeys entries es).getD es
    | .alias _ name i =>
      match scope.nodes.lookup i with
      | some (.map _ _ entries) =>
        Decode.count !scope.active.isEmpty
        let (_, inner) ← (scope.enter name i : Except Error _)
        Decode.count true
        return (← decodeMap fuel inner textKeys entries es).getD es
      | some _ => throw wantsMap
      | none => throw ⟨0, "anchor '" ++ name ++ "' value contains itself"⟩
    | _ => throw wantsMap

end

/-! ## Documents -/

/-- How deep the reading of a document can go: through all of its text, and again inside each
reference. -/
def Document.fuel (length : Nat) (d : Document) : Nat := (3 * length + 20) * (d.nodes.length + 2)

/-- The entries of a document that should be a map with texts for keys; a document that is
nothing has none. -/
def Document.settings (length : Nat) (d : Document) : Decode (List (Bytes × Setting)) := do
  let scope : Scope := { nodes := d.nodes }
  let into : Bytes := "map[string]interface \x7b\x7d"
  Decode.count false
  Decode.count false
  match d.root with
  | .map _ _ entries =>
    return ((← decodeMap (d.fuel length) scope true entries {}).map Entries.members).getD []
  | .scalar line tag style text =>
    let short := scalarTag tag style text
    match ← (scalarValue short text : Except Error _) with
    | .null => return []
    | _ => Decode.complain line (wrongKind short text into); return []
  | .list line tag _ =>
    let short : Bytes := if tag.isEmpty || tag = "!" then "!!seq" else shortTag tag
    Decode.complain line (wrongKind short [] into)
    return []
  | .alias _ _ _ => return []

/-- **The settings of a configuration file**, which is a map or nothing. -/
def readSettings (s : Bytes) : Except Error Setting := do
  match ← Document.read s with
  | none => return .map []
  | some d =>
    let (members, progress) ← (d.settings s.length).run {}
    if progress.complaints.isEmpty then return (Setting.map members).lowerNames
    else throw ⟨0, "unmarshal errors:\n  " ++ join "\n  " progress.complaints.reverse⟩

end Stencil.Yaml
