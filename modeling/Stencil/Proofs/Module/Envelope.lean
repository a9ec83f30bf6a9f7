import Stencil.Module
import Stencil.Proofs.Module.Msgpack

/-!
# Modules come back from their files

A module file leaves out what is so by default, at three levels: a module without sources or
components, a component without a route or parameters, a parameter that is no text. What is
left out has to be there again when the file is read, and it is, because every record is read
onto an empty one.

So the theorem about each kind of record says more than that it is read back: the members that
are written turn the *empty* record into the record, in front of any text. The theorem about
modules, `decode_encode`, follows for a file with anything behind it, and says of modules that
are refused why they are.
-/

namespace Stencil

open Msgpack

/-! ## What fits into a file -/

/-- **The texts of a parameter** fit into a file. -/
structure Param.Fits (p : Param) : Prop where
  /-- The name does. -/
  name : p.name.length < 2 ^ 32
  /-- The type does. -/
  type : p.type.length < 2 ^ 32

/-- **The texts and lists of a component** fit into a file. -/
structure Component.Fits (c : Component) : Prop where
  /-- The name does. -/
  name : c.name.length < 2 ^ 32
  /-- The route does. -/
  route : c.route.length < 2 ^ 32
  /-- There are not too many parameters. -/
  count : c.params.length < 2 ^ 32
  /-- Each of them does. -/
  params : ∀ p ∈ c.params, p.Fits

/-- **The texts of a source** fit into a file. -/
structure ModuleSource.Fits (x : ModuleSource) : Prop where
  /-- The name does. -/
  name : x.name.length < 2 ^ 32
  /-- The code does. -/
  code : x.code.length < 2 ^ 32

namespace Module

/-- **The texts and lists of a module** fit into a file. -/
structure Fits (m : Module) : Prop where
  /-- The name of the layout does. -/
  format : m.format.length < 2 ^ 32
  /-- The import path does. -/
  path : m.path.length < 2 ^ 32
  /-- The name does. -/
  name : m.name.length < 2 ^ 32
  /-- There are not too many imports. -/
  importCount : m.importList.length < 2 ^ 32
  /-- Each of them does. -/
  imports : ∀ i ∈ m.importList, i.length < 2 ^ 32
  /-- The export data do. -/
  exportData : m.exportData.length < 2 ^ 32
  /-- There are not too many sources. -/
  sourceCount : m.sources.length < 2 ^ 32
  /-- Each of them does. -/
  sources : ∀ x ∈ m.sources, x.Fits
  /-- There are not too many components. -/
  componentCount : m.components.length < 2 ^ 32
  /-- Each of them does. -/
  components : ∀ c ∈ m.components, c.Fits

/-! ## Members -/

section Members

variable {σ α : Type} {fs : Fields σ} {name value : Bytes} {v v' : σ}

/-- A member that may be left out, when what is left out is so anyway. -/
theorem writes_optionalMember {isDefault : Bool}
    (hwritten : isDefault = false → fs.Writes [(name, value)] v v')
    (hdefault : isDefault = true → v' = v) :
    fs.Writes (optionalMember isDefault name value) v v' := by
  cases isDefault with
  | false => exact hwritten rfl
  | true =>
    rw [hdefault rfl]
    exact .nil v

/-- A text is written onto whatever was said before. -/
theorem writes_text (set : σ → Bytes → σ) {t : Bytes} (hset : set v t = v')
    (hfind : fs.find? name = some (textField set)) (hname : name.length < 2 ^ 32)
    (ht : t.length < 2 ^ 32) : fs.Writes [member name (putText t)] v v' :=
  .singleton hfind hname fun r => by rw [textField, text_putText ht, Option.map_some, ← hset]

/-- A list of records is written onto a record that has none in its place, also when there are
none and it is left out. -/
theorem writes_records {gs : Fields α} {zero : α} (get : σ → Slots α)
    (set : σ → Slots α → σ) {β : Type} {put : β → Bytes} {f : β → α} {l : List β}
    (hempty : get v = {}) (hset : set v ⟨l.map f, []⟩ = v') (hdefault : set v {} = v)
    (hfind : fs.find? name = some (recordsField gs zero get set)) (hname : name.length < 2 ^ 32)
    (hcount : l.length < 2 ^ 32)
    (hread : ∀ b ∈ l, ∀ r, record gs zero zero (put b ++ r) = some (f b, r)) :
    fs.Writes (optionalMember l.isEmpty name (putArray (l.map put))) v v' := by
  refine writes_optionalMember (fun _ => .singleton hfind hname fun r => ?_) fun hnone => ?_
  · rw [recordsField, hempty, slots_putArray hread hcount, Option.map_some, ← hset]
  · rw [List.isEmpty_iff.1 hnone] at hset
    exact hset.symm.trans hdefault

/-- A member that may be left out is at most one. -/
theorem length_optionalMember_le (isDefault : Bool) (name value : Bytes) :
    (optionalMember isDefault name value).length ≤ 1 := by
  cases isDefault with
  | false => exact Nat.le_refl 1
  | true => exact Nat.zero_le 1

end Members

/-! ## Records -/

/-- **A parameter is read back.** -/
theorem record_encodeParam {p : Param} (h : p.Fits) (r : Bytes) :
    record paramFields { name := [], type := [] } { name := [], type := [] } (encodeParam p ++ r)
      = some (p, r) := by
  have hname : paramFields.Writes [member "name" (putText p.name)] ⟨[], [], false⟩
      ⟨p.name, [], false⟩ :=
    writes_text (fun p t => { p with name := t }) rfl rfl (by decide) h.name
  have htype : paramFields.Writes [member "type" (putText p.type)] ⟨p.name, [], false⟩
      ⟨p.name, p.type, false⟩ :=
    writes_text (fun p t => { p with type := t }) rfl rfl (by decide) h.type
  have htext : paramFields.Writes (optionalMember (!p.text) "text" putTrue)
      ⟨p.name, p.type, false⟩ p := by
    obtain ⟨name, type, text⟩ := p
    cases text with
    | false => exact writes_optionalMember nofun fun _ => rfl
    | true =>
      refine writes_optionalMember (fun _ => ?_) nofun
      exact .singleton rfl (by decide) fun r => by
        dsimp only
        rw [flag_putTrue, Option.map_some]
  have hcount := length_optionalMember_le (!p.text) "text" putTrue
  exact (hname.cons (htype.cons htext)).record (by simp only [List.length_cons]; omega) _ r

namespace ComponentDraft

/-- What has been read of a component when all of it has been read. -/
def of (c : Component) : ComponentDraft := ⟨c.name, c.route, ⟨c.params, []⟩⟩

end ComponentDraft

/-- **A component is read back.** -/
theorem record_encodeComponent {c : Component} (h : c.Fits) (r : Bytes) :
    record componentFields {} {} (encodeComponent c ++ r) = some (.of c, r) := by
  have hname : componentFields.Writes [member "name" (putText c.name)] {} { name := c.name } :=
    writes_text (fun c t => { c with name := t }) rfl rfl (by decide) h.name
  have hroute : componentFields.Writes
      (optionalMember c.route.isEmpty "route" (putText c.route))
      { name := c.name } { name := c.name, route := c.route } := by
    refine writes_optionalMember (fun _ => ?_) fun hempty => ?_
    · exact writes_text (fun c t => { c with route := t }) rfl rfl (by decide) h.route
    · rw [List.isEmpty_iff.1 hempty]
  have hparams : componentFields.Writes
      (optionalMember c.params.isEmpty "params" (putArray (c.params.map encodeParam)))
      { name := c.name, route := c.route } (.of c) := by
    refine writes_records (·.params) (fun c l => { c with params := l }) rfl ?_ rfl rfl
      (by decide) h.count fun p hp => record_encodeParam (h.params p hp)
    rw [List.map_id']
    rfl
  have hroutes := length_optionalMember_le c.route.isEmpty "route" (putText c.route)
  have hlists := length_optionalMember_le c.params.isEmpty "params"
    (putArray (c.params.map encodeParam))
  refine ((hname.cons hroute).append hparams).record ?_ _ r
  simp only [List.length_append, List.length_cons]
  omega

/-- **A source is read back.** -/
theorem record_encodeSource {x : ModuleSource} (h : x.Fits) (r : Bytes) :
    record sourceFields ⟨[], []⟩ ⟨[], []⟩ (encodeSource x ++ r) = some (x, r) := by
  have hname : sourceFields.Writes [member "name" (putText x.name)] ⟨[], []⟩ ⟨x.name, []⟩ :=
    writes_text (fun x t => { x with name := t }) rfl rfl (by decide) h.name
  have hcode : sourceFields.Writes [member "code" (putText x.code)] ⟨x.name, []⟩ x :=
    writes_text (fun x t => { x with code := t }) rfl rfl (by decide) h.code
  exact (hname.cons hcode).record (by simp only [List.length_cons, List.length_nil]; omega) _ r

/-- **The imports are read back**, and that nothing is said about them is, too. -/
theorem array?_encodeImports {l : Option (List Bytes)} (hcount : (l.getD []).length < 2 ^ 32)
    (h : ∀ i ∈ l.getD [], i.length < 2 ^ 32) (r : Bytes) :
    array? text (encodeImports l ++ r) = some (l, r) := by
  cases l with
  | none => exact array?_putNil text r
  | some l => exact array?_putArray (fun i hi => text_putText (h i hi)) hcount r

/-! ## Modules -/

/-- A text member of a module is written onto whatever was said before. -/
theorem writes_moduleText {fs : Fields Draft} {name t : Bytes} {d d' : Draft}
    (set : Module → Bytes → Module) (hset : { d with module := set d.module t } = d')
    (hfind : fs.find? name = some (moduleText set)) (hname : name.length < 2 ^ 32)
    (ht : t.length < 2 ^ 32) : fs.Writes [member name (putText t)] d d' :=
  writes_text (fun (d : Draft) t => { d with module := set d.module t }) hset hfind hname ht

/-- The file of a module whose export data are written as `data`. -/
def encodeWith (m : Module) (data : Bytes) : Bytes :=
  putMap (member "format" (putText m.format) :: member "path" (putText m.path)
    :: member "name" (putText m.name) :: member "imports" (encodeImports m.imports)
    :: member "export_data" data
    :: optionalMember m.sources.isEmpty "sources" (putArray (m.sources.map encodeSource))
    ++ optionalMember m.components.isEmpty "components"
      (putArray (m.components.map encodeComponent)))

/-- **The files of a module.** A module without export data has two: no bytes are an empty byte
string, or no value at all. -/
inductive IsFile (m : Module) : Bytes → Prop where
  /-- The export data are a byte string. -/
  | encoded : IsFile m m.encode
  /-- There are no export data. -/
  | noData (h : m.exportData = []) : IsFile m (m.encodeWith putNil)

/-- In any file of a module the export data are written in a form that is read back. -/
theorem IsFile.exists_data {m : Module} {file : Bytes} (h : m.IsFile file)
    (hfits : m.exportData.length < 2 ^ 32) :
    ∃ data, file = m.encodeWith data ∧ ∀ r, text (data ++ r) = some (m.exportData, r) := by
  cases h with
  | encoded => exact ⟨putBinary m.exportData, rfl, text_putBinary hfits⟩
  | noData hempty => exact ⟨putNil, rfl, fun r => by rw [hempty, text_putNil]⟩

namespace Draft

/-- What has been read of a module when all of it has been read. -/
def of (m : Module) : Draft where
  module := { m with sources := [], components := [] }
  sources := ⟨m.sources, []⟩
  components := ⟨m.components.map .of, []⟩

theorem result_of (m : Module) : (of m).result = m := by
  have hcomponents : (m.components.map .of).map ComponentDraft.component = m.components := by
    rw [List.map_map]
    exact List.map_id m.components
  show ({ m with components := (m.components.map .of).map ComponentDraft.component } : Module) = m
  rw [hcomponents]

end Draft

/-- What a module is called and where it lives is written first. -/
theorem writes_naming {m : Module} (h : m.Fits) :
    moduleFields.Writes [member "format" (putText m.format), member "path" (putText m.path),
        member "name" (putText m.name)] {}
      { module := ⟨m.format, m.path, m.name, none, [], [], []⟩ } := by
  have hformat : moduleFields.Writes [member "format" (putText m.format)] {}
      { module := ⟨m.format, [], [], none, [], [], []⟩ } :=
    writes_moduleText (fun m t => { m with format := t }) rfl rfl (by decide) h.format
  have hpath : moduleFields.Writes [member "path" (putText m.path)]
      { module := ⟨m.format, [], [], none, [], [], []⟩ }
      { module := ⟨m.format, m.path, [], none, [], [], []⟩ } :=
    writes_moduleText (fun m t => { m with path := t }) rfl rfl (by decide) h.path
  have hname : moduleFields.Writes [member "name" (putText m.name)]
      { module := ⟨m.format, m.path, [], none, [], [], []⟩ }
      { module := ⟨m.format, m.path, m.name, none, [], [], []⟩ } :=
    writes_moduleText (fun m t => { m with name := t }) rfl rfl (by decide) h.name
  exact hformat.cons (hpath.cons hname)

/-- **A module is read back**, and what follows it in the file is left. -/
theorem record_encodeWith {m : Module} (h : m.Fits) {data : Bytes}
    (hdata : ∀ r, text (data ++ r) = some (m.exportData, r)) (r : Bytes) :
    record moduleFields {} {} (m.encodeWith data ++ r) = some (.of m, r) := by
  have himports : moduleFields.Writes [member "imports" (encodeImports m.imports)]
      { module := ⟨m.format, m.path, m.name, none, [], [], []⟩ }
      { module := ⟨m.format, m.path, m.name, m.imports, [], [], []⟩ } :=
    .singleton rfl (by decide) fun r => by
      show (array? text (encodeImports m.imports ++ r)).map _ = _
      rw [array?_encodeImports h.importCount h.imports, Option.map_some]
      -- a nil value leaves what was said of the imports before, which is nothing
      dsimp only
      rw [Option.or_none]
  have hexport : moduleFields.Writes [member "export_data" data]
      { module := ⟨m.format, m.path, m.name, m.imports, [], [], []⟩ }
      { module := ⟨m.format, m.path, m.name, m.imports, m.exportData, [], []⟩ } :=
    .singleton rfl (by decide) fun r => by
      show (text (data ++ r)).map _ = _
      rw [hdata]
      rfl
  have hsources : moduleFields.Writes
      (optionalMember m.sources.isEmpty "sources" (putArray (m.sources.map encodeSource)))
      { module := ⟨m.format, m.path, m.name, m.imports, m.exportData, [], []⟩ }
      { module := ⟨m.format, m.path, m.name, m.imports, m.exportData, [], []⟩,
        sources := ⟨m.sources, []⟩ } := by
    refine writes_records (·.sources) (fun d l => { d with sources := l }) rfl ?_ rfl rfl
      (by decide) h.sourceCount fun x hx => record_encodeSource (h.sources x hx)
    rw [List.map_id']
  have hcomponents : moduleFields.Writes
      (optionalMember m.components.isEmpty "components"
        (putArray (m.components.map encodeComponent)))
      { module := ⟨m.format, m.path, m.name, m.imports, m.exportData, [], []⟩,
        sources := ⟨m.sources, []⟩ } (.of m) :=
    writes_records (·.components) (fun d l => { d with components := l }) rfl rfl rfl rfl
      (by decide) h.componentCount fun c hc => record_encodeComponent (h.components c hc)
  have hwritten := ((writes_naming h).append (himports.cons (hexport.cons hsources))).append
    hcomponents
  have hsourceLists := length_optionalMember_le m.sources.isEmpty "sources"
    (putArray (m.sources.map encodeSource))
  have hcomponentLists := length_optionalMember_le m.components.isEmpty "components"
    (putArray (m.components.map encodeComponent))
  refine hwritten.record ?_ _ r
  simp only [List.length_append, List.length_cons, List.length_nil]
  omega

/-- **Module files come back.** From a file of a module with anything behind it, exactly the
module is read if its layout is the current one and it says where it lives; else it is refused,
for the reason that holds. -/
theorem decode_encode {m : Module} (h : m.Fits) {file : Bytes} (hfile : m.IsFile file)
    (s : Bytes) :
    (m.format = currentFormat → m.path ≠ [] → decode (file ++ s) = .ok m) ∧
    (m.format ≠ currentFormat → decode (file ++ s) = .error (.badFormat m.format)) ∧
    (m.format = currentFormat → m.path = [] → decode (file ++ s) = .error .noPath) := by
  obtain ⟨data, rfl, hdata⟩ := hfile.exists_data h.exportData
  have hdecode : decode (m.encodeWith data ++ s)
      = if m.format ≠ currentFormat then .error (.badFormat m.format)
        else if m.path.isEmpty then .error .noPath
        else .ok m := by
    rw [decode, record_encodeWith h hdata]
    dsimp only
    rw [Draft.result_of]
  refine ⟨fun hformat hpath => ?_, fun hformat => ?_, fun hformat hpath => ?_⟩
  · rw [hdecode, if_neg (not_not_intro hformat), if_neg (by rwa [List.isEmpty_iff])]
  · rw [hdecode, if_pos hformat]
  · rw [hdecode, if_neg (not_not_intro hformat), if_pos (by rwa [List.isEmpty_iff])]

/-- A module with a routed component, nothing said about its imports, and no export data. -/
def onePage : Module :=
  ⟨currentFormat, "app", "app", none, [], [], [⟨"Home", "/", [⟨"Title", "string", true⟩]⟩]⟩

theorem fits_onePage : onePage.Fits where
  format := by decide
  path := by decide
  name := by decide
  importCount := by decide
  imports := by decide
  exportData := by decide
  sourceCount := by decide
  sources := nofun
  componentCount := by decide
  components := by
    intro c hc
    rw [List.mem_singleton.1 hc]
    refine ⟨by decide, by decide, by decide, fun p hp => ?_⟩
    rw [List.mem_singleton.1 hp]
    exact ⟨by decide, by decide⟩

theorem decode_encode_onePage :
    onePage.Fits ∧ onePage.IsFile onePage.encode ∧ onePage.format = currentFormat ∧
      onePage.path ≠ [] ∧ decode (onePage.encode ++ [0xc1]) = .ok onePage :=
  ⟨fits_onePage, .encoded, rfl, nofun,
    (decode_encode fits_onePage .encoded [0xc1]).1 rfl nofun⟩

end Module

end Stencil
