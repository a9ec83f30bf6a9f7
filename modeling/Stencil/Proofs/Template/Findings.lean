import Mathlib.Data.List.TakeWhile
import Stencil.Proofs.Template.Injection

/-!
# What was found stays found

The reader never takes back a complaint: each handler adds to the findings and leaves those
before as they are. So a fault right at the start of a source is among what is wrong with
it, whatever comes behind, and in particular a unit that is served under no route at all
does not go unnoticed (`Document.noRoute_mem_read`).

What the handlers add is about the source. A reader has no other units to look at, so it
cannot say that an include leads nowhere or in a circle, or that there is no such component;
such complaints come from elsewhere (`Document.ofSource_of_mem_read`).
-/

namespace Stencil

open Bytes

namespace Reader

/-- At the end of the source the walk is over. -/
theorem run_of_rest_eq_nil {r : Reader} (h : r.cursor.rest = []) : r.run = r := by
  rw [run]
  exact dif_pos h

/-- Before the end the walk goes on with a step. -/
theorem run_of_rest_ne_nil {r : Reader} (h : r.cursor.rest ≠ []) : r.run = r.step.run := by
  rw [run]
  exact dif_neg h

end Reader

/-- A source that is one directive, of a page, an import or a parameter, and nothing else. -/
theorem Document.read_directive {src : Bytes} (word : DirectiveWord) (text : Bytes)
    {before : UInt8} {d : Document} (hsrc : src ≠ [])
    (hstep : (Reader.start src).step
      = ((Reader.start src).moveTo ⟨text, 1, before⟩).directive word 1)
    (hline : newline ∉ text) (hword : word ≠ .code)
    (hadd : (match word with
      | .page => ({} : Document).addPage 1 (trim text)
      | .import_ => ({} : Document).addImport 1 (trim text)
      | _ => ({} : Document).addParam 1 (trim text)) = .ok d) :
    Document.read src = ({ d with body := [] }, []) := by
  have htext : text.takeWhile (· ≠ newline) = text :=
    List.takeWhile_eq_self_iff.2 fun b hb => decide_eq_true fun h => hline (h ▸ hb)
  have hstep : (Reader.start src).step = { (Reader.start src).moveTo
      (Cursor.advance (text.length + 1) ⟨text, 1, before⟩) with document := d } := by
    rw [hstep]
    cases word with
    | code => exact absurd rfl hword
    | page | import_ | param =>
      unfold Reader.directive Cursor.restOfLine
      dsimp only [Reader.moveTo]
      rw [htext]
      dsimp only at hadd ⊢
      simp only [Reader.start, hadd]
  have hend : (Cursor.advance (text.length + 1) ⟨text, 1, before⟩).rest = [] :=
    List.drop_of_length_le (Nat.le_succ _)
  rw [Document.read, Reader.run_of_rest_ne_nil hsrc, hstep, Reader.run_of_rest_eq_nil hend,
    Reader.leaveAll_nil rfl]
  rfl

/-! ## Faults of a source -/

/-- Whether a source can have the fault by itself, whatever else is in its batch. -/
def Fault.ofSource : Fault → Bool
  | .emptyBatch | .duplicateUnit _ | .typeCollision .. | .unimportedComponent ..
  | .unknownComponent _ | .unknownParam .. | .noChildContent _ | .includeNotFound _
  | .includesItself _ | .includeCycle _ => false
  | _ => true

namespace Fragment

/-- If the scan failed, then for a fault of the source. -/
def Scan.OfSource (s : Scan) : Prop := ∀ e ∈ s.fault, e.2.ofSource = true

theorem Scan.ofSource_none (n : Nat) : Scan.OfSource ⟨n, none⟩ := nofun

/-- A scan that fails does so with the fault that it names. -/
theorem Scan.ofSource_some {n : Nat} {place : Place} {fault : Fault}
    (h : fault.ofSource = true) : Scan.OfSource ⟨n, some (place, fault)⟩ := by
  intro e he
  obtain rfl := Option.some.inj he
  exact h

/-- A scan that begins further on has the faults that it had. -/
theorem Scan.OfSource.after {s : Scan} (h : s.OfSource) (n : Nat) : (s.after n).OfSource := by
  intro e he
  obtain ⟨e', he', rfl⟩ := Option.map_eq_some_iff.1 he
  exact h e' he'

/-- **A bracketed group fails for what stands in it**: a bracket that does not fit or is missing, or
a literal or comment that does not end. By induction along the scan. -/
theorem groupTail_ofSource (what : Construct) (closer : UInt8) (outer : List UInt8) (s : Bytes) :
    (groupTail what closer outer s).OfSource := by
  fun_induction groupTail what closer outer s with
  | case1 | case3 | case5 => exact Scan.ofSource_some rfl
  | case8 => exact Scan.ofSource_none _
  | case2 | case4 | case6 | case7 | case9 | case10 => exact Scan.OfSource.after ‹_› _

theorem group_ofSource (what : Construct) (s : Bytes) : (group what s).OfSource := by
  cases s with
  | nil => exact Scan.ofSource_some rfl
  | cons c r =>
    intro e he
    obtain ⟨e', he', rfl⟩ := Option.map_eq_some_iff.1 he
    exact groupTail_ofSource what _ _ r e' he'

/-- So does the code of a header, which ends at a brace, -/
theorem header_ofSource (what : Construct) (s : Bytes) : (header what s).OfSource := by
  fun_induction header what s with
  | case1 | case4 | case7 => exact Scan.ofSource_some rfl
  | case2 => exact Scan.ofSource_none _
  | case6 => exact group_ofSource _ _
  | case3 | case5 | case8 => exact Scan.OfSource.after ‹_› _

/-- and so does a name with its selectors, by the groups in it. -/
theorem chainTail_ofSource (s : Bytes) : (chainTail s).OfSource := by
  fun_induction chainTail s with
  | case1 | case5 => exact Scan.ofSource_none _
  | case4 => exact group_ofSource _ _
  | case2 | case3 => exact Scan.OfSource.after ‹_› _

theorem chain_ofSource (s : Bytes) : (chain s).OfSource := (chainTail_ofSource _).after _

end Fragment

/-- The value of an attribute is wrong by itself, too. -/
theorem attrValue_ofSource (name s : Bytes) :
    ∀ e ∈ (attrValue name s).fault, e.2.ofSource = true := by
  have hscan : ∀ {scan : Fragment.Scan}, scan.OfSource → ∀ {e : Fragment.Place × Fault},
      scan.fault = some e → e.2.ofSource = true := fun h _ he => h _ he
  have hnone : ∀ {found : Option (Nat × Fault)}, found = none →
      ∀ e ∈ found, e.2.ofSource = true := by
    rintro _ rfl e he
    exact absurd he (Option.not_mem_none e)
  unfold attrValue
  split
  · exact hnone rfl
  · dsimp only
    split_ifs
    · exact hnone rfl
    · exact fun e he => Option.some.inj he ▸ rfl
    · split
      · exact hnone rfl
      · next hfault =>
        exact fun e he => Option.some.inj he ▸ hscan (Fragment.group_ofSource _ _) hfault
    · split
      · exact hnone rfl
      · next hfault =>
        exact fun e he => Option.some.inj he ▸ hscan (Fragment.chain_ofSource _) hfault
    · exact fun e he => Option.some.inj he ▸ rfl
    · exact hnone rfl

/-- What is wrong in a tag is wrong with the source. -/
theorem tagRest_ofSource (tag : Bytes) (c : Cursor) :
    ∀ f ∈ (tagRest tag c).findings, f.fault.ofSource = true := by
  fun_induction tagRest tag c with
  | case1 | case2 | case3 => exact List.forall_mem_nil _
  | case4 c c₁ b r _ _ _ _ _ more ih => exact List.forall_mem_cons.2 ⟨rfl, ih⟩
  | case5 c c₁ b r _ _ _ name _ c₂ _ v found attr more ih =>
    refine List.forall_mem_append.2 ⟨fun f hf => ?_, ih⟩
    cases hv : v.fault with
    | none =>
      simp only [found, hv] at hf
      exact absurd hf List.not_mem_nil
    | some e =>
      simp only [found, hv] at hf
      rw [List.mem_singleton.1 hf]
      exact attrValue_ofSource name _ e hv
  | case6 c c₁ b r _ _ _ name _ c₂ _ more ih => exact ih

namespace Document

variable {d : Document} {line : Nat} {rest : Bytes} {fault : Fault}

/-- What is wrong with a route can be seen from the document that it is added to. -/
theorem addPage_ofSource (h : d.addPage line rest = .error fault) : fault.ofSource = true := by
  unfold addPage at h
  split at h
  · split at h <;> cases h
    rfl
  · cases h
    rfl

/-- The same goes for an import: it may have no path, or one that is no literal, or a bad name. -/
theorem addImport_ofSource (h : d.addImport line rest = .error fault) :
    fault.ofSource = true := by
  unfold addImport at h
  dsimp only at h
  split at h
  · split at h
    · split at h <;> cases h
      rfl
    · cases h
      rfl
  · split at h
    · split at h <;> cases h
      rfl
    · cases h
      rfl
  · cases h
    rfl

/-- And for a parameter, whose name may be taken by an earlier one of the same source. -/
theorem addParam_ofSource (h : d.addParam line rest = .error fault) : fault.ofSource = true := by
  unfold addParam at h
  dsimp only at h
  split_ifs at h
  · cases h
    rfl
  · cases h
    rfl
  · split at h <;> cases h
    rfl

end Document

/-! ## Small moves -/

/-- **What was found since**: the old findings are there still, and what was added is about
the source. -/
structure Reader.Found (old : List Finding) (r : Reader) : Prop where
  kept : ∀ f ∈ old, f ∈ r.findings
  added : ∀ f ∈ r.findings, f ∈ old ∨ f.fault.ofSource = true

namespace Reader.Found

variable {old : List Finding} {r : Reader}

/-- A reader that has done nothing has found nothing new. -/
theorem refl (r : Reader) : r.Found r.findings := ⟨fun _ hf => hf, fun _ hf => .inl hf⟩

/-- **A report is added** to what was found, and has to be about the source. -/
theorem report (h : r.Found old) (line : Nat) {fault : Fault} (hf : fault.ofSource = true) :
    (r.report line fault).Found old :=
  ⟨fun f hold => List.mem_cons_of_mem _ (h.kept f hold),
    List.forall_mem_cons.2 ⟨.inr hf, h.added⟩⟩

theorem moveTo (h : r.Found old) (c : Cursor) : (r.moveTo c).Found old := ⟨h.kept, h.added⟩

/-- What is done to the content of the open construct finds nothing. -/
theorem mapContent (h : r.Found old) (g : Content → Content) : (r.mapContent g).Found old := by
  unfold Reader.mapContent
  split <;> exact ⟨h.kept, h.added⟩

theorem addNode (h : r.Found old) (n : Node) : (r.addNode n).Found old := h.mapContent _

theorem addText (h : r.Found old) (s : Bytes) : (r.addText s).Found old := h.mapContent _

theorem enter (h : r.Found old) (opener : Opener) (inBlock foreign : Bool) :
    (r.enter opener inBlock foreign).Found old := by
  have hflush := h.mapContent Content.flush
  exact ⟨hflush.kept, hflush.added⟩

theorem leave (h : r.Found old) (outer : List Level) (n : Node) : (r.leave outer n).Found old :=
  addNode (r := { r with levels := outer }) ⟨h.kept, h.added⟩ n

/-- Code that does not end adds the fault of its scan. -/
theorem failedScan (h : r.Found old) (line skipped : Nat) {scan : Fragment.Scan}
    (hscan : scan.OfSource) : (r.failedScan line skipped scan).Found old := by
  unfold Reader.failedScan
  dsimp only
  split
  · exact h.moveTo _
  · next hfault => exact (h.moveTo _).report _ (hscan _ hfault)
  · next hfault => exact (h.moveTo _).report _ (hscan _ hfault)

/-! ## The handlers -/

/-- A construct that is left open adds that it is. -/
theorem leaveUnfinished (h : r.Found old) (l : Level) (outer : List Level) :
    (r.leaveUnfinished l outer).Found old := by
  unfold Reader.leaveUnfinished Reader.unfinished
  cases l.opener <;> exact (h.report _ rfl).leave _ _

/-- An opening tag adds what is wrong with its attributes, and perhaps that nobody knows its name.
-/
theorem openTag (h : r.Found old) : r.openTag.Found old := by
  unfold Reader.openTag
  dsimp only
  generalize (r.cursor.rest.drop 1).takeWhile ElementName.isTagByte = tag
  have hrest := tagRest_ofSource tag (r.cursor.advance (1 + tag.length))
  generalize tagRest tag (r.cursor.advance (1 + tag.length)) = rest at hrest
  have hw : Reader.Found old
      (if (!ElementName.isComponent tag && !r.foreign && !ElementName.isKnown tag) = true
        then r.report r.cursor.line (.unknownElement tag) else r) := by
    split
    · exact h.report _ rfl
    · exact h
  generalize (if (!ElementName.isComponent tag && !r.foreign && !ElementName.isKnown tag) = true
    then r.report r.cursor.line (.unknownElement tag) else r) = w at hw
  have hr : Reader.Found old
      { w with findings := rest.findings.reverse ++ w.findings, cursor := rest.cursor } :=
    ⟨fun f hf => List.mem_append_right _ (hw.kept f hf), List.forall_mem_append.2
      ⟨fun f hf => .inr (hrest f (List.mem_reverse.1 hf)), hw.added⟩⟩
  split
  · exact (hr.report _ rfl).addNode _
  · exact hr.addNode _
  · split
    · exact hr.addNode _
    · exact hr.enter _ _ _

theorem strayClose (h : r.Found old) : r.strayClose.Found old :=
  ((h.moveTo _).mapContent _).report _ rfl

/-- A closing tag adds the elements inside that are left open, or that there is nothing to close. -/
theorem closingTag (h : r.Found old) : r.closingTag.Found old := by
  unfold Reader.closingTag
  split
  · exact h.strayClose
  · split
    · dsimp only
      split
      · exact ((h.moveTo _).report _ rfl).leave _ _
      · exact (h.moveTo _).leave _ _
    · exact h.strayClose

/-- A branch without a condition is reported, and so is a condition that does not end. -/
theorem enterBranch (h : r.Found old) (done : List Branch) (what : Construct) (line : Nat)
    {failed : Reader → Reader} (hfailed : ∀ q : Reader, q.Found old → (failed q).Found old) :
    (r.enterBranch done what line failed).Found old := by
  unfold Reader.enterBranch
  dsimp only
  split
  · exact hfailed _ (h.failedScan _ _ (Fragment.header_ofSource _ _))
  · split
    · exact ((h.report _ rfl).moveTo _).enter _ _ _
    · exact (h.moveTo _).enter _ _ _

/-- **Behind a branch** there may be another one, whose condition may not end, or an `else` without
a brace. -/
theorem afterBranch (h : r.Found old) (branches : List Branch) (endLine : Nat) :
    (r.afterBranch branches endLine).Found old := by
  unfold Reader.afterBranch
  dsimp only
  split
  · exact h.addNode _
  · split
    · exact (h.moveTo _).enterBranch _ _ _ fun q hq => hq.addNode _
    · split
      · exact (h.moveTo _).enter _ _ _
      · exact ((h.moveTo _).report _ rfl).addNode _

/-- A closing brace adds what is wrong behind a branch and nothing else. -/
theorem closeBrace (h : r.Found old) : r.closeBrace.Found old := by
  unfold Reader.closeBrace
  dsimp only
  split
  · exact h.moveTo _
  · next l outer hr =>
    split
    · exact h.leaveUnfinished _ _
    · exact (h.moveTo _).leave _ _
    · exact (h.moveTo _).leave _ _
    · have hr : Reader.Found old { r.moveTo (r.cursor.advance 1) with levels := outer } :=
        ⟨h.kept, h.added⟩
      exact hr.afterBranch _ _

/-- A loop adds at most that its clause does not end. -/
theorem openLoop (h : r.Found old) (line : Nat) : (r.openLoop line).Found old := by
  unfold Reader.openLoop
  dsimp only
  split
  · exact (h.failedScan _ _ (Fragment.header_ofSource _ _)).addNode _
  · exact (h.moveTo _).enter _ _ _

/-- **An include adds only what is wrong with its literal.** Whether there is such a unit is not
asked here. -/
theorem splice (h : r.Found old) (line : Nat) : (r.splice line).Found old := by
  unfold Reader.splice
  dsimp only
  generalize quotedAt (r.cursor.skipWhile isBlank).rest = q
  obtain ⟨path, n, isOpen⟩ := q
  have hr : (if isOpen = true then r.report (r.cursor.skipWhile isBlank).line .unterminatedString
      else r).Found old := by
    split
    · exact h.report _ rfl
    · exact h
  cases path with
  | some path => exact (hr.moveTo _).addNode _
  | none => exact ((hr.moveTo _).report _ rfl).addNode _

/-- A code block adds that it has no brace or no end. -/
theorem codeBlock (h : r.Found old) (line : Nat) : (r.codeBlock line).Found old := by
  unfold Reader.codeBlock
  dsimp only
  split
  · exact (h.moveTo _).report _ rfl
  · split
    · exact (h.moveTo _).failedScan _ _ (Fragment.group_ofSource _ _)
    · exact ⟨h.kept, h.added⟩

/-- A directive adds that its text declares nothing. -/
theorem directive (h : r.Found old) (word : DirectiveWord) (line : Nat) :
    (r.directive word line).Found old := by
  unfold Reader.directive
  cases word with
  | code => exact h.codeBlock line
  | page =>
    dsimp only
    split
    · exact ⟨h.kept, h.added⟩
    · next hadd => exact (h.moveTo _).report _ (Document.addPage_ofSource hadd)
  | import_ =>
    dsimp only
    split
    · exact ⟨h.kept, h.added⟩
    · next hadd => exact (h.moveTo _).report _ (Document.addImport_ofSource hadd)
  | param =>
    dsimp only
    split
    · exact ⟨h.kept, h.added⟩
    · next hadd => exact (h.moveTo _).report _ (Document.addParam_ofSource hadd)

theorem expression (h : r.Found old) (line : Nat) : (r.expression line).Found old := by
  unfold Reader.expression
  dsimp only
  split
  · exact h.failedScan _ _ (Fragment.chain_ofSource _)
  · exact (h.moveTo _).addNode _

theorem groupExpression (h : r.Found old) (line : Nat) : (r.groupExpression line).Found old := by
  unfold Reader.groupExpression
  dsimp only
  split
  · exact h.failedScan _ _ (Fragment.group_ofSource _ _)
  · exact (h.moveTo _).addNode _

/-- A comment adds that it has no end. -/
theorem comment (h : r.Found old) (line : Nat) : (r.comment line).Found old := by
  unfold Reader.comment
  split
  · exact h.moveTo _
  · exact (h.moveTo _).report _ rfl

/-- **Whatever word stands behind an at sign**, what is added is about the source. -/
theorem keyword (h : r.Found old) (word : Bytes) (line : Nat) :
    (r.keyword word line).Found old := by
  have hm := h.moveTo (r.cursor.advance (1 + word.length))
  unfold Reader.keyword
  dsimp only
  split
  · exact hm.enterBranch _ _ _ fun q hq => hq.addNode _
  · split
    · exact hm.openLoop line
    · split
      · exact hm.splice line
      · split
        · exact hm.report _ rfl
        · split
          · split
            · exact hm.directive _ _
            · exact (hm.moveTo _).report _ rfl
          · exact h.expression line

/-- And so it is for the at sign as such. -/
theorem atSign (h : r.Found old) : r.atSign.Found old := by
  unfold Reader.atSign
  dsimp only
  split
  · exact (h.moveTo _).addText _
  · split
    · exact h.comment _
    · split
      · exact (h.moveTo _).addText _
      · split
        · exact h.groupExpression _
        · split
          · exact h.keyword _ _
          · exact (h.moveTo _).addText _

/-! ## The walk -/

/-- **No step takes a finding back.** -/
theorem step (h : r.Found old) : r.step.Found old := by
  unfold Reader.step
  dsimp only
  split
  · exact h.closingTag
  · split
    · exact h.openTag
    · split
      · exact h.closeBrace
      · split
        · exact h.atSign
        · exact (h.addText _).moveTo _

/-- The walk repeats the step, so nothing is taken back along the whole of it. -/
theorem run (h : r.Found old) : r.run.Found old := by
  fun_induction Reader.run r with
  | case1 r hend => exact h
  | case2 r hend ih => exact ih h.step

/-- Nor is anything at its end, where the open constructs are left. -/
theorem leaveAll (h : r.Found old) : r.leaveAll.Found old := by
  fun_induction Reader.leaveAll r with
  | case1 r hr => exact h
  | case2 r l outer hr ih => exact ih (h.leaveUnfinished l outer)

end Reader.Found

/-- **What is wrong with a source alone** is no matter of its batch. -/
theorem Document.ofSource_of_mem_read (src : Bytes) :
    ∀ f ∈ (Document.read src).2, f.fault.ofSource = true := by
  intro f hf
  have hread := (Reader.Found.refl (Reader.start src)).run.leaveAll
  exact (hread.added f (List.mem_reverse.1 hf)).resolve_left List.not_mem_nil

/-- **An empty route is found out**, whatever the text below it says. -/
theorem Document.noRoute_mem_read (t : Bytes) :
    ⟨1, .noRoute⟩ ∈ (Document.read (SourceUnit.routeDirective [] ++ t)).2 := by
  have hsrc : SourceUnit.routeDirective [] ++ t
      = "@page " ++ (Quoted.quote [] ++ newline :: t) := by
    simp [SourceUnit.routeDirective]
  have hstep : (Reader.start (SourceUnit.routeDirective [] ++ t)).step.findings
      = [⟨1, .noRoute⟩] := by
    have htrim : trim (ch ' ' :: Quoted.quote []) = Quoted.quote [] := by
      rw [trim_space_cons]
      exact trim_eq_self (by decide) (by decide) (by decide) (by decide) _
    have hadd : ({} : Document).addPage 1 (Quoted.quote []) = .error .noRoute := by
      rw [Document.addPage, Quoted.unquote?_quote]
      rfl
    have hline : newline ∉ ch ' ' :: Quoted.quote [] := by
      rw [List.mem_cons, not_or]
      exact ⟨by decide, Quoted.newline_not_mem_quote []⟩
    have hrest : Cursor.restOfLine ⟨ch ' ' :: (Quoted.quote [] ++ newline :: t), 1, ch 'e'⟩
        = (ch ' ' :: Quoted.quote [], ⟨t, 2, newline⟩) :=
      Cursor.restOfLine_append hline t 1 (ch 'e')
    rw [hsrc, Reader.step_start_page]
    unfold Reader.directive
    dsimp only [Reader.moveTo, Reader.start]
    rw [hrest]
    dsimp only
    rw [htrim, hadd]
    rfl
  have hrun : (Reader.start (SourceUnit.routeDirective [] ++ t)).run
      = (Reader.start (SourceUnit.routeDirective [] ++ t)).step.run :=
    Reader.run_of_rest_ne_nil (List.cons_ne_nil _ _)
  have hfound :=
    (Reader.Found.refl (Reader.start (SourceUnit.routeDirective [] ++ t)).step).run.leaveAll
  rw [hstep, ← hrun] at hfound
  exact List.mem_reverse.2 (hfound.kept _ (List.mem_singleton_self _))

end Stencil
