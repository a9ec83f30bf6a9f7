import Stencil.Compile.Batch
import Stencil.Proofs.Text.Order

/-!
# What a compilation answers

A compilation can end in many places: no component was supplied, the declarations are
wrong, the request was cancelled in any of its phases, the module could not be written
down, or all went well. This module says once which ways there are, whatever the host
tools do and wherever the request is cancelled (`run_cases`), and reads off from it what a
caller relies on: there is a module exactly if no diagnostic is an error, the diagnostics
are those of the stages in order without repetitions, and the phases that were reported
tell how far the compilation came.
-/

namespace Stencil

namespace Diagnostic

/-! ## Merged diagnostics -/

/-- **Merging keeps the first occurrence of every diagnostic**, in order. -/
theorem dedup_eq_eraseDups (ds : List Diagnostic) : dedup ds = ds.eraseDups :=
  reverse_foldl_eq_eraseDups ds

theorem merge_eq_eraseDups (groups : List (List Diagnostic)) :
    merge groups = groups.flatten.eraseDups :=
  dedup_eq_eraseDups _

theorem merge_pair (ds ds' : List Diagnostic) : merge [ds, ds'] = (ds ++ ds').eraseDups := by
  rw [merge_eq_eraseDups, List.flatten_cons, List.flatten_singleton]

theorem hasErrors_iff (ds : List Diagnostic) :
    hasErrors ds = true ↔ ∃ d ∈ ds, d.severity = .error := by
  unfold hasErrors
  rw [List.any_eq_true]
  simp only [decide_eq_true_eq]

theorem hasErrors_append (ds ds' : List Diagnostic) :
    hasErrors (ds ++ ds') = (hasErrors ds || hasErrors ds') := List.any_append

/-- Merging neither adds nor drops an error. -/
theorem hasErrors_merge (groups : List (List Diagnostic)) :
    hasErrors (merge groups) = true ↔ ∃ d ∈ groups.flatten, d.severity = .error := by
  rw [hasErrors_iff, merge_eq_eraseDups]
  simp only [List.mem_eraseDups]

end Diagnostic

namespace Compile

/-! ## Reported phases -/

@[simp] theorem Run.phases_begin (events : List Event) (r : Run) :
    (r.begin events).phases = (Run.mk events r.outcome).phases ++ r.phases :=
  List.filterMap_append

@[simp] theorem Run.outcome_begin (events : List Event) (r : Run) :
    (r.begin events).outcome = r.outcome := rfl

/-! ## The ways a compilation can go -/

/-- **How a compilation that gives an answer went**: the phases it reported, and the
diagnostics of its stages, in order. -/
inductive Course (tools : HostTools) (stop : Interrupts) (refs : List Reference)
    (files : List SourceFile) (o : Options) : List Phase → List Diagnostic → Prop where
  /-- There was nothing to compile. -/
  | empty (hunits : (prepare files o).1.any SourceUnit.isComponent = false) :
    Course tools stop refs files o [.declaring, .done]
      ((prepare files o).2 ++ [Finding.diagnostic [] ⟨0, .emptyBatch⟩])
  /-- The batch as such or its declarations were wrong. -/
  | undeclared (declared : List GeneratedUnit)
    (hunits : (prepare files o).1.any SourceUnit.isComponent = true)
    (hdeclare : declare stop (prepare files o).1 o = .ok declared)
    (herror : ∃ d ∈ (prepare files o).2 ++ diagnosticsOf declared, d.severity = .error) :
    Course tools stop refs files o [.declaring, .done]
      ((prepare files o).2 ++ diagnosticsOf declared)
  /-- The batch went through all stages. -/
  | full (declared resolved : List GeneratedUnit) (linked emitted : Emit.Emitted)
    (hunits : (prepare files o).1.any SourceUnit.isComponent = true)
    (hdeclare : declare stop (prepare files o).1 o = .ok declared)
    (hclean : ¬ ∃ d ∈ (prepare files o).2 ++ diagnosticsOf declared, d.severity = .error)
    (hlink : link tools stop refs declared o = .ok linked)
    (hresolve : resolve stop (prepare files o).1 refs linked.reference o = .ok resolved)
    (hemit : emit tools stop refs resolved o = .ok emitted) :
    Course tools stop refs files o [.declaring, .linking, .resolving, .emitting, .done]
      ((prepare files o).2 ++ diagnosticsOf declared ++ linked.diagnostics
        ++ diagnosticsOf resolved ++ emitted.diagnostics)

/-- The answer `res` fits the diagnostics `ds` of all stages. -/
structure Result.Fits (res : Result) (ds : List Diagnostic) : Prop where
  /-- The first occurrences are reported. -/
  diagnostics : res.diagnostics = ds.eraseDups
  /-- A single error suppresses the module, and nothing else does. -/
  module : res.module = none ↔ ∃ d ∈ ds, d.severity = .error

/-- The end of a compilation either answers and says so, or says nothing. -/
theorem finish_cases (units : Nat) (groups : List (List Diagnostic))
    (reference : Option Reference) :
    (∃ res, (finish units groups reference).outcome = .ok res
        ∧ (finish units groups reference).phases = [.done] ∧ res.Fits groups.flatten)
      ∨ ∃ e, (finish units groups reference).outcome = .error e
        ∧ (finish units groups reference).phases = [] := by
  have hmerge := Diagnostic.merge_eq_eraseDups groups
  have herror := Diagnostic.hasErrors_merge groups
  unfold finish
  dsimp only
  split
  · next h => exact .inl ⟨_, rfl, rfl, hmerge, iff_of_true rfl (herror.1 h)⟩
  · next h =>
    cases reference with
    | none => exact .inr ⟨_, rfl, rfl⟩
    | some r =>
      refine .inl ⟨_, rfl, rfl, hmerge, iff_of_false ?_ (fun hd => h (herror.2 hd))⟩
      exact Option.some_ne_none _

/-- What needs the catalog either goes through all its stages and answers, or fails in
one of them. -/
theorem build_cases (tools : HostTools) (stop : Interrupts) (refs : List Reference)
    (units : List SourceUnit) (declared : List GeneratedUnit) (prepared : List Diagnostic)
    (o : Options) :
    let r := build tools stop refs units declared prepared o
    (∃ res linked resolved emitted, r.outcome = .ok res
        ∧ r.phases = [.linking, .resolving, .emitting, .done]
        ∧ link tools stop refs declared o = .ok linked
        ∧ resolve stop units refs linked.reference o = .ok resolved
        ∧ emit tools stop refs resolved o = .ok emitted
        ∧ res.Fits (prepared ++ diagnosticsOf declared ++ linked.diagnostics
            ++ diagnosticsOf resolved ++ emitted.diagnostics))
      ∨ ∃ e, r.outcome = .error e ∧ r.phases <+: [.linking, .resolving, .emitting] := by
  intro r
  have hr : r = build tools stop refs units declared prepared o := rfl
  unfold build at hr
  cases hlink : link tools stop refs declared o with
  | error e =>
    rw [hlink] at hr
    rw [hr]
    exact .inr ⟨e, rfl, [.resolving, .emitting], rfl⟩
  | ok linked =>
    rw [hlink] at hr
    dsimp only at hr
    -- whether there is a temporary module is told, but it is no phase
    have hresolving : ∀ q : Run,
        (q.begin ((if linked.reference.isNone then [Event.noTemporaryModule] else [])
          ++ [.phase .resolving])).phases = .resolving :: q.phases := by
      intro q
      cases linked.reference <;> rfl
    cases hresolve : resolve stop units refs linked.reference o with
    | error e =>
      rw [hresolve] at hr
      rw [hr, Run.phases_begin, hresolving]
      exact .inr ⟨e, rfl, [.emitting], rfl⟩
    | ok resolved =>
      rw [hresolve] at hr
      dsimp only at hr
      cases hemit : emit tools stop refs resolved o with
      | error e =>
        rw [hemit] at hr
        rw [hr, Run.phases_begin, hresolving]
        exact .inr ⟨e, rfl, [], rfl⟩
      | ok emitted =>
        rw [hemit] at hr
        dsimp only at hr
        rw [hr]
        simp only [Run.phases_begin, hresolving, Run.outcome_begin]
        obtain ⟨res, hok, hphases, hfits⟩ | ⟨e, herror, hphases⟩ := finish_cases units.length
          [prepared, diagnosticsOf declared, linked.diagnostics, diagnosticsOf resolved,
            emitted.diagnostics] emitted.reference
        · refine .inl ⟨res, linked, resolved, emitted, hok, ?_, rfl, hresolve, hemit, ?_⟩
          · rw [hphases]
            rfl
          · simpa using hfits
        · refine .inr ⟨e, herror, ?_⟩
          rw [hphases]
          exact List.prefix_rfl

/-- **Every compilation answers along one of the courses, or fails** in one of its phases,
the last of which is then not reached. -/
theorem run_cases (tools : HostTools) (stop : Interrupts) (refs : List Reference)
    (files : List SourceFile) (o : Options) :
    let r := run tools stop refs files o
    (∃ res ds, r.outcome = .ok res ∧ Course tools stop refs files o r.phases ds ∧ res.Fits ds)
      ∨ ∃ e, r.outcome = .error e
        ∧ r.phases <+: [.declaring, .linking, .resolving, .emitting] := by
  intro r
  have hr : r = run tools stop refs files o := rfl
  unfold run at hr
  dsimp only at hr
  cases hunits : (prepare files o).1.any SourceUnit.isComponent with
  | false =>
    rw [hunits] at hr
    rw [hr]
    refine .inl ⟨_, _, rfl, .empty hunits, Diagnostic.merge_pair _ _, iff_of_true rfl ?_⟩
    exact ⟨_, List.mem_append_right _ (List.mem_singleton_self _), rfl⟩
  | true =>
    rw [hunits] at hr
    cases hdeclare : declare stop (prepare files o).1 o with
    | error e =>
      rw [hdeclare] at hr
      rw [hr]
      exact .inr ⟨e, rfl, [.linking, .resolving, .emitting], rfl⟩
    | ok declared =>
      rw [hdeclare] at hr
      have herror : (Diagnostic.hasErrors (prepare files o).2
          || Diagnostic.hasErrors (diagnosticsOf declared)) = true
            ↔ ∃ d ∈ (prepare files o).2 ++ diagnosticsOf declared, d.severity = .error := by
        rw [← Diagnostic.hasErrors_iff, Diagnostic.hasErrors_append]
      by_cases he : (Diagnostic.hasErrors (prepare files o).2
          || Diagnostic.hasErrors (diagnosticsOf declared)) = true
      · simp only [he] at hr
        rw [hr]
        exact .inl ⟨_, _, rfl, .undeclared declared hunits hdeclare (herror.1 he),
          Diagnostic.merge_pair _ _, iff_of_true rfl (herror.1 he)⟩
      · simp only [he] at hr
        rw [hr]
        obtain ⟨res, linked, resolved, emitted, hok, hphases, hlink, hresolve, hemit, hfits⟩
            | ⟨e, hfail, hphases⟩ :=
          build_cases tools stop refs (prepare files o).1 declared (prepare files o).2 o
        · refine .inl ⟨res, _, hok, ?_, hfits⟩
          have hcourse := Course.full declared resolved linked emitted hunits hdeclare
            (fun h => he (herror.2 h)) hlink hresolve hemit
          rw [← hphases] at hcourse
          exact hcourse
        · refine .inr ⟨e, hfail, ?_⟩
          exact List.cons_prefix_cons.2 ⟨rfl, hphases⟩

/-! ## What a declaration error keeps from happening -/

/-- A pass over the units asks about cancellation at its own points only. -/
theorem pass_congr {stop stop' : Interrupts} (units : List SourceUnit) {mode : Mode}
    (resolver : Resolver) (o : Options)
    (hpass : stop' (.beforePass mode) = stop (.beforePass mode))
    (hunit : ∀ i, stop' (.beforeUnit mode i) = stop (.beforeUnit mode i)) :
    pass stop' units mode resolver o = pass stop units mode resolver o := by
  have hcheck : ∀ i, stop'.check (.beforeUnit mode i) (passName mode)
      = stop.check (.beforeUnit mode i) (passName mode) := by
    intro i
    unfold Interrupts.check
    rw [hunit i]
  unfold pass
  simp only [hcheck]
  unfold Interrupts.check
  rw [hpass]

/-- A compilation whose declarations have no errors goes on to what needs the catalog. -/
theorem run_of_declared {tools : HostTools} {stop : Interrupts} {refs : List Reference}
    {files : List SourceFile} {o : Options} {declared : List GeneratedUnit}
    (hunits : (prepare files o).1.any SourceUnit.isComponent = true)
    (hdeclare : declare stop (prepare files o).1 o = .ok declared)
    (hprepared : Diagnostic.hasErrors (prepare files o).2 = false)
    (hdeclared : Diagnostic.hasErrors (diagnosticsOf declared) = false) :
    run tools stop refs files o = Run.begin [.phase .declaring]
      (build tools stop refs (prepare files o).1 declared (prepare files o).2 o) := by
  unfold run
  dsimp only
  rw [hunits, hdeclare]
  simp [hprepared, hdeclared]

/-- **After an error in the batch or its declarations nothing else runs.** The
compilation is over without the phase of the full pass, and it would be the same with
other host tools, other references, and a request cancelled at any point behind the
declarations – where a full pass, which asks first, would have failed. -/
theorem run_of_declaration_error {stop : Interrupts} {files : List SourceFile} {o : Options}
    {declared : List GeneratedUnit} (hdeclare : declare stop (prepare files o).1 o = .ok declared)
    (herror : ∃ d ∈ (prepare files o).2 ++ diagnosticsOf declared, d.severity = .error)
    (tools tools' : HostTools) (refs refs' : List Reference) {stop' : Interrupts}
    (hpass : stop' (.beforePass .declaration) = stop (.beforePass .declaration))
    (hunit : ∀ i, stop' (.beforeUnit .declaration i) = stop (.beforeUnit .declaration i)) :
    (run tools stop refs files o).phases = [.declaring, .done]
      ∧ run tools' stop' refs' files o = run tools stop refs files o := by
  have hdeclare' : declare stop' (prepare files o).1 o = .ok declared := by
    rw [← hdeclare]
    exact pass_congr _ _ o hpass hunit
  have hstop : (Diagnostic.hasErrors (prepare files o).2
      || Diagnostic.hasErrors (diagnosticsOf declared)) = true := by
    rw [← Diagnostic.hasErrors_append, Diagnostic.hasErrors_iff]
    exact herror
  unfold run
  simp only [hdeclare, hdeclare', hstop]
  refine ⟨?_, rfl⟩
  cases (prepare files o).1.any SourceUnit.isComponent <;> rfl

/-! ## The outcome -/

/-- **A compilation produces a module exactly when nothing is wrong**, whatever the host
tools do and wherever the request is cancelled.

An answer has no module if and only if one of its diagnostics is an error, and its
diagnostics are the first occurrences among those of the stages it went through, in
order. The phases tell the course: all five when the batch went through, the first and
the last when it stopped early, and a part of them without the last exactly when there
is no answer but a failure. After an error in the batch or its declarations the full pass
never runs. -/
theorem module_iff_no_error (tools : HostTools) (stop : Interrupts) (refs : List Reference)
    (files : List SourceFile) (o : Options) :
    let r := runWith tools stop (some refs) files o
    (∀ res, r.outcome = .ok res →
      (res.module = none ↔ ∃ d ∈ res.diagnostics, d.severity = .error)
      ∧ ∃ ds, Course tools stop refs files o r.phases ds ∧ res.diagnostics = ds.eraseDups)
    ∧ ((∃ e, r.outcome = .error e) ↔
        r.phases <+: [.declaring, .linking, .resolving, .emitting, .done] ∧ .done ∉ r.phases)
    ∧ ∀ declared, declare stop (prepare files o).1 o = .ok declared →
        (∃ d ∈ (prepare files o).2 ++ diagnosticsOf declared, d.severity = .error) →
        .resolving ∉ r.phases
        ∧ ∀ (tools' : HostTools) (refs' : List Reference) (stop' : Interrupts),
            stop' (.beforePass .declaration) = stop (.beforePass .declaration) →
            (∀ i, stop' (.beforeUnit .declaration i) = stop (.beforeUnit .declaration i)) →
            runWith tools' stop' (some refs') files o = r := by
  intro r
  have hcases := run_cases tools stop refs files o
  refine ⟨?_, ?_, ?_⟩
  · intro res hok
    obtain ⟨res', ds, hok', hcourse, hfits⟩ | ⟨e, herror, -⟩ := hcases
    · cases hok.symm.trans hok'
      refine ⟨?_, ds, hcourse, hfits.diagnostics⟩
      rw [hfits.module, hfits.diagnostics]
      simp only [List.mem_eraseDups]
    · cases hok.symm.trans herror
  · constructor
    · rintro ⟨e, herror⟩
      obtain ⟨res, ds, hok, -⟩ | ⟨e', -, hphases⟩ := hcases
      · cases herror.symm.trans hok
      · refine ⟨hphases.trans ⟨[.done], rfl⟩, fun hmem => ?_⟩
        exact absurd (hphases.subset hmem) (by decide)
    · rintro ⟨-, hdone⟩
      obtain ⟨res, ds, -, hcourse, -⟩ | ⟨e, herror, -⟩ := hcases
      · -- whoever answers reports the last phase
        have hmem : ∀ phases, Course tools stop refs files o phases ds → .done ∈ phases := by
          intro phases h
          cases h <;> decide
        exact absurd (hmem _ hcourse) hdone
      · exact ⟨e, herror⟩
  · intro declared hdeclare herror
    constructor
    · obtain ⟨hphases, -⟩ := run_of_declaration_error hdeclare herror tools tools refs refs rfl
        (fun _ => rfl)
      show _ ∉ (run tools stop refs files o).phases
      rw [hphases]
      decide
    · intro tools' refs' stop' hpass hunit
      exact (run_of_declaration_error hdeclare herror tools tools' refs refs' hpass hunit).2

end Compile

end Stencil
