import Stencil.Proofs.Compile.Gate
import Stencil.Proofs.Compile.Outcome
import Stencil.Server

/-!
# What a session tells its client

A session is an interleaving of a compilation, which reports phases and hands over its outcome,
with the handler, which writes frames. Nothing orders the two but the queue of phases and the
slot of the outcome, and the handler may turn to either when both have something.

The queue never overflows, because a compilation reports no more phases than there is room for,
and the outcome is only there when all phases are in the queue or have left it. So whatever has
been written, is in the queue and has yet to be reported, one after the other, is the transcript
of the compilation (`Follows.ahead`), for as long as the handler has not given up. What a handler
that gave up has written is the beginning of it.

An action that changes a session also uses something up (`left`), so a session comes to rest. If
no write fails and nobody gives up, it can only rest when everything is written. The reply of the
server is one such session, with the whole transcript (`reply_eq`).
-/

namespace Stencil

/-! ## Phases -/

namespace Compile

/-- A compilation reports five phases at most. -/
theorem length_phases_le (tools : HostTools) (stop : Interrupts) (refs : List Reference)
    (files : List SourceFile) (o : Options) : (run tools stop refs files o).phases.length ≤ 5 := by
  obtain ⟨res, ds, -, hcourse, -⟩ | ⟨e, -, hphases⟩ := run_cases tools stop refs files o
  · have hlength : ∀ phases, Course tools stop refs files o phases ds → phases.length ≤ 5 := by
      intro phases h
      cases h <;> decide
    exact hlength _ hcourse
  · exact Nat.le_trans hphases.length_le (by decide)

/-- Host tools to which every file is well formed and every package is wrong. -/
def rejecting : HostTools := ⟨fun _ _ => [], fun _ _ _ _ => ([⟨{}, "no", false⟩], none)⟩

/-- Files that are rejected become no module, for the reason that the host tools give. -/
theorem emit_rejecting (refs : List Reference) (path : Bytes) (link : Bool)
    (units : List EmitUnit) :
    ∃ filesRead ds, Emit.run rejecting .never refs path link units
        = .ok ⟨filesRead, none, none, ds⟩ ∧ Diagnostic.hasErrors ds = true := by
  have hgrammar : (Emit.readAll rejecting units).2 = [] := by
    refine List.flatMap_eq_nil_iff.2 fun es hes => ?_
    obtain ⟨u, -, rfl⟩ := List.mem_map.1 hes
    rfl
  have herrors : Diagnostic.hasErrors
      (Emit.checkDiagnostics units link [⟨{}, "no", false⟩]) = true := by
    cases link <;> rfl
  refine ⟨(Emit.readAll rejecting units).1, _, ?_, herrors⟩
  unfold Emit.run
  dsimp only
  rw [hgrammar]
  rfl

/-- **A batch that is rejected in the end has gone through all phases.** -/
theorem phases_build_rejecting (refs : List Reference) (units : List SourceUnit)
    (declared : List GeneratedUnit) (prepared : List Diagnostic) (o : Options) :
    (build rejecting .never refs units declared prepared o).phases
      = [.linking, .resolving, .emitting, .done] := by
  obtain ⟨n, linked, hlink, -⟩ := emit_rejecting refs o.packagePath true
    (declared.map EmitUnit.ofGenerated)
  obtain ⟨m, emitted, hemit, herrors⟩ := emit_rejecting refs o.packagePath false
    (((units.filter SourceUnit.isComponent).map
      (generate units .full (shapesOf refs none).component? o)).map EmitUnit.ofGenerated)
  -- what is wrong with the full code is an error, so there is an answer, without a module
  have hanswer : ∀ groups : List (List Diagnostic), emitted ∈ groups →
      (finish units.length groups none).phases = [.done] := by
    intro groups hgroups
    obtain ⟨d, hd, hseverity⟩ := (Diagnostic.hasErrors_iff emitted).1 herrors
    have hmerged := (Diagnostic.hasErrors_merge groups).2
      ⟨d, List.mem_flatten.2 ⟨emitted, hgroups, hd⟩, hseverity⟩
    unfold finish
    dsimp only
    rw [if_pos hmerged]
    rfl
  unfold build link resolve emit
  rw [hlink]
  dsimp only
  rw [pass_never]
  dsimp only
  rw [hemit]
  simp only [Run.phases_begin]
  rw [hanswer _ (by simp)]
  rfl

/-- Two units that include each other have fine declarations, so their compilation reaches the
end. -/
theorem phases_circle (refs : List Reference) :
    (run rejecting .never refs Circle.files {}).phases
      = [.declaring, .linking, .resolving, .emitting, .done] := by
  have hunits : (prepare Circle.files {}).1.any SourceUnit.isComponent = true := by
    rw [Circle.prepare_eq]
    decide
  have hprepared : Diagnostic.hasErrors (prepare Circle.files {}).2 = false := by
    rw [Circle.prepare_eq]
    rfl
  have hdeclared : Diagnostic.hasErrors (diagnosticsOf
      (((prepare Circle.files {}).1.filter SourceUnit.isComponent).map
        (generate (prepare Circle.files {}).1 .declaration (fun _ _ => none) {}))) = false := by
    rw [Circle.prepare_eq]
    exact Circle.hasErrors_declared
  rw [run_of_declared hunits (pass_never _ _ _ _) hprepared hdeclared, Run.phases_begin,
    phases_build_rejecting]
  rfl

end Compile

namespace Session

variable {r : Compile.Run} {s : Session}

/-! ## What is left to write -/

/-- The frames that a handler which goes on has yet to write. -/
def ahead (s : Session) : List Frame :=
  match s.handler with
  | .listening | .draining => (s.queue ++ s.unreported).map .phase ++ [.ofOutcome s.outcome]
  | .finished | .aborted => []

/-- **The session `s` follows the compilation `r`.** -/
structure Follows (r : Compile.Run) (s : Session) : Prop where
  outcome : s.outcome = r.outcome
  room : s.queue.length + s.unreported.length ≤ s.capacity
  delivered : s.delivered = true → s.unreported = []
  draining : s.handler = .draining → s.delivered = true
  begun : s.frames <+: transcript r
  ahead : s.handler ≠ .aborted → s.frames ++ s.ahead = transcript r

theorem follows_ofRun (h : r.phases.length ≤ 8) : Follows r (ofRun r) where
  outcome := rfl
  room := by simpa [ofRun] using h
  delivered := fun h => nomatch h
  draining := fun h => nomatch h
  begun := List.nil_prefix
  ahead := fun _ => rfl

/-! ## Actions -/

/-- Whether an action is neither a write that fails nor giving up. -/
def Action.succeeds : Action → Bool
  | .forward written | .drain written => written
  | .cancel => false
  | .report | .deliver | .receive => true

theorem Follows.report (h : Follows r s) : Follows r (s.step .report) := by
  unfold step
  dsimp only
  cases hunreported : s.unreported with
  | nil => exact h
  | cons p ps =>
    have hroom := h.room
    rw [hunreported, List.length_cons] at hroom
    -- there is room for what has yet to be reported
    have hqueue : s.queue.length < s.capacity := by omega
    refine ⟨h.outcome, ?_, fun hd => ?_, h.draining, h.begun, fun ha => ?_⟩
    · simp only [if_pos hqueue, List.length_append, List.length_singleton]
      omega
    · cases (h.delivered hd).symm.trans hunreported
    · rw [← h.ahead ha]
      simp [Session.ahead, if_pos hqueue, hunreported]

theorem Follows.deliver (h : Follows r s) : Follows r (s.step .deliver) := by
  unfold step
  dsimp only
  split
  · next hempty =>
    exact { h with
      delivered := fun _ => List.isEmpty_iff.1 hempty
      draining := fun _ => rfl }
  · exact h

@[simp] theorem write_true (s : Session) (f : Frame) :
    s.write f true = { s with frames := s.frames ++ [f] } := rfl

@[simp] theorem write_false (s : Session) (f : Frame) :
    s.write f false = { s with handler := .aborted } := rfl

/-- A handler that gives up, perhaps with a phase in hand, has written what it has. -/
theorem Follows.abort (h : Follows r s) {queue : List Phase}
    (hqueue : queue.length ≤ s.queue.length) :
    Follows r { s with queue := queue, handler := .aborted } where
  outcome := h.outcome
  room := Nat.le_trans (Nat.add_le_add_right hqueue _) h.room
  delivered := h.delivered
  draining := fun hd => nomatch hd
  begun := h.begun
  ahead := fun ha => absurd rfl ha

/-- The next phase of the queue is written, or the write fails. -/
theorem Follows.writePhase (h : Follows r s) {p : Phase} {ps : List Phase}
    (hqueue : s.queue = p :: ps) (hhandler : s.handler = .listening ∨ s.handler = .draining)
    (written : Bool) :
    Follows r (({ s with queue := ps } : Session).write (.phase p) written) := by
  have hlength : ps.length ≤ s.queue.length := by simp [hqueue]
  cases written with
  | false => exact h.abort hlength
  | true =>
    have hahead : s.frames ++ .phase p
        :: ((ps ++ s.unreported).map Frame.phase ++ [.ofOutcome s.outcome]) = transcript r := by
      have := h.ahead (by rcases hhandler with h | h <;> simp [h])
      rcases hhandler with hh | hh <;> simpa [Session.ahead, hh, hqueue] using this
    refine ⟨h.outcome, ?_, h.delivered, h.draining, ?_, fun _ => ?_⟩
    · exact Nat.le_trans (Nat.add_le_add_right hlength _) h.room
    · exact ⟨_, (List.append_assoc ..).trans hahead⟩
    · rw [← hahead]
      rcases hhandler with hh | hh <;> simp [Session.ahead, hh]

theorem Follows.forward (h : Follows r s) (written : Bool) :
    Follows r (s.step (.forward written)) := by
  unfold step
  dsimp only
  split
  · next hhandler hqueue => exact h.writePhase hqueue (.inl hhandler) written
  · exact h

theorem Follows.receive (h : Follows r s) : Follows r (s.step .receive) := by
  unfold step
  dsimp only
  split
  · next hready =>
    obtain ⟨hhandler, hdelivered⟩ : s.handler = .listening ∧ s.delivered = true := by
      simpa using hready
    refine { h with draining := fun _ => hdelivered, ahead := fun _ => ?_ }
    simpa [Session.ahead, hhandler] using h.ahead (by simp [hhandler])
  · exact h

theorem Follows.drain (h : Follows r s) (written : Bool) :
    Follows r (s.step (.drain written)) := by
  unfold step
  dsimp only
  split
  · next hhandler hqueue => exact h.writePhase hqueue (.inr hhandler) written
  · next hhandler hqueue =>
    -- the outcome was there, so nothing else will be reported
    have hunreported := h.delivered (h.draining hhandler)
    have hahead : s.frames ++ [.ofOutcome s.outcome] = transcript r := by
      simpa [Session.ahead, hhandler, hqueue, hunreported] using h.ahead (by simp [hhandler])
    cases written with
    | false => exact h.abort (Nat.le_refl _)
    | true =>
      refine ⟨h.outcome, h.room, h.delivered, (fun hd => nomatch hd), ?_, fun _ => ?_⟩
      · exact ⟨[], (List.append_nil _).trans hahead⟩
      · exact (List.append_nil _).trans hahead
  · exact h

theorem Follows.cancel (h : Follows r s) : Follows r (s.step .cancel) := by
  unfold step
  dsimp only
  split
  · exact h.abort (Nat.le_refl _)
  · exact h

/-- **Whatever happens, a session follows its compilation.** -/
theorem Follows.step (h : Follows r s) (a : Action) : Follows r (s.step a) := by
  cases a with
  | report => exact h.report
  | deliver => exact h.deliver
  | forward written => exact h.forward written
  | receive => exact h.receive
  | drain written => exact h.drain written
  | cancel => exact h.cancel

theorem Follows.run (h : Follows r s) (actions : List Action) : Follows r (s.run actions) := by
  induction actions generalizing s with
  | nil => exact h
  | cons a actions ih => exact ih (h.step a)

/-! ## Rest -/

/-- A handler that has not given up does not do so unless something fails. -/
theorem handler_step {a : Action} (ha : a.succeeds = true) (h : s.handler ≠ .aborted) :
    (s.step a).handler ≠ .aborted := by
  cases a with
  | report =>
    unfold Session.step
    cases s.unreported <;> exact h
  | deliver =>
    unfold Session.step
    dsimp only
    split <;> exact h
  | receive =>
    unfold Session.step
    dsimp only
    split
    · exact fun hd => nomatch hd
    · exact h
  | forward written =>
    obtain rfl : written = true := ha
    unfold Session.step
    dsimp only
    split <;> exact h
  | drain written =>
    obtain rfl : written = true := ha
    unfold Session.step
    dsimp only
    split
    · exact h
    · exact fun hd => nomatch hd
    · exact h
  | cancel => cases ha

theorem handler_run {actions : List Action} (hactions : ∀ a ∈ actions, a.succeeds = true)
    (h : s.handler ≠ .aborted) : (s.run actions).handler ≠ .aborted := by
  induction actions generalizing s with
  | nil => exact h
  | cons a actions ih =>
    obtain ⟨ha, hactions⟩ := List.forall_mem_cons.1 hactions
    exact ih hactions (handler_step ha h)

/-- **A session at rest**: no action changes it, unless something fails. -/
def AtRest (s : Session) : Prop := ∀ a : Action, a.succeeds = true → s.step a = s

/-- A session can only rest when the handler is through. -/
theorem AtRest.handler (h : s.AtRest) : s.handler = .finished ∨ s.handler = .aborted := by
  have hunreported : s.unreported = [] := by
    have hreport := congrArg Session.unreported (h .report rfl)
    unfold Session.step at hreport
    cases hs : s.unreported with
    | nil => rfl
    | cons p ps => simp [hs] at hreport
  have hdelivered : s.delivered = true := by
    simpa [Session.step, hunreported] using congrArg Session.delivered (h .deliver rfl)
  cases hhandler : s.handler with
  | finished => exact .inl rfl
  | aborted => exact .inr rfl
  | listening =>
    have hreceive := congrArg Session.handler (h .receive rfl)
    simp [Session.step, hhandler, hdelivered] at hreceive
  | draining =>
    have hdrain := h (.drain true) rfl
    cases hqueue : s.queue with
    | nil => simpa [Session.step, hhandler, hqueue] using congrArg Session.handler hdrain
    | cons p ps => simpa [Session.step, hhandler, hqueue] using congrArg Session.queue hdrain

/-- And a session rests when the handler is through and the compilation has handed over all. -/
theorem atRest_of_finished (hunreported : s.unreported = []) (hdelivered : s.delivered = true)
    (hhandler : s.handler = .finished) : s.AtRest := by
  intro a ha
  cases a with
  | report => simp [step, hunreported]
  | deliver =>
    rw [step, if_pos (by rw [hunreported]; rfl)]
    exact congrArg (fun d => { s with delivered := d }) hdelivered.symm
  | forward | receive | drain => simp [step, hhandler]
  | cancel => cases ha

/-- How far a handler has to go. -/
def HandlerState.left : HandlerState → Nat
  | .listening => 2
  | .draining => 1
  | .finished | .aborted => 0

/-- How many more actions can change a session. -/
def left (s : Session) : Nat :=
  2 * s.unreported.length + s.queue.length + (if s.delivered then 0 else 1)
    + HandlerState.left s.handler

/-- A phase that leaves the queue is used up, whether or not it can be written. -/
theorem left_write_lt {p : Phase} {ps : List Phase} (hqueue : s.queue = p :: ps) (f : Frame)
    (written : Bool) : (({ s with queue := ps } : Session).write f written).left < s.left := by
  have hlength : ps.length < s.queue.length := by simp [hqueue]
  have hhandler : HandlerState.left (if written then s.handler else .aborted)
      ≤ HandlerState.left s.handler := by
    cases written with
    | true => exact Nat.le_refl _
    | false => exact Nat.zero_le _
  have hleft : (({ s with queue := ps } : Session).write f written).left
      = 2 * s.unreported.length + ps.length + (if s.delivered then 0 else 1)
        + HandlerState.left (if written then s.handler else .aborted) := by
    cases written <;> rfl
  rw [hleft, left]
  omega

/-- **An action that changes a session uses something up.** -/
theorem step_eq_or_left_lt (s : Session) (a : Action) :
    s.step a = s ∨ (s.step a).left < s.left := by
  cases a with
  | report =>
    unfold Session.step
    dsimp only
    cases hs : s.unreported with
    | nil => exact .inl rfl
    | cons p ps =>
      right
      have hqueue : (if s.queue.length < s.capacity then s.queue ++ [p] else s.queue).length
          ≤ s.queue.length + 1 := by
        split <;> simp
      simp only [left, hs, List.length_cons]
      omega
  | deliver =>
    unfold Session.step
    dsimp only
    split
    · cases hs : s.delivered with
      | false => exact .inr (by simp [left, hs])
      | true => exact .inl (by rw [← hs])
    · exact .inl rfl
  | forward written =>
    unfold Session.step
    dsimp only
    split
    · next hqueue => exact .inr (left_write_lt hqueue _ _)
    · exact .inl rfl
  | receive =>
    unfold Session.step
    dsimp only
    split
    · next hready =>
      obtain ⟨hhandler, -⟩ : s.handler = .listening ∧ s.delivered = true := by simpa using hready
      exact .inr (by simp [left, hhandler, HandlerState.left])
    · exact .inl rfl
  | drain written =>
    unfold Session.step
    dsimp only
    split
    · next hqueue => exact .inr (left_write_lt hqueue _ _)
    · next hhandler hqueue =>
      right
      cases written <;> simp [left, hhandler, hqueue, HandlerState.left]
    · exact .inl rfl
  | cancel =>
    unfold Session.step
    dsimp only
    split
    · next hhandler => exact .inr (by simp [left, hhandler, HandlerState.left])
    · exact .inl rfl

/-- Only so many actions can each change a session. -/
theorem length_le_left {actions : List Action}
    (h : ∀ before a after, actions = before ++ a :: after →
      (s.run before).step a ≠ s.run before) : actions.length ≤ s.left := by
  induction actions generalizing s with
  | nil => exact Nat.zero_le _
  | cons a actions ih =>
    have hlt := (step_eq_or_left_lt s a).resolve_left (h [] a actions rfl)
    have hrest : actions.length ≤ (s.step a).left := ih fun before b after heq =>
      h (a :: before) b after (congrArg (a :: ·) heq)
    rw [List.length_cons]
    omega

/-! ## The reply -/

theorem run_append (s : Session) (before after : List Action) :
    s.run (before ++ after) = (s.run before).run after := List.foldl_append ..

/-- Phases that are written as soon as they are reported are written in order. -/
theorem run_promptly {ps : List Phase} (hunreported : s.unreported = ps) (hqueue : s.queue = [])
    (hhandler : s.handler = .listening) (hroom : 0 < s.capacity) :
    s.run (List.replicate ps.length [Action.report, .forward true]).flatten
      = { s with unreported := [], frames := s.frames ++ ps.map Frame.phase } := by
  induction ps generalizing s with
  | nil =>
    cases s
    cases hunreported
    simp [run]
  | cons p ps ih =>
    have hstep : (s.step .report).step (.forward true)
        = { s with unreported := ps, frames := s.frames ++ [.phase p] } := by
      simp [step, hunreported, hqueue, hhandler, hroom]
    have hrest := @ih { s with unreported := ps, frames := s.frames ++ [.phase p] } rfl hqueue
      hhandler hroom
    rw [List.length_cons, List.replicate_succ, List.flatten_cons, run_append]
    show ((s.step .report).step (.forward true)).run _ = _
    rw [hstep, hrest, List.map_cons]
    simp

/-- **What becomes of a session** in which every phase is written as soon as it is reported. -/
theorem run_ofRun_promptly (r : Compile.Run) :
    (ofRun r).run (promptly r.phases.length)
      = { ofRun r with
          unreported := [], delivered := true, handler := .finished, frames := transcript r } := by
  have hphases := @run_promptly (ofRun r) r.phases rfl rfl rfl (Nat.zero_lt_succ _)
  unfold promptly
  rw [run_append, hphases]
  simp [run, step, write, ofRun, transcript]

/-- **The reply to a compilation is its transcript.** -/
theorem reply_eq (r : Compile.Run) : reply r = ⟨transcript r, 1000, []⟩ := by
  rw [reply, run_ofRun_promptly]

/-! ## The transcript -/

/-- **A session neither drops nor reorders nor repeats a frame.**

However a compilation and the handler take turns, whatever the handler turns to when it has a
choice, and whether or not writes fail and whoever asked gives up: the frames that were written
are the beginning of the transcript, which has a frame for each phase that the compilation
reported, in order, and then the final frame. If nothing failed, a session at rest has written
all of it; and every session comes to rest, because only so many actions can change it. -/
theorem frames_of_run (tools : HostTools) (server : Server) (stop : Interrupts)
    (req : CompileRequest) (actions : List Action) :
    let r := server.run tools stop req
    let s := (ofRun r).run actions
    s.frames <+: transcript r
      ∧ ((∀ a ∈ actions, a.succeeds = true) → s.AtRest → s.frames = transcript r)
      ∧ ((∀ before a after, actions = before ++ a :: after →
          ((ofRun r).run before).step a ≠ (ofRun r).run before) →
        actions.length ≤ 2 * r.phases.length + 3) := by
  intro r s
  have hphases : r.phases.length ≤ 5 := Compile.length_phases_le ..
  have hs : Follows r s := (follows_ofRun (Nat.le_trans hphases (by decide))).run actions
  refine ⟨hs.begun, fun hactions hrest => ?_, fun hbusy => ?_⟩
  · have hgoes : s.handler ≠ .aborted := handler_run hactions fun h => nomatch h
    have hfinished := hrest.handler.resolve_right hgoes
    rw [← hs.ahead hgoes, Session.ahead, hfinished, List.append_nil]
  · exact length_le_left hbusy

/-- The actions of a session that turns to the outcome when it has written the frames of two phases,
and finds three more in the queue. -/
def late : List Action :=
  [.report, .report, .forward true, .report, .report, .forward true, .report, .deliver, .receive,
    .drain true, .drain true, .drain true, .drain true]

/-- What becomes of a session of five phases that goes like that. -/
theorem run_late {p₁ p₂ p₃ p₄ p₅ : Phase} (h : r.phases = [p₁, p₂, p₃, p₄, p₅]) :
    (ofRun r).run (late.take 9) = { ofRun r with
        unreported := [], queue := [p₃, p₄, p₅], delivered := true, handler := .draining,
        frames := [.phase p₁, .phase p₂] }
      ∧ (ofRun r).run late = { ofRun r with
        unreported := [], delivered := true, handler := .finished, frames := transcript r } := by
  constructor <;> simp [late, run, step, write, ofRun, transcript, h]

/-- Two units that include each other are rejected by the host tools: the compilation has gone
through all five phases by then, and three of them are in the queue when the handler takes the
outcome. Their frames are written before the final one. -/
theorem frames_of_run_late :
    let server : Server := { config := .defaults, catalog := ⟨[]⟩ }
    let r := server.run Compile.rejecting .never { files := Circle.files }
    let taken := (ofRun r).run (late.take 9)
    let s := (ofRun r).run late
    r.phases = [.declaring, .linking, .resolving, .emitting, .done]
      ∧ taken.handler = .draining ∧ taken.queue = [.resolving, .emitting, .done]
      ∧ (∀ a ∈ late, a.succeeds = true) ∧ s.AtRest ∧ s.frames = transcript r := by
  intro server r taken s
  have hphases : r.phases = [.declaring, .linking, .resolving, .emitting, .done] :=
    Compile.phases_circle []
  obtain ⟨htaken, hs⟩ := run_late hphases
  have hsucceeds : ∀ a ∈ late, a.succeeds = true := by decide
  have hrest : s.AtRest := by
    rw [show s = _ from hs]
    exact atRest_of_finished rfl rfl rfl
  refine ⟨hphases, ?_, ?_, hsucceeds, hrest,
    (frames_of_run Compile.rejecting server .never { files := Circle.files } late).2.1 hsucceeds
      hrest⟩
  · exact congrArg Session.handler htaken
  · exact congrArg Session.queue htaken

end Session

end Stencil
