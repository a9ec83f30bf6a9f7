import Stencil.Proofs.Template.DescentWalk

/-!
# Descent and walk come to the same

Where the walk puts a construct on its stack, the descent calls a function that reads what is
inside; where the walk takes it off again, that function returns. So the state of a descent and
the `Frame` around it are a state of the walk, and the two are compared by what the walk comes to
from there: `Frame.Follows` says of a run of markup that it ends, at a place where a run may end,
and that the walk comes to the same from that place as from where the run began.

That is proved for all runs at once, by the number of bytes in front of them. The parts of a
descent take for granted that the runs inside them behave (`RunsFollow`): a block (`block_eq`),
and with it loops, conditionals and their branches; an element (`element_eq`); an at sign
(`atSign_eq`). `nodes_follows` closes the circle, since a run passes at least one byte before it
comes to the next, and so does a construct before it comes to what is inside.

The walk ends on every source, so the descent does, and comes to the same document.
-/

namespace Stencil

open Bytes Fragment

namespace Descent

variable {s t u : State} {c : UInt8} {r : Bytes} {run : Runs}

/-! ## Runs of markup -/

namespace Frame

/-- What a run that stops for a reason stands in front of. -/
def Stops (f : Frame) (t : State) : Stop → Prop
  | .endOfSource => t.rest = []
  | .closingTag => f.inElement = true ∧ ∃ r, t.rest = ch '<' :: slash :: r
  | .brace => f.inBlock = true ∧ ∃ r, t.rest = rbrace :: r

/-- **A run of markup follows the walk**: it ends, and from where it ends the walk comes to the
same as from where it began, after the content `k`. -/
def Follows (f : Frame) (run : Descent (List Node × Stop)) (k : Content) (s : State) : Prop :=
  ∃ (k' : Content) (why : Stop) (t : State), run s = some ((k'.body, why), t)
    ∧ s.Precedes t ∧ (f.reader k s).finish = (f.reader k' t).finish ∧ f.Stops t why

/-- The walk leaves a construct that the end of the source leaves open. -/
theorem reader_leaveUnfinished (f : Frame) (k k' : Content) (opener : Opener) (b g : Bool)
    (s : State) :
    let l : Level := ⟨opener, b, g, k'⟩
    let (node, finding) := Reader.unfinished l s.line
    ((f.within k opener b g).reader k' s).leaveUnfinished l (f.levels k.flush)
      = f.reader (k.addNode node) (s.report finding.line finding.fault) :=
  f.reader_leave k k' opener b g _ (s.report _ _)

theorem finish_unfinished (f : Frame) (k k' : Content) (opener : Opener) (b g : Bool)
    (h : s.rest = []) :
    let (node, finding) := Reader.unfinished ⟨opener, b, g, k'⟩ s.line
    ((f.within k opener b g).reader k' s).finish
      = (f.reader (k.addNode node) (s.report finding.line finding.fault)).finish :=
  (Reader.finish_unfinished (r := (f.within k opener b g).reader k' s) h rfl).trans
    (congrArg Reader.finish (f.reader_leaveUnfinished k k' opener b g s))

theorem finish_closeBrace {g : Frame} (k : Content) (hblock : g.inBlock = true)
    (h : s.rest = rbrace :: r) : (g.reader k s).finish = (g.reader k s).closeBrace.finish := by
  have hrest : (g.reader k s).cursor.rest = rbrace :: r := h
  rw [Reader.finish_step (by rw [hrest]; exact List.cons_ne_nil _ _),
    Reader.step_closeBrace hrest (by rw [reader_inBlock, hblock])]

end Frame

/-- **The runs inside a construct follow the walk**, as long as they start with fewer than `n`
bytes in front of them. -/
def RunsFollow (run : Runs) (n : Nat) : Prop :=
  ∀ (f : Frame) (t : State), f.top = false → t.Sound → t.rest.length < n →
    f.Follows (run f.inBlock f.inElement f.foreign) {} t

theorem RunsFollow.precedes (ih : RunsFollow run s.rest.length) (h : s.Precedes t) :
    RunsFollow run t.rest.length := fun f u htop hu hlt =>
  ih f u htop hu (Nat.lt_of_lt_of_le hlt h.rest_le)

/-- A block, as it is read and as it is walked. -/
theorem block_eq (ih : RunsFollow run s.rest.length) (hs : s.Sound) (h : s.rest = lbrace :: r)
    (what : Construct) (line : Nat) (f : Frame) (k : Content) (opener : Opener)
    (hopener : (f.within k opener true f.foreign).inElement = false) :
    ∃ k' t, (s.forward 1).Precedes t
      ∧ ((f.within k opener true f.foreign).reader {} (s.forward 1)).finish
        = ((f.within k opener true f.foreign).reader k' t).finish
      ∧ ((∃ r, t.rest = rbrace :: r)
          ∧ block run what line f.foreign s = some ((k'.body, t.line, true), t.forward 1)
        ∨ t.rest = [] ∧ block run what line f.foreign s
          = some ((k'.body, t.line, false), t.report line (.blockNeverClosed what))) := by
  obtain ⟨k', why, t, hnodes, hprecedes, hfinish, hstops⟩ :=
    ih (f.within k opener true f.foreign) _ rfl (hs.forward 1) (State.forward_rest_lt h Nat.one_pos)
  have hrun : run true false f.foreign (s.forward 1) = some ((k'.body, why), t) := by
    rw [← hnodes, hopener]
    rfl
  refine ⟨k', t, hprecedes, hfinish, ?_⟩
  rw [block, bind_eq (next_eq h), blockTail, bind_eq hrun]
  cases why with
  | endOfSource => exact .inr ⟨hstops, rfl⟩
  | closingTag =>
    -- the block is not an element, so no closing tag ends the run and there is only one
    rw [Frame.Stops, hopener] at hstops
    cases hstops.1
  | brace =>
    obtain ⟨-, r, hrest⟩ := hstops
    dsimp only
    rw [bind_eq (currentLine_eq t), bind_eq (next_eq hrest)]
    exact .inl ⟨⟨r, hrest⟩, rfl⟩

/-- A block that ends its construct, whose node `node` makes of what is in it and of the line it
ends on. -/
theorem lastBlock_eq (ih : RunsFollow run s.rest.length) (hs : s.Sound) (h : s.rest = lbrace :: r)
    (what : Construct) (line : Nat) (f : Frame) (k : Content) (opener : Opener)
    (node : List Node → Nat → Node)
    (hopener : (f.within k opener true f.foreign).inElement = false)
    (hclose : ∀ k' t, ((f.within k opener true f.foreign).reader k' t).closeBrace
      = ((f.within k opener true f.foreign).reader k' (t.forward 1)).leave (f.levels k.flush)
          (node k'.body t.line))
    (hopen : ∀ k' n, Reader.unfinished ⟨opener, true, f.foreign, k'⟩ n
      = (node k'.body n, ⟨line, .blockNeverClosed what⟩)) :
    ∃ body endLine closed t, block run what line f.foreign s = some ((body, endLine, closed), t)
      ∧ (s.forward 1).Precedes t
      ∧ ((f.within k opener true f.foreign).reader {} (s.forward 1)).finish
        = (f.reader (k.addNode (node body endLine)) t).finish := by
  obtain ⟨k', t, hprecedes, hfinish, ⟨⟨r, hbrace⟩, hblock⟩ | ⟨hend, hblock⟩⟩ :=
    block_eq ih hs h what line f k opener hopener
  · refine ⟨_, _, true, _, hblock, hprecedes.forward 1, ?_⟩
    rw [hfinish, Frame.finish_closeBrace k' rfl hbrace, hclose, f.reader_leave]
  · have hunfinished := f.finish_unfinished k k' opener true f.foreign hend
    rw [hopen] at hunfinished
    exact ⟨_, _, false, _, hblock, hprecedes.report _ _, hfinish.trans hunfinished⟩

/-- **A loop.** -/
theorem loop_eq (ih : RunsFollow run s.rest.length) (hs : s.Sound) (line : Nat) (f : Frame)
    (k : Content) : ∃ n t, loop run line f.foreign s = some (n, t) ∧ s.Precedes t
      ∧ ((f.reader k s).openLoop line).finish = (f.reader (k.addNode n) t).finish := by
  have hheader := header_eq .loop line hs
  have hbrace := header_brace .loop s.rest
  unfold Reader.openLoop
  rw [loop, f.reader_cursor, State.rest_cursor]
  generalize Fragment.header .loop s.rest = scan at *
  dsimp only
  cases hfault : scan.fault with
  | some fault =>
    rw [bind_eq (hheader.trans (outcome_some _ _ hfault _))]
    refine ⟨_, _, rfl, hs.precedes_scanned _ _, ?_⟩
    dsimp only
    rw [f.reader_failedScan, f.reader_addNode]
    rfl
  | none =>
    rw [bind_eq (hheader.trans (outcome_none _ _ hfault _))]
    obtain ⟨r, hrest⟩ := hbrace hfault
    rw [← State.rest_forward] at hrest
    dsimp only
    rw [f.reader_forward, f.reader_enter, ← State.forward_forward, f.reader_foreign]
    have hscan := hs.precedes_forward scan.taken
    generalize s.forward scan.taken = s₁ at *
    generalize trim (s.rest.take scan.taken) = clause
    obtain ⟨body, endLine, closed, t, hblock, ht, hfinish⟩ :=
      lastBlock_eq (ih.precedes hscan) hscan.sound hrest .loop line f k (.loop clause line)
        (fun body endLine => .loop clause body line endLine) rfl
        (fun k' t => by rw [← Frame.reader_forward]; rfl) fun _ _ => rfl
    rw [bind_eq hblock]
    exact ⟨_, t, rfl, (hscan.forward 1).trans ht, hfinish⟩

/-- The condition of a branch, as it is read and as it is walked. -/
theorem enterBranch_eq (hs : s.Sound) (done : List Branch) (what : Construct) (line : Nat)
    (f : Frame) (k : Content) :
    (∃ t, header what line s = some (none, t) ∧ s.Precedes t
      ∧ ∀ failed, (f.reader k s).enterBranch done what line failed = failed (f.reader k t))
    ∨ ∃ cond t r, header what line s = some (some cond, t) ∧ s.Precedes t ∧ t.rest = lbrace :: r
      ∧ ∀ failed, (f.reader k s).enterBranch done what line failed
        = (f.within k (.branch done what cond line) true f.foreign).reader {}
          ((if cond.isEmpty && what = .ifBranch then t.report line .noCondition
            else t).forward 1) := by
  have hheader := header_eq what line hs
  have hbrace := header_brace what s.rest
  unfold Reader.enterBranch
  rw [f.reader_cursor, State.rest_cursor]
  generalize Fragment.header what s.rest = scan at *
  dsimp only
  cases hfault : scan.fault with
  | some fault =>
    refine .inl ⟨_, hheader.trans (outcome_some _ _ hfault _), hs.precedes_scanned _ _,
      fun failed => ?_⟩
    exact congrArg failed (f.reader_failedScan k line 0 scan s)
  | none =>
    obtain ⟨r, hrest⟩ := hbrace hfault
    rw [← State.rest_forward] at hrest
    refine .inr ⟨_, _, r, hheader.trans (outcome_none _ _ hfault _), hs.precedes_forward _, hrest,
      fun failed => ?_⟩
    dsimp only
    generalize trim (s.rest.take scan.taken) = cond
    split
    · rw [f.reader_report, ← State.forward_report, State.forward_forward, f.reader_foreign,
        ← f.reader_enter, ← f.reader_forward]
      rfl
    · rw [State.forward_forward, f.reader_foreign, ← f.reader_enter, ← f.reader_forward]
      rfl

/-- **The block of a branch** and what is walked after it: the walk looks for further branches,
or the source is over. -/
theorem branch_eq (ih : RunsFollow run s.rest.length) (hs : s.Sound) (h : s.rest = lbrace :: r)
    (done : List Branch) (what : Construct) (cond : Bytes) (line : Nat) (f : Frame) (k : Content) :
    ∃ body endLine closed t, block run what line f.foreign s = some ((body, endLine, closed), t)
      ∧ (s.forward 1).Precedes t
      ∧ ((f.within k (.branch done what cond line) true f.foreign).reader {} (s.forward 1)).finish
        = (if closed = true then
            (f.reader k.flush t).afterBranch (done ++ [.mk cond body line]) endLine
          else f.reader (k.addNode (.choice (done ++ [.mk cond body line]) [] 0 endLine))
            t).finish := by
  obtain ⟨k', t, hprecedes, hfinish, ⟨⟨r, hclose⟩, hblock⟩ | ⟨hend, hblock⟩⟩ :=
    block_eq ih hs h what line f k (.branch done what cond line) rfl
  · refine ⟨_, _, true, _, hblock, hprecedes.forward 1, ?_⟩
    rw [hfinish, Frame.finish_closeBrace k' rfl hclose, ← Frame.reader_forward]
    rfl
  · refine ⟨_, _, false, _, hblock, hprecedes.report _ _, ?_⟩
    rw [hfinish, f.finish_unfinished k k' (.branch done what cond line) true f.foreign hend]
    rfl

/-- **What follows a branch.** -/
theorem elseBranches_eq (ih : RunsFollow run s.rest.length) (hs : s.Sound) (done : List Branch)
    (endLine : Nat) (f : Frame) (k : Content) :
    ∃ n t, elseBranches run done endLine f.foreign s = some (n, t) ∧ s.Precedes t
      ∧ ((f.reader k s).afterBranch done endLine).finish
        = (f.reader (k.addNode n) t).finish := by
  -- on the bytes left, with `ih` for the markup in the blocks and `ih'` for the branches behind
  induction hn : s.rest.length using Nat.strong_induction_on generalizing s done endLine k with
  | _ n ih' =>
  have hskip := hs.reads_skip isSpace
  have hs₁ := hskip.precedes.sound
  rw [elseBranches, bind_eq (position_eq s), bind_eq (currentLine_eq s),
    bind_eq (skipWhile_eq _ s), bind_eq (ahead_eq hs₁ (Nat.zero_le _)), bind_eq (peek_eq 4 _)]
  unfold Reader.afterBranch
  simp only [f.reader_cursor, ← s.cursor_skip, List.drop_zero]
  generalize s.skip isSpace = s₁ at *
  by_cases hother : (!startsWith s₁.rest "else" || isIdentChar (s₁.cursor.peek 4)) = true
  · -- something else follows: the descent goes back, and the walk has not moved at all
    have hback := hskip.goBack hs
    rw [if_pos hother, State.rest_cursor, if_pos hother, bind_eq (goTo_eq ..)]
    refine ⟨_, _, rfl, hback.precedes, ?_⟩
    rw [← f.reader_addNode, ← f.reader_moveTo k hback]
    rfl
  rw [if_neg hother, State.rest_cursor, if_neg hother, bind_eq (currentLine_eq _),
    bind_eq (advance_eq 4 _), bind_eq (skipWhile_eq _ _)]
  have hskip₂ := hskip.precedes.sound.reads_forward 4
  have hskip₂ := hskip.trans (hskip₂.trans (hskip₂.precedes.sound.reads_skip isSpace))
  simp only [← State.cursor_forward, ← State.cursor_skip]
  generalize (s₁.forward 4).skip isSpace = s₂ at *
  have hs₂ := hskip₂.precedes.sound
  rw [bind_eq (ahead_eq hs₂ (Nat.zero_le _)), List.drop_zero, bind_eq (peek_eq 2 _),
    State.rest_cursor]
  by_cases helse : (startsWith s₂.rest "if" && !isIdentChar (s₂.cursor.peek 2)) = true
  · rw [if_pos helse, if_pos helse, bind_eq (advance_eq 2 s₂)]
    have hskip₃ := (hskip₂.trans (hs₂.reads_forward 2)).here
    rw [f.reader_moveTo k hskip₃]
    generalize s₂.forward 2 = s₃ at *
    have hs₃ := hskip₃.precedes.sound
    obtain ⟨t, hheader, hprecedes, hfailed⟩ | ⟨cond, t, r, hheader, hprecedes, hrest, henter⟩ :=
      enterBranch_eq hs₃ done .elseIfBranch s₁.line f k
    · rw [bind_eq hheader]
      refine ⟨_, t, rfl, hskip₃.precedes.trans hprecedes, ?_⟩
      rw [← f.reader_addNode]
      exact congrArg Reader.finish (hfailed _)
    · have hprecedes := hskip₃.precedes.trans hprecedes
      obtain ⟨body, endLine, closed, u, hblock, hu, hfinish⟩ :=
        branch_eq (ih.precedes hprecedes) hprecedes.sound hrest done .elseIfBranch cond s₁.line f k
      simp only [reduceCtorEq, decide_false, Bool.and_false, Bool.false_eq_true, if_false] at henter
      have hlt := State.forward_rest_lt hrest Nat.one_pos
      have hlt : u.rest.length < s.rest.length :=
        Nat.lt_of_le_of_lt hu.rest_le (Nat.lt_of_lt_of_le hlt hprecedes.rest_le)
      have hu := (hprecedes.forward 1).trans hu
      have hwalk := fun failed => (congrArg Reader.finish (henter failed)).trans hfinish
      rw [bind_eq hheader]
      dsimp only
      rw [bind_eq hblock]
      cases closed with
      | false => exact ⟨_, u, rfl, hu, hwalk _⟩
      | true =>
        obtain ⟨node, v, helse, hv, hmore⟩ := ih' _ (hn ▸ hlt) (ih.precedes hu) hu.sound
          (done ++ [.mk cond body s₁.line]) endLine k.flush rfl
        rw [Content.flush_addNode] at hmore
        refine ⟨node, v, ?_, hu.trans hv, (hwalk _).trans hmore⟩
        rw [← helse, if_pos rfl, onward_eq hlt]
  rw [if_neg helse, if_neg helse, bind_eq (peek_eq 0 _)]
  by_cases hbrace : s₂.cursor.peek 0 = lbrace
  · obtain ⟨r, hrest⟩ := rest_of_peek (by decide) hbrace
    obtain ⟨body, endLine', closed, u, hblock, hu, hfinish⟩ :=
      lastBlock_eq (ih.precedes hskip₂.precedes) hs₂ hrest .elseBranch s₁.line f k
        (.otherwise done s₁.line) (fun body endLine => .choice done body s₁.line endLine) rfl
        (fun k' t => by rw [← Frame.reader_forward]; rfl) fun _ _ => rfl
    have hreads := (hskip₂.trans (hs₂.reads_forward 1)).here
    rw [if_pos hbrace, if_pos hbrace, bind_eq hblock, f.reader_moveTo k hreads]
    refine ⟨_, u, rfl, hreads.precedes.trans hu, ?_⟩
    rw [f.reader_enter, f.reader_foreign]
    exact hfinish
  · rw [if_neg hbrace, if_neg hbrace, bind_eq (report_eq ..)]
    refine ⟨_, _, rfl, hskip₂.precedes.report _ _, ?_⟩
    rw [f.reader_moveTo k hskip₂, f.reader_report, f.reader_addNode]
    rfl

/-- **A conditional.** -/
theorem conditional_eq (ih : RunsFollow run s.rest.length) (hs : s.Sound) (line : Nat) (f : Frame)
    (k : Content) : ∃ n t, conditional run line f.foreign s = some (n, t) ∧ s.Precedes t
      ∧ ((f.reader k s).enterBranch [] .ifBranch line fun r => r.addNode (.text [] line)).finish
        = (f.reader (k.addNode n) t).finish := by
  rw [conditional]
  obtain ⟨t, hheader, hprecedes, hfailed⟩ | ⟨cond, t, r, hheader, hprecedes, hrest, henter⟩ :=
    enterBranch_eq hs [] .ifBranch line f k
  · rw [bind_eq hheader]
    refine ⟨_, t, rfl, hprecedes, ?_⟩
    rw [hfailed, f.reader_addNode]
  · have hreport : reportIf cond.isEmpty line .noCondition t = some ((),
        if cond.isEmpty then t.report line .noCondition else t) := by
      rw [reportIf]
      split <;> rfl
    have hreported : s.Precedes (if cond.isEmpty then t.report line .noCondition else t)
        ∧ (if cond.isEmpty then t.report line .noCondition else t).rest = lbrace :: r := by
      split
      · exact ⟨hprecedes.report _ _, hrest⟩
      · exact ⟨hprecedes, hrest⟩
    simp only [decide_true, Bool.and_true] at henter
    rw [bind_eq hheader]
    dsimp only
    rw [bind_eq hreport, henter]
    generalize (if cond.isEmpty then t.report line .noCondition else t) = t₁ at *
    obtain ⟨hprecedes, hrest⟩ := hreported
    obtain ⟨body, endLine, closed, u, hblock, hu, hfinish⟩ :=
      branch_eq (ih.precedes hprecedes) hprecedes.sound hrest [] .ifBranch cond line f k
    have hu := (hprecedes.forward 1).trans hu
    rw [bind_eq hblock, hfinish]
    cases closed with
    | false => exact ⟨_, u, rfl, hu, rfl⟩
    | true =>
      obtain ⟨node, v, helse, hv, hmore⟩ :=
        elseBranches_eq (ih.precedes hu) hu.sound [.mk cond body line] endLine f k.flush
      rw [Content.flush_addNode] at hmore
      exact ⟨node, v, helse, hu.trans hv, hmore⟩

/-- An element that is left without its closing tag. -/
theorem Frame.finish_element {k' : Content} {tag : Bytes} {attrs : List Attr} {line : Nat}
    (f : Frame) (k : Content) (g : Bool) (why : Stop) (hwhy : why ≠ .closingTag)
    (hstops : (f.within k (.element tag attrs line) f.inBlock g).Stops s why) :
    ((f.within k (.element tag attrs line) f.inBlock g).reader k' s).finish
      = (f.reader (k.addNode (.element tag attrs k'.body false line line))
          (s.report line (.unclosedElement tag))).finish := by
  cases why with
  | endOfSource => exact f.finish_unfinished k k' (.element tag attrs line) f.inBlock g hstops
  | closingTag => exact absurd rfl hwhy
  | brace =>
    obtain ⟨hblock, r, hrest⟩ := hstops
    rw [Frame.finish_closeBrace k' hblock hrest]
    exact congrArg Reader.finish
      (f.reader_leaveUnfinished k k' (.element tag attrs line) f.inBlock g s)

/-- An element that its closing tag ends. -/
theorem Frame.finish_closingTag {k' : Content} {tag : Bytes} {attrs : List Attr} {line : Nat}
    (f : Frame) (k : Content) (g : Bool) (hrest : s.rest = ch '<' :: slash :: r)
    (hreads : s.Reads t (closeTag s.cursor).2 []) :
    ((f.within k (.element tag attrs line) f.inBlock g).reader k' s).finish
      = (f.reader (k.addNode (.element tag attrs k'.body false line s.line))
          (if (closeTag s.cursor).1 ≠ tag then
            t.report s.line (.mismatchedClose (closeTag s.cursor).1 tag line) else t)).finish := by
  have hmark : ((f.within k (.element tag attrs line) f.inBlock g).reader k' s).cursor.rest
      = ch '<' :: slash :: r := hrest
  have hstep : ((f.within k (.element tag attrs line) f.inBlock g).reader k' s).closingTag
      = Reader.leave (f.levels k.flush) (.element tag attrs k'.body false line s.line)
        (if (closeTag s.cursor).1 ≠ tag then
          Reader.report s.line (.mismatchedClose (closeTag s.cursor).1 tag line)
            (Reader.moveTo (closeTag s.cursor).2
              ((f.within k (.element tag attrs line) f.inBlock g).reader k' s))
        else Reader.moveTo (closeTag s.cursor).2
          ((f.within k (.element tag attrs line) f.inBlock g).reader k' s)) := rfl
  rw [Reader.finish_step (by rw [hmark]; exact List.cons_ne_nil _ _),
    Reader.step_closingTag hmark, hstep, Frame.reader_moveTo _ _ hreads]
  split
  · rw [Frame.reader_report, Frame.reader_leave]
  · rw [Frame.reader_leave]

/-- Reading on past a name that may be unknown. -/
theorem Frame.reader_warned (f : Frame) (k : Content) (unknown : Bool) {line : Nat} {fault : Fault}
    {c : Cursor} {found : List Finding}
    (h : s.Reads t c ((if unknown = true then [⟨line, fault⟩] else []) ++ found)) :
    let warned := if unknown = true then (f.reader k s).report line fault else f.reader k s
    { warned with cursor := c, findings := found.reverse ++ warned.findings } = f.reader k t := by
  rw [← f.reader_reads k h]
  cases unknown with
  | false => rfl
  | true =>
    rw [List.reverse_append, List.append_assoc]
    rfl

/-- **The content of an element.** -/
theorem content_eq (ih : RunsFollow run s.rest.length) (hs : t.Sound)
    (hlt : t.rest.length < s.rest.length) (tag : Bytes) (attrs : List Attr) (line : Nat)
    (foreign : Bool) (f : Frame) (k : Content) :
    ∃ n u, content run tag attrs line f.inBlock foreign t = some (n, u) ∧ t.Precedes u
      ∧ ((f.within k (.element tag attrs line) f.inBlock foreign).reader {} t).finish
        = (f.reader (k.addNode n) u).finish := by
  obtain ⟨k', why, u, hnodes, hu, hfinish, hstops⟩ :=
    ih (f.within k (.element tag attrs line) f.inBlock foreign) t rfl hs hlt
  have hrun : run f.inBlock true foreign t = some ((k'.body, why), u) := hnodes
  rw [content, bind_eq hrun]
  dsimp only
  by_cases hwhy : why = .closingTag
  · subst hwhy
    obtain ⟨-, r, hrest⟩ := hstops
    obtain ⟨v, hname, hreads⟩ := closingName_eq hu.sound
    have hv := hreads.reportIf (decide ((closeTag u.cursor).1 ≠ tag)) u.line
      (.mismatchedClose (closeTag u.cursor).1 tag line)
    rw [if_pos rfl, bind_eq (currentLine_eq u), bind_eq hname, bind_eq (reportIf_eq ..)]
    refine ⟨_, _, rfl, hu.trans hv.precedes, ?_⟩
    refine hfinish.trans ((f.finish_closingTag k _ hrest hreads).trans ?_)
    simp only [decide_eq_true_eq]
  · rw [if_neg hwhy, bind_eq (report_eq ..)]
    exact ⟨_, _, rfl, hu.report _ _, hfinish.trans (f.finish_element k _ why hwhy hstops)⟩

/-- **An element.** -/
theorem element_eq (ih : RunsFollow run s.rest.length) (hs : s.Sound) (h : s.rest = c :: r)
    (f : Frame) (k : Content) :
    ∃ n t, element run f.inBlock f.foreign s = some (n, t) ∧ (s.forward 1).Precedes t
      ∧ ((f.reader k s).openTag).finish = (f.reader (k.addNode n) t).finish := by
  have hopen := hs.reads_forward 1
  have hs₁ := hopen.precedes.sound
  have hname := hs₁.reads_skip ElementName.isTagByte
  unfold Reader.openTag
  dsimp only
  rw [f.reader_cursor, State.rest_cursor, s.cursor_word, element, bind_eq (currentLine_eq s),
    bind_eq (next_eq h), bind_eq (takeWhile_eq hs₁ _), State.rest_forward]
  generalize (s.rest.drop 1).takeWhile ElementName.isTagByte = tag at *
  generalize (s.forward 1).skip ElementName.isTagByte = s₂ at *
  rw [f.reader_foreign, f.reader_inBlock]
  generalize (!ElementName.isComponent tag && !f.foreign && !ElementName.isKnown tag) = unknown
  have hwarned := hname.reportIf unknown s.line (.unknownElement tag)
  obtain ⟨t, hattributes, hattrs⟩ := attributes_eq hwarned.precedes.sound tag
  rw [bind_eq (reportIf_eq ..), bind_eq hattributes]
  -- a report does not move, so the attributes are those behind the name
  rw [hwarned.cursor] at *
  have hbehind := hwarned.trans hattrs
  have hreads := hopen.trans hbehind
  simp only [List.nil_append] at hreads
  generalize tagRest tag s₂.cursor = rest at *
  have hreader := f.reader_warned k unknown hreads
  dsimp only at hreader ⊢
  rw [State.line_cursor, hreader]
  cases rest.ending with
  | endOfSource =>
    refine ⟨_, _, rfl, hbehind.precedes.report _ _, ?_⟩
    dsimp only
    rw [f.reader_report, f.reader_addNode]
  | selfClosed =>
    refine ⟨_, t, rfl, hbehind.precedes, ?_⟩
    dsimp only
    rw [f.reader_addNode]
  | opened =>
    dsimp only
    by_cases hvoid : ElementName.isVoid tag = true
    · rw [if_pos hvoid, if_pos hvoid, f.reader_addNode]
      exact ⟨_, t, rfl, hbehind.precedes, rfl⟩
    have hlt : t.rest.length < s.rest.length :=
      Nat.lt_of_le_of_lt hbehind.precedes.rest_le (State.forward_rest_lt h Nat.one_pos)
    obtain ⟨n, u, hcontent, hu, hfinish⟩ := content_eq ih hbehind.precedes.sound hlt tag rest.attrs
      s.line (f.foreign || ElementName.isForeign tag) f k
    rw [if_neg hvoid, if_neg hvoid, f.reader_enter]
    exact ⟨n, u, hcontent, hbehind.precedes.trans hu, hfinish⟩

/-! ## At signs -/

theorem behindName_eq (hs : s.Sound) : behindName s = some (isIdentChar s.cursor.before, s) := by
  rw [behindName, bind_eq (position_eq s), State.cursor]
  by_cases hpos : s.pos = 0
  · rw [if_pos hpos, hpos, List.take_zero]
    rfl
  · have hbefore : s.src[s.pos - 1]? = some ((s.src.take s.pos).getLastD 0) := by
      have hlt : s.pos - 1 < s.src.length := by
        have := hs.here.1
        omega
      rw [List.getLastD_eq_getLast?, List.getLast?_take, if_neg hpos,
        List.getElem?_eq_getElem hlt]
      rfl
    have hbyte : byteBefore s = some ((s.src.take s.pos).getLastD 0, s) := by
      rw [byteBefore, if_neg hpos, hbefore]
      rfl
    rw [if_neg hpos, bind_eq hbyte]
    rfl

/-- A scan that begins further on. -/
theorem failedScan_moveTo (r : Reader) (line n : Nat) (scan : Scan) :
    (r.moveTo (r.cursor.advance n)).failedScan line 0 scan = r.failedScan line n scan := by
  unfold Reader.failedScan
  rw [Reader.moveTo_cursor, Cursor.advance_advance]
  rfl

/-- **A comment.** -/
theorem comment_eq (hs : s.Sound) (h : s.rest = ch '@' :: c :: r) (line : Nat) :
    ∃ t, comment line s = some ((), t) ∧ (s.forward 1).Precedes t ∧ ∀ (f : Frame) (k : Content),
      (f.reader k s).comment line = f.reader k t := by
  have htwo : (s.forward 2).rest = s.rest.drop 2 := s.rest_forward 2
  unfold Reader.comment
  rw [comment, bind_eq (advance_eq 2 s), bind_eq (ahead_eq (hs.forward 2) (Nat.zero_le _)),
    List.drop_zero, htwo]
  simp only [Frame.reader_cursor, State.rest_cursor]
  cases indexOf? "*@" (s.rest.drop 2) with
  | none =>
    have hlength : s.rest.length = 2 + (s.forward 2).rest.length := by
      rw [htwo, h]
      exact Nat.add_comm _ 2
    dsimp only
    rw [bind_eq (report_eq ..), advanceToEnd_eq, State.forward_report, State.rest_report,
      State.forward_forward, ← hlength]
    refine ⟨_, rfl, (hs.precedes_further (by omega)).report _ _, fun f k => ?_⟩
    rw [f.reader_forward, f.reader_report]
  | some n =>
    dsimp only
    rw [advance_eq, State.forward_forward, Nat.add_comm 2]
    exact ⟨_, rfl, hs.precedes_further (by omega), fun f k => f.reader_forward ..⟩

/-- **An expression in parentheses.** -/
theorem groupExpression_eq {b : UInt8} (hs : s.Sound) (h : s.rest = b :: c :: r) (line : Nat) :
    ∃ found t, groupExpression line (s.forward 1) = some (found, t) ∧ (s.forward 1).Precedes t
      ∧ ∀ (f : Frame) (k : Content),
        (f.reader k s).groupExpression line = f.reader (found.addTo t.line k) t := by
  have hrest : (s.forward 1).rest = c :: r := State.rest_forward_of h 1
  have hs₁ := hs.forward 1
  unfold Reader.groupExpression
  rw [groupExpression]
  simp only [Frame.reader_cursor, State.rest_cursor, h, List.drop_succ_cons, List.drop_zero]
  cases hfault : (Fragment.group .expression (c :: r)).fault with
  | some fault =>
    obtain ⟨inner, hinner, -⟩ := Option.map_eq_some_iff.1 hfault
    rw [bind_eq (group_none hrest hs₁ hinner line).1]
    refine ⟨.nothing, _, rfl, hs₁.precedes_scanned _ _, fun f k => ?_⟩
    exact f.reader_failedScan ..
  | none =>
    have hgroup := group_eq hrest hs₁ .expression
    rw [bind_eq (hgroup.trans (outcome_none _ _ hfault _))]
    refine ⟨_, _, rfl, hs₁.precedes_forward _, fun f k => ?_⟩
    rw [f.reader_forward, f.reader_addNode, State.forward_forward]
    rfl

/-- **An expression**, read from a state `t` behind the at sign. -/
theorem expression_eq (h : s.Reads t (s.cursor.advance 1) []) (line : Nat) :
    ∃ found u, expression line t = some (found, u) ∧ t.Precedes u
      ∧ ∀ (f : Frame) (k : Content),
        (f.reader k s).expression line = f.reader (found.addTo u.line k) u := by
  have ht := h.precedes.sound
  have hrest : t.rest = s.rest.drop 1 := congrArg Cursor.rest h.cursor
  have hchain := chain_eq ht line
  unfold Reader.expression
  rw [expression]
  simp only [Frame.reader_cursor, State.rest_cursor, ← hrest]
  generalize Fragment.chain t.rest = scan at *
  cases hfault : scan.fault with
  | some fault =>
    rw [bind_eq (hchain.trans (outcome_some _ _ hfault _))]
    refine ⟨.nothing, _, rfl, ht.precedes_scanned _ _, fun f k => ?_⟩
    dsimp only
    rw [← failedScan_moveTo, f.reader_cursor, f.reader_moveTo k h, f.reader_failedScan]
    rfl
  | none =>
    have hbehind := h.trans (ht.reads_forward scan.taken)
    rw [h.cursor, Cursor.advance_advance] at hbehind
    rw [bind_eq (hchain.trans (outcome_none _ _ hfault _))]
    refine ⟨_, _, rfl, ht.precedes_forward _, fun f k => ?_⟩
    dsimp only
    rw [f.reader_moveTo k hbehind, f.reader_addNode]
    rfl

/-- **The construct that a word starts.** -/
theorem keyword_eq (ih : RunsFollow run (s.forward 1).rest.length) (hs : s.Sound) (line : Nat)
    (f : Frame) (k : Content) :
    ∃ found t, keyword run f.top f.foreign line (s.forward 1) = some (found, t)
      ∧ (s.forward 1).Precedes t
      ∧ ((f.reader k s).keyword ((s.rest.drop 1).takeWhile isIdentChar) line).finish
        = (f.reader (found.addTo t.line k) t).finish := by
  have hat := hs.reads_forward 1
  have hs₁ := hat.precedes.sound
  have hword := hs₁.reads_skip isIdentChar
  have hback := hat.trans (hword.goBack hs₁)
  rw [s.cursor_forward] at hback
  have hreader := f.reader_moveTo k ((hat.trans hword).here)
  unfold Reader.keyword
  dsimp only
  rw [keyword, bind_eq (position_eq _), bind_eq (currentLine_eq _), bind_eq (takeWhile_eq hs₁ _),
    State.rest_forward, f.reader_cursor, s.cursor_word, hreader]
  generalize (s.rest.drop 1).takeWhile isIdentChar = word at *
  have hs₂ := hword.precedes.sound
  generalize (s.forward 1).skip isIdentChar = s₂ at *
  by_cases hif : word = "if"
  · obtain ⟨n, t, hrun, ht, hwalk⟩ := conditional_eq (ih.precedes hword.precedes) hs₂ line f k
    rw [if_pos hif, if_pos hif, bind_eq hrun]
    exact ⟨.node n, t, rfl, hword.precedes.trans ht, hwalk⟩
  rw [if_neg hif, if_neg hif]
  by_cases hfor : word = "for"
  · obtain ⟨n, t, hrun, ht, hwalk⟩ := loop_eq (ih.precedes hword.precedes) hs₂ line f k
    rw [if_pos hfor, if_pos hfor, bind_eq hrun]
    exact ⟨.node n, t, rfl, hword.precedes.trans ht, hwalk⟩
  rw [if_neg hfor, if_neg hfor]
  by_cases hinclude : word = "include"
  · obtain ⟨n, t, hrun, ht, hwalk⟩ := splice_eq hs₂ line
    rw [if_pos hinclude, if_pos hinclude, bind_eq hrun]
    exact ⟨.node n, t, rfl, hword.precedes.trans ht, congrArg Reader.finish (hwalk f k)⟩
  rw [if_neg hinclude, if_neg hinclude]
  by_cases helse : word = "else"
  · rw [if_pos helse, if_pos helse, bind_eq (report_eq ..)]
    exact ⟨.nothing, _, rfl, hword.precedes.report _ _, rfl⟩
  rw [if_neg helse, if_neg helse]
  cases DirectiveWord.ofName? word with
  | none => 
    obtain ⟨found, t, hrun, ht, hwalk⟩ := expression_eq hback line
    dsimp only
    rw [bind_eq (goTo_eq ..)]
    exact ⟨found, t, hrun, (hword.goBack hs₁).precedes.trans ht, congrArg Reader.finish (hwalk f k)⟩
  | some d =>
    cases f with
    | outside =>
      obtain ⟨t, hrun, ht, hwalk⟩ := directive_eq hs₂ d line
      have htop : Frame.outside.top = true := rfl
      dsimp only
      rw [if_pos htop, bind_eq hrun]
      exact ⟨.nothing, t, rfl, hword.precedes.trans ht, congrArg Reader.finish (hwalk .outside k)⟩
    | inside opener inBlock foreign outer base =>
      have hline := hs₂.reads_forward (s₂.cursor.restOfLine.1.length + 1)
      have hreported := hline.report line (.misplacedDirective word)
      have htop : ¬ (Frame.inside opener inBlock foreign outer base).top = true :=
        Bool.false_ne_true
      dsimp only
      rw [if_neg htop, bind_eq (report_eq ..),
        bind_eq (restOfLine_eq (hs₂.report ..)), State.forward_report]
      refine ⟨.nothing, _, rfl, hword.precedes.trans hreported.precedes, ?_⟩
      exact congrArg Reader.finish (congrArg (Reader.report line (.misplacedDirective word))
        (Frame.reader_moveTo (.inside opener inBlock foreign outer base) k hline))

/-- **The at sign at the position.** -/
theorem atSign_eq (ih : RunsFollow run s.rest.length) (hs : s.Sound) (h : s.rest = ch '@' :: r)
    (f : Frame) (k : Content) :
    ∃ found t, atSign run f.top f.foreign s = some (found, t) ∧ (s.forward 1).Precedes t
      ∧ (f.reader k s).atSign.finish = (f.reader (found.addTo t.line k) t).finish := by
  have hone := hs.precedes_forward 1
  have htext : ∀ n, (f.reader k s).moveTo (s.cursor.advance n) = f.reader k (s.forward n) :=
    fun n => f.reader_forward k n s
  unfold Reader.atSign
  dsimp only
  rw [atSign, bind_eq (currentLine_eq s), bind_eq (peek_eq 1 s), f.reader_cursor]
  by_cases hat : s.cursor.peek 1 = ch '@'
  · rw [if_pos hat, if_pos hat, bind_eq (advance_eq 2 s), htext, f.reader_addText]
    exact ⟨.text [ch '@'], _, rfl, hs.precedes_further (by omega), rfl⟩
  rw [if_neg hat, if_neg hat]
  by_cases hcomment : s.cursor.peek 1 = ch '*'
  · obtain ⟨r, rfl⟩ : ∃ r', r = ch '*' :: r' := by
      rwa [State.peek_one h, headD_eq_iff (by decide), List.head?_eq_some_iff] at hcomment
    obtain ⟨t, hrun, ht, hwalk⟩ := comment_eq hs h s.line
    rw [if_pos hcomment, if_pos hcomment, bind_eq hrun]
    exact ⟨.nothing, t, rfl, ht, congrArg Reader.finish (hwalk f k)⟩
  rw [if_neg hcomment, if_neg hcomment, bind_eq (behindName_eq hs)]
  by_cases hbehind : isIdentChar s.cursor.before = true
  · rw [if_pos hbehind, if_pos hbehind, bind_eq (next_eq h), htext, f.reader_addText]
    exact ⟨.text [ch '@'], _, rfl, .refl (hs.forward 1), rfl⟩
  rw [if_neg hbehind, if_neg hbehind]
  by_cases hgroup : s.cursor.peek 1 = ch '('
  · obtain ⟨r, rfl⟩ : ∃ r', r = ch '(' :: r' := by
      rwa [State.peek_one h, headD_eq_iff (by decide), List.head?_eq_some_iff] at hgroup
    obtain ⟨found, t, hrun, ht, hwalk⟩ := groupExpression_eq hs h s.line
    rw [if_pos hgroup, if_pos hgroup, bind_eq (next_eq h), hrun]
    exact ⟨found, t, rfl, ht, congrArg Reader.finish (hwalk f k)⟩
  rw [if_neg hgroup, if_neg hgroup]
  by_cases hname : isIdentStart (s.cursor.peek 1) = true
  · obtain ⟨found, t, hrun, ht, hwalk⟩ := keyword_eq (ih.precedes hone) hs s.line f k
    rw [if_pos hname, if_pos hname, bind_eq (next_eq h), hrun]
    exact ⟨found, t, rfl, ht, hwalk⟩
  · rw [if_neg hname, if_neg hname, bind_eq (next_eq h), htext, f.reader_addText]
    exact ⟨.text [ch '@'], _, rfl, .refl (hs.forward 1), rfl⟩

/-! ## The whole source -/

/-- The runs of markup inside a construct that starts at a state. -/
def nested (s : State) : Runs := fun block inElement foreign =>
  onward s fun t _ => nodes false block inElement foreign {} t

/-- What a run of markup does at a byte. -/
theorem nodes_cons (h : s.rest = c :: r) (top block inElement foreign : Bool) (k : Content) :
    nodes top block inElement foreign k s
      = (if c = ch '<' ∧ r.headD 0 = slash then
          if inElement = true then pure (k.body, Stop.closingTag)
          else do
            unexpectedClose
            onward s fun t _ => nodes top block inElement foreign k.flush t
        else if c = ch '<' ∧ isIdentStart (r.headD 0) = true then do
          let n ← element (nested s) block foreign
          onward s fun t _ => nodes top block inElement foreign (k.addNode n) t
        else if c = rbrace ∧ block = true then pure (k.body, Stop.brace)
        else if c = ch '@' then do
          let found ← atSign (nested s) top foreign
          let line ← currentLine
          onward s fun t _ => nodes top block inElement foreign (found.addTo line k) t
        else do
          let line ← currentLine
          next
          onward s fun t _ =>
            nodes top block inElement foreign (k.addText line (Utf8.encode c.toNat)) t) s := by
  conv_lhs => rw [nodes.eq_def]
  dsimp only
  rw [ifAtEnd_cons h, bind_eq (byte_eq h), bind_eq (peek_one h)]
  by_cases hclose : c = ch '<' ∧ r.headD 0 = slash
  · rw [if_pos hclose, if_pos hclose]
  · rw [if_neg hclose, if_neg hclose, bind_eq (peek_one h)]
    rfl

/-- What the walk does at a byte. -/
theorem Frame.step_cons (h : s.rest = c :: r) (f : Frame) (k : Content) :
    (f.reader k s).step = if c = ch '<' ∧ r.headD 0 = slash then (f.reader k s).closingTag
      else if c = ch '<' ∧ isIdentStart (r.headD 0) = true then (f.reader k s).openTag
      else if c = rbrace ∧ f.inBlock = true then (f.reader k s).closeBrace
      else if c = ch '@' then (f.reader k s).atSign
      else f.reader (k.addText s.line (Utf8.encode c.toNat)) (s.forward 1) := by
  unfold Reader.step
  dsimp only
  rw [f.reader_inBlock, f.reader_cursor, Cursor.peek_zero (c := s.cursor) h, State.peek_one h,
    f.reader_addText, f.reader_forward]

/-- The walk passes a closing tag where no element is open. -/
theorem Frame.reader_closingTag (f : Frame) (k : Content) (hf : f.inElement = false)
    (h : s.Reads t (closeTag s.cursor).2 []) : (f.reader k s).closingTag
      = f.reader k.flush (t.report s.line (.unexpectedClose (closeTag s.cursor).1)) := by
  have hstray : (f.reader k s).closingTag = (f.reader k s).strayClose := by
    cases f with
    | outside => rfl
    | inside opener => cases opener <;> first | rfl | cases hf
  rw [hstray, Reader.strayClose, f.reader_cursor]
  dsimp only
  rw [f.reader_moveTo k h, f.reader_mapContent, f.reader_report]
  rfl

/-- A run goes on after one step of the walk. -/
theorem Frame.Follows.of_step {f : Frame} {x y : Descent (List Node × Stop)} {k k' : Content}
    (h : f.Follows y k' t) (hrest : s.rest = c :: r) (hrun : x s = y t) (ht : s.Precedes t)
    (hwalk : (f.reader k s).step.finish = (f.reader k' t).finish) : f.Follows x k s := by
  obtain ⟨k'', why, u, hy, hu, hfinish, hstops⟩ := h
  have hmark : (f.reader k s).cursor.rest ≠ [] := by
    rw [f.reader_cursor, State.rest_cursor, hrest]
    exact List.cons_ne_nil _ _
  exact ⟨k'', why, u, hrun.trans hy, ht.trans hu,
    (Reader.finish_step hmark).trans (hwalk.trans hfinish), hstops⟩

/-- **Every run of markup follows the walk.** -/
theorem nodes_follows (f : Frame) (k : Content) (hs : s.Sound) :
    f.Follows (nodes f.top f.inBlock f.inElement f.foreign k) k s := by
  induction hn : s.rest.length using Nat.strong_induction_on generalizing f s k with
  | _ n ih' =>
  cases hrest : s.rest with
  | nil =>
    refine ⟨k, .endOfSource, s, ?_, .refl hs, rfl, hrest⟩
    rw [nodes.eq_def]
    dsimp only
    rw [ifAtEnd_nil hrest]
    rfl
  | cons c r =>
    have ih : RunsFollow (nested s) s.rest.length := fun f t htop ht hlt => by
      obtain ⟨k', why, u, hrun, hfollows⟩ := ih' _ (hn ▸ hlt) f {} ht rfl
      rw [htop] at hrun
      exact ⟨k', why, u, (onward_eq hlt).trans hrun, hfollows⟩
    -- after a step that passed at least one byte the run goes on as it began
    have hon : ∀ {k' : Content} {t : State}, s.Precedes t → t.rest.length < s.rest.length →
        nodes f.top f.inBlock f.inElement f.foreign k s
          = onward s (fun t _ => nodes f.top f.inBlock f.inElement f.foreign k' t) t →
        (f.reader k s).step.finish = (f.reader k' t).finish →
        f.Follows (nodes f.top f.inBlock f.inElement f.foreign k) k s :=
      fun ht hlt hrun hwalk => (ih' _ (hn ▸ hlt) f _ ht.sound rfl).of_step hrest
        (hrun.trans (onward_eq hlt)) ht hwalk
    have hfirst := hs.precedes_forward 1
    have hlt : ∀ {t : State}, (s.forward 1).Precedes t → t.rest.length < s.rest.length :=
      fun ht => Nat.lt_of_le_of_lt ht.rest_le (State.forward_rest_lt hrest Nat.one_pos)
    have hnodes := nodes_cons hrest f.top f.inBlock f.inElement f.foreign k
    have hstep := f.step_cons hrest k
    by_cases hclose : c = ch '<' ∧ r.headD 0 = slash
    · rw [if_pos hclose] at hnodes hstep
      by_cases hinside : f.inElement = true
      · obtain ⟨rfl, hslash⟩ := hclose
        obtain ⟨r, rfl⟩ := List.head?_eq_some_iff.1 ((headD_eq_iff (by decide) r).1 hslash)
        rw [if_pos hinside] at hnodes
        exact ⟨k, .closingTag, s, hnodes, .refl hs, rfl, hinside, r, hrest⟩
      · obtain ⟨t, hrun, hreads⟩ := unexpectedClose_eq hs
        have hshorter : (closeTag s.cursor).2.rest.length < s.cursor.rest.length :=
          closeTag_lt (by rw [State.rest_cursor, hrest]; exact List.cons_ne_nil _ _)
        have ht := hreads.precedes.report s.line (.unexpectedClose (closeTag s.cursor).1)
        rw [← hreads.cursor] at hshorter
        rw [if_neg hinside, bind_eq hrun] at hnodes
        rw [f.reader_closingTag k (Bool.eq_false_iff.2 hinside) hreads] at hstep
        exact hon ht hshorter hnodes (congrArg Reader.finish hstep)
    rw [if_neg hclose] at hnodes hstep
    by_cases hopen : c = ch '<' ∧ isIdentStart (r.headD 0) = true
    · obtain ⟨node, t, hrun, ht, hwalk⟩ := element_eq ih hs hrest f k
      rw [if_pos hopen] at hnodes hstep
      rw [bind_eq hrun] at hnodes
      exact hon (hfirst.trans ht) (hlt ht) hnodes (hstep ▸ hwalk)
    rw [if_neg hopen] at hnodes hstep
    by_cases hbrace : c = rbrace ∧ f.inBlock = true
    · rw [if_pos hbrace] at hnodes
      exact ⟨k, .brace, s, hnodes, .refl hs, rfl, hbrace.2, r, hbrace.1 ▸ hrest⟩
    rw [if_neg hbrace] at hnodes hstep
    by_cases hat : c = ch '@'
    · obtain ⟨found, t, hrun, ht, hwalk⟩ := atSign_eq ih hs (hat ▸ hrest) f k
      rw [if_pos hat] at hnodes hstep
      rw [bind_eq hrun, bind_eq (currentLine_eq t)] at hnodes
      exact hon (hfirst.trans ht) (hlt ht) hnodes (hstep ▸ hwalk)
    · rw [if_neg hat] at hnodes hstep
      rw [bind_eq (currentLine_eq s), bind_eq (next_eq hrest)] at hnodes
      exact hon hfirst (hlt (.refl hfirst.sound)) hnodes (congrArg Reader.finish hstep)

theorem Frame.reader_outside (src : Bytes) :
    Frame.outside.reader {} { src } = Reader.start src :=
  rfl

/-- **Every source is read to its end.** The run of markup that starts at the first byte has a
result, so whatever is called on the way ends, since it moved on each time it went round, and reads
nothing that is not in the source. The run ends behind the last byte, which makes it the only one;
and wherever the descent has been, be it on the way back, the position was in the source and the
line was one more than there are line feeds in front of it. The document is that of the walk.

Wherever else a run starts it ends as well, in front of a closing tag only if it is directly inside
an element, and in front of a brace only if it is inside a block. -/
theorem reads_every_source (src : Bytes) :
    (∃ body s, nodes true false false false {} { src } = some ((body, .endOfSource), s)
      ∧ read src = some (Document.read src, s)
      ∧ Document.read src = ({ s.document with body }, s.findings.reverse)
      ∧ s.src = src ∧ s.pos = src.length ∧ s.Sound)
    ∧ ∀ (block inElement foreign : Bool) (k : Content) (s : State), s.src = src → s.Sound →
      ∃ body why t, nodes false block inElement foreign k s = some ((body, why), t)
        ∧ t.src = src ∧ s.pos ≤ t.pos ∧ s.trail <:+ t.trail ∧ t.Sound
        ∧ (inElement = false → why ≠ .closingTag) ∧ (block = false → why ≠ .brace) := by
  constructor
  · obtain ⟨k, why, s, hrun, hprecedes, hfinish, hstops⟩ :=
      nodes_follows .outside {} (State.sound_start src)
    cases why with
    | closingTag => cases hstops.1
    | brace => cases hstops.1
    | endOfSource =>
      have hend : (Frame.outside.reader k s).cursor.rest = [] := hstops
      have hread : Document.read src
          = ({ s.document with body := k.body }, s.findings.reverse) := by
        have hwalk : (Reader.start src).run.leaveAll = Frame.outside.reader k s := by
          rw [Frame.reader_outside, Reader.finish_end hend, Reader.leaveAll_nil rfl] at hfinish
          exact hfinish
        rw [Document.read, hwalk]
        rfl
      have hpos : s.pos = src.length := by
        have hlast := State.rest_eq_nil_iff.1 hstops
        have hfirst := hprecedes.sound.here.1
        rw [hprecedes.src] at hlast hfirst
        exact Nat.le_antisymm hfirst hlast
      change nodes true false false false {} { src } = some ((k.body, .endOfSource), s) at hrun
      refine ⟨k.body, s, hrun, ?_, hread, hprecedes.src, hpos, hprecedes.sound⟩
      rw [hread, read, wholeBody, bind_eq hrun]
      rfl
  · intro block inElement foreign k s hsrc hs
    obtain ⟨f, hf⟩ : ∃ f : Frame, f.top = false ∧ f.inBlock = block ∧ f.inElement = inElement
        ∧ f.foreign = foreign := by
      cases inElement with
      | false => exact ⟨.inside (.loop [] 0) block foreign [] {}, rfl, rfl, rfl, rfl⟩
      | true => exact ⟨.inside (.element [] [] 0) block foreign [] {}, rfl, rfl, rfl, rfl⟩
    obtain ⟨htop, rfl, rfl, rfl⟩ := hf
    obtain ⟨k', why, t, hrun, hprecedes, -, hstops⟩ := nodes_follows f k hs
    rw [htop] at hrun
    refine ⟨k'.body, why, t, hrun, hprecedes.src.trans hsrc, hprecedes.pos, hprecedes.trail,
      hprecedes.sound, ?_, ?_⟩
    · rintro hinside rfl
      exact Bool.false_ne_true (hinside.symm.trans hstops.1)
    · rintro hblock rfl
      exact Bool.false_ne_true (hblock.symm.trans hstops.1)

end Descent

end Stencil
