import Stencil.Proofs.Template.Descent
import Stencil.Proofs.Template.Enclosed
import Stencil.Proofs.Template.PrintedTag

/-!
# Scanning in a descent

What `Fragment` and `tagRest` say of the rest of a source, the descent does at a position in it.
Each of its functions has a twin there, and each theorem says of a sound state what the function
comes to: the twin's result, and the state as far on as the twin took bytes, with the fault that
the twin reports.

A scan that fails may report the line of the construct it belongs to or a line of its own
(`State.scanned`), and the text of one that succeeds is cut out of the source between two
positions, where the twin takes it from the front of what is left (`outcome`). Behind the
attributes of a tag many lines may have been reported; `State.Reads` keeps account of them, of the
position, and of the document, which no scan changes.
-/

namespace Stencil.Descent

open Bytes Fragment

variable {s t u : State} {c : UInt8} {r : Bytes}

/-! ## Code fragments -/

/-- The state behind a literal, given whether it is closed and how much of it there is. -/
def State.pastLiteral (line : Nat) (scan : Bool × Nat) (s : State) : State :=
  if scan.1 then s.forward scan.2 else (s.forward scan.2).report line .unterminatedString

/-- A literal behind some bytes is one that begins further on. -/
theorem State.pastLiteral_forward (line m : Nat) (scan : Bool × Nat) (s : State) :
    (s.forward m).pastLiteral line scan = s.pastLiteral line (scan.1, m + scan.2) := by
  rw [pastLiteral, pastLiteral, forward_forward]

/-- **Behind an opening quote**, the descent goes as far as the literal does and says whether it is
closed. By induction along the literal, with a step for an escape and for each other byte. -/
theorem literalTail_eq (q : UInt8) (line : Nat) (s : State) : literalTail q line s
    = some ((Fragment.literal q s.rest).1, s.pastLiteral line (Fragment.literal q s.rest)) := by
  generalize hr : s.rest = r
  fun_induction Fragment.literal q r generalizing s with
  | case1 =>
    rw [literalTail.eq_def, ifAtEnd_nil hr]
    rfl
  | case2 c hc =>
    -- a backslash is the last byte: passing two bytes passes one
    have hrest : (s.forward 2).rest = [] := State.rest_forward_of hr 2
    have hend : s.forward 2 = s.forward 1 := by
      rw [← State.forward_forward 1 1, State.forward_nil (State.rest_forward_of hr 1)]
    rw [literalTail.eq_def, ifAtEnd_cons hr, bind_eq (byte_eq hr), if_pos hc,
      bind_eq (advance_eq 2 s),
      onward_forward hr Nat.two_pos, literalTail.eq_def, ifAtEnd_nil hrest, hend]
    rfl
  | case3 c hc b r closed n hscan ih =>
    have hrest : (s.forward 2).rest = r := State.rest_forward_of hr 2
    rw [literalTail.eq_def, ifAtEnd_cons hr, bind_eq (byte_eq hr), if_pos hc,
      bind_eq (advance_eq 2 s),
      onward_forward hr Nat.two_pos, ih _ hrest, hscan, State.pastLiteral_forward, Nat.add_comm 2]
  | case4 c r hc hline =>
    rw [literalTail.eq_def, ifAtEnd_cons hr, bind_eq (byte_eq hr), if_neg hc, if_pos hline]
    rfl
  | case5 r hc hline =>
    rw [literalTail.eq_def, ifAtEnd_cons hr, bind_eq (byte_eq hr), if_neg hc, if_neg hline,
      bind_eq (next_eq hr), if_pos rfl]
    rfl
  | case6 c r hc hline hquote closed n hscan ih =>
    have hrest : (s.forward 1).rest = r := State.rest_forward_of hr 1
    rw [literalTail.eq_def, ifAtEnd_cons hr, bind_eq (byte_eq hr), if_neg hc, if_neg hline,
      bind_eq (next_eq hr), if_neg hquote, onward_forward hr Nat.one_pos, ih _ hrest, hscan,
      State.pastLiteral_forward,
      Nat.add_comm 1]

/-- A literal at the position is read from its quote on, and reported on the line where it begins.
-/
theorem literal_eq (h : s.rest = c :: r) : literal s = some ((Fragment.literal c r).1,
    s.pastLiteral s.line ((Fragment.literal c r).1, 1 + (Fragment.literal c r).2)) := by
  have hrest : (s.forward 1).rest = r := State.rest_forward_of h 1
  rw [literal, bind_eq (currentLine_eq s), bind_eq (byte_eq h), bind_eq (next_eq h),
    literalTail_eq, hrest, State.pastLiteral_forward]

/-- A literal that is closed. -/
theorem literal_true {n : Nat} (h : s.rest = c :: r) (hscan : Fragment.literal c r = (true, n)) :
    literal s = some (true, s.forward (1 + n)) := by
  rw [literal_eq h, hscan]
  rfl

/-- A literal that is left open. -/
theorem literal_false {n : Nat} (h : s.rest = c :: r)
    (hscan : Fragment.literal c r = (false, n)) :
    literal s = some (false, (s.forward (1 + n)).report s.line .unterminatedString) := by
  rw [literal_eq h, hscan]
  rfl

/-- The state behind a scan; `line` is the line of the construct that is read. -/
def State.scanned (line : Nat) (scan : Scan) (s : State) : State :=
  match scan.fault with
  | none => s.forward scan.taken
  | some (.construct, fault) => (s.forward scan.taken).report line fault
  | some (.at_ n, fault) => (s.forward scan.taken).report (s.forward n).line fault

/-- Where a scan ends, and with which report, does not depend on where it was begun, as long as its
bytes are counted from there. -/
theorem State.scanned_forward (line n : Nat) (scan : Scan) (s : State) :
    (s.forward n).scanned line scan = s.scanned line (scan.after n) := by
  obtain ⟨taken, fault⟩ := scan
  rcases fault with - | ⟨- | k, fault⟩
  · exact forward_forward n taken s
  · exact congrArg (State.report line fault) (forward_forward n taken s)
  · show ((s.forward n).forward taken).report ((s.forward n).forward k).line fault = _
    rw [forward_forward, forward_forward]
    rfl

/-- A scan leads on, also one that fails. -/
theorem State.Sound.precedes_scanned (h : s.Sound) (line : Nat) (scan : Scan) :
    s.Precedes (s.scanned line scan) := by
  have hforward := h.precedes_forward scan.taken
  unfold scanned
  split
  · exact hforward
  · exact hforward.report _ _
  · exact hforward.report _ _

/-- What a scan comes to that started at the state `s`: the text that it found, if it did not
fail, and the state behind it. -/
def outcome (text : State → Bytes) (line : Nat) (scan : Scan) (s : State) :
    Option (Option Bytes × State) :=
  let t := s.scanned line scan
  some (if scan.fault.isNone then some (text t) else none, t)

/-- A scan without a fault has a text, which is read once the scan is over. -/
theorem outcome_none (text : State → Bytes) (line : Nat) {scan : Scan} (h : scan.fault = none)
    (s : State) : outcome text line scan s
      = some (some (text (s.forward scan.taken)), s.forward scan.taken) := by
  rw [outcome, State.scanned, h]
  rfl

/-- A scan with a fault has none, and leaves its report. -/
theorem outcome_some (text : State → Bytes) (line : Nat) {scan : Scan}
    {fault : Fragment.Place × Fault} (h : scan.fault = some fault) (s : State) :
    outcome text line scan s = some (none, s.scanned line scan) := by
  rw [outcome, h]
  rfl

/-- What comes of a scan behind some bytes is what comes of the scan that has taken them, too. -/
theorem outcome_forward (text : State → Bytes) (line n : Nat) (scan : Scan) (s : State) :
    outcome text line scan (s.forward n) = outcome text line (scan.after n) s := by
  have hnone : (scan.after n).fault.isNone = scan.fault.isNone := Option.isNone_map
  rw [outcome, outcome, State.scanned_forward, hnone]

/-- **Two scans come to the same** if they leave the same state, fail or succeed both, and cut out
the same text in the second case. -/
theorem outcome_congr {text text' : State → Bytes} {line line' : Nat} {scan scan' : Scan}
    (hstate : s.scanned line scan = s.scanned line' scan')
    (hfault : scan.fault.isNone = scan'.fault.isNone)
    (htext : scan.fault = none → text (s.scanned line scan) = text' (s.scanned line' scan')) :
    outcome text line scan s = outcome text' line' scan' s := by
  unfold outcome
  dsimp only
  rw [← hstate, ← hfault] at *
  cases hscan : scan.fault with
  | none => rw [htext hscan]
  | some => rfl

/-- The byte behind the one at the position. -/
theorem State.peek_one (h : s.rest = c :: r) : s.cursor.peek 1 = r.headD 0 := by
  rw [Cursor.peek, State.rest_cursor, h]
  rfl

theorem peek_one (h : s.rest = c :: r) : peek 1 s = some (r.headD 0, s) := by
  rw [peek_eq, State.peek_one h]

/-- The byte that comes next, if it is not zero, is there: a zero also stands for the end of the
source. -/
theorem headD_eq_iff {b : UInt8} (hb : b ≠ 0) (r : Bytes) : r.headD 0 = b ↔ r.head? = some b := by
  cases r with
  | nil => simp [hb.symm]
  | cons c r => simp

/-- So a byte that was seen and is not zero is the first of what is left. -/
theorem rest_of_peek {b : UInt8} (hb : b ≠ 0) (h : s.cursor.peek 0 = b) : ∃ r, s.rest = b :: r := by
  rw [Cursor.peek, State.cursor, List.drop_zero, headD_eq_iff hb, List.head?_eq_some_iff] at h
  exact h

/-- A place in the source that lies in front of the position stays in front of it. -/
theorem State.Sound.start_le (hs : s.Sound) {start : Nat} (hstart : start ≤ s.pos) (n : Nat) :
    start ≤ (s.forward n).pos :=
  Nat.le_trans hstart (hs.precedes_forward n).pos

/-- Whether a comment begins can be told by looking one byte ahead. -/
theorem headD_mark_iff (c : UInt8) {b : UInt8} (hb : b ≠ 0) (r : Bytes) :
    c = slash ∧ r.headD 0 = b ↔ c = slash ∧ r.head? = some b := by
  cases r with
  | nil => simp [hb.symm]
  | cons d r => simp

/-- What is behind the two bytes that open a comment. -/
theorem ahead_two (hs : s.Sound) (h : s.rest = c :: r) {b : UInt8} (hb : r.head? = some b) :
    ahead 2 s = some (r.drop 1, s) := by
  have htwo : 2 ≤ s.rest.length := by
    rw [h]
    exact Nat.succ_le_succ (List.length_pos_iff.2 fun hnil => by simp [hnil] at hb)
  rw [ahead_eq hs htwo, h]
  rfl

/-- At a byte that opens neither a literal nor a comment. -/
theorem groupTail_plain_eq (h : s.rest = c :: r) (hc : Plain c r) (what : Construct)
    (line start : Nat) (closer : UInt8) (outer : List UInt8) :
    groupTail what line start closer outer s
      = (if isOpener c then do
          next
          onward s fun t _ => groupTail what line start (closerOf c) (closer :: outer) t
        else if c = closer then
          match outer with
          | [] => do
            let text ← slice start (← position)
            next
            return some text
          | closer' :: outer' => do
            next
            onward s fun t _ => groupTail what line start closer' outer' t
        else do
          next
          onward s fun t _ => groupTail what line start closer outer t) s := by
  obtain ⟨hquote, hline, hblock⟩ := hc
  conv_lhs => rw [groupTail.eq_def]
  rw [ifAtEnd_cons h, bind_eq (byte_eq h), if_neg (Bool.eq_false_iff.1 hquote),
    bind_eq (peek_one h), if_neg (mt (headD_mark_iff c (by decide) r).1 hline)]
  exact (bind_eq (peek_one h) _).trans
    (congrFun (if_neg (mt (headD_mark_iff c (by decide) r).1 hblock)) s)

/-- **Inside brackets, the descent goes the way of its twin**: with the same brackets open, the same
literals and comments, and the same fault. By induction along the twin, whose cases are the bytes
that a group looks at. -/
theorem groupTail_eq (what : Construct) (line : Nat) {start : Nat} (closer : UInt8)
    (outer : List UInt8) (hs : s.Sound) (hstart : start ≤ s.pos) :
    groupTail what line start closer outer s
      = outcome (fun t => (t.src.drop start).take (t.pos - 1 - start)) line
          (Fragment.groupTail what closer outer s.rest) s := by
  generalize hr : s.rest = r
  fun_induction Fragment.groupTail what closer outer r generalizing s with
  | case1 closer outer =>
    rw [groupTail.eq_def, ifAtEnd_nil hr]
    rfl
  | case2 closer outer c r hquote n hscan ih =>
    rw [groupTail.eq_def, ifAtEnd_cons hr, bind_eq (byte_eq hr), if_pos hquote,
      bind_eq (literal_true hr hscan), if_pos rfl,
      onward_forward hr (by omega),
      ih (hs.forward _) (hs.start_le hstart _) (State.rest_forward_cons hr n), outcome_forward]
  | case3 closer outer c r hquote closed n hscan hopen =>
    obtain rfl : closed = false := Bool.not_eq_true _ ▸ hopen
    rw [groupTail.eq_def, ifAtEnd_cons hr, bind_eq (byte_eq hr), if_pos hquote,
      bind_eq (literal_false hr hscan)]
    rfl
  | case4 closer outer c r hquote hc n =>
    rename_i ih
    -- the descent passes both slashes with the rest of the line, the twin the first on its own
    have hskip : s.skip (· ≠ newline) = s.forward (1 + n) := by
      rw [State.skip, hr, hc.1, List.takeWhile_cons, if_pos (by decide), List.length_cons,
        Nat.add_comm]
    rw [groupTail.eq_def, ifAtEnd_cons hr, bind_eq (byte_eq hr), if_neg hquote,
      bind_eq (peek_one hr), if_pos ((headD_mark_iff c (by decide) r).2 hc),
      bind_eq (skipWhile_eq _ s), hskip,
      onward_forward hr (by omega),
      ih (hs.forward _) (hs.start_le hstart _) (State.rest_forward_cons hr n), outcome_forward]
  | case5 closer outer c r hquote hline hc hscan =>
    have hahead : ahead 2 s = some (r.drop 1, s) := ahead_two hs hr hc.2
    have hend : s.rest.length = 1 + r.length := by rw [hr, List.length_cons, Nat.add_comm]
    rw [groupTail.eq_def, ifAtEnd_cons hr, bind_eq (byte_eq hr), if_neg hquote,
      bind_eq (peek_one hr), if_neg (mt (headD_mark_iff c (by decide) r).1 hline),
      bind_eq (peek_one hr), if_pos ((headD_mark_iff c (by decide) r).2 hc),
      bind_eq (currentLine_eq s), bind_eq hahead, hscan]
    dsimp only
    rw [bind_eq (report_eq ..), bind_eq (advanceToEnd_eq _), State.forward_report,
      State.rest_report, hend]
    rfl
  | case6 closer outer c r hquote hline hc n hscan ih =>
    have hahead : ahead 2 s = some (r.drop 1, s) := ahead_two hs hr hc.2
    rw [groupTail.eq_def, ifAtEnd_cons hr, bind_eq (byte_eq hr), if_neg hquote,
      bind_eq (peek_one hr), if_neg (mt (headD_mark_iff c (by decide) r).1 hline),
      bind_eq (peek_one hr), if_pos ((headD_mark_iff c (by decide) r).2 hc),
      bind_eq (currentLine_eq s), bind_eq hahead, hscan]
    dsimp only
    rw [bind_eq (advance_eq _ s),
      onward_forward hr (by omega),
      ih (hs.forward _) (hs.start_le hstart _) (State.rest_forward_of hr _), outcome_forward]
  | case7 closer outer c r hquote hline hblock hc ih =>
    have hplain : Plain c r := ⟨Bool.eq_false_iff.2 hquote, hline, hblock⟩
    rw [groupTail_plain_eq hr hplain, if_pos hc, bind_eq (next_eq hr),
      onward_forward hr Nat.one_pos,
      ih (hs.forward 1) (hs.start_le hstart 1) (State.rest_forward_of hr 1), outcome_forward]
  | case8 c r hquote hline hblock hopener =>
    have hplain : Plain c r := ⟨Bool.eq_false_iff.2 hquote, hline, hblock⟩
    have hpos : (s.forward 1).pos = s.pos + 1 := congrArg State.pos (State.pass_cons hr)
    have htext : (s.src.drop start).take (s.pos - start)
        = ((s.forward 1).src.drop start).take ((s.forward 1).pos - 1 - start) := by
      rw [hpos, State.src_forward]
      rfl
    rw [groupTail_plain_eq hr hplain, if_neg hopener, if_pos rfl]
    dsimp only
    rw [bind_eq (position_eq s), bind_eq (slice_eq hstart hs.here.1), bind_eq (next_eq hr), htext]
    rfl
  | case9 c r hquote hline hblock hopener next outer ih =>
    have hplain : Plain c r := ⟨Bool.eq_false_iff.2 hquote, hline, hblock⟩
    rw [groupTail_plain_eq hr hplain, if_neg hopener, if_pos rfl]
    dsimp only
    rw [bind_eq (next_eq hr),
      onward_forward hr Nat.one_pos,
      ih (hs.forward 1) (hs.start_le hstart 1) (State.rest_forward_of hr 1), outcome_forward]
  | case10 closer outer c r hquote hline hblock hopener hc ih =>
    have hplain : Plain c r := ⟨Bool.eq_false_iff.2 hquote, hline, hblock⟩
    rw [groupTail_plain_eq hr hplain, if_neg hopener, if_neg hc, bind_eq (next_eq hr),
      onward_forward hr Nat.one_pos,
      ih (hs.forward 1) (hs.start_le hstart 1) (State.rest_forward_of hr 1), outcome_forward]

/-- **A group at the position** is the twin's group, and its text is what the brackets enclose. -/
theorem group_eq (h : s.rest = c :: r) (hs : s.Sound) (what : Construct) : group what s
    = outcome (fun _ => enclosed (c :: r) (Fragment.group what (c :: r))) s.line
        (Fragment.group what (c :: r)) s := by
  have hrest : (s.forward 1).rest = r := State.rest_forward_of h 1
  have hpos : (s.forward 1).pos = s.pos + 1 := congrArg State.pos (State.pass_cons h)
  rw [group, bind_eq (currentLine_eq s), bind_eq (byte_eq h), bind_eq (next_eq h),
    bind_eq (position_eq _),
    groupTail_eq what s.line (closerOf c) [] (hs.forward 1) (Nat.le_refl _), hrest, outcome_forward]
  refine outcome_congr ?_ ?_ fun hfault => ?_
  · unfold Fragment.group State.scanned Scan.after
    dsimp only
    rcases (Fragment.groupTail what (closerOf c) [] r).fault with - | ⟨- | n, fault⟩ <;> rfl
  · exact (Option.isNone_map).trans (Option.isNone_map).symm
  · obtain ⟨code, rest, hsplit, htaken, henclosed, -⟩ :=
      @exists_of_group what c r (Option.map_eq_none_iff.2 (Option.map_eq_none_iff.1 hfault))
    have hstate : s.scanned s.line ((Fragment.groupTail what (closerOf c) [] r).after 1)
        = s.forward (code.length + 2) := by
      rw [State.scanned, hfault, ← htaken]
      rfl
    have hlength : s.rest.length = code.length + 2 + rest.length := by
      rw [h, hsplit]
      simp only [List.length_cons, List.length_append]
      omega
    have hend : (s.forward (code.length + 2)).pos - 1 - (s.forward 1).pos = code.length := by
      rw [State.pos_forward, hpos, hlength]
      omega
    have hbehind : s.src.drop (s.forward 1).pos = r := by
      rw [← hrest, State.rest, State.src_forward]
    rw [hstate, henclosed, hend, State.src_forward, hbehind, hsplit, List.take_left]

/-- A bracketed fragment that is closed. -/
theorem group_some {what : Construct} (h : s.rest = c :: r) (hs : s.Sound)
    (hfault : (Fragment.groupTail what (closerOf c) [] r).fault = none) :
    group what s = some (some (enclosed (c :: r) (Fragment.group what (c :: r))),
      s.forward (1 + (Fragment.groupTail what (closerOf c) [] r).taken)) := by
  have hgroup : (Fragment.group what (c :: r)).fault = none := Option.map_eq_none_iff.2 hfault
  rw [group_eq h hs, outcome, State.scanned, hgroup]
  rfl

/-- A bracketed fragment that is left open, or holds a literal or a comment that is. It reports
lines of its own, whatever construct it belongs to. -/
theorem group_none {what : Construct} {fault : Fragment.Place × Fault} (h : s.rest = c :: r)
    (hs : s.Sound)
    (hfault : (Fragment.groupTail what (closerOf c) [] r).fault = some fault) (line : Nat) :
    group what s = some (none, s.scanned line (Fragment.group what (c :: r)))
      ∧ (Fragment.group what (c :: r)).fault.isNone = false := by
  rw [group_eq h hs, outcome, State.scanned, State.scanned, Fragment.group, hfault]
  obtain ⟨- | n, fault⟩ := fault <;> exact ⟨rfl, rfl⟩

/-- The code of a header is read up to its brace, and trimmed. Its groups are groups, as above. -/
theorem headerTail_eq (what : Construct) (line : Nat) {start : Nat} (hs : s.Sound)
    (hstart : start ≤ s.pos) : headerTail what line start s
      = outcome (fun t => trim ((t.src.drop start).take (t.pos - start))) line
          (Fragment.header what s.rest) s := by
  generalize hr : s.rest = r
  fun_induction Fragment.header what r generalizing s with
  | case1 =>
    rw [headerTail, ifAtEnd_nil hr]
    rfl
  | case2 r =>
    rw [headerTail, ifAtEnd_cons hr, bind_eq (byte_eq hr), if_pos rfl, bind_eq (position_eq s),
      bind_eq (slice_eq hstart hs.here.1)]
    rfl
  | case3 c r hbrace hquote n hscan ih =>
    rw [headerTail, ifAtEnd_cons hr, bind_eq (byte_eq hr), if_neg hbrace, if_pos hquote,
      bind_eq (literal_true hr hscan), if_pos rfl,
      onward_forward hr (by omega),
      ih (hs.forward _) (hs.start_le hstart _) (State.rest_forward_cons hr n), outcome_forward]
  | case4 c r hbrace hquote closed n hscan hopen =>
    obtain rfl : closed = false := Bool.not_eq_true _ ▸ hopen
    rw [headerTail, ifAtEnd_cons hr, bind_eq (byte_eq hr), if_neg hbrace, if_pos hquote,
      bind_eq (literal_false hr hscan)]
    rfl
  | case5 c r hbrace hquote hc inner hinner =>
    rename_i ih
    rw [headerTail, ifAtEnd_cons hr, bind_eq (byte_eq hr), if_neg hbrace, if_neg hquote, if_pos hc,
      bind_eq (group_some hr hs hinner)]
    dsimp only
    rw [onward_forward hr (by omega),
      ih (hs.forward _) (hs.start_le hstart _) (State.rest_forward_cons hr inner.taken),
      outcome_forward]
  | case6 c r hbrace hquote hc inner fault =>
    rename_i hinner
    obtain ⟨hgroup, hfault⟩ := group_none hr hs hinner line
    rw [headerTail, ifAtEnd_cons hr, bind_eq (byte_eq hr), if_neg hbrace, if_neg hquote, if_pos hc,
      bind_eq hgroup, outcome, hfault]
    rfl
  | case7 r hbrace hquote hc =>
    rw [headerTail, ifAtEnd_cons hr, bind_eq (byte_eq hr), if_neg hbrace, if_neg hquote, if_neg hc,
      if_pos rfl]
    rfl
  | case8 c r hbrace hquote hc hline ih =>
    rw [headerTail, ifAtEnd_cons hr, bind_eq (byte_eq hr), if_neg hbrace, if_neg hquote, if_neg hc,
      if_neg hline, bind_eq (next_eq hr),
      onward_forward hr Nat.one_pos,
      ih (hs.forward 1) (hs.start_le hstart 1) (State.rest_forward_of hr 1), outcome_forward]

/-- A header that is read ends in front of a brace. -/
theorem header_brace (what : Construct) (s : Bytes)
    (h : (Fragment.header what s).fault = none) :
    ∃ r, s.drop (Fragment.header what s).taken = lbrace :: r := by
  fun_induction Fragment.header what s with
  | case1 => cases h
  | case2 r => exact ⟨r, rfl⟩
  | case3 c r hbrace hquote n hscan ih =>
    obtain ⟨after, hafter⟩ := ih (Option.map_eq_none_iff.1 h)
    refine ⟨after, ?_⟩
    rw [Scan.after, ← List.drop_drop, Nat.add_comm 1, List.drop_succ_cons]
    exact hafter
  | case4 => cases h
  | case5 c r hbrace hquote hc inner hinner =>
    rename_i ih
    obtain ⟨after, hafter⟩ := ih (Option.map_eq_none_iff.1 h)
    refine ⟨after, ?_⟩
    rw [Scan.after, ← List.drop_drop, Nat.add_comm 1, List.drop_succ_cons]
    exact hafter
  | case6 c r hbrace hquote hc inner fault =>
    rename_i hinner
    rw [Fragment.group, Option.map_eq_none_iff] at h
    cases hinner.symm.trans h
  | case7 => cases h
  | case8 c r hbrace hquote hc hline ih =>
    obtain ⟨after, hafter⟩ := ih (Option.map_eq_none_iff.1 h)
    exact ⟨after, by rw [Scan.after, Nat.add_comm, List.drop_succ_cons, hafter]⟩

/-- The text from the state `s` to a scan's end. -/
theorem take_scanned {scan : Scan} (hfault : scan.fault = none) (line : Nat) :
    ((s.scanned line scan).src.drop s.pos).take ((s.scanned line scan).pos - s.pos)
      = s.rest.take scan.taken := by
  rw [State.scanned, hfault]
  dsimp only
  rw [State.src_forward, State.pos_forward, Nat.add_sub_cancel_left, ← State.rest,
    List.take_eq_take_iff, Nat.min_assoc, Nat.min_self]

/-- **A header.** -/
theorem header_eq (what : Construct) (line : Nat) (hs : s.Sound) : header what line s
    = outcome (fun _ => trim (s.rest.take (Fragment.header what s.rest).taken)) line
        (Fragment.header what s.rest) s := by
  rw [header, bind_eq (position_eq s), headerTail_eq what line hs (Nat.le_refl _)]
  exact outcome_congr rfl rfl fun hfault => congrArg trim (take_scanned hfault line)

/-- **Behind the name of a chain** come selectors, calls and indices. A dot that no name follows is
not part of it, so the descent looks ahead before it passes one. -/
theorem chainTail_eq {start : Nat} (hs : s.Sound) (hstart : start ≤ s.pos) (line : Nat) :
    chainTail start s = outcome (fun t => (t.src.drop start).take (t.pos - start)) line
      (Fragment.chainTail s.rest) s := by
  generalize hr : s.rest = r
  fun_induction Fragment.chainTail r generalizing s with
  | case1 =>
    rw [chainTail, ifAtEnd_nil hr, bind_eq (position_eq s), bind_eq (slice_eq hstart hs.here.1)]
    rfl
  | case2 c r hc n =>
    rename_i ih
    have hskip : (s.forward 1).skip isIdentChar = s.forward (1 + n) := by
      rw [State.skip, State.rest_forward_of hr, State.forward_forward]
      rfl
    rw [chainTail, ifAtEnd_cons hr, bind_eq (byte_eq hr), bind_eq (peek_one hr), if_pos hc,
      bind_eq (next_eq hr), bind_eq (skipWhile_eq _ _), hskip,
      onward_forward hr (by omega),
      ih (hs.forward _) (hs.start_le hstart _) (State.rest_forward_cons hr n), outcome_forward]
  | case3 c r hdot hc inner hinner =>
    rename_i ih
    rw [chainTail, ifAtEnd_cons hr, bind_eq (byte_eq hr), bind_eq (peek_one hr), if_neg hdot,
      if_pos hc, bind_eq (group_some hr hs hinner)]
    dsimp only
    rw [onward_forward hr (by omega),
      ih (hs.forward _) (hs.start_le hstart _) (State.rest_forward_cons hr inner.taken),
      outcome_forward]
  | case4 c r hdot hc inner fault =>
    rename_i hinner
    obtain ⟨hgroup, hfault⟩ := group_none hr hs hinner line
    rw [chainTail, ifAtEnd_cons hr, bind_eq (byte_eq hr), bind_eq (peek_one hr), if_neg hdot,
      if_pos hc, bind_eq hgroup, outcome, hfault]
    rfl
  | case5 c r hdot hc =>
    rw [chainTail, ifAtEnd_cons hr, bind_eq (byte_eq hr), bind_eq (peek_one hr), if_neg hdot,
      if_neg hc, bind_eq (position_eq s), bind_eq (slice_eq hstart hs.here.1)]
    rfl

/-- **A name with its selectors.** -/
theorem chain_eq (hs : s.Sound) (line : Nat) : chain s
    = outcome (fun _ => s.rest.take (Fragment.chain s.rest).taken) line
        (Fragment.chain s.rest) s := by
  rw [chain, bind_eq (position_eq s), bind_eq (skipWhile_eq _ s),
    State.skip, chainTail_eq (hs.forward _) (hs.precedes_forward _).pos line, State.rest_forward,
    outcome_forward]
  exact outcome_congr rfl rfl fun hfault => take_scanned hfault line

/-! ## Tags -/

/-- A value without quotes is passed up to a blank or the end of its tag. -/
theorem skipBareValue_eq (s : State) :
    skipBareValue s = some ((), s.forward (bareValueLength s.rest)) := by
  generalize hr : s.rest = r
  induction r generalizing s with
  | nil =>
    rw [skipBareValue, ifAtEnd_nil hr]
    rfl
  | cons c r ih =>
    have hslash := headD_mark_iff c (b := ch '>') (by decide) r
    rw [skipBareValue, ifAtEnd_cons hr, bind_eq (byte_eq hr)]
    simp only [bareValueLength, Bool.or_eq_true, Bool.and_eq_true, decide_eq_true_eq]
    by_cases hend : isSpace c = true ∨ c = ch '>'
    · rw [if_pos hend, if_pos (.inl hend)]
      rfl
    · rw [if_neg hend, bind_eq (peek_one hr)]
      by_cases hmark : c = slash ∧ r.headD 0 = ch '>'
      · rw [if_pos hmark, if_pos (.inr (hslash.1 hmark))]
        rfl
      · rw [if_neg hmark, if_neg (not_or.2 ⟨hend, mt hslash.2 hmark⟩), bind_eq (next_eq hr),
          onward_forward hr Nat.one_pos,
          ih _ (State.rest_forward_of hr 1), State.forward_forward, Nat.add_comm]

/-- The state behind an attribute value. -/
def State.valued (v : AttrScan) (s : State) : State :=
  match v.fault with
  | none => s.forward v.taken
  | some (n, fault) => (s.forward v.taken).report (s.forward n).line fault

/-- An attribute value that is an expression, one byte behind the equals sign. -/
def codeValue (code : Bytes) (scan : Scan) : AttrScan :=
  match scan.fault with
  | none => ⟨some (.expr code), scan.taken + 1, none⟩
  | some (place, fault) => ⟨none, scan.taken + 1, some (1 + attrValue.offset place, fault)⟩

/-- The code of a group as the value of an attribute: it begins one byte ahead, behind the at sign.
-/
theorem map_outcome {scan : Scan} {code : Bytes} {x : Descent (Option Bytes)}
    (hx : x (s.forward 1) = outcome (fun _ => code) (s.forward 1).line scan (s.forward 1)) :
    (do return (← x).map AttrValue.expr) (s.forward 1)
      = some ((codeValue code scan).value, s.valued (codeValue code scan)) := by
  have htaken : (s.forward 1).forward scan.taken = s.forward (scan.taken + 1) := by
    rw [State.forward_forward, Nat.add_comm]
  rw [outcome, State.scanned] at hx
  rw [codeValue]
  rcases hfault : scan.fault with - | ⟨- | n, fault⟩
  · rw [hfault] at hx
    rw [bind_eq hx, htaken]
    rfl
  · rw [hfault] at hx
    rw [bind_eq hx, htaken]
    rfl
  · rw [hfault] at hx
    rw [bind_eq hx, htaken]
    dsimp only
    rw [State.forward_forward]
    rfl

/-- The expression of an attribute value. -/
theorem valueCode_eq (hs : s.Sound) (h : s.rest = ch '@' :: r) (name : Bytes) :
    (do return (← valueCode).map AttrValue.expr) (s.forward 1)
      = some ((attrValue name (ch '@' :: r)).value,
        s.valued (attrValue name (ch '@' :: r))) := by
  have hrest : (s.forward 1).rest = r := State.rest_forward_of h 1
  have hnext : (s.forward 1).cursor.peek 0 = r.headD 0 := by
    rw [Cursor.peek, State.cursor, hrest]
    rfl
  have hcode : valueCode (s.forward 1) = (if r.headD 0 = ch '(' then group .expression
      else if isIdentStart (r.headD 0) then chain
      else do
        report (← currentLine) .noExpression
        return none) (s.forward 1) := by
    rw [valueCode, bind_eq (peek_eq 0 _), hnext]
  have hvalue : attrValue name (ch '@' :: r) = if r.headD 0 = ch '(' then
        codeValue (enclosed r (Fragment.group .expression r)) (Fragment.group .expression r)
      else if isIdentStart (r.headD 0) then
        codeValue (r.take (Fragment.chain r).taken) (Fragment.chain r)
      else ⟨none, 1, some (1, .noExpression)⟩ := rfl
  rw [hvalue]
  by_cases hgroup : r.headD 0 = ch '('
  · obtain ⟨r, rfl⟩ : ∃ r', r = ch '(' :: r' := by
      cases r with
      | nil => cases hgroup
      | cons b r => exact ⟨r, congrArg (· :: r) hgroup⟩
    rw [if_pos hgroup] at hcode ⊢
    exact map_outcome (hcode.trans (group_eq hrest (hs.forward 1) .expression))
  · rw [if_neg hgroup] at hcode ⊢
    by_cases hname : isIdentStart (r.headD 0) = true
    · rw [if_pos hname] at hcode ⊢
      rw [← hrest]
      exact map_outcome (hcode.trans (chain_eq (hs.forward 1) _))
    · rw [if_neg hname] at hcode ⊢
      rw [bind_eq hcode]
      rfl

/-- A value in quotes. -/
theorem quotedValue_eq (hs : s.Sound) (h : s.rest = c :: r) (name : Bytes) :
    (do
      let text ← takeWhile (· ≠ c)
      if ← atEnd then
        report s.line (.unterminatedValue name)
        return some (AttrValue.literal text)
      else
        next
        return some (AttrValue.literal text)) (s.forward 1)
      = some (some (AttrValue.literal (r.takeWhile (· ≠ c))),
        if (r.takeWhile (· ≠ c)).length < r.length then
          s.forward ((r.takeWhile (· ≠ c)).length + 2)
        else
          (s.forward ((r.takeWhile (· ≠ c)).length + 1)).report s.line
            (.unterminatedValue name)) := by
  have hrest : (s.forward 1).rest = r := State.rest_forward_of h 1
  rw [bind_eq (takeWhile_eq (hs.forward 1) _), State.skip, hrest, State.forward_forward,
    Nat.add_comm 1]
  generalize r.takeWhile (· ≠ c) = text
  have hbehind : (s.forward (text.length + 1)).rest = r.drop text.length :=
    State.rest_forward_of h _
  by_cases hclosed : text.length < r.length
  · obtain ⟨b, after, hafter⟩ := List.exists_cons_of_length_pos
      (show 0 < (r.drop text.length).length by rw [List.length_drop]; omega)
    have hquote := hbehind.trans hafter
    rw [if_pos hclosed, ifAtEnd_cons hquote, bind_eq (next_eq hquote), State.forward_forward]
    rfl
  · have hnone := hbehind.trans (List.drop_eq_nil_of_le (Nat.not_lt.1 hclosed))
    rw [if_neg hclosed, ifAtEnd_nil hnone]
    rfl

/-- **The value of an attribute**: a quoted one, code, or a bare one, as the first byte says. -/
theorem value_eq (hs : s.Sound) (name : Bytes) : value name s
    = some ((attrValue name s.rest).value, s.valued (attrValue name s.rest)) := by
  rw [value, bind_eq (peek_eq 0 s)]
  cases hr : s.rest with
  | nil =>
    have hpeek : s.cursor.peek 0 = 0 := by rw [Cursor.peek, State.cursor, hr]; rfl
    rw [hpeek, if_neg (by decide), if_neg (by decide), bind_eq (position_eq s),
      bind_eq (skipBareValue_eq s), bind_eq (position_eq _), bind_eq (slice_forward hs _), hr]
    rfl
  | cons c r =>
    rw [Cursor.peek_zero (c := s.cursor) hr]
    by_cases hquote : c = dquote ∨ c = squote
    · have hquote' : (decide (c = dquote) || decide (c = squote)) = true := by simpa using hquote
      rw [if_pos hquote, bind_eq (currentLine_eq s), bind_eq (next_eq hr),
        quotedValue_eq hs hr, attrValue]
      dsimp only
      rw [hquote', if_pos rfl]
      split <;> rfl
    · have hquote' : (decide (c = dquote) || decide (c = squote)) = false := by simpa using hquote
      rw [if_neg hquote]
      by_cases hat : c = ch '@'
      · subst hat
        rw [if_pos rfl, bind_eq (next_eq hr), valueCode_eq hs hr]
      · rw [if_neg hat, bind_eq (position_eq s), bind_eq (skipBareValue_eq s),
          bind_eq (position_eq _), bind_eq (slice_forward hs _), hr, attrValue]
        dsimp only
        rw [hquote', if_neg Bool.false_ne_true, if_neg hat]
        rfl

/-- **A state that is reached by reading on** without going back or adding to the document: the
position and the faults that are found on the way. -/
structure State.Reads (s t : State) (c : Cursor) (found : List Finding) : Prop where
  precedes : s.Precedes t
  cursor : t.cursor = c
  document : t.document = s.document
  findings : t.findings = found.reverse ++ s.findings

/-- Nothing is read by doing nothing. -/
theorem State.Reads.refl (h : s.Sound) : s.Reads s s.cursor [] := ⟨.refl h, rfl, rfl, rfl⟩

/-- Passing bytes reads them and finds nothing. -/
theorem State.Sound.reads_forward (h : s.Sound) (n : Nat) :
    s.Reads (s.forward n) (s.cursor.advance n) [] :=
  ⟨h.precedes_forward n, s.cursor_forward n, s.document_forward n, s.findings_forward n⟩

/-- A report goes behind those that were made. -/
theorem State.Reads.report {c : Cursor} {found : List Finding} (h : s.Reads t c found)
    (line : Nat) (fault : Fault) :
    s.Reads (t.report line fault) c (found ++ [⟨line, fault⟩]) :=
  ⟨h.precedes.report line fault, h.cursor, h.document, by
    rw [List.reverse_append]
    exact congrArg (⟨line, fault⟩ :: ·) h.findings⟩

/-- So does a report on a condition. -/
theorem State.Reads.reportIf {c : Cursor} {found : List Finding} (h : s.Reads t c found)
    (faulty : Bool) (line : Nat) (fault : Fault) :
    s.Reads (if faulty = true then t.report line fault else t) c
      (found ++ if faulty = true then [⟨line, fault⟩] else []) := by
  split
  · exact h.report line fault
  · rwa [List.append_nil]

/-- **What is read in two goes is read in one**, with the reports of the first in front. This is how
the theorems about parts become those about the whole. -/
theorem State.Reads.trans {c d : Cursor} {found more : List Finding} (h : s.Reads t c found)
    (h' : t.Reads u d more) : s.Reads u d (found ++ more) :=
  ⟨h.precedes.trans h'.precedes, h'.cursor, h'.document.trans h.document, by
    rw [h'.findings, h.findings, List.reverse_append, List.append_assoc]⟩

/-- The cursor of the account is that of the state. -/
theorem State.Reads.here {c : Cursor} {found : List Finding} (h : s.Reads t c found) :
    s.Reads t t.cursor found :=
  ⟨h.precedes, rfl, h.document, h.findings⟩

theorem State.Sound.reads_skip (h : s.Sound) (p : UInt8 → Bool) :
    s.Reads (s.skip p) (s.skip p).cursor [] :=
  (h.reads_forward _).here

/-- Going back to where the reading began. -/
theorem State.Reads.goBack {c : Cursor} {found : List Finding} (h : s.Reads t c found)
    (hs : s.Sound) : s.Reads (t.goTo s.pos s.line) s.cursor found where
  precedes := h.precedes.goBack hs
  cursor := by
    unfold State.cursor State.rest State.goTo
    rw [h.precedes.src]
  document := h.document
  findings := h.findings

/-- Where the descent and its twin ask for the same condition, it is enough to look at both cases.
-/
theorem State.Reads.ite {p : Prop} [Decidable p] {c d : Cursor} {found : List Finding}
    (h : p → s.Reads t c found) (h' : ¬ p → s.Reads u d found) :
    s.Reads (if p then t else u) (if p then c else d) found := by
  by_cases hp : p
  · rw [if_pos hp, if_pos hp]
    exact h hp
  · rw [if_neg hp, if_neg hp]
    exact h' hp

/-- A value accounts for the bytes it took, and for its fault where that is. -/
theorem State.Sound.reads_valued (h : s.Sound) (v : AttrScan) :
    s.Reads (s.valued v) (s.cursor.advance v.taken) (match v.fault with
      | none => []
      | some (n, fault) => [⟨(s.cursor.advance n).line, fault⟩]) := by
  unfold valued
  split
  · exact h.reads_forward _
  · next n fault _ =>
    rw [← s.cursor_forward n]
    exact (h.reads_forward _).report _ _

/-- No name starts here. -/
theorem attributeHere_none (hs : s.Sound) (h : s.rest.takeWhile isAttrNameByte = []) :
    attributeHere s = some (none, s) := by
  rw [attributeHere, bind_eq (takeWhile_eq hs _), h, if_pos rfl, State.skip, h]
  rfl

/-- Skipping bytes of a class that has no line feed stays on the line. -/
theorem State.line_skip {p : UInt8 → Bool} (hp : p newline = false) (s : State) :
    (s.skip p).line = s.line := by
  have hrun : newlines (s.rest.takeWhile p) = 0 := newlines_eq_zero.2 (oneLine_takeWhile hp _)
  have hline : (s.skip p).line = s.line + newlines (s.rest.take (s.rest.takeWhile p).length) :=
    congrArg Cursor.line (s.cursor_skip p)
  rw [hline, ← List.prefix_iff_eq_take.1 (List.takeWhile_prefix p), hrun, Nat.add_zero]

/-- The attribute at a position where a name starts: what it comes to, what is wrong with it, and
the position behind it. -/
def attributeAt (c : Cursor) : List Attr × List Finding × Cursor :=
  let name := c.rest.takeWhile isAttrNameByte
  let c₂ := c.advance name.length
  if c₂.rest.head? = some (ch '=') then
    let v := attrValue name (c₂.rest.drop 1)
    (match v.value with
      | none => []
      | some value => [⟨name, value, c.line⟩],
    match v.fault with
      | none => []
      | some (n, fault) => [⟨(c₂.advance (1 + n)).line, fault⟩],
    c.advance (name.length + 1 + v.taken))
  else ([⟨name, .bare, c.line⟩], [], c₂)

/-- The rest of a tag past the white space in front of it. -/
theorem tagRest_cons {c c₁ : Cursor} {b : UInt8} (hskip : c₁ = c.skipWhile isSpace)
    (h : c₁.rest = b :: r) (tag : Bytes) : tagRest tag c
      = if b = ch '>' then ⟨[], .opened, c₁.advance 1, []⟩
        else if b = slash ∧ r.head? = some (ch '>') then ⟨[], .selfClosed, c₁.advance 2, []⟩
        else if c₁.rest.takeWhile isAttrNameByte = [] then
          let more := tagRest tag (c₁.advance 1)
          { more with findings := ⟨c₁.line, .malformedAttribute tag⟩ :: more.findings }
        else
          let (attrs, found, after) := attributeAt c₁
          let more := tagRest tag after
          { more with attrs := attrs ++ more.attrs, findings := found ++ more.findings } := by
  rw [tagRest_eq, attributeAt, ← hskip]
  dsimp only
  rw [h]
  dsimp only
  refine if_congr Iff.rfl rfl (if_congr Iff.rfl rfl (if_congr Iff.rfl rfl ?_))
  split <;> rfl

/-- **The attribute at the position.** -/
theorem attributeHere_eq (hs : s.Sound) (hname : s.rest.takeWhile isAttrNameByte ≠ []) :
    ∃ t, attributeHere s = some (some (attributeAt s.cursor).1, t)
      ∧ s.Reads t (attributeAt s.cursor).2.2 (attributeAt s.cursor).2.1
      ∧ t.rest.length < s.rest.length := by
  obtain ⟨b, r, hrest⟩ := List.exists_cons_of_ne_nil fun h => hname (congrArg _ h)
  have hlt : (s.skip isAttrNameByte).rest.length < s.rest.length :=
    State.forward_rest_lt hrest (List.length_pos_iff.2 hname)
  have hreadName := hs.reads_skip isAttrNameByte
  have hcursor : s.cursor.advance (s.rest.takeWhile isAttrNameByte).length
      = (s.skip isAttrNameByte).cursor := (s.cursor_skip _).symm
  have hline : (s.skip isAttrNameByte).line = s.line := s.line_skip (by decide)
  unfold attributeAt
  dsimp only
  rw [attributeHere, bind_eq (takeWhile_eq hs _), if_neg hname, bind_eq (currentLine_eq _), hline,
    State.rest_cursor, hcursor, State.line_cursor, State.rest_cursor]
  generalize s.rest.takeWhile isAttrNameByte = name at *
  generalize s.skip isAttrNameByte = s₁ at *
  have hs₁ := hreadName.precedes.sound
  cases hmark : s₁.rest with
  | nil =>
    rw [ifAtEnd_nil hmark, if_neg (by simp)]
    exact ⟨s₁, rfl, hreadName, hlt⟩
  | cons c r =>
    rw [ifAtEnd_cons hmark, bind_eq (byte_eq hmark)]
    by_cases hequals : c = ch '='
    · have hhead : (c :: r).head? = some (ch '=') := congrArg some hequals
      have hnext := hreadName.trans (hs₁.reads_forward 1)
      have hs₂ := hnext.precedes.sound
      have hvalued := hnext.trans (hs₂.reads_valued (attrValue name r))
      have hle := (hs₁.precedes_forward 1).trans (hs₂.reads_valued (attrValue name r)).precedes
      simp only [State.cursor_forward, Cursor.advance_advance, List.nil_append] at hvalued
      rw [if_pos hequals, if_pos hhead, bind_eq (next_eq hmark), bind_eq (value_eq hs₂ name),
        State.rest_forward_of hmark 1, Nat.add_assoc, ← Cursor.advance_advance, hcursor,
        List.drop_succ_cons, List.drop_zero]
      refine ⟨_, ?_, hvalued, Nat.lt_of_le_of_lt hle.rest_le hlt⟩
      cases (attrValue name r).value <;> rfl
    · have hhead : ¬ (c :: r).head? = some (ch '=') := mt Option.some.inj hequals
      rw [if_neg hequals, if_neg hhead]
      exact ⟨s₁, rfl, hreadName, hlt⟩

/-- Past the white space in front of an attribute. -/
theorem attributes_cons {b : UInt8} (h : (s.skip isSpace).rest = b :: r) (tag : Bytes) :
    attributes tag s = (if b = ch '>' then do
        next
        return ([], TagEnd.opened)
      else if b = slash ∧ r.head? = some (ch '>') then do
        advance 2
        return ([], TagEnd.selfClosed)
      else do
        match ← attributeHere with
        | none =>
          report (← currentLine) (.malformedAttribute tag)
          next
          onward s fun t _ => attributes tag t
        | some attrs =>
          let (more, ending) ← onward s fun t _ => attributes tag t
          return (attrs ++ more, ending)) (s.skip isSpace) := by
  conv_lhs => rw [attributes]
  rw [bind_eq (skipWhile_eq _ s), ifAtEnd_cons h, bind_eq (byte_eq h)]
  by_cases hopened : b = ch '>'
  · rw [if_pos hopened, if_pos hopened]
  · rw [if_neg hopened, if_neg hopened, bind_eq (peek_one h)]
    by_cases hclosed : b = slash ∧ r.head? = some (ch '>')
    · rw [if_pos hclosed, if_pos ((headD_mark_iff b (by decide) r).2 hclosed)]
    · rw [if_neg hclosed]
      exact congrFun (if_neg (mt (headD_mark_iff b (by decide) r).1 hclosed)) _

/-- **The attributes of a tag.** -/
theorem attributes_eq (hs : s.Sound) (tag : Bytes) :
    ∃ t, attributes tag s
        = some (((tagRest tag s.cursor).attrs, (tagRest tag s.cursor).ending), t)
      ∧ s.Reads t (tagRest tag s.cursor).cursor (tagRest tag s.cursor).findings := by
  induction hn : s.rest.length using Nat.strong_induction_on generalizing s with
  | _ n ih =>
  have hskip := hs.reads_skip isSpace
  have hcursor := s.cursor_skip isSpace
  have hle := hskip.precedes.rest_le
  cases hrest : (s.skip isSpace).rest with
  | nil =>
    rw [attributes, bind_eq (skipWhile_eq _ s), ifAtEnd_nil hrest, tagRest_eq, ← hcursor]
    dsimp only
    rw [State.rest_cursor, hrest]
    exact ⟨_, rfl, hskip⟩
  | cons b r =>
    rw [attributes_cons hrest, tagRest_cons hcursor hrest, State.rest_cursor, State.line_cursor]
    generalize s.skip isSpace = s₁ at *
    have hs₁ := hskip.precedes.sound
    by_cases hopened : b = ch '>'
    · rw [if_pos hopened, if_pos hopened, bind_eq (next_eq hrest)]
      exact ⟨_, rfl, hskip.trans (hs₁.reads_forward 1)⟩
    rw [if_neg hopened, if_neg hopened]
    by_cases hclosed : b = slash ∧ r.head? = some (ch '>')
    · rw [if_pos hclosed, if_pos hclosed, bind_eq (advance_eq 2 _)]
      exact ⟨_, rfl, hskip.trans (hs₁.reads_forward 2)⟩
    rw [if_neg hclosed, if_neg hclosed]
    by_cases hname : s₁.rest.takeWhile isAttrNameByte = []
    · -- no name starts here: the byte is reported and passed, so that there is less left
      have hmalformed := (State.Reads.refl hs₁).report s₁.line (.malformedAttribute tag)
      have hnext := hmalformed.trans (hmalformed.precedes.sound.reads_forward 1)
      have hmark : (s₁.report s₁.line (.malformedAttribute tag)).rest = b :: r := hrest
      have hlt := Nat.lt_of_lt_of_le (State.forward_rest_lt hmark Nat.one_pos) hle
      obtain ⟨t, ht, hreads⟩ := ih _ (hn ▸ hlt) hnext.precedes.sound rfl
      rw [State.cursor_forward] at ht hreads
      rw [if_pos hname, bind_eq (attributeHere_none hs₁ hname)]
      dsimp only
      rw [bind_eq (currentLine_eq s₁), bind_eq (report_eq ..), bind_eq (next_eq hmark),
        onward_eq hlt, ht]
      exact ⟨t, rfl, hskip.trans (hnext.trans hreads)⟩
    · obtain ⟨u, hhere, hu, hlt⟩ := attributeHere_eq hs₁ hname
      have hlt := Nat.lt_of_lt_of_le hlt hle
      obtain ⟨t, ht, hreads⟩ := ih _ (hn ▸ hlt) hu.precedes.sound rfl
      rw [if_neg hname, bind_eq hhere]
      dsimp only
      rw [bind_eq ((onward_eq hlt).trans ht), ← hu.cursor]
      exact ⟨t, rfl, hskip.trans (hu.trans hreads)⟩

/-- A byte is passed if it is the one that is asked for. -/
theorem nextIf_eq {b : UInt8} (hb : b ≠ 0) (s : State) :
    nextIf b s = some ((), if s.cursor.peek 0 = b then s.forward 1 else s) := by
  rw [nextIf, Cursor.peek, State.cursor]
  cases h : s.rest with
  | nil =>
    rw [ifAtEnd_nil h, if_neg (by simpa using hb.symm)]
    rfl
  | cons c r =>
    rw [ifAtEnd_cons h, bind_eq (byte_eq h)]
    by_cases hc : c = b
    · rw [if_pos hc, next_eq h]
      exact congrArg (fun t => some ((), t)) (if_pos hc).symm
    · rw [if_neg hc]
      exact congrArg (fun t => some ((), t)) (if_neg hc).symm

/-- The closing tag at the position, as it is passed. -/
theorem closingName_eq (hs : s.Sound) : ∃ t, closingName s = some ((closeTag s.cursor).1, t)
    ∧ s.Reads t (closeTag s.cursor).2 [] := by
  have hname : (s.forward 2).rest.takeWhile ElementName.isTagByte
      = (s.rest.drop 2).takeWhile ElementName.isTagByte := by rw [State.rest_forward]
  have hskip : (((s.forward 2).skip ElementName.isTagByte).skip isSpace).cursor
      = (s.cursor.advance (2 + ((s.rest.drop 2).takeWhile ElementName.isTagByte).length)).skipWhile
        isSpace := by
    rw [State.cursor_skip, State.skip, State.cursor_forward, State.cursor_forward,
      Cursor.advance_advance, hname]
  have hreads : s.Reads (((s.forward 2).skip ElementName.isTagByte).skip isSpace)
      (((s.forward 2).skip ElementName.isTagByte).skip isSpace).cursor [] :=
    ⟨((hs.precedes_forward 2).forward _).forward _, rfl, by simp [State.skip], by simp [State.skip]⟩
  rw [closingName, bind_eq (advance_eq 2 s), bind_eq (takeWhile_eq (hs.forward 2) _),
    bind_eq (skipWhile_eq _ _), bind_eq (nextIf_eq (by decide) _), hname, hskip]
  refine ⟨_, rfl, ?_⟩
  have hnext := hreads.trans (hreads.precedes.sound.reads_forward 1)
  rw [hskip] at hreads hnext
  unfold closeTag
  dsimp only
  exact .ite (fun _ => hnext) fun _ => hreads

/-- A closing tag that closes nothing. -/
theorem unexpectedClose_eq (hs : s.Sound) : ∃ t, unexpectedClose s
      = some ((), t.report s.line (.unexpectedClose (closeTag s.cursor).1))
    ∧ s.Reads t (closeTag s.cursor).2 [] := by
  obtain ⟨t, ht, hreads⟩ := closingName_eq hs
  rw [unexpectedClose, bind_eq (currentLine_eq s), bind_eq ht]
  exact ⟨t, rfl, hreads⟩

end Stencil.Descent
