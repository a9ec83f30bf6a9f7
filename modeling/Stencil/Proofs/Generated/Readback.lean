import Stencil.Generated.Code
import Stencil.Proofs.Text.OneLine
import Stencil.Proofs.Text.Search

/-!
# Reading calls back

The code that renders markup without conditionals, loops and components is a sequence of
calls, one to a line: `w.Raw` with markup as it is, `w.Text` with an expression that is
shown, `w.Attr` with the name of an attribute and an expression for its value. Each says
which markup it came from, and reading the lines one after the other gives all of it.

`readBody?` is that reading, on the text of the code. `Line.AllWrite` says of generated
lines that they read as some markup, and is kept when lines are put one after another, so
what a piece of markup is rendered as can be read by reading what its parts are.
-/

namespace Stencil

open Bytes

/-! ## Lines of the text -/

/-- What the text shows of a line, in front of the line feed at its end. -/
def Line.shown (l : Line) : Bytes :=
  if l.code.isEmpty then [] else List.replicate l.indent 0x09 ++ l.code

theorem Line.text_eq (l : Line) : l.text = l.shown ++ [newline] := by
  unfold Line.text Line.shown
  split <;> rfl

theorem Line.oneLine_shown {l : Line} (h : l.code.OneLine) : l.shown.OneLine := by
  unfold Line.shown
  split
  · exact oneLine_nil
  · exact oneLine_append.2
      ⟨fun hmem => absurd (List.eq_of_mem_replicate hmem) (by decide), h⟩

/-- **The lines of the text are the lines that were generated**, as long as each of these is a
single one, and what is behind the last line feed. -/
theorem Line.lines_textOf {ls : List Line} (h : ∀ l ∈ ls, l.code.OneLine) :
    lines (Line.textOf ls) = ls.map Line.shown ++ [[]] := by
  induction ls with
  | nil => rfl
  | cons l ls ih =>
    obtain ⟨hl, hls⟩ := List.forall_mem_cons.1 h
    have htext : Line.textOf (l :: ls) = l.shown ++ newline :: Line.textOf ls := by
      show l.text ++ Line.textOf ls = _
      rw [l.text_eq, List.append_assoc]
      rfl
    rw [htext, lines_append_newline (Line.oneLine_shown hl), ih hls]
    rfl

/-! ## Reading -/

/-- What stands between the parentheses of a call of a method of the writer. -/
def callArguments? (method code : Bytes) : Option Bytes :=
  match dropPrefix? (ofString "w." ++ method ++ ofString "(") code with
  | some rest => if rest.getLast? = some (ch ')') then some rest.dropLast else none
  | none => none

/-- The literal at the head of a text, and what follows it. -/
def leadingLiteral? : Bytes → Option (Bytes × Bytes)
  | [] => none
  | q :: s => if q = dquote then Quoted.body? dquote false (s.length + 1) s else none

/-- **The markup a line of code writes**, if the line is one of the three calls. -/
def readCall? (line : Bytes) : Option Bytes :=
  let code := line.dropWhile (· = 0x09)
  match callArguments? "Raw" code with
  | some literal => Quoted.unquote? literal
  | none =>
    match callArguments? "Text" code with
    | some e => some (ofString "@(" ++ e ++ ofString ")")
    | none =>
      match (callArguments? "Attr" code).bind leadingLiteral? with
      | some (name, rest) =>
        (dropPrefix? (ofString ", ") rest).map fun e =>
          ofString " " ++ name ++ ofString "=@(" ++ e ++ ofString ")"
      | none => none

/-- The markup that lines of code write, one after the other. -/
def readCalls? : List Bytes → Option Bytes
  | [] => some []
  | l :: ls =>
    match readCall? l, readCalls? ls with
    | some m, some n => some (m ++ n)
    | _, _ => none

/-- **The markup that the body of `Render` writes**, read line by line. -/
def readBody? (body : Bytes) : Option Bytes := readCalls? (lines body).dropLast

/-- Bodies that can be read may follow one another, and so does the markup that they write. -/
theorem readCalls?_append {ls ls' : List Bytes} {m n : Bytes} (h : readCalls? ls = some m)
    (h' : readCalls? ls' = some n) : readCalls? (ls ++ ls') = some (m ++ n) := by
  induction ls generalizing m with
  | nil =>
    cases h
    exact h'
  | cons l ls ih =>
    rw [readCalls?] at h
    split at h
    · next a b ha hb =>
      cases h
      rw [List.cons_append, readCalls?, ha, ih hb, List.append_assoc]
    · cases h

/-! ## The three calls -/

/-- The arguments of a call stand between its brackets. -/
theorem callArguments?_call (method args : Bytes) :
    callArguments? method (ofString "w." ++ method ++ ofString "(" ++ args ++ ofString ")")
      = some args := by
  unfold callArguments?
  rw [List.append_assoc (ofString "w." ++ method ++ ofString "("), dropPrefix?_append]
  dsimp only
  rw [show ofString ")" = [ch ')'] from rfl, if_pos (by simp), List.dropLast_concat]

/-- A literal is read up to the quote that ends it, since a quote within is escaped. -/
theorem leadingLiteral?_quote (s t : Bytes) :
    leadingLiteral? (Quoted.quote s ++ t) = some (s, t) := by
  have hfuel : (Utf8.runes s).length
      < ((Utf8.runes s).flatMap Quoted.quoteRune ++ dquote :: t).length + 1 := by
    have := Quoted.length_runes_le s
    rw [List.length_append]
    omega
  have hbody := Quoted.body?_runes s _ hfuel t
  unfold Quoted.quote
  rw [List.cons_append, List.cons_append, List.append_assoc, List.singleton_append,
    leadingLiteral?, if_pos rfl]
  exact hbody

/-- Tabs in front of a call do not count. -/
theorem readCall?_indented (k : Nat) (s : Bytes) :
    readCall? (List.replicate k 0x09 ++ s) = readCall? s := by
  unfold readCall?
  rw [List.dropWhile_append_of_pos (by simp)]

/-- A call that writes markup is read as this markup. -/
theorem readCall?_raw (s : Bytes) : readCall? (rawCall s) = some s := by
  have hargs : callArguments? (ofString "Raw") (rawCall s) = some (Quoted.quote s) :=
    callArguments?_call (ofString "Raw") (Quoted.quote s)
  have hhead : (rawCall s).dropWhile (· = 0x09) = rawCall s := rfl
  unfold readCall?
  rw [hhead]
  dsimp only
  rw [hargs]
  exact Quoted.unquote?_quote s

/-- A call that writes a value is read as the expression. -/
theorem readCall?_text (e : Bytes) :
    readCall? (ofString "w.Text(" ++ e ++ ofString ")")
      = some (ofString "@(" ++ e ++ ofString ")") := by
  have hargs : callArguments? (ofString "Text") (ofString "w.Text(" ++ e ++ ofString ")")
      = some e := callArguments?_call (ofString "Text") e
  have hraw : callArguments? (ofString "Raw") (ofString "w.Text(" ++ e ++ ofString ")")
      = none := rfl
  have hhead : (ofString "w.Text(" ++ e ++ ofString ")").dropWhile (· = 0x09)
      = ofString "w.Text(" ++ e ++ ofString ")" := rfl
  unfold readCall?
  rw [hhead]
  dsimp only
  rw [hraw, hargs]

/-- A call that writes an attribute is read as its name and its expression. -/
theorem readCall?_attr (name e : Bytes) :
    readCall? (ofString "w.Attr(" ++ Quoted.quote name ++ ofString ", " ++ e ++ ofString ")")
      = some (ofString " " ++ name ++ ofString "=@(" ++ e ++ ofString ")") := by
  have hcode : ofString "w.Attr(" ++ Quoted.quote name ++ ofString ", " ++ e ++ ofString ")"
      = ofString "w.Attr(" ++ (Quoted.quote name ++ (ofString ", " ++ e)) ++ ofString ")" := by
    simp only [List.append_assoc]
  generalize ofString "w.Attr(" ++ Quoted.quote name ++ ofString ", " ++ e ++ ofString ")" = code
    at hcode ⊢
  subst hcode
  have hargs : ∀ args, callArguments? (ofString "Attr") (ofString "w.Attr(" ++ args ++ ofString ")")
      = some args := callArguments?_call (ofString "Attr")
  have hraw : ∀ args, callArguments? (ofString "Raw") (ofString "w.Attr(" ++ args ++ ofString ")")
      = none := fun _ => rfl
  have htext : ∀ args, callArguments? (ofString "Text")
      (ofString "w.Attr(" ++ args ++ ofString ")") = none := fun _ => rfl
  have hhead : ∀ args, (ofString "w.Attr(" ++ args ++ ofString ")").dropWhile (· = 0x09)
      = ofString "w.Attr(" ++ args ++ ofString ")" := fun _ => rfl
  unfold readCall?
  rw [hhead]
  dsimp only
  rw [hraw, htext, hargs, Option.bind_some, leadingLiteral?_quote]
  dsimp only
  rw [dropPrefix?_append, Option.map_some]

/-! ## Lines of calls -/

/-- **The generated lines read as the markup `m`**, each of them one line of text. -/
structure Line.AllWrite (ls : List Line) (m : Bytes) : Prop where
  /-- No line is empty or broken. -/
  single : ∀ l ∈ ls, l.code ≠ [] ∧ l.code.OneLine
  /-- Their code reads as the markup. -/
  reads : readCalls? (ls.map Line.code) = some m

namespace Line.AllWrite

theorem nil : AllWrite [] [] := ⟨List.forall_mem_nil _, rfl⟩

theorem append {ls ls' : List Line} {m n : Bytes} (h : AllWrite ls m) (h' : AllWrite ls' n) :
    AllWrite (ls ++ ls') (m ++ n) where
  single := List.forall_mem_append.2 ⟨h.single, h'.single⟩
  reads := by
    rw [List.map_append]
    exact readCalls?_append h.reads h'.reads

theorem singleton {l : Line} {m : Bytes} (hne : l.code ≠ []) (hline : l.code.OneLine)
    (h : readCall? l.code = some m) : AllWrite [l] m where
  single := List.forall_mem_singleton.2 ⟨hne, hline⟩
  reads := by
    rw [List.map_singleton, readCalls?, h]
    exact congrArg some (List.append_nil m)

/-- The lines of the text are the lines, indented. -/
theorem lines_textOf {ls : List Line} (h : ∀ l ∈ ls, l.code ≠ [] ∧ l.code.OneLine) :
    (lines (Line.textOf ls)).dropLast = ls.map fun l => List.replicate l.indent 0x09 ++ l.code := by
  rw [Line.lines_textOf fun l hl => (h l hl).2, List.dropLast_concat]
  exact List.map_congr_left fun l hl => if_neg (by simpa using (h l hl).1)

/-- **The text of the lines reads as their markup.** -/
theorem readBody {ls : List Line} {m : Bytes} (h : AllWrite ls m) :
    readBody? (Line.textOf ls) = some m := by
  rw [readBody?, lines_textOf h.single, ← h.reads]
  clear h
  induction ls with
  | nil => rfl
  | cons l ls ih =>
    rw [List.map_cons, List.map_cons, readCalls?, readCalls?, readCall?_indented, ih]

end Line.AllWrite

end Stencil
