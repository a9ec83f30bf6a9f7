import Stencil.Proofs.Generated.Alignment

/-!
# Spliced code counts for its include

A line of code is made for the line of the markup it renders. Inside an included unit that is a
line of another file, so while a unit is spliced in, the writer has a pin: every line counts for
the line of the include, and an include inside of the included unit leaves the pin alone. When
the unit is spliced, the pin is taken back.

Taken as a program, that is a variable which is set and restored around a recursion with
several ways out. `Writer.Command` makes the calls that the markup of a unit leads to explicit:
lines, indentation, reports, and includes. What is written for a unit is what its commands do
one after the other (`Node.writeAll_eq_run`), and the markup of an included unit has its own
commands. So it is enough to look at one command with a pin and one without. With a pin, all
that is written counts for the pin, and pin and stack are as they were
(`Writer.wroteFor_run`); an include is such a command itself, for its own line if there is no
pin yet (`Writer.wroteFor_splice`). Without one, a line counts for the line that is passed
with it.
-/

namespace Stencil

open Bytes

namespace Writer

/-- **What the writer is asked to do** for the markup of a unit. -/
inductive Command where
  /-- Write a line of code for the one-based input line `src`, zero for none. -/
  | emit (src : Nat) (code : Bytes)
  /-- Indent one level more. -/
  | deeper
  /-- Indent one level less. -/
  | shallower
  /-- Note something wrong. -/
  | report (line : Nat) (fault : Fault)
  /-- Splice in the unit at a path, for the include on a line. -/
  | splice (path : Bytes) (line : Nat)

/-- What a command does; `f` splices. -/
def Command.run (f : Bytes → Nat → Writer → Writer) : Command → Writer → Writer
  | .emit src code => Writer.emit src code
  | .deeper => Writer.deeper
  | .shallower => Writer.shallower
  | .report line fault => Writer.report line fault
  | .splice path line => f path line

/-- What commands do, one after the other. -/
def runAll (f : Bytes → Nat → Writer → Writer) (cs : List Command) (w : Writer) : Writer :=
  cs.foldl (fun w c => c.run f w) w

namespace Command

/-- The commands for text, one for each input line. -/
def text : List Bytes → Nat → List Command
  | [], _ => []
  | seg :: segs, line => .emit line (rawCall seg) :: text segs (line + 1)

/-- The commands for an attribute of a plain element. -/
def attr (a : Attr) : List Command :=
  (renderAttr { indent := 0 } a).lines.map fun l => .emit a.line l.code

/-- The commands for an attribute of a component tag. -/
def argument (tag : Bytes) (c : Component) (a : Attr) : List Command :=
  match c.param? a.name with
  | none => [.report a.line (.unknownParam tag a.name)]
  | some param => [.emit a.line (a.name ++ ": " ++ Stencil.argument param a.value ++ ",")]

/-- The commands for a plain element with the given content. -/
def element (tag : Bytes) (attrs : List Attr) (selfClosing : Bool) (line endLine : Nat)
    (content : List Command) : List Command :=
  Command.emit line (rawCall ("<" ++ tag)) :: attrs.flatMap attr
    ++ if ElementName.isVoid tag then [Command.emit line "w.Raw(\">\")"]
      else if selfClosing then [Command.emit line (rawCall ("></" ++ tag ++ ">"))]
      else Command.emit line "w.Raw(\">\")" :: content
        ++ [Command.emit endLine (rawCall ("</" ++ tag ++ ">"))]

/-- The commands for a component tag with the given content, if it has any. -/
def component (tag : Bytes) (attrs : List Attr) (line endLine : Nat) (c : Component)
    (qualifier : Bytes) (hasContent : Bool) (content : List Command) : List Command :=
  let type := if qualifier.isEmpty then c.name else qualifier ++ "." ++ c.name
  [Command.emit line ("w.Component(&" ++ type ++ "\x7b"), Command.deeper]
    ++ attrs.flatMap (argument tag c)
    ++ (if !hasContent then []
      else if (c.param? "Children").isNone then [Command.report line (.noChildContent tag)]
      else
        [Command.emit line
          "Children: []runtime.Component\x7bruntime.Func(func(w *runtime.Buffer) error \x7b",
          Command.deeper] ++ content
          ++ [Command.emit endLine "return nil", Command.shallower,
            Command.emit endLine "\x7d)\x7d,"])
    ++ [Command.shallower, Command.emit endLine "\x7d)"]

end Command

section Run

variable (f : Bytes → Nat → Writer → Writer) (w : Writer)

/-- An include is the one command of which the meaning is left open. -/
theorem run_splice (path : Bytes) (line : Nat) :
    (Command.splice path line).run f w = f path line w := rfl

@[simp] theorem runAll_cons (c : Command) (cs : List Command) :
    runAll f (c :: cs) w = runAll f cs (c.run f w) := rfl

@[simp] theorem runAll_append (cs ds : List Command) :
    runAll f (cs ++ ds) w = runAll f ds (runAll f cs w) := List.foldl_append

/-- Commands for each element of a list are a loop over the list. -/
theorem runAll_flatMap {α : Type} (g : α → List Command) (step : Writer → α → Writer)
    (hstep : ∀ w a, runAll f (g a) w = step w a) (l : List α) :
    runAll f (l.flatMap g) w = l.foldl step w := by
  induction l generalizing w with
  | nil => rfl
  | cons a l ih => rw [List.flatMap_cons, runAll_append, ih, hstep, List.foldl_cons]

/-- The commands of a text write its segments, each for the line after the one before. -/
theorem runAll_text (segs : List Bytes) (line : Nat) :
    runAll f (Command.text segs line) w = w.writeText segs line := by
  induction segs generalizing line w with
  | nil => rfl
  | cons seg segs ih => exact ih ..

theorem runAll_attr (a : Attr) : runAll f (Command.attr a) w = w.writeAttr a := rfl

/-- The command of an argument writes it, or reports that the component has none of that name. -/
theorem runAll_argument (tag : Bytes) (c : Component) (a : Attr) :
    runAll f (Command.argument tag c a) w = w.writeArgument tag c a := by
  unfold Command.argument writeArgument
  cases c.param? a.name <;> rfl

/-- The commands of a plain element around those of its content. -/
theorem runAll_element (tag : Bytes) (attrs : List Attr) (selfClosing : Bool)
    (line endLine : Nat) (content : List Command) :
    runAll f (Command.element tag attrs selfClosing line endLine content) w
      = w.writeElement tag attrs selfClosing line endLine (runAll f content) := by
  unfold Command.element writeElement
  rw [List.cons_append, runAll_cons, runAll_append,
    runAll_flatMap f _ Command.attr writeAttr (runAll_attr f)]
  dsimp only
  split
  · rfl
  · split
    · rfl
    · rw [List.cons_append, runAll_cons, runAll_append]
      rfl

/-- The commands of a component tag around those of its content. -/
theorem runAll_component (tag : Bytes) (attrs : List Attr) (line endLine : Nat) (c : Component)
    (qualifier : Bytes) (hasContent : Bool) (content : List Command) :
    runAll f (Command.component tag attrs line endLine c qualifier hasContent content) w
      = w.writeComponent tag attrs line endLine c qualifier hasContent (runAll f content) := by
  unfold Command.component writeComponent
  dsimp only
  rw [runAll_append, runAll_append, runAll_append,
    runAll_flatMap f _ (Command.argument tag c) (writeArgument tag c)
      fun w a => runAll_argument f w tag c a]
  split
  · rfl
  · split
    · rfl
    · rw [runAll_append, runAll_append]
      rfl

end Run

end Writer

open Writer (Command)

mutual

/-- **The commands for a node.** -/
def Node.commands (ctx : RenderContext) : Node → List Command
  | .text value line => Command.text (textSegments value) line
  | .expr code line => [.emit line ("w.Text(" ++ code ++ ")")]
  | .splice path line => [.splice path line]
  | .loop clause body line endLine =>
    [.emit line ("for " ++ clause ++ " \x7b"), .deeper] ++ Node.commandsAll ctx body
      ++ [.shallower, .emit endLine "\x7d"]
  | .choice branches otherwise elseLine endLine =>
    Branch.commandsAll ctx true branches
      ++ (if otherwise.isEmpty then []
        else [.shallower, .emit elseLine "\x7d else \x7b", .deeper]
          ++ Node.commandsAll ctx otherwise)
      ++ [.shallower, .emit endLine "\x7d"]
  | .element tag attrs children selfClosing line endLine =>
    let content := Node.commandsAll ctx children
    if ElementName.isComponent tag then
      match ctx.component tag with
      | .ok (c, qualifier) =>
        Command.component tag attrs line endLine c qualifier (children.any Node.isContent) content
      | .error fault =>
        .report line fault :: Command.element tag attrs selfClosing line endLine content
    else Command.element tag attrs selfClosing line endLine content

/-- The commands for nodes. -/
def Node.commandsAll (ctx : RenderContext) : List Node → List Command
  | [] => []
  | n :: ns => n.commands ctx ++ Node.commandsAll ctx ns

/-- The commands for the branches of a conditional. -/
def Branch.commandsAll (ctx : RenderContext) (first : Bool) : List Branch → List Command
  | [] => []
  | b :: bs => b.commands ctx first ++ Branch.commandsAll ctx false bs

/-- The commands for a branch. -/
def Branch.commands (ctx : RenderContext) (first : Bool) : Branch → List Command
  | .mk cond body line =>
    (if first then [.emit line ("if " ++ cond ++ " \x7b")]
      else [.shallower, .emit line ("\x7d else if " ++ cond ++ " \x7b")])
      ++ .deeper :: Node.commandsAll ctx body

end

section Trees

variable (ctx : RenderContext) (f : Bytes → Nat → Writer → Writer)

mutual

/-- **Writing a node is running its commands.** -/
theorem Node.write_eq_run : ∀ (n : Node) (w : Writer),
    n.write ctx f w = w.runAll f (n.commands ctx)
  | .text value line, w => (Writer.runAll_text f w (textSegments value) line).symm
  | .expr _ _, _ => rfl
  | .splice _ _, _ => rfl
  | .loop clause body line endLine, w => by
    rw [Node.write, Node.commands, Writer.runAll_append, Writer.runAll_append,
      ← Node.writeAll_eq_run body]
    rfl
  | .choice branches otherwise elseLine endLine, w => by
    rw [Node.write, Node.commands, Writer.runAll_append, Writer.runAll_append,
      ← Branch.writeAll_eq_run true branches]
    dsimp only
    split
    · rfl
    · rw [Writer.runAll_append, ← Node.writeAll_eq_run otherwise]
      rfl
  | .element tag attrs children selfClosing line endLine, w => by
    have hcontent : Node.writeAll ctx f children
        = Writer.runAll f (Node.commandsAll ctx children) :=
      funext (Node.writeAll_eq_run children)
    rw [Node.write, Node.commands, hcontent]
    dsimp only
    split
    · cases ctx.component tag with
      | error fault => exact (Writer.runAll_element ..).symm
      | ok found => exact (Writer.runAll_component ..).symm
    · exact (Writer.runAll_element ..).symm

/-- Writing nodes is running their commands. -/
theorem Node.writeAll_eq_run : ∀ (ns : List Node) (w : Writer),
    Node.writeAll ctx f ns w = w.runAll f (Node.commandsAll ctx ns)
  | [], _ => rfl
  | n :: ns, w => by
    rw [Node.writeAll, Node.commandsAll, Writer.runAll_append, ← Node.write_eq_run n,
      ← Node.writeAll_eq_run ns]

/-- Writing branches is running their commands. -/
theorem Branch.writeAll_eq_run (first : Bool) : ∀ (bs : List Branch) (w : Writer),
    Branch.writeAll ctx f first bs w = w.runAll f (Branch.commandsAll ctx first bs)
  | [], _ => rfl
  | .mk cond body line :: bs, w => by
    rw [Branch.writeAll, Branch.commandsAll, Writer.runAll_append,
      ← Branch.writeAll_eq_run false bs, Branch.write, Branch.commands, Writer.runAll_append,
      Writer.runAll_cons, ← Node.writeAll_eq_run body]
    cases first <;> rfl

end

end Trees

/-! ## With a pin -/

namespace Writer

/-- **Between two states, lines were written for one origin**, a zero-based line of the input or
none: they are noted under it one after the other. The pin and the stack are the same as
before. -/
structure WroteFor (origin : Option Nat) (w w' : Writer) : Prop where
  pin : w'.pin = w.pin
  including : w'.including = w.including
  lines : ∃ starts : List Nat,
    w'.buffer.calls = w.buffer.calls ++ starts.map (·, origin)
    ∧ w'.buffer.line = w.buffer.line + starts.length
    ∧ w'.buffer.origins = w.buffer.origins
      ++ (List.range' w.buffer.line starts.length).flatMap fun k => (origin.map (k, ·)).toList

/-- The origin of a line that is made for the one-based input line `src`, zero for none. -/
def originOf (src : Nat) : Option Nat := if 0 < src then some (src - 1) else none

namespace WroteFor

variable {origin : Option Nat} {w w' w'' : Writer}

/-- Nothing was written. -/
theorem of_buffer_eq (hbuffer : w'.buffer = w.buffer) (hpin : w'.pin = w.pin)
    (hincluding : w'.including = w.including) : WroteFor origin w w' :=
  ⟨hpin, hincluding, [], by simp [hbuffer]⟩

/-- Lines that count for one origin may follow one another. -/
theorem trans (h : WroteFor origin w w') (h' : WroteFor origin w' w'') :
    WroteFor origin w w'' := by
  obtain ⟨starts, hcalls, hline, horigins⟩ := h.lines
  obtain ⟨starts', hcalls', hline', horigins'⟩ := h'.lines
  refine ⟨h'.pin.trans h.pin, h'.including.trans h.including, starts ++ starts', ?_, ?_, ?_⟩
  · rw [hcalls', hcalls, List.map_append, List.append_assoc]
  · rw [hline', hline, List.length_append, Nat.add_assoc]
  · rw [horigins', horigins, hline, List.length_append, List.append_assoc, ← List.flatMap_append,
      List.range'_append_1]

/-- A line counts for what it is made for. -/
theorem emit (src : Nat) (code : Bytes) (w : Writer) :
    WroteFor (originOf (w.lineFor src)) w (w.emit src code) := by
  refine ⟨rfl, rfl, [1 + newlines w.buffer.text], rfl, rfl, ?_⟩
  show (if 0 < w.lineFor src then _ else _) = w.buffer.origins ++ _
  unfold originOf
  split
  · rfl
  · exact (List.append_nil _).symm

end WroteFor

/-- With a pin set, everything counts for the pinned line. -/
theorem lineFor_of_pin {w : Writer} {line : Nat} (hline : 0 < line) (hpin : w.pin = line)
    (src : Nat) : w.lineFor src = line := by
  rw [lineFor, hpin]
  exact if_pos hline

/-- Without a pin, a line counts for where its code comes from. -/
theorem lineFor_of_no_pin {w : Writer} (hpin : w.pin = 0) (src : Nat) : w.lineFor src = src := by
  rw [lineFor, hpin]
  exact if_neg (Nat.lt_irrefl 0)

section Pinned

variable {f : Bytes → Nat → Writer → Writer} {line : Nat}

/-- Without a pin, a line counts for the line that is passed with it. -/
theorem WroteFor.own {w : Writer} (hpin : w.pin = 0) (src : Nat) (code : Bytes) :
    WroteFor (originOf src) w (w.emit src code) := by
  have hwrote := WroteFor.emit src code w
  rwa [lineFor_of_no_pin hpin] at hwrote

/-- **With a pin, what a command writes counts for the pin**, whatever line is passed with it, as
long as includes keep to that. -/
theorem wroteFor_run (hline : 0 < line)
    (hf : ∀ (path : Bytes) (l : Nat) (w : Writer), w.pin = line →
      WroteFor (originOf line) w (f path l w))
    (c : Command) {w : Writer} (hpin : w.pin = line) :
    WroteFor (originOf line) w (c.run f w) := by
  cases c with
  | emit src code => exact lineFor_of_pin hline hpin src ▸ WroteFor.emit src code w
  | deeper | shallower | report => exact .of_buffer_eq rfl rfl rfl
  | splice path l => exact hf path l w hpin

/-- With a pin set, a list of commands writes for the pinned line only, and so do the includes
within. -/
theorem wroteFor_runAll (hline : 0 < line)
    (hf : ∀ (path : Bytes) (l : Nat) (w : Writer), w.pin = line →
      WroteFor (originOf line) w (f path l w))
    (cs : List Command) {w : Writer} (hpin : w.pin = line) :
    WroteFor (originOf line) w (w.runAll f cs) := by
  induction cs generalizing w with
  | nil => exact .of_buffer_eq rfl rfl rfl
  | cons c cs ih =>
    have hfirst := wroteFor_run hline hf c hpin
    exact hfirst.trans (ih (hfirst.pin.trans hpin))

end Pinned

/-- **What an include writes counts for the pin**, or for the line of the include if there is
none, however deep the includes in it go; and the pin and the stack are restored. -/
theorem wroteFor_splice (ctx : RenderContext) (ix : UnitIndex) (self : Bytes) (depth : Nat)
    (path : Bytes) (line : Nat) (w : Writer) (hline : 0 < w.lineFor line) :
    WroteFor (originOf (w.lineFor line)) w (splice ctx ix self depth path line w) := by
  induction depth generalizing path line w with
  | zero => exact .of_buffer_eq rfl rfl rfl
  | succ depth ih =>
    unfold splice
    dsimp only
    generalize includeTarget (Splice.currentDir (Path.dir self) w.including) path = target
    split
    · exact .of_buffer_eq rfl rfl rfl
    · split
      · exact .of_buffer_eq rfl rfl rfl
      · split
        · exact .of_buffer_eq rfl rfl rfl
        · next u _ _ _ =>
          -- every include inside finds the pin that this one has set
          have hinside : ∀ (path : Bytes) (l : Nat) (v : Writer), v.pin = w.lineFor line →
              WroteFor (originOf (w.lineFor line)) v (splice ctx ix self depth path l v) := by
            intro path l v hv
            have hpin := lineFor_of_pin hline hv l
            exact hpin ▸ ih path l v (hpin.symm ▸ hline)
          have hbody := wroteFor_runAll hline hinside
            (Node.commandsAll ctx (Document.read u.text).1.body)
            (w := { w with pin := w.lineFor line, including := w.including ++ [target] }) rfl
          rw [Node.writeAll_eq_run]
          refine ⟨rfl, ?_, hbody.lines⟩
          rw [hbody.including, List.dropLast_concat]

/-! ## Without a pin -/

/-- An include that a command asks for is on a line. -/
def Command.Placed : Command → Prop
  | .splice _ line => 0 < line
  | _ => True

/-- A text asks for no include. -/
theorem Command.placed_text (segs : List Bytes) (line : Nat) : ∀ c ∈ text segs line, c.Placed := by
  induction segs generalizing line with
  | nil => exact List.forall_mem_nil _
  | cons seg segs ih => exact List.forall_mem_cons.2 ⟨trivial, ih _⟩

/-- The includes that a plain element asks for are those of its content. -/
theorem Command.placed_element (tag : Bytes) (attrs : List Attr) (selfClosing : Bool)
    (line endLine : Nat) {content : List Command} (h : ∀ c ∈ content, c.Placed) :
    ∀ c ∈ element tag attrs selfClosing line endLine content, c.Placed := by
  have hattrs : ∀ c ∈ attrs.flatMap attr, c.Placed := by
    intro c hc
    obtain ⟨a, -, hc⟩ := List.mem_flatMap.1 hc
    obtain ⟨l, -, rfl⟩ := List.mem_map.1 hc
    exact trivial
  unfold element
  refine List.forall_mem_append.2 ⟨List.forall_mem_cons.2 ⟨trivial, hattrs⟩, ?_⟩
  split
  · exact List.forall_mem_singleton.2 trivial
  · split
    · exact List.forall_mem_singleton.2 trivial
    · exact List.forall_mem_append.2 ⟨List.forall_mem_cons.2 ⟨trivial, h⟩,
        List.forall_mem_singleton.2 trivial⟩

/-- The same for a component tag, of which the content may be left out. -/
theorem Command.placed_component (tag : Bytes) (attrs : List Attr) (line endLine : Nat)
    (c : Component) (qualifier : Bytes) (hasContent : Bool) {content : List Command}
    (h : ∀ c ∈ content, c.Placed) :
    ∀ d ∈ component tag attrs line endLine c qualifier hasContent content, d.Placed := by
  have hattrs : ∀ d ∈ attrs.flatMap (argument tag c), d.Placed := by
    intro d hd
    obtain ⟨a, -, hd⟩ := List.mem_flatMap.1 hd
    unfold argument at hd
    split at hd <;>
      · rw [List.mem_singleton.1 hd]
        exact trivial
  have hcontent : ∀ d ∈ (if !hasContent then []
      else if (c.param? "Children").isNone then [Command.report line (.noChildContent tag)]
      else
        [Command.emit line
          "Children: []runtime.Component\x7bruntime.Func(func(w *runtime.Buffer) error \x7b",
          Command.deeper] ++ content
          ++ [Command.emit endLine "return nil", Command.shallower,
            Command.emit endLine "\x7d)\x7d,"]),
      Command.Placed d := by
    split
    · exact List.forall_mem_nil _
    · split
      · exact List.forall_mem_singleton.2 trivial
      · rw [List.forall_mem_append, List.forall_mem_append]
        exact ⟨⟨by simp [Placed], h⟩, by simp [Placed]⟩
  unfold component
  dsimp only
  rw [List.forall_mem_append, List.forall_mem_append, List.forall_mem_append]
  exact ⟨⟨⟨by simp [Placed], hattrs⟩, hcontent⟩, by simp [Placed]⟩

end Writer

section Placed

variable (ctx : RenderContext)

mutual

/-- The includes of nodes that were read are on lines. -/
theorem Node.placed_commands : ∀ n : Node, n.WellFormed → ∀ c ∈ n.commands ctx, c.Placed
  | .text value line, _ => Command.placed_text (textSegments value) line
  | .expr _ _, _ => List.forall_mem_singleton.2 trivial
  | .splice _ _, h => List.forall_mem_singleton.2 h
  | .loop _ body _ _, h => by
    have hbody := Node.placed_commandsAll body h
    rw [Node.commands, List.forall_mem_append, List.forall_mem_append]
    exact ⟨⟨by simp [Command.Placed], hbody⟩, by simp [Command.Placed]⟩
  | .choice branches otherwise _ _, h => by
    have hbranches := Branch.placed_commandsAll true branches h.2.1
    have hotherwise := Node.placed_commandsAll otherwise h.2.2
    rw [Node.commands, List.forall_mem_append, List.forall_mem_append]
    refine ⟨⟨hbranches, ?_⟩, by simp [Command.Placed]⟩
    split
    · exact List.forall_mem_nil _
    · exact List.forall_mem_append.2 ⟨by simp [Command.Placed], hotherwise⟩
  | .element _ _ children _ _ _, h => by
    have hchildren := Node.placed_commandsAll children h.2.2.1
    rw [Node.commands]
    split
    · cases ctx.component _ with
      | error fault =>
        exact List.forall_mem_cons.2 ⟨trivial, Command.placed_element _ _ _ _ _ hchildren⟩
      | ok found => exact Command.placed_component _ _ _ _ _ _ _ hchildren
    · exact Command.placed_element _ _ _ _ _ hchildren

/-- The commands of a list of nodes are placed, by induction along with `Node.placed_commands`. -/
theorem Node.placed_commandsAll : ∀ ns : List Node, Node.AllWellFormed ns →
    ∀ c ∈ Node.commandsAll ctx ns, c.Placed
  | [], _ => List.forall_mem_nil _
  | n :: ns, h =>
    List.forall_mem_append.2 ⟨Node.placed_commands n h.1, Node.placed_commandsAll ns h.2⟩

/-- The commands of branches are placed, by the same induction. -/
theorem Branch.placed_commandsAll (first : Bool) : ∀ bs : List Branch, Branch.AllWellFormed bs →
    ∀ c ∈ Branch.commandsAll ctx first bs, c.Placed
  | [], _ => List.forall_mem_nil _
  | .mk _ body _ :: bs, h => by
    have hbody := Node.placed_commandsAll body h.1
    rw [Branch.commandsAll, Branch.commands, List.forall_mem_append, List.forall_mem_append]
    refine ⟨⟨?_, List.forall_mem_cons.2 ⟨trivial, hbody⟩⟩, Branch.placed_commandsAll false bs h.2⟩
    cases first <;> simp [Command.Placed]

end

end Placed

namespace Writer

/-- The commands for the body of `Render` in the full code of a unit. -/
def Command.body (resolver : Resolver) (d : Document) : List Command :=
  d.params.flatMap (fun p =>
      [Command.emit p.line (p.name ++ " := c." ++ p.name), Command.emit p.line ("_ = " ++ p.name)])
    ++ Node.commandsAll { imports := d.imports, resolver } d.body
    ++ [Command.emit 0 (lastLine .full)]

/-- Every include in the body of a well-formed document is on a line of the input. -/
theorem Command.placed_body (resolver : Resolver) {d : Document} (hd : d.WellFormed) :
    ∀ c ∈ body resolver d, c.Placed := by
  have hparams : ∀ c ∈ d.params.flatMap (fun p =>
      [Command.emit p.line (p.name ++ " := c." ++ p.name), .emit p.line ("_ = " ++ p.name)]),
      c.Placed := by
    intro c hc
    obtain ⟨p, -, hc⟩ := List.mem_flatMap.1 hc
    obtain rfl | hc := List.mem_cons.1 hc
    · exact trivial
    · rw [List.mem_singleton.1 hc]
      exact trivial
  exact List.forall_mem_append.2 ⟨List.forall_mem_append.2 ⟨hparams,
    Node.placed_commandsAll _ _ (Node.allWellFormed_iff.2 hd.body)⟩,
    List.forall_mem_singleton.2 trivial⟩

/-- Splicing, as it is done for a unit. -/
def spliceOf (u : SourceUnit) (input : Bytes) (ix : UnitIndex) (resolver : Resolver) :
    Bytes → Nat → Writer → Writer :=
  splice { imports := (u.document input ix).imports, resolver } ix u.path
    (Splice.depthBound ix u.path input)

/-- **The body of `Render` is what its commands write.** -/
theorem runAll_body (u : SourceUnit) (input : Bytes) (ix : UnitIndex) (resolver : Resolver)
    (package : Bytes) :
    (beforeBody u input ix package).runAll (spliceOf u input ix resolver)
        (Command.body resolver (u.document input ix))
      = (afterBody u input .full ix resolver package).emit 0 (lastLine .full) := by
  unfold Command.body afterBody writeBody
  rw [runAll_append, runAll_append, runAll_flatMap _ _ _ writeParam fun _ _ => rfl,
    ← Node.writeAll_eq_run]
  rfl

/-- Without a pin an include counts for its own line. -/
theorem wroteFor_spliceOf (u : SourceUnit) (input : Bytes) (ix : UnitIndex) (resolver : Resolver)
    (path : Bytes) {line : Nat} (hline : 0 < line) {w : Writer} (hpin : w.pin = 0) :
    WroteFor (originOf line) w (spliceOf u input ix resolver path line w) := by
  have hfor := lineFor_of_no_pin hpin line
  have hwrote := wroteFor_splice { imports := (u.document input ix).imports, resolver } ix u.path
    (Splice.depthBound ix u.path input) path line w (by rw [hfor]; exact hline)
  rwa [hfor] at hwrote

/-- Without a pin, no command leaves one behind, and the stack is as it was. -/
theorem unpinned_run (u : SourceUnit) (input : Bytes) (ix : UnitIndex) (resolver : Resolver)
    {c : Command} (hc : c.Placed) {w : Writer} (hpin : w.pin = 0) :
    (c.run (spliceOf u input ix resolver) w).pin = 0
      ∧ (c.run (spliceOf u input ix resolver) w).including = w.including := by
  cases c with
  | emit | deeper | shallower | report => exact ⟨hpin, rfl⟩
  | splice path line =>
    have hwrote := wroteFor_spliceOf u input ix resolver path hc hpin
    rw [run_splice]
    exact ⟨hwrote.pin.trans hpin, hwrote.including⟩

/-- Hence no commands do. -/
theorem unpinned_runAll (u : SourceUnit) (input : Bytes) (ix : UnitIndex) (resolver : Resolver)
    {cs : List Command} (hcs : ∀ c ∈ cs, c.Placed) {w : Writer} (hpin : w.pin = 0) :
    (w.runAll (spliceOf u input ix resolver) cs).pin = 0
      ∧ (w.runAll (spliceOf u input ix resolver) cs).including = w.including := by
  induction cs generalizing w with
  | nil => exact ⟨hpin, rfl⟩
  | cons c cs ih =>
    obtain ⟨hc, hcs⟩ := List.forall_mem_cons.1 hcs
    obtain ⟨hnext, hstack⟩ := unpinned_run u input ix resolver hc hpin
    obtain ⟨hend, hincluding⟩ := ih hcs hnext
    exact ⟨hend, hincluding.trans hstack⟩

end Writer

/-- **Spliced code counts for the outermost include, and nothing else does.** The body of
`Render` in the full code of a unit is written by commands. Each finds the writer without a
pin. If it is an include, all lines that are written until it is done, by included units
at any depth, are noted for the line of the include, those that are made for no line too; and
a line that is asked for next is noted for the line that is passed with it, like all lines that
the commands ask for themselves. -/
theorem spliced_lines_attributed (u : SourceUnit) (input : Bytes) (ix : UnitIndex)
    (resolver : Resolver) (package : Bytes) :
    let start := Writer.beforeBody u input ix package
    let splice := Writer.spliceOf u input ix resolver
    let commands := Command.body resolver (u.document input ix)
    let file := (start.runAll splice commands).shallower.writePostamble (u.document input ix)
    file = Writer.ofUnit u input .full ix resolver package
    ∧ file.buffer.origins = (Generate.unit u input .full ix resolver package).sourceMap.entries
    ∧ ∀ before c after, commands = before ++ c :: after →
      let w := start.runAll splice before
      w.pin = 0 ∧ w.including = []
      ∧ (∀ path line, c = .splice path line →
          0 < line ∧ Writer.WroteFor (some (line - 1)) w (splice path line w)
          ∧ ∀ src code, Writer.WroteFor (Writer.originOf src) (splice path line w)
              ((splice path line w).emit src code))
      ∧ ∀ src code, c = .emit src code →
          Writer.WroteFor (Writer.originOf src) w (w.emit src code) := by
  intro start splice commands file
  have hfile : file = Writer.ofUnit u input .full ix resolver package :=
    congrArg (fun w => Writer.writePostamble (u.document input ix) (Writer.shallower w))
      (Writer.runAll_body u input ix resolver package)
  refine ⟨hfile, hfile ▸ Writer.origins_ofUnit u input .full ix resolver package, ?_⟩
  intro before c after hcommands w
  have hplaced : ∀ c ∈ commands, c.Placed :=
    Command.placed_body resolver (u.wellFormed_document input ix)
  rw [hcommands, List.forall_mem_append, List.forall_mem_cons] at hplaced
  have hstart := (Writer.beforeBody_eq u input ix package).1
  obtain ⟨hpin, hincluding⟩ := Writer.unpinned_runAll u input ix resolver hplaced.1 hstart.pin
  refine ⟨hpin, hincluding.trans hstart.including, ?_, fun src code _ => .own hpin src code⟩
  rintro path line rfl
  have hline : 0 < line := hplaced.2.1
  have hwrote := Writer.wroteFor_spliceOf u input ix resolver path hline hpin
  refine ⟨hline, ?_, .own (hwrote.pin.trans hpin)⟩
  have horigin : Writer.originOf line = some (line - 1) := if_pos hline
  rw [← horigin]
  exact hwrote

end Stencil
