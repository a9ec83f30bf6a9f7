import Stencil.Cli.Command

/-!
# Help

The help of a command is what it does, how it is used, the commands below it and the flags
it knows.
-/

namespace Stencil.Cli

open Bytes

namespace Flag

/-- The kind of the value of a flag, as it is shown. -/
def placeholder (f : Flag) : Bytes :=
  match f.kind with
  | .text => " string"
  | .number => " int"
  | .switch => []
  | .duration => " duration"

/-- A flag as it is written, with what its value is. -/
def heading (f : Flag) : Bytes :=
  let start : Bytes := match f.letter with
    | some c => [ch ' ', ch ' ', ch '-', c] ++ ", --"
    | none => "      --"
  start ++ f.name ++ f.placeholder

/-- What a flag is for, with its default. -/
def explanation (f : Flag) : Bytes :=
  if f.default.isEmpty then f.usage
  else
    f.usage ++ " (default " ++ (if f.kind = .text then Quoted.quote f.default else f.default) ++ ")"

/-- Flags by name, one on a line. -/
def usages (fs : List Flag) : Bytes :=
  let sorted := fs.mergeSort fun a b => Bytes.le a.name b.name
  let width := (sorted.map fun f => f.heading.length).foldl max 0
  join [newline] (sorted.map fun (f : Flag) =>
    f.heading ++ List.replicate (width - f.heading.length + 3) (ch ' ') ++ f.explanation)

end Flag

namespace Command

/-- The commands below a command as help shows them. -/
def childList (c : Command) : Bytes :=
  let sorted := c.children.mergeSort fun a b => Bytes.le a.name b.name
  sorted.flatMap fun (d : Command) =>
    newline :: "  " ++ d.name ++ List.replicate (11 - d.name.length) (ch ' ') ++ " " ++ d.short

/-- How a command is used, given its own flags. -/
def usageWith (c : Command) (own : List Flag) : Bytes :=
  let hasChildren := !c.children.isEmpty
  let parent := join " " (program :: c.path.dropLast)
  let inherited : List Flag := if c.path.isEmpty then [] else commonFlags
  let part (wanted : Bool) (text : Bytes) : Bytes := if wanted then text else []
  "Usage:"
    ++ part c.isRunnable
      ("\n  " ++ parent ++ " " ++ c.use ++ part c.mentionsFlags " [flags]")
    ++ part hasChildren ("\n  " ++ c.title ++ " [command]")
    ++ part (!c.aliases.isEmpty) ("\n\nAliases:\n  " ++ join ", " (c.name :: c.aliases))
    ++ part hasChildren ("\n\nAvailable Commands:" ++ c.childList)
    ++ "\n\nFlags:\n" ++ Flag.usages own
    ++ part (!inherited.isEmpty) ("\n\nGlobal Flags:\n" ++ Flag.usages inherited)
    ++ part hasChildren
      ("\n\nUse \"" ++ c.title ++ " [command] --help\" for more information about a command.")
    ++ [newline]

/-- **How a command is used.** -/
def usage (c : Command) : Bytes := c.usageWith (c.flags ++ [c.helpFlag])

/-- **The help of a command.** -/
def helpText (c : Command) : Bytes :=
  (if c.long.isEmpty then c.short else c.long) ++ [newline, newline] ++ c.usage

end Command

end Stencil.Cli
