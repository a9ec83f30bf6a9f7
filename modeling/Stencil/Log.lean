import Stencil.Text.Decimal
import Stencil.Text.Json
import Stencil.Text.Quoted

/-!
# Log lines

A logger has a level, a component, and fields that it puts on every line. A line is a
level, a message and attributes; it is written as words of the form key=value or as a JSON
object. When a line is written is not the logger's business: lines here carry no time.

Fields are given as alternating keys and values, the way callers write them. A key that is
no text is skipped with its value, and so is a key without a value.
-/

namespace Stencil.Log

open Bytes

/-- **How much a logger writes**, or how urgent a line is: the higher the number, the more
urgent. -/
structure Level where
  /-- The number. -/
  rank : Int
  deriving DecidableEq, Repr

namespace Level

/-- Details. -/
def debug : Level := ⟨0⟩
/-- What happens. -/
def info : Level := ⟨1⟩
/-- What should not happen. -/
def warn : Level := ⟨2⟩
/-- What must not happen. -/
def error : Level := ⟨3⟩

/-- The name of a level. -/
def name (l : Level) : Bytes :=
  if l = debug then "DEBUG"
  else if l = info then "INFO"
  else if l = warn then "WARN"
  else if l = error then "ERROR"
  else "UNKNOWN"

/-- The level of a name, in any case and with blanks around it; no name is the level of
what happens. -/
def ofName? (s : Bytes) : Option Level :=
  let word := lowerText (trim s)
  if word = "debug" then some debug
  else if word.isEmpty || word = "info" then some info
  else if word = "warn" || word = "warning" then some warn
  else if word = "error" then some error
  else none

/-- What is said about a name that is none. -/
def unknown (s : Bytes) : Bytes := "unknown log level " ++ Quoted.quote s

end Level

/-- **A value on a line.** -/
inductive Value where
  /-- Nothing. -/
  | none
  /-- A text. -/
  | text (s : Bytes)
  /-- An integer. -/
  | int (n : Int)
  /-- A fraction, by its bits. -/
  | float (bits : UInt64)
  /-- A truth value. -/
  | bool (b : Bool)
  /-- Several values. -/
  | list (l : List Value)
  /-- Values with names. -/
  | map (entries : List (Bytes × Value))
  deriving Repr

/-- Several texts as a value. -/
def Value.texts (l : List Bytes) : Value := .list (l.map .text)

/-- Whether a value is nothing. -/
def Value.isNone : Value → Bool
  | .none => true
  | _ => false

/-- The entries of an object as a reader that keeps one value for each name has them: the
last of each name, by name. -/
def Value.entries (l : List (Bytes × Value)) : List (Bytes × Value) :=
  (Bytes.sort (Bytes.dedup (l.map (·.1)))).filterMap fun k => l.reverse.find? fun e => e.1 = k

mutual

/-- **The value that a JSON value stands for**: every number is a fraction. -/
def Value.ofJson : Json → Value
  | .null => .none
  | .bool b => .bool b
  | .num ds => .float (Decimal.toBits ds)
  | .str s => .text s
  | .arr l => .list (Value.ofItems l)
  | .obj ms => .map (Value.entries (Value.ofMembers ms))

/-- The values of the items of an array. -/
def Value.ofItems : List Json → List Value
  | [] => []
  | v :: vs => Value.ofJson v :: Value.ofItems vs

/-- The values of the members of an object. -/
def Value.ofMembers : List (Bytes × Json) → List (Bytes × Value)
  | [] => []
  | (k, v) :: ms => (k, Value.ofJson v) :: Value.ofMembers ms

end

/-- An attribute of a line. -/
abbrev Attr := Bytes × Value

/-- **A line of a log.** -/
structure Line where
  /-- How urgent it is. -/
  level : Level
  /-- The message. -/
  message : Bytes
  /-- The attributes, in order. -/
  attrs : List Attr
  deriving Repr

/-- The attributes of alternating keys and values. -/
def pairs : List Value → List Attr
  | .text k :: v :: rest => (k, v) :: pairs rest
  | _ :: _ :: rest => pairs rest
  | _ => []

/-! ## Writing -/

/-- Whether a character needs quotes around the word it is in. -/
def needsQuotes (r : Rune) : Bool :=
  if r.code < 0x80 && r.valid then r.code ≤ 0x20 || r.code = 0x3d || r.code = 0x22
  else !r.valid || r.code = 0xfffd || Utf8.isSpace r.code || !CharClass.isPrint r.code

/-- A word of a line, in quotes if it needs them. -/
def word (s : Bytes) : Bytes :=
  if s.isEmpty || (Utf8.runes s).any needsQuotes then Quoted.quote s else s

/-- A fraction in a format; what is not finite has a name. -/
def number (format : Decimal.Digits → Bytes) (bits : UInt64) : Bytes :=
  match Decimal.shortest? bits with
  | some d => format d
  | none =>
    if (bits &&& 0xfffffffffffff) ≠ 0 then "NaN"
    else if bits >>> 63 = 1 then "-Inf"
    else "+Inf"

mutual

/-- A value as it stands among others. -/
def Value.shown : Value → Bytes
  | .none => "<nil>"
  | .text s => s
  | .int n => Bytes.ofInt n
  | .float bits => number Decimal.general bits
  | .bool b => if b then "true" else "false"
  | .list l => "[" ++ join " " (Value.shownItems l) ++ "]"
  | .map es => "map[" ++ join " " (Value.shownEntries es) ++ "]"

/-- Several values, each on its own. -/
def Value.shownItems : List Value → List Bytes
  | [] => []
  | v :: vs => v.shown :: Value.shownItems vs

/-- Values with their names, each on its own. -/
def Value.shownEntries : List (Bytes × Value) → List Bytes
  | [] => []
  | (k, v) :: es => (k ++ ":" ++ v.shown) :: Value.shownEntries es

end

/-- A value as a word. -/
def Value.word (v : Value) : Bytes :=
  match v with
  | .int _ | .float _ | .bool _ => v.shown
  | .none | .text _ | .list _ | .map _ => Log.word v.shown

/-- How a character is written inside a JSON string of a value among others. -/
def escapeRune (r : Rune) : Bytes :=
  if r.valid && (r.code = 0x3c || r.code = 0x3e || r.code = 0x26) then r.raw
  else Json.escapeRune r

/-- A JSON string of a value among others. -/
def innerString (s : Bytes) : Bytes :=
  dquote :: (Utf8.runes s).flatMap escapeRune ++ [dquote]

/-- A JSON string of a log, which has no short forms for the backspace and the form feed. -/
def jsonString (s : Bytes) : Bytes :=
  dquote :: ((Utf8.runes s).flatMap fun r =>
    if r.code = 0x08 || r.code = 0x0c then "\\u" ++ hex 4 r.code else escapeRune r) ++ [dquote]

mutual

/-- A value as JSON, its strings written by the given function; strings further inside
are written as JSON does. -/
def Value.json (string : Bytes → Bytes) : Value → Bytes
  | .none => "null"
  | .text s => string s
  | .int n => Bytes.ofInt n
  | .float bits => number Decimal.plain bits
  | .bool b => if b then "true" else "false"
  | .list l => "[" ++ join "," (Value.jsonItems l) ++ "]"
  | .map es => [lbrace] ++ join "," (Value.jsonEntries es) ++ [rbrace]

/-- Several values as JSON, each on its own. -/
def Value.jsonItems : List Value → List Bytes
  | [] => []
  | v :: vs => v.json innerString :: Value.jsonItems vs

/-- Values with their names as JSON, each on its own. -/
def Value.jsonEntries : List (Bytes × Value) → List Bytes
  | [] => []
  | (k, v) :: es => (innerString k ++ ":" ++ v.json innerString) :: Value.jsonEntries es

end

/-- Whether an attribute says nothing at all. -/
def isEmptyAttr (a : Attr) : Bool := a.1.isEmpty && a.2.isNone

/-- The name of a level on a line. -/
def lineLevel (l : Level) : Bytes :=
  if l = .debug || l = .warn || l = .error then l.name else Level.info.name

/-- A line as words. -/
def Line.words (l : Line) : Bytes :=
  let attrs := l.attrs.filter fun a => !isEmptyAttr a
  join " " (("level=" ++ lineLevel l.level) :: ("msg=" ++ word l.message)
    :: attrs.map fun (k, v) => word k ++ "=" ++ v.word) ++ [newline]

/-- A line as a JSON object. -/
def Line.json (l : Line) : Bytes :=
  let attrs := l.attrs.filter fun a => !isEmptyAttr a
  let members : List (Bytes × Bytes) :=
    ("level", jsonString (lineLevel l.level)) :: ("msg", jsonString l.message)
      :: attrs.map fun (k, v) => (k, v.json jsonString)
  [lbrace] ++ join "," (members.map fun (k, v) => jsonString k ++ ":" ++ v) ++ [rbrace, newline]

/-! ## Loggers -/

/-- **What a logger puts on its lines, and which lines it writes.** -/
structure Logger where
  /-- The least urgent level that is written. -/
  level : Level
  /-- Whether lines are JSON objects. -/
  json : Bool := false
  /-- The component, empty for none. -/
  component : Bytes := []
  /-- Alternating keys and values. -/
  fields : List Value := []
  deriving Repr

namespace Logger

/-- A logger that writes nothing. -/
def discard : Logger := { level := ⟨4⟩ }

/-- The logger with more fields. -/
def withFields (l : Logger) (fields : List Value) : Logger :=
  { l with fields := l.fields ++ fields }

/-- The logger for a component. -/
def withComponent (l : Logger) (c : Bytes) : Logger := { l with component := c }

/-- The line of a message, with an error if there is one. -/
def line (l : Logger) (level : Level) (error : Option Bytes) (message : Bytes)
    (fields : List Value) : Line :=
  { level := level
    message := message
    attrs := (if l.component.isEmpty then [] else [(Bytes.ofString "component", .text l.component)])
      ++ (match error with
        | some e => [(Bytes.ofString "error", .text e)]
        | none => [])
      ++ pairs l.fields ++ pairs fields }

/-- **What a logger writes for a message.** -/
def write (l : Logger) (level : Level) (error : Option Bytes) (message : Bytes)
    (fields : List Value) : Bytes :=
  if level.rank < l.level.rank then []
  else
    let line := l.line level error message fields
    if l.json then line.json else line.words

/-- The logger of an operation. -/
def startOperation (l : Logger) (operation : Bytes) : Logger :=
  l.withFields [.text "operation", .text operation]

/-- What is written when an operation is over. -/
def endOperation (l : Logger) (fields : List Value) : Bytes :=
  l.write .debug none "Operation completed" fields

end Logger

end Stencil.Log
