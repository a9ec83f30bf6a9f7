import Stencil.Diagnostic
import Stencil.Text.Quoted

/-!
# Faults in component sources

Everything the templating stage can find wrong with a batch is a `Fault`: a
cause with the names and lines it concerns, not a text. The code, the severity
and the wording of each cause are fixed here, in one place each, so that other
modules report causes and never compose messages.

Lines quoted inside a message are part of the cause. That is what makes it
possible to say what happens to a report when the source moves down by some
lines: `Fault.shift` moves the quoted lines, and the report's own line moves
with them.
-/

namespace Stencil

/-- The constructs that can be left open. -/
inductive Construct where
  /-- An expression in parentheses, or the arguments of a call. -/
  | expression
  /-- The first condition of a conditional. -/
  | ifBranch
  /-- A further condition of a conditional. -/
  | elseIfBranch
  /-- The branch without a condition. -/
  | elseBranch
  /-- A loop. -/
  | loop
  /-- A block of declarations. -/
  | codeBlock
  deriving DecidableEq, Repr

/-- The name a construct is reported under. -/
def Construct.name : Construct → Bytes
  | .expression => "expression"
  | .ifBranch => "@if"
  | .elseIfBranch => "else if"
  | .elseBranch => "else"
  | .loop => "@for"
  | .codeBlock => "@code block"

/-- **A cause for complaint about component sources.** -/
inductive Fault where
  /-- A batch without a single component unit. -/
  | emptyBatch
  /-- An element without a closing tag. -/
  | unclosedElement (tag : Bytes)
  /-- A closing tag of another name than the element it closes. -/
  | mismatchedClose (found tag : Bytes) (openLine : Nat)
  /-- A closing tag where no element is open. -/
  | unexpectedClose (name : Bytes)
  /-- A bracketed fragment without its closing bracket. -/
  | neverClosed (what : Construct)
  /-- A condition or clause that reaches the end of its line without a brace. -/
  | noBraceOnLine (what : Construct)
  /-- A condition or clause that reaches the end of the source without a brace. -/
  | noBrace (what : Construct)
  /-- A block without its closing brace. -/
  | blockNeverClosed (what : Construct)
  /-- Something in a tag that is no attribute. -/
  | malformedAttribute (tag : Bytes)
  /-- An attribute value that starts like an expression and is none. -/
  | noExpression
  /-- A directive below the top level. -/
  | misplacedDirective (word : Bytes)
  /-- An else that follows no conditional. -/
  | strayElse
  /-- A conditional without a condition. -/
  | noCondition
  /-- An include without a quoted path. -/
  | noIncludePath
  /-- A page directive without a quoted route. -/
  | noRoute
  /-- An import directive with too few or too many words. -/
  | noImportPath
  /-- An import directive whose alias or path is malformed. -/
  | malformedImport (text : Bytes)
  /-- A parameter directive without a name or a type. -/
  | malformedParam
  /-- A declaration directive without a block. -/
  | noCodeBlock
  /-- An attribute value without its closing quote. -/
  | unterminatedValue (name : Bytes)
  /-- A comment without its end. -/
  | unterminatedComment
  /-- A string literal without its closing quote. -/
  | unterminatedString
  /-- A parameter with a name that generated code needs for itself. -/
  | reservedParam (name : Bytes)
  /-- A parameter declared before. -/
  | duplicateParam (name : Bytes) (firstLine : Nat)
  /-- A unit that a later file of the batch replaces. -/
  | duplicateUnit (path : Bytes)
  /-- Two units whose file names give the same type. -/
  | typeCollision (first path typeName : Bytes)
  /-- A tag that is no element of the markup language. -/
  | unknownElement (tag : Bytes)
  /-- A component tag qualified with a name that is not imported. -/
  | unimportedComponent (tag qualifier : Bytes)
  /-- A component tag that names no known component. -/
  | unknownComponent (tag : Bytes)
  /-- An attribute that is no parameter of the component. -/
  | unknownParam (tag name : Bytes)
  /-- Child content for a component that takes none. -/
  | noChildContent (tag : Bytes)
  /-- An include of a unit that does not exist. -/
  | includeNotFound (target : Bytes)
  /-- A unit that includes itself. -/
  | includesItself (target : Bytes)
  /-- A chain of includes that returns to where it was. -/
  | includeCycle (chain : List Bytes)
  deriving DecidableEq, Repr

namespace Fault

/-- The stable code of a kind of fault. -/
def code : Fault → Bytes
  | .emptyBatch => "TPL0100"
  | .unclosedElement _ => "TPL0101"
  | .mismatchedClose .. => "TPL0102"
  | .unexpectedClose _ => "TPL0103"
  | .neverClosed _ | .noBraceOnLine _ | .noBrace _ | .blockNeverClosed _ => "TPL0104"
  | .malformedAttribute _ | .noExpression | .misplacedDirective _ | .strayElse | .noCondition
  | .noIncludePath | .noRoute | .noImportPath | .malformedImport _ | .malformedParam
  | .noCodeBlock => "TPL0105"
  | .unterminatedValue _ | .unterminatedComment | .unterminatedString => "TPL0106"
  | .reservedParam _ => "TPL0107"
  | .duplicateParam .. => "TPL0108"
  | .duplicateUnit _ => "TPL0109"
  | .typeCollision .. => "TPL0110"
  | .unknownElement _ => "TPL0201"
  | .unimportedComponent .. | .unknownComponent _ => "TPL0202"
  | .unknownParam .. | .noChildContent _ => "TPL0203"
  | .includeNotFound _ => "TPL0301"
  | .includesItself _ | .includeCycle _ => "TPL0302"

/-- A few faults only warn: the batch still has a meaning. -/
def severity : Fault → Severity
  | .duplicateUnit _ | .unknownElement _ | .unimportedComponent .. | .unknownComponent _ =>
    .warning
  | _ => .error

/-- The wording of a fault. -/
def message : Fault → Bytes
  | .emptyBatch => "no component sources were supplied"
  | .unclosedElement tag => "element <" ++ tag ++ "> is never closed"
  | .mismatchedClose found tag openLine =>
    "closing tag </" ++ found ++ "> does not match <" ++ tag ++ "> opened on line "
      ++ Bytes.ofNat openLine
  | .unexpectedClose name => "unexpected closing tag </" ++ name ++ ">"
  | .neverClosed what => what.name ++ " is never closed"
  | .noBraceOnLine what => what.name ++ " has no opening brace on its line"
  | .noBrace what => what.name ++ " has no opening brace"
  | .blockNeverClosed what => what.name ++ " block is never closed"
  | .malformedAttribute tag => "malformed attribute in <" ++ tag ++ ">"
  | .noExpression => "expected an expression after @"
  | .misplacedDirective word => "@" ++ word ++ " is only allowed at the top level"
  | .strayElse => "@else without a preceding @if"
  | .noCondition => "@if needs a condition"
  | .noIncludePath => "@include needs a quoted path"
  | .noRoute => "@page needs a quoted route"
  | .noImportPath => "@import needs a quoted path and an optional alias"
  | .malformedImport text => "malformed @import " ++ text
  | .malformedParam => "@param needs a name and a type"
  | .noCodeBlock => "@code needs a block"
  | .unterminatedValue name => "unterminated value for attribute " ++ name
  | .unterminatedComment => "comment is never closed"
  | .unterminatedString => "string literal is never closed"
  | .reservedParam name => "parameter name " ++ Quoted.quote name ++ " is reserved"
  | .duplicateParam name firstLine =>
    "parameter " ++ name ++ " is already declared on line " ++ Bytes.ofNat firstLine
  | .duplicateUnit path => path ++ " is supplied more than once, using the last copy"
  | .typeCollision first path typeName =>
    first ++ " and " ++ path ++ " both define component " ++ typeName ++ "; rename one of them"
  | .unknownElement tag => "unknown HTML element <" ++ tag ++ ">"
  | .unimportedComponent tag qualifier =>
    "unknown component <" ++ tag ++ ">: " ++ qualifier ++ " is not imported"
  | .unknownComponent tag => "unknown component <" ++ tag ++ ">, rendering it as a plain element"
  | .unknownParam tag name => "component " ++ tag ++ " has no parameter " ++ name
  | .noChildContent tag => "component " ++ tag ++ " does not take child content"
  | .includeNotFound target => "included unit " ++ target ++ " not found"
  | .includesItself target => target ++ " includes itself"
  | .includeCycle chain => "include cycle: " ++ Bytes.join " -> " chain

/-- The fault after its source has moved down by `n` lines. -/
def shift (n : Nat) : Fault → Fault
  | .mismatchedClose found tag openLine => .mismatchedClose found tag (openLine + n)
  | .duplicateParam name firstLine => .duplicateParam name (firstLine + n)
  | f => f

end Fault

/-- **A fault at a line of a source.** -/
structure Finding where
  /-- The one-based line, zero when the fault concerns no line. -/
  line : Nat
  /-- What is wrong there. -/
  fault : Fault
  deriving DecidableEq, Repr

/-- The diagnostic for a finding in the unit `file`. -/
def Finding.diagnostic (file : Bytes) (f : Finding) : Diagnostic where
  code := f.fault.code
  severity := f.fault.severity
  message := f.fault.message
  file := file
  line := f.line
  origin := .templating

end Stencil
