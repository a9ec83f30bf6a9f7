import Stencil.Text.CharClass

/-!
# Identifiers of the host language

Generated code is Go. A name can be used in it when it is a letter or underscore
followed by letters, digits and underscores, and not one of the reserved words.
-/

namespace Stencil.Host

/-- The reserved words. -/
def keywords : List String := [
  "break", "case", "chan", "const", "continue", "default", "defer", "else", "fallthrough", "for",
  "func", "go", "goto", "if", "import", "interface", "map", "package", "range", "return", "select",
  "struct", "switch", "type", "var"]

/-- Whether a text is a reserved word. -/
def isKeyword (s : Bytes) : Bool := keywords.any fun k => Bytes.ofString k = s

/-- Whether a character can start an identifier. -/
def isLetter (c : Nat) : Bool := c = 0x5f || CharClass.isLetter c

/-- **Whether a text is an identifier.** -/
def isIdentifier (s : Bytes) : Bool :=
  match Utf8.runes s with
  | [] => false
  | r :: rs =>
    !isKeyword s && isLetter r.code && rs.all fun r => isLetter r.code || CharClass.isDigit r.code

/-- Whether a name is visible outside its package: it starts with a capital. -/
def isExported (s : Bytes) : Bool :=
  match Utf8.next? s with
  | none => false
  | some r => CharClass.isUpper r.code

end Stencil.Host
