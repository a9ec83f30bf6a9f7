import Stencil.Text.Quoted
import Stencil.Host.Identifier

/-!
# Tokens of the host language

A token is a kind and, where the kind does not determine it, the text it was read from.
Every token has a place: its offset, and the line and column counted from one.
-/

namespace Stencil.Host

open Bytes

/-- A place in a file. -/
structure Place where
  /-- Bytes before it. -/
  offset : Nat := 0
  /-- Its line, from one. -/
  line : Nat := 1
  /-- Its column in bytes, from one. -/
  column : Nat := 1
  deriving DecidableEq, Repr, Inhabited

namespace Place

/-- The place behind one byte. -/
def step (p : Place) (c : UInt8) : Place :=
  if c = newline then ⟨p.offset + 1, p.line + 1, 1⟩ else ⟨p.offset + 1, p.line, p.column + 1⟩

/-- The place behind a text. -/
def after (p : Place) (s : Bytes) : Place := s.foldl step p

end Place

/-- **The kinds of tokens.** -/
inductive Tok where
  /-- The end of the file. -/
  | eof
  /-- A character that starts no token. -/
  | illegal
  /-- A name. -/
  | ident
  /-- An integer literal. -/
  | int
  /-- A literal with a fraction or an exponent. -/
  | float
  /-- An imaginary literal. -/
  | imag
  /-- A character literal. -/
  | char
  /-- A string literal. -/
  | string
  /-- An operator or delimiter. -/
  | op (text : Bytes)
  /-- A reserved word. -/
  | word (text : Bytes)
  deriving DecidableEq, Repr, Inhabited

namespace Tok

/-- A delimiter or operator, by its text. -/
abbrev sym (s : String) : Tok := .op (Bytes.ofString s)

/-- A reserved word, by its text. -/
abbrev kw (s : String) : Tok := .word (Bytes.ofString s)

/-- The left brace. -/
abbrev lbrace : Tok := .op [Bytes.lbrace]

/-- The right brace. -/
abbrev rbrace : Tok := .op [Bytes.rbrace]

/-- The semicolon, written or implied by the end of a line. -/
abbrev semicolon : Tok := .op [ch ';']

/-- How a kind is named in messages. -/
def text : Tok → Bytes
  | .eof => "EOF"
  | .illegal => "ILLEGAL"
  | .ident => "IDENT"
  | .int => "INT"
  | .float => "FLOAT"
  | .imag => "IMAG"
  | .char => "CHAR"
  | .string => "STRING"
  | .op t => t
  | .word t => t

/-- Whether the kind is a name or a literal. -/
def isLiteral : Tok → Bool
  | .ident | .int | .float | .imag | .char | .string => true
  | _ => false

/-- Whether a line that ends behind such a token ends a statement. -/
def endsStatement : Tok → Bool
  | .ident | .int | .float | .imag | .char | .string => true
  | .op t => t = ")" || t = "]" || t = [Bytes.rbrace] || t = "++" || t = "--"
  | .word t => t = "break" || t = "continue" || t = "fallthrough" || t = "return"
  | _ => false

/-- How tightly a binary operator binds; zero for everything else. -/
def precedence : Tok → Nat
  | .op t =>
    if t = "||" then 1
    else if t = "&&" then 2
    else if t = "==" || t = "!=" || t = "<" || t = "<=" || t = ">" || t = ">=" then 3
    else if t = "+" || t = "-" || t = "|" || t = "^" then 4
    else if t = "*" || t = "/" || t = "%" || t = "<<" || t = ">>" || t = "&" || t = "&^" then 5
    else 0
  | _ => 0

end Tok

/-- The operators and delimiters, longer ones before their prefixes. -/
def operators : List Bytes := (["<<=", ">>=", "&^=", "...",
  "&&", "||", "<-", "++", "--", "==", "!=", "<=", ">=", ":=", "+=", "-=", "*=", "/=", "%=", "&=",
  "|=", "^=", "<<", ">>", "&^",
  "+", "-", "*", "/", "%", "&", "|", "^", "<", ">", "=", "!", "(", "[", "\x7b", ",", ".", ")",
  "]", "\x7d", ";", ":", "~"] : List String).map Bytes.ofString

/-- **One token of a file.** -/
structure Token where
  /-- Its kind. -/
  kind : Tok
  /-- Its text; a line feed for a semicolon that the end of a line implies. -/
  lit : Bytes
  /-- Where it starts. -/
  pos : Place
  deriving DecidableEq, Repr, Inhabited

/-- A message about a place of a file. -/
structure Complaint where
  /-- The place. -/
  pos : Place
  /-- The message. -/
  msg : Bytes
  deriving DecidableEq, Repr, Inhabited

end Stencil.Host
