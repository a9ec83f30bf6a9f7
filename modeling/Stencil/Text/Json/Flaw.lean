import Stencil.Text.Json
import Stencil.Text.CharClass
import Stencil.Text.Quoted

/-!
# What is wrong with a text that is no JSON

A text is read by a machine that takes one byte after the other. Its state says what may come
next, and a stack says what is open. The first byte that may not come is the flaw of the text,
and is shown with the bytes that make up one character with it; an escape is judged as a whole.
A text that just ends is flawed by its end.
-/

namespace Stencil.Json

open Bytes

/-- **What is open** around the place that is read. -/
inductive Frame where
  /-- An array, whose item is read. -/
  | item
  /-- An object, whose member's name is read. -/
  | name
  /-- An object, whose member's value is read. -/
  | member
  deriving DecidableEq, Repr

/-- **What may come next.** -/
inductive Stage where
  /-- A value. -/
  | value
  /-- A value, or the end of the array that has just begun. -/
  | firstItem
  /-- The name of a member. -/
  | name
  /-- The name of a member, or the end of the object that has just begun. -/
  | firstName
  /-- What stands behind a value. -/
  | behind
  /-- The rest of a string. -/
  | text
  /-- What stands behind a backslash. -/
  | escape
  /-- So many digits of an escape. -/
  | digits (left : Nat)
  /-- What stands behind a minus sign. -/
  | minus
  /-- What stands behind a zero in front of a number. -/
  | zero
  /-- Further digits in front of the point. -/
  | whole
  /-- The first digit behind the point. -/
  | point
  /-- Further digits behind the point. -/
  | fraction
  /-- The sign or the first digit of an exponent. -/
  | exponent
  /-- The first digit of an exponent that has a sign. -/
  | signed
  /-- Further digits of an exponent. -/
  | power
  /-- The rest of a word. -/
  | word (full rest : Bytes)
  deriving DecidableEq, Repr

/-- A reader between two bytes. -/
structure Reader where
  /-- What may come next. -/
  stage : Stage := .value
  /-- What is open, the innermost first. -/
  frames : List Frame := []
  deriving Repr

namespace Reader

/-- The character at the front of a text as a message shows it. -/
def shown (s : Bytes) : Bytes :=
  match Utf8.next? s with
  | none => [squote, squote]
  | some u =>
    if !u.valid then "'\\x" ++ hex 1 (s.headD 0).toNat ++ "'"
    else if u.code = 0x27 then "'\\''"
    else if u.code = 0x22 then [squote, dquote, squote]
    else [squote] ++ ((Quoted.quote u.raw).drop 1).dropLast ++ [squote]

/-- The complaint about the character at the front of a text at some place. -/
def unexpected (s : Bytes) (place : Bytes) : Except Bytes Reader :=
  .error ("invalid character " ++ shown s ++ " " ++ place)

/-- The complaint about the end of the text. -/
def ended : Bytes := "unexpected end of JSON input"

/-- The complaint about an escape. -/
def badEscape (s : Bytes) : Bytes :=
  let plain := (Utf8.runes s).all fun u =>
    u.valid && u.code ≠ 0x60 && u.code ≠ 0xfffd && !Utf8.isSpace u.code
      && CharClass.isPrint u.code
  "invalid escape sequence " ++ (if plain then grave :: s ++ [grave] else Quoted.quote s)
    ++ " in string"

/-- What is wrong with the escape at the front of a text, from its backslash on. One that the
end of the text cuts off is wrong only if what is left of it could not go on. -/
def escapeFault? (s : Bytes) : Option Bytes :=
  match s with
  | _ :: c :: _ =>
    if c = ch 'u' then
      let all := s.take 6
      if (all.drop 2).all fun d => (hexValue? d).isSome then
        if all.length < 6 then some ended else none
      else some (badEscape all)
    else if [dquote, backslash, slash, ch 'b', ch 'f', ch 'n', ch 'r', ch 't'].any (· = c) then none
    else some (badEscape (s.take 2))
  | _ => some ended

/-- The machine in another state. -/
def enter (m : Reader) (s : Stage) : Except Bytes Reader := .ok { m with stage := s }

/-- The machine when something has been opened. It may not be too deep. -/
def opened (m : Reader) (f : Frame) (s : Stage) : Except Bytes Reader :=
  if m.frames.length < 10000 then .ok ⟨s, f :: m.frames⟩ else .error "exceeded max depth"

/-- The machine when the innermost thing has been closed. -/
def closed (m : Reader) : Except Bytes Reader := .ok ⟨.behind, m.frames.drop 1⟩

/-- The start of a value, at the front of what is left of the text. -/
def start (m : Reader) (c : UInt8) (s : Bytes) : Except Bytes Reader :=
  if isBlankByte c then .ok m
  else if c = lbrace then m.opened .name .firstName
  else if c = ch '[' then m.opened .item .firstItem
  else if c = dquote then m.enter .text
  else if c = ch '-' then m.enter .minus
  else if c = ch '0' then m.enter .zero
  else if isDigit c then m.enter .whole
  else if c = ch 't' then m.enter (.word "true" "rue")
  else if c = ch 'f' then m.enter (.word "false" "alse")
  else if c = ch 'n' then m.enter (.word "null" "ull")
  else unexpected s "looking for beginning of value"

/-- The start of a member's name. -/
def beginName (m : Reader) (c : UInt8) (s : Bytes) : Except Bytes Reader :=
  if isBlankByte c then .ok m
  else if c = dquote then m.enter .text
  else unexpected s "looking for beginning of object key string"

/-- What stands behind a value, or behind the name of a member. -/
def after (m : Reader) (c : UInt8) (s : Bytes) : Except Bytes Reader :=
  match m.frames with
  | [] => if isBlankByte c then m.enter .behind else unexpected s "after top-level value"
  | f :: fs =>
    if isBlankByte c then m.enter .behind
    else
      match f with
      | .name =>
        if c = ch ':' then .ok ⟨.value, .member :: fs⟩ else unexpected s "after object key"
      | .member =>
        if c = ch ',' then .ok ⟨.name, .name :: fs⟩
        else if c = rbrace then m.closed
        else unexpected s "after object key:value pair"
      | .item =>
        if c = ch ',' then m.enter .value
        else if c = ch ']' then m.closed
        else unexpected s "after array element"

/-- What stands behind the digits of a number that could end here. -/
def afterDigits (m : Reader) (c : UInt8) (s : Bytes) : Except Bytes Reader :=
  if c = ch 'e' || c = ch 'E' then m.enter .exponent else m.after c s

/-- What stands behind the whole part of a number. -/
def afterWhole (m : Reader) (c : UInt8) (s : Bytes) : Except Bytes Reader :=
  if c = ch '.' then m.enter .point else m.afterDigits c s

/-- A digit of a number that has to come. -/
def digit (m : Reader) (c : UInt8) (s : Bytes) (next : Stage) : Except Bytes Reader :=
  if isDigit c then m.enter next else unexpected s "in numeric literal"

/-- **The machine after one more byte**, which is at the front of what is left of the text,
or why it may not come. -/
def step (m : Reader) (c : UInt8) (s : Bytes) : Except Bytes Reader :=
  match m.stage with
  | .value => m.start c s
  | .firstItem => if c = ch ']' then m.closed else m.start c s
  | .name => m.beginName c s
  | .firstName => if c = rbrace then m.closed else m.beginName c s
  | .behind => m.after c s
  | .text =>
    if c = dquote then m.enter .behind
    else if c = backslash then
      match escapeFault? s with
      | some why => .error why
      | none => m.enter .escape
    else if c < 0x20 then unexpected s "in string"
    else .ok m
  | .escape => m.enter (if c = ch 'u' then .digits 4 else .text)
  | .digits left => m.enter (if left ≤ 1 then .text else .digits (left - 1))
  | .minus => if c = ch '0' then m.enter .zero else m.digit c s .whole
  | .zero => m.afterWhole c s
  | .whole => if isDigit c then .ok m else m.afterWhole c s
  | .point => m.digit c s .fraction
  | .fraction => if isDigit c then .ok m else m.afterDigits c s
  | .exponent => if c = ch '+' || c = ch '-' then m.enter .signed else m.digit c s .power
  | .signed => m.digit c s .power
  | .power => if isDigit c then .ok m else m.after c s
  | .word full rest =>
    match rest with
    | [] => m.after c s
    | d :: ds =>
      if c = d then m.enter (if ds.isEmpty then .behind else .word full ds)
      else unexpected s ("in literal " ++ full ++ " (expecting '" ++ [d] ++ "')")

/-- Whether the text may end here. -/
def mayEnd (m : Reader) : Bool :=
  m.frames.isEmpty &&
    match m.stage with
    | .behind | .zero | .whole | .fraction | .power => true
    | _ => false

/-- The first complaint about the rest of a text. -/
def complaint : Reader → Bytes → Option Bytes
  | m, [] => if m.mayEnd then none else some ended
  | m, c :: r =>
    match m.step c (c :: r) with
    | .error e => some e
    | .ok m => m.complaint r

end Reader

/-- **What is wrong with a text**, if it is no JSON. -/
def flaw? (s : Bytes) : Option Bytes := Reader.complaint {} s

/-- What kind of value a value is, as a message says it. -/
def kind : Json → Bytes
  | .null => "null"
  | .bool _ => "bool"
  | .num _ => "number"
  | .str _ => "string"
  | .arr _ => "array"
  | .obj _ => "object"

end Stencil.Json
