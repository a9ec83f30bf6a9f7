import Stencil.Config.Setting
import Stencil.Text.Base64
import Stencil.Text.Timestamp
import Stencil.Text.Yaml.Node

/-!
# What the scalars of YAML mean

A plain scalar can be nothing, a truth value, a number, a point in time or a text; its text
decides. A tag can ask for one of these, and then the text must be one. A scalar in quotes or
a block of lines is a text unless its tag says otherwise. Tags that are not known say nothing.
-/

namespace Stencil.Yaml

open Bytes

/-! ## Tags -/

/-- What the full forms of the common tags start with. -/
def commonTag : Bytes := "tag:yaml.org,2002:"

/-- The short form of a tag. -/
def shortTag (tag : Bytes) : Bytes :=
  match dropPrefix? commonTag tag with
  | some s => "!!" ++ s
  | none => tag

/-- The tags that a text can be checked against. -/
def isResolvable (tag : Bytes) : Bool :=
  (["", "!!str", "!!bool", "!!int", "!!float", "!!null", "!!timestamp"] : List String).any
    fun t => tag = Bytes.ofString t

/-! ## Numbers -/

/-- Whether a text is digits with a point or an exponent, or both, where the point has digits
on at least one side. -/
def isDecimal (s : Bytes) : Bool :=
  let unsigned := match s with
    | c :: r => if c = ch '-' || c = ch '+' then r else s
    | [] => []
  let (whole, r) := unsigned.span isDigit
  let (fraction, r) : Bytes × Bytes := match r with
    | c :: t => if c = ch '.' then t.span isDigit else ([], r)
    | [] => ([], [])
  let hasDigits := !whole.isEmpty || !fraction.isEmpty
  let exponentOk := match r with
    | [] => true
    | c :: t =>
      let ds := match t with
        | d :: u => if d = ch '-' || d = ch '+' then u else t
        | [] => []
      lowerByte c = ch 'e' && !ds.isEmpty && ds.all isDigit
  hasDigits && exponentOk

/-- The fraction that a text writes, unless it is too large. -/
def fraction? (s : Bytes) : Option Setting :=
  let bits := Decimal.toBits s
  if isDecimal s && (bits >>> 52) &&& 0x7ff ≠ 0x7ff then some (.float bits) else none

/-- The integer that a text writes, with a sign or too large for one. -/
def integer? (s : Bytes) : Option Setting :=
  match Numeral.integer s, Numeral.natural s with
  | .ok n, _ => some (.int n)
  | .error _, .ok n => some (.int n)
  | .error _, .error _ => none

/-- The integer that a text writes in base two or eight, with a sign behind the letter that says
so. -/
def signedInside? (s : Bytes) : Option Setting :=
  let inBase (base : Nat) (r : Bytes) : Option Setting :=
    match Numeral.integerInBase base r, Numeral.naturalInBase base r with
    | .ok n, _ => some (.int n)
    | .error _, .ok n => some (.int n)
    | .error _, .error _ => none
  match dropPrefix? "0b" s, dropPrefix? "0o" s with
  | some r, _ => inBase 2 r
  | none, some r => inBase 8 r
  | none, none => none

/-- The first of several that is there. -/
def firstOf (l : List (Option Setting)) : Option Setting := l.findSome? id

/-- The value of a text that starts like a number. A point in time is looked for only where
nothing else is asked for. -/
def number? (times : Bool) (s : Bytes) : Option Setting :=
  let plain := s.filter fun c => c ≠ ch '_'
  let time :=
    if times then (Timestamp.parseShort? s).map fun t => Setting.time t.renderLong else none
  firstOf [time, integer? plain, fraction? plain, signedInside? plain]

/-! ## Scalars -/

/-- The words that mean something. -/
def word? (s : Bytes) : Option Setting :=
  let isOne (words : List String) := words.any fun w => s = Bytes.ofString w
  if s.isEmpty || isOne ["~", "null", "Null", "NULL"] then some .null
  else if isOne ["true", "True", "TRUE"] then some (.bool true)
  else if isOne ["false", "False", "FALSE"] then some (.bool false)
  else if isOne [".inf", ".Inf", ".INF", "+.inf", "+.Inf", "+.INF"] then
    some (.float 0x7ff0000000000000)
  else if isOne ["-.inf", "-.Inf", "-.INF"] then some (.float 0xfff0000000000000)
  else if isOne [".nan", ".NaN", ".NAN"] then some (.float 0x7ff8000000000001)
  else none

/-- The value of a text by itself. -/
def plainValue (times : Bool) (s : Bytes) : Setting :=
  match word? s with
  | some v => v
  | none =>
    match s with
    | [] => .null
    | c :: _ =>
      if c = ch '.' then
        (if Numeral.separatesDigits s then fraction? (s.filter fun d => d ≠ ch '_') else none).getD
          (.text s)
      else if isDigit c || c = ch '-' || c = ch '+' then (number? times s).getD (.text s)
      else .text s

/-- The tag of a value. -/
def tagOf : Setting → Bytes
  | .null => "!!null"
  | .bool _ => "!!bool"
  | .int _ | .long _ => "!!int"
  | .float _ => "!!float"
  | .time _ | .other .. => "!!timestamp"
  | .text _ => "!!str"
  | .list _ => "!!seq"
  | .map _ => "!!map"

/-- The tag of a scalar: its own, or the one that it has by itself. -/
def scalarTag (tag : Bytes) (style : Style) (text : Bytes) : Bytes :=
  if !tag.isEmpty && tag ≠ "!" then shortTag tag
  else if style ≠ .plain then "!!str"
  else if text = "<<" then "!!merge"
  else tagOf (plainValue true text)

/-- **The value of a scalar** with the given tag. -/
def scalarValue (tag text : Bytes) : Except Error Setting :=
  if tag = "!!str" then .ok (.text text)
  else if tag = "!!binary" then
    match Base64.decode? text with
    | some data => .ok (.text data)
    | none => .error ⟨0, "!!binary value contains invalid base64 data"⟩
  else if !isResolvable tag then .ok (.text text)
  else
    let v := plainValue (tag = "!!timestamp") text
    if tagOf v = tag then .ok v
    else
      let refused : Except Error Setting := .error ⟨0, "cannot decode " ++ tagOf v
        ++ [ch ' ', grave] ++ text ++ [grave] ++ " as a " ++ tag⟩
      match v with
      | .int n =>
        if tag = "!!float" && n < Nat.pow 2 63 then .ok (.float (Decimal.toBits (Bytes.ofInt n)))
        else refused
      | _ => refused

end Stencil.Yaml
