import Stencil.Config.Setting
import Stencil.Text.Duration
import Stencil.Text.Quoted

/-!
# Flags

The words of a command line are flags and arguments. A flag is written with its name behind
two dashes, or with its letter behind one; letters can be written together. The value of a
flag follows it, behind an equals sign or as a word of its own. A switch has no value unless
one follows behind an equals sign. Behind two dashes alone there are only arguments.
-/

namespace Stencil.Cli

open Bytes

/-- What the value of a flag is. -/
inductive FlagKind where
  /-- A text. -/
  | text
  /-- An integer. -/
  | number
  /-- A truth value. -/
  | switch
  /-- A duration. -/
  | duration
  deriving DecidableEq, Repr

/-- **A flag of a command.** -/
structure Flag where
  /-- The name. -/
  name : Bytes
  /-- The letter, if it has one. -/
  letter : Option UInt8 := none
  /-- What its value is. -/
  kind : FlagKind := .text
  /-- What it is for. -/
  usage : Bytes
  /-- The value when it is not given, as it is shown; empty where there is nothing to show. -/
  default : Bytes := []
  deriving DecidableEq, Repr

/-- The value of a flag. -/
inductive FlagValue where
  /-- A text. -/
  | text (s : Bytes)
  /-- An integer. -/
  | number (n : Int)
  /-- A truth value. -/
  | switch (b : Bool)
  /-- A duration, in nanoseconds. -/
  | duration (d : Int)
  deriving DecidableEq, Repr

namespace Flag

/-- A flag as it is named in a complaint. -/
def title (f : Flag) : Bytes :=
  match f.letter with
  | some c => [ch '-', c] ++ ", --" ++ f.name
  | none => "--" ++ f.name

/-- The truth value that a text says. -/
def switch? (s : Bytes) : Option Bool :=
  let isOne (words : List String) := words.any fun w => s = Bytes.ofString w
  if isOne ["1", "t", "T", "TRUE", "true", "True"] then some true
  else if isOne ["0", "f", "F", "FALSE", "false", "False"] then some false
  else none

/-- The value of a flag that a text says, or what is wrong with it. -/
def read (f : Flag) (s : Bytes) : Except Bytes FlagValue :=
  match f.kind with
  | .text => .ok (.text s)
  | .number =>
    match Setting.integer? s with
    | some n => .ok (.number n)
    | none => .error (Setting.integerComplaint s)
  | .switch =>
    match switch? s with
    | some b => .ok (.switch b)
    | none => .error ("strconv.ParseBool: parsing " ++ Quoted.quote s ++ ": invalid syntax")
  | .duration =>
    match Duration.parse? s with
    | some d => .ok (.duration d)
    | none => .error (Duration.complaint s)

end Flag

/-- **What is wrong with the flags of a command line.** -/
inductive FlagError where
  /-- A word that starts like a flag and is none. -/
  | malformed (word : Bytes)
  /-- There is no flag of this name. -/
  | unknown (name : Bytes)
  /-- There is no flag of this letter. -/
  | unknownLetter (c : UInt8) (letters : Bytes)
  /-- The value of a flag is missing. -/
  | noValue (word : Bytes)
  /-- The value of a flag, given by its letter, is missing. -/
  | noLetterValue (c : UInt8) (letters : Bytes)
  /-- The value of a flag is none. -/
  | badValue (value : Bytes) (flag : Flag) (cause : Bytes)
  deriving DecidableEq, Repr

/-- A letter between apostrophes. -/
def quoteLetter (c : UInt8) : Bytes :=
  let r : Rune := ⟨c.toNat, Utf8.encode c.toNat, true⟩
  let inside : Bytes :=
    if c = squote || c = backslash then [backslash, c]
    else if c = dquote then [c]
    else Quoted.quoteRune r
  [squote] ++ inside ++ [squote]

/-- The wording of an error. -/
def FlagError.message : FlagError → Bytes
  | .malformed w => "bad flag syntax: " ++ w
  | .unknown n => "unknown flag: --" ++ n
  | .unknownLetter c ls => "unknown shorthand flag: " ++ quoteLetter c ++ " in -" ++ ls
  | .noValue w => "flag needs an argument: " ++ w
  | .noLetterValue c ls => "flag needs an argument: " ++ quoteLetter c ++ " in -" ++ ls
  | .badValue v f cause =>
    "invalid argument " ++ Quoted.quote v ++ " for " ++ Quoted.quote f.title ++ " flag: " ++ cause

/-! ## Reading a command line -/

/-- The flags and the arguments of a command line. -/
structure Words where
  /-- The flags that are given, by name; of several values the last one counts. -/
  flags : List (Bytes × FlagValue) := []
  /-- The arguments. -/
  args : List Bytes := []
  deriving DecidableEq, Repr

namespace Words

/-- The value of a flag, if it is given. -/
def value? (w : Words) (name : Bytes) : Option FlagValue :=
  (w.flags.reverse.find? fun f => f.1 = name).map Prod.snd

/-- The text of a flag, or what it is by default. -/
def text (w : Words) (name default : Bytes) : Bytes :=
  match w.value? name with
  | some (.text s) => s
  | _ => default

/-- Whether a switch is on. -/
def isOn (w : Words) (name : Bytes) : Bool := w.value? name = some (.switch true)

/-- The words with one more flag. -/
def withFlag (w : Words) (f : Flag) (value : Bytes) : Except FlagError Words :=
  match f.read value with
  | .ok v => .ok { w with flags := w.flags ++ [(f.name, v)] }
  | .error cause => .error (.badValue value f cause)

end Words

/-- Reads letters, given the word behind them; and whether that word is used up. -/
def readLetters (known : List Flag) (next : Option Bytes) :
    Nat → Bytes → Words → Except FlagError (Words × Bool)
  | 0, _, w => .ok (w, false)
  | _, [], w => .ok (w, false)
  | n + 1, c :: rest, w =>
    match known.find? fun f => f.letter = some c with
    | none => .error (.unknownLetter c (c :: rest))
    | some f =>
      match rest with
      | d :: value =>
        if d = ch '=' && !value.isEmpty then (w.withFlag f value).map fun w => (w, false)
        else if f.kind = .switch then
          match w.withFlag f "true" with
          | .error e => .error e
          | .ok w => readLetters known next n rest w
        else (w.withFlag f rest).map fun w => (w, false)
      | [] =>
        if f.kind = .switch then (w.withFlag f "true").map fun w => (w, false)
        else
          match next with
          | some value => (w.withFlag f value).map fun w => (w, true)
          | none => .error (.noLetterValue c [c])

/-- Reads a flag by its name, given the word behind it; and whether that word is used up. -/
def readName (known : List Flag) (next : Option Bytes) (word : Bytes) (w : Words) :
    Except FlagError (Words × Bool) :=
  let body := word.drop 2
  if body.head?.all fun c => c = ch '-' || c = ch '=' then .error (.malformed word)
  else
    let (name, value) := cut (ch '=') body
    match known.find? fun f => f.name = name with
    | none => .error (.unknown name)
    | some f =>
      if body.any (· = ch '=') then (w.withFlag f value).map fun w => (w, false)
      else if f.kind = .switch then (w.withFlag f "true").map fun w => (w, false)
      else
        match next with
        | some value => (w.withFlag f value).map fun w => (w, true)
        | none => .error (.noValue word)

/-- Whether a word is an argument. -/
def isArgument (word : Bytes) : Bool := word.head? ≠ some (ch '-') || word.length = 1

/-- Reads words, skipping the first if it is used up already. -/
def readWords (known : List Flag) : Bool → List Bytes → Words → Except FlagError Words
  | _, [], w => .ok w
  | true, _ :: rest, w => readWords known false rest w
  | false, word :: rest, w =>
    if isArgument word then readWords known false rest { w with args := w.args ++ [word] }
    else if word = "--" then .ok { w with args := w.args ++ rest }
    else
      let step := if startsWith word "--" then readName known rest.head? word w
        else readLetters known rest.head? word.length (word.drop 1) w
      match step with
      | .error e => .error e
      | .ok (w, used) => readWords known used rest w

/-- **The flags and arguments of a command line**, given the flags that are known. -/
def Words.read (known : List Flag) (words : List Bytes) : Except FlagError Words :=
  readWords known false words {}

end Stencil.Cli
