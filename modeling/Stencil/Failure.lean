import Stencil.Text.Quoted

/-!
# Failures

What is wrong with the caller's sources is a diagnostic. A `Failure` is what keeps the
compiler from answering at all: a module that cannot be fetched or read, a bad
configuration, a cancelled request. A failure is a chain: a classified failure can have
a cause, a remark is put in front of another failure, and a plain failure ends the
chain.

Classifying a failure that already contains a classified one keeps what is known about
it: the module, the place, whether trying again can help, and the context, which the
two then have in common.
-/

namespace Stencil

open Bytes

/-- What part of the work a failure belongs to. -/
structure FailureKind where
  /-- The name of the kind. -/
  name : Bytes
  deriving DecidableEq, Repr

namespace FailureKind

/-- A request that makes no sense. -/
def validation : FailureKind := ⟨"validation"⟩
/-- Reading or writing files. -/
def io : FailureKind := ⟨"io"⟩
/-- Fetching. -/
def network : FailureKind := ⟨"network"⟩
/-- Modules and export data. -/
def build : FailureKind := ⟨"build"⟩
/-- The configuration. -/
def config : FailureKind := ⟨"config"⟩
/-- Everything that is nobody's fault. -/
def internal : FailureKind := ⟨"internal"⟩

end FailureKind

/-- What is known about a classified failure. -/
structure FailureInfo where
  /-- The part of the work. -/
  kind : FailureKind
  /-- The stable code. -/
  code : Bytes
  /-- The message. -/
  message : Bytes
  /-- The reference module it concerns, empty for none. -/
  module : Bytes := []
  /-- The file it concerns, empty for none. -/
  file : Bytes := []
  /-- The line it concerns, not positive for none. -/
  line : Int := 0
  /-- Whether trying again can help. -/
  recoverable : Bool := false
  /-- The keys of the context; none when the context is that of the cause. -/
  context : Option (List Bytes) := some []
  deriving DecidableEq, Repr

/-- **A failure and what caused it.** -/
inductive Failure where
  /-- A failure with nothing but a text. -/
  | plain (text : Bytes)
  /-- A remark in front of another failure, which may be missing. -/
  | remark (text : Bytes) (inner : Option Failure)
  /-- A classified failure. -/
  | classified (info : FailureInfo) (cause : Option Failure)

namespace Failure

/-- The failure behind this one. -/
def cause? : Failure → Option Failure
  | .plain _ => none
  | .remark _ inner => inner
  | .classified _ cause => cause

/-- The failure and all behind it, outermost first. -/
def chain : Failure → List Failure
  | .plain t => [.plain t]
  | .remark t none => [.remark t none]
  | .remark t (some e) => .remark t (some e) :: chain e
  | .classified i none => [.classified i none]
  | .classified i (some e) => .classified i (some e) :: chain e

/-- What is known about this very failure. -/
def info? : Failure → Option FailureInfo
  | .classified i _ => some i
  | _ => none

/-- The outermost classified failure of a chain. -/
def classified? (e : Failure) : Option Failure := e.chain.find? fun f => f.info?.isSome

/-- What is known about the outermost classified failure. -/
def outerInfo? (e : Failure) : Option FailureInfo := e.chain.findSome? info?

/-- The first part of a failure's text: code, module, place and message, as far as they
are known, separated by blanks. -/
def heading (i : FailureInfo) : Bytes :=
  let place : Bytes := if 0 < i.line then i.file ++ ":" ++ Bytes.ofInt i.line else i.file
  join " " ((if i.code.isEmpty then [] else [("[" ++ i.code ++ "]" : Bytes)])
    ++ (if i.module.isEmpty then [] else [("module:" ++ i.module : Bytes)])
    ++ (if i.file.isEmpty then [] else [place])
    ++ [i.message])

/-- **The text of a failure**: its own words, a colon, and the text of its cause. -/
def text : Failure → Bytes
  | .plain t => t
  | .remark t none => t ++ ": %!w(<nil>)"
  | .remark t (some e) => t ++ ": " ++ text e
  | .classified i none => heading i
  | .classified i (some e) => heading i ++ ": " ++ text e

/-- The keys of the context of a failure. -/
def contextKeys : Failure → List Bytes
  | .plain _ => []
  | .remark _ _ => []
  | .classified i cause =>
    match i.context, cause with
    | some keys, _ => keys
    | none, some e => contextKeys e
    | none, none => []

/-- The failure with one more key in its context. A context in common with the cause
stays in common. -/
def addContext (key : Bytes) : Failure → Failure
  | .classified i cause =>
    match i.context, cause with
    | some keys, cause =>
      .classified { i with context := some (if keys.contains key then keys else key :: keys) }
        cause
    | none, some e => .classified i (some (addContext key e))
    | none, none => .classified { i with context := some [key] } none
  | e => e

/-- A classified failure with its information changed; any other stays. -/
def mapInfo (f : FailureInfo → FailureInfo) : Failure → Failure
  | .classified i cause => .classified (f i) cause
  | e => e

/-- The stable code of a failure, empty if it has none. -/
def code (e : Failure) : Bytes := (e.outerInfo?.map FailureInfo.code).getD []

/-- Whether trying again can help. -/
def isRecoverable (e : Failure) : Bool := (e.outerInfo?.map FailureInfo.recoverable).getD false

/-- Whether the failure is one of fetching. -/
def isNetwork (e : Failure) : Bool :=
  (e.outerInfo?.map fun i => decide (i.kind = .network)).getD false

/-- Whether some failure of the chain has a kind and code. -/
def matchesCode (kind : FailureKind) (code : Bytes) (e : Failure) : Bool :=
  e.chain.any fun f =>
    match f.info? with
    | some i => i.kind = kind && i.code = code
    | none => false

/-- A new classified failure. Requests, modules and fetches can be tried again, the
configuration and internal failures not; of the former only requests have no cause. -/
def make (kind : FailureKind) (code message : Bytes) (cause : Option Failure := none) : Failure :=
  let info : FailureInfo :=
    { kind := kind, code := code, message := message
      recoverable := kind = .validation || kind = .build || kind = .network }
  .classified info
    (if kind = .validation || kind = .config then none else cause)

/-- **The failure classified anew**, keeping what the chain already knows. -/
def wrap (kind : FailureKind) (code message : Bytes) (e : Failure) : Failure :=
  match e.classified? with
  | some inner =>
    match inner.info? with
    | some i =>
      let context := if inner.contextKeys.isEmpty then some [] else none
      .classified { i with kind := kind, code := code, message := message, context := context }
        (some inner)
    | none => .classified { kind := kind, code := code, message := message } (some inner)
  | none =>
    let recoverable : Bool := kind = .validation || kind = .build
    .classified { kind := kind, code := code, message := message, recoverable := recoverable }
      (some e)

/-- The failure as one of building the given module. -/
def wrapBuild (code message module : Bytes) (e : Failure) : Failure :=
  (wrap .build code message e).mapInfo fun i => { i with module }

/-- The failure as one of reading or writing, which cannot be tried again. -/
def wrapIo (code message : Bytes) (e : Failure) : Failure :=
  (wrap .io code message e).mapInfo fun i => { i with recoverable := false }

/-- The failure as an internal one, which cannot be tried again. -/
def wrapInternal (code message : Bytes) (e : Failure) : Failure :=
  (wrap .internal code message e).mapInfo fun i => { i with recoverable := false }

/-- A reference module that could not be fetched. -/
def fetch (module : Bytes) (cause : Option Failure) : Failure :=
  (make .network "ERR_FETCH_FAILED"
    ("fetching reference module " ++ Quoted.quote module ++ " failed") cause).mapInfo
    fun i => { i with module }

/-- A module that could not be read. -/
def corruptModule (module message : Bytes) (cause : Failure) : Failure :=
  wrapBuild "ERR_MODULE_CORRUPT" message module cause

/-- A request that was cancelled while a phase was under way. -/
def cancelled (phase : Bytes) : Failure :=
  wrapInternal "ERR_CANCELLED" ("compilation cancelled during " ++ phase)
    (.plain "context canceled")

/-- An invalid configuration. -/
def badConfig (message : Bytes) : Failure := make .config "ERR_CONFIG_INVALID" message

end Failure

end Stencil
