import Stencil.Host.TypeSet

/-!
# Packages and the types they declare

A package is what a file that imports it can see: its name, its objects and its declared
types. The questions about types that need to know what declared types stand for are
answered here: which kind of type one is, which field or method a selector means, whether
a value of one type can be used as another. What is asked of a type parameter is asked of
all types that it can stand for.
-/

namespace Stencil.Host

open Bytes

/-- **What a name of a package means.** -/
inductive Object where
  /-- A constant. -/
  | const (type : Ty) (value : Const)
  /-- A variable. -/
  | var (type : Ty)
  /-- A function. -/
  | func (sig : Sig)
  /-- A type. -/
  | type (t : Ty)
  deriving Inhabited

/-- **A package as its importers see it.** -/
structure Package where
  /-- The import path. -/
  path : Bytes
  /-- The name. -/
  name : Bytes
  /-- The objects, by name. -/
  objects : List (Bytes × Object)
  /-- The declared types. -/
  types : TypeTable
  /-- The paths of the packages it imports. -/
  imports : List Bytes
  /-- The name of its first file. -/
  file : Bytes := []
  deriving Inhabited

/-- A method for the type arguments of its receiver. -/
def Method.instantiate (m : Method) (args : List Ty) : Method :=
  if args.isEmpty then m
  else { m with sig := m.sig.subst (m.typeParams.zip args), args := args }

/-- The object of a name. -/
def Package.object? (p : Package) (name : Bytes) : Option Object :=
  (p.objects.find? fun o => o.1 = name).map Prod.snd

namespace TypeTable

/-- The basic type under a type. -/
def basic? (w : TypeTable) (t : Ty) : Option Basic :=
  match w.under t with
  | .basic b => some b
  | _ => none

/-- Whether the basic type under a type has a property. -/
def basicIs (w : TypeTable) (p : Basic → Bool) (t : Ty) : Bool :=
  match w.basic? t with
  | some b => p b
  | none => false

/-- Whether the basic types under all types of a type have a property. -/
def allBasic (w : TypeTable) (p : Basic → Bool) (t : Ty) : Bool :=
  w.underIs (fun u => match u with | .basic b => p b | _ => false) t

/-- Whether a type is one of truth values. -/
def isBoolean (w : TypeTable) (t : Ty) : Bool := w.allBasic Basic.isBoolean t
/-- Whether a type is one of texts. -/
def isString (w : TypeTable) (t : Ty) : Bool := w.allBasic Basic.isString t
/-- Whether a type is one of integers. -/
def isInteger (w : TypeTable) (t : Ty) : Bool := w.allBasic Basic.isInteger t
/-- Whether a type is one of numbers. -/
def isNumeric (w : TypeTable) (t : Ty) : Bool := w.allBasic Basic.isNumeric t

/-- Whether a type is an interface and no type parameter. -/
def isPlainInterface (w : TypeTable) (t : Ty) : Bool := !t.isParam && w.isInterface t

/-- Whether a type is a pointer to an interface or to a type parameter. -/
def isInterfacePointer (w : TypeTable) (t : Ty) : Bool :=
  match w.under t with
  | .pointer e => w.isInterface e
  | _ => false

/-- Whether a type is a pointer. -/
def isPointer (w : TypeTable) (t : Ty) : Bool :=
  match w.under t with
  | .pointer _ => true
  | _ => false

/-- Whether nil is a value of all types of a type. -/
def hasNil (w : TypeTable) (t : Ty) : Bool :=
  w.underIs (fun u => match u with
    | .basic b => b = .untypedNil
    | .pointer _ | .slice _ | .map .. | .chan .. | .func _ | .iface .. => true
    | _ => false) t

/-- The kind of a composite type, empty for a basic one. -/
def kindName (w : TypeTable) (t : Ty) : Bytes :=
  match w.under t with
  | .array .. => "array"
  | .slice _ => "slice"
  | .struct _ => "struct"
  | .pointer _ => "pointer"
  | .func _ => "func"
  | .iface .. => "interface"
  | .map .. => "map"
  | .chan .. => "chan"
  | .tuple _ => "tuple"
  | _ => []

/-- Whether values of a type are ordered. -/
def isOrdered (w : TypeTable) (t : Ty) : Bool :=
  w.allBasic (fun b => b.isInteger || b.isFloat || b.isString) t

/-! ## Selectors -/

/-- What a selector means. -/
inductive Selection where
  /-- A field, and whether a pointer is followed on the way. -/
  | field (f : FieldTy) (indirect : Bool)
  /-- A method of a declared type, and whether a pointer is followed on the way. -/
  | method (m : Method) (owner : Option TypeId) (indirect : Bool)
  deriving Inhabited

/-- The outcome of looking for a selector. -/
inductive Lookup where
  /-- There is exactly one. -/
  | found (s : Selection)
  /-- There are several at the same depth. -/
  | ambiguous
  /-- There is a method that needs a pointer. -/
  | needsPointer
  /-- There is none. -/
  | missing
  deriving Inhabited

/-- A type to be searched: whether a pointer leads to it, and whether it occurs more than
once at its depth. -/
structure Candidate where
  /-- The type. -/
  type : Ty
  /-- Whether a pointer is followed. -/
  indirect : Bool
  /-- Whether it occurs more than once. -/
  multiple : Bool

/-- Whether a member's name matches. Ignoring case, packages do not matter. -/
def nameMatches (fold : Bool) (pkg name : Bytes) (n p : Bytes) : Bool :=
  if fold then CharClass.equalFold n name else sameName name pkg n p

/-- The type a pointer points to, and whether it is one. -/
def deref (t : Ty) : Ty × Bool :=
  match t.unrename with
  | .pointer e => (e, true)
  | _ => (t, false)

/-- The matches in one candidate, and the embedded types below it. -/
def searchOne (w : TypeTable) (fold : Bool) (pkg name : Bytes) (c : Candidate) :
    List Selection × List Candidate :=
  let own : Option Selection := match c.type.unrename with
    | .named id args =>
      match w.info? id with
      | some i =>
        (i.methods.find? fun m => nameMatches fold pkg name m.name m.pkg).map fun m =>
          .method (m.instantiate args) (some id) c.indirect
      | none => none
    | _ => none
  match own with
  | some s => ([s], [])
  | none =>
    match w.under c.type with
    | .struct fs =>
      (fs.filterMap fun f =>
          if nameMatches fold pkg name f.name f.pkg then some (.field f c.indirect) else none,
        fs.filterMap fun f =>
          if f.embedded then
            let (t, p) := deref f.type
            some ⟨t, c.indirect || p, c.multiple⟩
          else none)
    | .iface .. =>
      (((w.methodsOf c.type).find? fun m => nameMatches fold pkg name m.name m.pkg).toList.map
        fun m => .method { name := m.name, pkg := m.pkg, pointer := false, sig := m.sig } none
          c.indirect, [])
    | _ => ([], [])

/-- Candidates that are the same type are one that occurs more than once. -/
def consolidate : List Candidate → List Candidate
  | [] => []
  | c :: cs =>
    let rest := consolidate cs
    if rest.any fun d => d.type.identical c.type then
      rest.map fun d => if d.type.identical c.type then { d with multiple := true } else d
    else c :: rest

/-- Searches one depth after another. -/
def search (w : TypeTable) (fold : Bool) (pkg name : Bytes) :
    Nat → List Ty → List Candidate → Lookup
  | 0, _, _ => .missing
  | n + 1, seen, cs =>
    let fresh := cs.filter fun c => !(c.type.hasName && seen.any fun t => t.identical c.type)
    if fresh.isEmpty then .missing
    else
      let results := fresh.map fun c => (c, w.searchOne fold pkg name c)
      let hits := results.flatMap fun (c, hs, _) => hs.map fun h => (h, c.multiple)
      match hits with
      | [] =>
        search w fold pkg name n (seen ++ fresh.map Candidate.type)
          (consolidate (results.flatMap fun (_, _, below) => below))
      | [(s, false)] => .found s
      | _ => .ambiguous

/-- **What a selector on a type means**, for a value that is addressable or not. -/
def lookup (w : TypeTable) (t : Ty) (addressable : Bool) (pkg name : Bytes) (fold : Bool) :
    Lookup :=
  let (base, isPtr) := deref t
  if isPtr && w.isInterface base then .missing
  else
    match w.search fold pkg name depth [] [⟨base, isPtr, false⟩] with
    | .found (.method m owner indirect) =>
      if m.pointer && !indirect && !addressable then .needsPointer
      else .found (.method m owner indirect)
    | r => r

/-- What a selector on a type means. A declared type of pointers has the fields of what it
points to, but no methods. -/
def select (w : TypeTable) (t : Ty) (addressable : Bool) (pkg name : Bytes) (fold : Bool) :
    Lookup :=
  match t.unrename, w.under t with
  | .named .., .pointer e =>
    match w.lookup (.pointer e) false pkg name fold with
    | .found (.method ..) => .missing
    | r => r
  | _, _ => w.lookup t addressable pkg name fold

/-! ## Using a value as another type -/

/-- Why a type lacks a method that an interface asks for. -/
inductive Lack where
  /-- There is no such method. -/
  | missing (want : MethodTy)
  /-- There is one of another case. -/
  | misspelled (have_ : Method) (want : MethodTy)
  /-- There is one of another package that is not exported. -/
  | unexported (want : MethodTy)
  /-- The method has other parameters or results. -/
  | wrongType (have_ : Method) (want : MethodTy)
  /-- The method belongs to the pointer. -/
  | pointerReceiver (want : MethodTy)
  /-- There are several. -/
  | ambiguous (want : MethodTy)
  /-- There is a field instead. -/
  | field (want : MethodTy)

/-- The first method of an interface that a type lacks, where signatures are compared by
`same`. An interface lacks methods it does not ask for itself. -/
def lacksBy [Monad m] (w : TypeTable) (same : Sig → Sig → m Bool) (v t : Ty) :
    m (Option Lack) :=
  (w.methodsOf t).findSomeM? fun want => do
    match w.lookup v false want.pkg want.name false with
    | .found (.method f _ _) =>
      return if ← same f.sig want.sig then none else some (.wrongType f want)
    | .found (.field ..) => return some (.field want)
    | .ambiguous => return some (.ambiguous want)
    | .needsPointer => return some (.pointerReceiver want)
    | .missing =>
      if w.isInterface v then return some (.missing want)
      else
        match w.lookup v false want.pkg want.name true with
        | .found (.method f _ _) =>
          return some (if f.name = want.name then .unexported want else .misspelled f want)
        | _ => return some (.missing want)

/-- The first method of an interface that a type lacks. -/
def lacks? (w : TypeTable) (v t : Ty) : Option Lack :=
  Id.run (w.lacksBy (fun a b => pure (Sig.same true a b)) v t)

/-- What keeps a type from implementing an interface or satisfying a constraint. -/
inductive Unmet where
  /-- The interface is none. -/
  | noInterface
  /-- No type does. -/
  | emptySet
  /-- A method is missing. -/
  | lack (l : Lack)
  /-- Values cannot be compared. -/
  | incomparable
  /-- The types of an interface are not all among those of the constraint. -/
  | notWithin
  /-- The type is none of the terms, but has one under it. -/
  | missingTilde (alternative : Ty)
  /-- The type is named in the constraint, but not allowed by it. -/
  | mentioned
  /-- The type is none of the terms. -/
  | outside (terms : List Term)

/-- Whether a constraint names a type. -/
def mentionsType : Nat → Ty → Ty → Bool
  | 0, _, _ => false
  | n + 1, t, v =>
    match t with
    | .iface _ es => es.any fun e => mentionsType n e v
    | .union ts => ts.any fun a => mentionsType n a.type v
    | t => t.identical v

/-- **What keeps a type from implementing an interface**, or from satisfying it as a
constraint. Types that are wrong implement everything. -/
def unmet? (w : TypeTable) (v t : Ty) (constraint : Bool) : Option Unmet :=
  let vu := w.under v
  let tu := w.under t
  let broken := vu.isInvalid || tu.isInvalid
    || (match vu with | .pointer e => (w.under e).isInvalid | _ => false)
  if broken then none
  else
    match constraint || w.isInterface t with
    | true =>
      let goal := w.typeSet t
      let isIface := w.isInterface v
      if goal.isMethodSet && (w.methodsOf t).isEmpty then none
      else if isIface && (w.typeSet v).isEmpty then none
      else if goal.isEmpty then some .emptySet
      else
        match w.lacks? v t with
        | some l => some (.lack l)
        | none =>
          let asksComparable := match goal.terms with
            | none => goal.comparable
            | some ts => ts.all fun a => w.isStrictlyComparable a.type
          let comparison : Option Unmet :=
            if !asksComparable || w.isStrictlyComparable v || (constraint && w.isComparable v) then
              none
            else some .incomparable
          match goal.specific? with
          | none => comparison
          | some ts =>
            if isIface then
              let covered := match w.termsOf? v with
                | some vs => vs.all fun a => ts.any fun b => w.within a b
                | none => false
              if covered then comparison else some .notWithin
            else if ts.any fun a => w.includes a v then comparison
            else
              let close := ts.find? fun a =>
                !a.tilde && a.type.identical (w.under a.type) && a.type.identical vu
              match close with
              | some a => some (.missingTilde a.type)
              | none => if mentionsType depth tu v then some .mentioned else some (.outside ts)
    | false => some .noInterface

/-- Whether a type has all methods of an interface, and is one of its types. Types that are
wrong implement everything. -/
def implements (w : TypeTable) (v t : Ty) : Bool := (w.unmet? v t false).isNone

/-- Whether the element of a slice type is a byte or a character. -/
def isTextSlice (w : TypeTable) (t : Ty) : Bool :=
  match w.under t with
  | .slice e => w.basicIs (fun b => b.canonical = .uint8 || b.canonical = .int32) e
  | _ => false

end TypeTable

end Stencil.Host
