import TaggedUnion.Program.Infer
import TaggedUnion.Program.Size

/-!
# Operations on operands

What operators, conversions, calls, indices and selectors make of their operands. Operations on constants
have constant results, as far as the type of the result has such values; other operations are looked
at only as far as the type of the result depends on it.
-/

namespace TaggedUnion.Program

open Source TaggedUnion.Types Syntax

variable (s : Site) (ask : Ask)

/-! ## Names -/

/-- Looks at the declaration that a type name refers to. -/
def visitReferent (r : Referent) : Check Unit := do
  match r with
  | .own d => visit s.env ask d.name.name
  | _ => return ()

/-- The type of a type name with type arguments. A generic type needs all of its arguments. -/
def applyType (r : Referent) (args : List Ty) : Check Ty := do
  match r with
  | .inner d =>
    match d.sort with
    | .type => if args.isEmpty then return d.type else throw .unclear
    | _ => throw .wrong
  | .param p => if args.isEmpty then return .param p.name p.pos else throw .wrong
  | .package _ => throw .wrong
  | .own d =>
    match d.body with
    | .type spec =>
      let params := paramDecls spec.params
      if params.length != args.length then throw .wrong
      else if spec.isAlias then
        match ← ask (.name spec.name.name) with
        | .type _ target => aliasOf s.env (ownTypeName s spec) params target args
        | _ => throw .wrong
      else instanceOf s.env (ownTypeName s spec) args
    | _ => throw .wrong
  | .foreign o =>
    if o.params.length != args.length then throw .wrong
    else
      match o.kind, o.type with
      | .type, .named name _ _ => instanceOf s.env name args
      | .type, t => return t
      | .synonym, .synonym name _ _ target => aliasOf s.env name o.params target args
      | _, _ => throw .wrong
  | .predeclared name =>
    if args.isEmpty then orWrong (predeclaredType? name) else throw .wrong

/-- Whether a name refers to a generic type, which stands for nothing without type arguments. -/
def Referent.isGeneric : Referent → Bool
  | .own d =>
    match d.body with
    | .type spec => !spec.params.isEmpty
    | _ => false
  | .foreign o => !o.params.isEmpty
  | _ => false

/-- What a predeclared name stands for. -/
def predeclaredOperand (name : String) : Check Operand := do
  match predeclaredType? name with
  | some t => return .ofType t
  | none =>
    match name with
    | "true" => return .constant (.bool true) .untypedBool
    | "false" => return .constant (.bool false) .untypedBool
    | "nil" => return .value .untypedNil
    | "iota" => return .constant (.ofInt (← orWrong s.index)) (.basic "untyped int")
    | name => if builtinNames.contains name then return .builtin name else throw .wrong

/-- What a name that another package declares stands for. -/
def objectOperand (o : Object) : Check Operand := do
  match o.kind with
  | .type | .synonym => return .ofType (← applyType s ask (.foreign o) [])
  | .var => return .addressable o.type
  | .func => return .value o.type
  | .builtin => return .builtin (o.home ++ "." ++ o.name)
  | .const =>
    match o.value with
    | some c => return .constant c o.type
    | none => throw .unclear

/-- What a name that a function declares stands for. -/
def LocalDecl.operand (d : LocalDecl) : Operand :=
  match d.sort with
  | .variable => .addressable d.type
  | .constant c => .constant c d.type
  | .type => .ofType d.type

/-- What a name stands for. -/
def nameOperand (name : String) : Check Operand := do
  match ← orWrong (s.lookup name) with
  | .inner d => return d.operand
  | .param p => return .ofType (.param p.name p.pos)
  | .package _ => throw .wrong
  | .foreign o => objectOperand s ask o
  | .predeclared name => predeclaredOperand s name
  | .own d =>
    match d.body with
    | .type _ =>
      visitReferent s ask (.own d)
      return .ofType (← applyType s ask (.own d) [])
    | body =>
      match ← ask (.name name), body with
      | .value t (some c), _ => return .constant c t
      | .value t none, .var _ _ _ => return .addressable t
      | .value t none, .func _ => return .value t
      | _, _ => throw .unclear

/-- What a qualified name stands for. -/
def qualifiedOperand (qualifier name : String) : Check Operand := do
  objectOperand s ask (← orWrong (s.lookupIn qualifier name))

/-- A method as a function whose first parameter is the receiver, which is named if the others are. -/
def methodFunction (receiver : String) (type signature : Ty) : Ty :=
  match signature with
  | .func generics params results variadic =>
    let name := match params with
      | (first, _) :: _ =>
        if first == "" then "" else if receiver == "" then "_" else receiver
      | [] => ""
    .func generics ((name, type) :: params) results variadic
  | t => t

/-- What a name selects from an operand. -/
def select (x : Operand) (name : String) : Check Operand := do
  let member ← orUnclear (← member? s ask x.type name)
  match x.mode, member with
  | .type, .method _ receiver t => return .value (methodFunction receiver x.type t)
  | .type, .field _ _ => throw .wrong
  | _, .field _ t => return .addressable t
  | _, .method _ _ t => return .value t

/-! ## Operators -/

/-- The value of a constant as one of a type with basic values; other types have no constants. -/
def fitTo (t : Ty) (c : Constant) : Check Constant := do
  match ← basicName? s ask t with
  | some name => orWrong (c.fit? name)
  | none => throw .wrong

/-- The type that two operands share: an untyped one takes the type of the other. -/
def commonType (a b : Ty) : Ty :=
  match a, b with
  | .basic m, .basic n =>
    if isUntypedName m && isUntypedName n then
      if untypedNumbers.contains m && untypedNumbers.contains n then .basic (Ty.moreGeneral m n)
      else if m == "untyped nil" then b else a
    else if isUntypedName m then b else a
  | .basic m, b => if isUntypedName m then b else .basic m
  | a, _ => a

/-- Operators that compare. -/
def comparisons : List String := ["==", "!=", "<", "<=", ">", ">="]

/-- A shift. The left operand of a constant one becomes an integer. -/
def shiftOperand (op : String) (x y : Operand) : Check Operand := do
  match x.constant?, y.constant? with
  | some a, some b =>
    let n ← orWrong a.int?
    let count ← orWrong b.int?
    if count < 0 || 1074 < count then throw .wrong
    let isInteger := ((← basicName? s ask x.type).map isIntegerName).getD false
    let t := if isInteger then x.type else .basic "untyped int"
    return .constant (← fitTo s ask t (.ofInt (Constant.shift op n count.toNat))) t
  | _, _ => return .value x.type

/-- Fails if an untyped constant is no value of the type of the other operand. -/
def checkConstant (t : Ty) (x : Operand) : Check Unit := do
  match x.constant?, ← basicName? s ask t with
  | some c, some name =>
    if x.type.isUntyped && !t.isUntyped then
      let _ ← orWrong (c.fit? name)
  | _, _ => return ()

/-- An operation with two operands. -/
def binaryOperand (op : String) (x y : Operand) : Check Operand := do
  if op == "<<" || op == ">>" then return ← shiftOperand s ask op x y
  let t := commonType x.type y.type
  match x.constant?, y.constant? with
  | some a, some b =>
    let a ← fitTo s ask t a
    let b ← fitTo s ask t b
    if comparisons.contains op then
      return .constant (.bool (← orWrong (Constant.compare? op a b))) .untypedBool
    let integers := ((← basicName? s ask t).map isIntegerName).getD false
    let c ← orWrong (Constant.binary? integers op a b)
    return .constant (← fitTo s ask t c) t
  | _, _ =>
    checkConstant s ask t x
    checkConstant s ask t y
    if comparisons.contains op then return .value .untypedBool
    return .value t

/-- The complement of an integer in a type without a sign. -/
def complementIn (bits : Nat) (n : Int) : Int :=
  (Nat.pow 2 bits : Nat) - 1 - n

/-- An operation with one operand. -/
def unaryOperand (op : String) (x : Operand) : Check Operand := do
  match op with
  | "&" => return .value (.pointer x.type)
  | "<-" =>
    modify fun σ => { σ with called := true }
    match ← underlying s ask x.type with
    | .chan _ elem => return .checked elem
    | _ => throw .unclear
  | op =>
    match x.constant? with
    | none => return .value x.type
    | some c =>
      let name ← basicName? s ask x.type
      match op, (name.bind fun n => unsignedBits.lookup n), c.int? with
      | "^", some bits, some n => return .constant (.ofInt (complementIn bits n)) x.type
      | _, _, _ =>
        return .constant (← fitTo s ask x.type (← orWrong (Constant.unary? op c))) x.type

/-! ## Conversions -/

/-- The text of a character given by number. -/
def characterText (n : Int) : Text.Bytes :=
  Text.Bytes.ofChar (if 0 ≤ n && Text.isCharNumber n.toNat then Char.ofNat n.toNat else Text.replacement)

/-- A conversion to a type. -/
def convert (t : Ty) (x : Operand) : Check Operand := do
  match x.constant?, ← basicName? s ask t with
  | some c, some name =>
    if name == "Pointer" then return .value t
    match c.fit? name with
    | some c => return .constant c t
    | none =>
      let fromInteger := ((← basicName? s ask x.type).map isIntegerName).getD false
      if fromInteger && isStringName name then
        return .constant (.text (characterText (← orWrong c.int?))) t
      else throw .wrong
  | _, _ => return .value t

/-! ## Elements -/

/-- The type of what a pointer points to, if it is an array. -/
def arrayBehind (t : Ty) : Check Ty := do
  match ← underlying s ask t with
  | .pointer elem =>
    match ← underlying s ask elem with
    | .array n e => return .array n e
    | _ => return .pointer elem
  | u => return u

/-- An element of an operand. -/
def elementOf (x : Operand) : Check Operand := do
  match ← arrayBehind s ask x.type with
  | .basic name => if isStringName name then return .value (.basic "byte") else throw .unclear
  | .array _ elem | .slice elem => return .addressable elem
  | .map _ elem => return .checked elem
  | _ => throw .unclear

/-- A part of an operand. -/
def partOf (x : Operand) : Check Operand := do
  match ← arrayBehind s ask x.type with
  | .basic name =>
    if isStringName name then return .value x.type.default else throw .unclear
  | .array _ elem => return .value (.slice elem)
  | .slice _ => return .value x.type
  | _ => throw .unclear

/-! ## Calls -/

/-- What a call has for results. -/
def resultsOperand (results : List (String × Ty)) : Operand :=
  match results with
  | [] => .void
  | [(_, t)] => .value t
  | results => { mode := .tuple (results.map (·.2)), type := .invalid }

/-- The values that arguments stand for; a call with several results gives several. -/
def spread (args : List Operand) : List Operand :=
  match args with
  | [x] => x.types.map fun t => { x with type := t }
  | args => args

/-- Whether an operand is a generic function. -/
def isGenericFunction (f : Operand) : Bool :=
  match f.mode, f.type with
  | .value, .func (_ :: _) _ _ _ => true
  | _, _ => false

/-- A place that no type parameter of a source is declared at, for one of the argument with the given
number. -/
def renamedPos (i : Nat) (pos : Pos) : Pos :=
  pos + (i + 1) * 1000000000000

/-- The argument with the given number. If it is a generic function, its type parameters get places of
their own; they are returned with their bounds and the types that are given for them. -/
def renamedArgument (i : Nat) (x : Operand) : Operand × List (Pos × Ty) × Solution :=
  match isGenericFunction x, x.type with
  | true, .func generics params results variadic =>
    let bounds := boundsOf generics
    let names := generics.flatMap (·.1)
    let σ := names.map fun p => (p.pos, Ty.param p.name (renamedPos i p.pos))
    let places := bounds.map fun b => renamedPos i b.1
    ({ x with type := (Ty.func [] params results variadic).subst σ },
      places.zip (bounds.map fun b => b.2.subst σ), places.zip x.written)
  | _, _ => (x, [], [])

/-- A call of a function value. The type arguments of a generic one follow from the arguments, among which
there may be generic functions as well. -/
def callOperand (f : Operand) (args : List Operand) (dots : Bool) : Check Operand := do
  modify fun σ => { σ with called := true }
  match ← underlying s ask f.type with
  | .func [] _ results _ => return resultsOperand results
  | .func generics params results variadic =>
    let args := (spread args).mapIdx renamedArgument
    let types := paramsFor (params.map (·.2)) variadic dots args.length
    let bounds := boundsOf generics
    let start := (bounds.map (·.1)).zip f.written
    let σ ← infer s ask (bounds ++ args.flatMap (·.2.1)) (start ++ args.flatMap (·.2.2))
      (types.zip (args.map (·.1)))
    match ← substIn s.env σ (.func [] params results variadic) with
    | .func _ _ results _ => return resultsOperand results
    | _ => throw .unclear
  | _ => throw .unclear

/-- A generic function with type arguments. If there are fewer than type parameters, it stays generic. -/
def instantiateOperand (f : Operand) (args : List Ty) : Check Operand := do
  match f.type with
  | .func generics params results variadic =>
    let places := (boundsOf generics).map (·.1)
    if places.length < args.length then throw .wrong
    else if args.length < places.length then return { f with written := args }
    else return .value (← substIn s.env (places.zip args) (.func [] params results variadic))
  | _ => throw .unclear

/-- A generic function as a value, perhaps one of the given type, from which its type arguments follow as
far as they are not given. Other operands stay. -/
def specialise (target : Option Ty) (f : Operand) : Check Operand := do
  match isGenericFunction f, f.type with
  | true, .func generics params results variadic =>
    let own := Ty.func [] params results variadic
    let given ← match target with
      | none => pure []
      | some t =>
        match ← underlying s ask t with
        | .func g ps rs v => pure [(own, Operand.value (.func g ps rs v))]
        | _ => pure []
    if given.isEmpty && f.written.isEmpty then throw .wrong
    let bounds := boundsOf generics
    let σ ← infer s ask bounds ((bounds.map (·.1)).zip f.written) given
    return .value (← substIn s.env σ own)
  | _, _ => return f

/-- The length of an operand that is known without running anything. -/
def constantLength? (x : Operand) (called : Bool) : Check (Option Nat) := do
  match x.constant? with
  | some (.text bs) => return some bs.length
  | _ =>
    match ← arrayBehind s ask x.type with
    | .array n _ => return if called then none else some n
    | _ => return none

/-- The largest or the least of operands. -/
def extreme (op : String) (args : List Operand) : Check Operand := do
  match args with
  | [] => throw .wrong
  | first :: rest =>
    rest.foldlM (fun x y => do
      let t := commonType x.type y.type
      match x.constant?, y.constant? with
      | some a, some b =>
        let a ← fitTo s ask t a
        let b ← fitTo s ask t b
        return .constant (if Constant.compare? op a b == some true then a else b) t
      | _, _ => return .value t) first

/-- The type of the parts of a complex number. -/
def partType : String → Option String
  | "complex64" => some "float32"
  | "complex128" => some "float64"
  | name => if isUntypedName name then some "untyped float" else none

/-- The type of a complex number with the given parts. -/
def wholeType : String → Option String
  | "float32" => some "complex64"
  | "float64" => some "complex128"
  | name => if isUntypedName name then some "untyped complex" else none

/-- A part of a complex number. -/
def complexPart (real : Bool) (x : Operand) : Check Operand := do
  let name ← orUnclear (← basicName? s ask x.type)
  let t := Ty.basic (← orUnclear (partType name))
  match x.constant? with
  | some (.number re im) => return .constant (.number (if real then re else im) 0) t
  | _ => return .value t

/-- The complex number of two parts. -/
def complexWhole (x y : Operand) : Check Operand := do
  let common := commonType x.type y.type
  let name ← orUnclear (← basicName? s ask common)
  let t := Ty.basic (← orUnclear (wholeType name))
  match x.constant?, y.constant? with
  | some (.number a _), some (.number b _) =>
    return .constant (← fitTo s ask t (.number a b)) t
  | _, _ => return .value t

/-- A call of a predeclared function. `called` says whether its arguments call functions or receive
from channels. -/
def builtinOperand (name : String) (args : List Operand) (called : Bool) : Check Operand := do
  let int := Ty.basic "int"
  match name, args with
  | "len", [x] | "cap", [x] =>
    match ← constantLength? s ask x called with
    | some n => return .constant (.ofInt n) int
    | none => return .value int
  | "append", x :: _ => return .value x.type
  | "copy", _ => return .value int
  | "make", x :: _ => return .value (← x.asType)
  | "new", [x] =>
    match x.mode with
    | .type => return .value (.pointer x.type)
    | _ => return .value (.pointer x.type.default)
  | "min", args => extreme s ask "<" args
  | "max", args => extreme s ask ">" args
  | "complex", [x, y] => complexWhole s ask x y
  | "real", [x] => complexPart s ask true x
  | "imag", [x] => complexPart s ask false x
  | "recover", [] => return .value .emptyInterface
  | "unsafe.Sizeof", [x] =>
    return .constant (.ofInt (← space s ask x.type.default).size) (.basic "uintptr")
  | "unsafe.Alignof", [x] =>
    return .constant (.ofInt (← space s ask x.type.default).align) (.basic "uintptr")
  | "unsafe.Add", _ => return .value (.basic "Pointer")
  | "unsafe.Slice", x :: _ =>
    match ← underlying s ask x.type with
    | .pointer elem => return .value (.slice elem)
    | _ => throw .unclear
  | "unsafe.SliceData", [x] =>
    match ← underlying s ask x.type with
    | .slice elem => return .value (.pointer elem)
    | _ => throw .unclear
  | "unsafe.String", _ => return .value (.basic "string")
  | "unsafe.StringData", _ => return .value (.pointer (.basic "byte"))
  | "clear", _ | "close", _ | "delete", _ | "panic", _ | "print", _ | "println", _ =>
    return .void
  | _, _ => throw .unclear

/-- The place of a field in a struct. -/
def offsetOperand (x : Operand) (name : String) : Check Operand := do
  match ← underlying s ask (dereference x.type) with
  | .struct fields =>
    let places := (offsets 0 (← fields.mapM fun f => space s ask f.2)).1
    match (fields.zip places).find? fun (f, _) => f.1.name == name with
    | some (_, place) => return .constant (.ofInt place) (.basic "uintptr")
    | none => throw .unclear
  | _ => throw .unclear

end TaggedUnion.Program
