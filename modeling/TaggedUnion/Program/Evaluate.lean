import TaggedUnion.Program.Operation

/-!
# Evaluation of expressions

What an expression stands for. Types and values are evaluated by one recursion, because each occurs in
the other: the length of an array is a constant expression, and a conversion names a type.
-/

namespace TaggedUnion.Program

open Source TaggedUnion.Types Syntax

/-! ## Parts of types -/

/-- Methods stand sorted: exported ones first, then by name. -/
def methodLe (a b : MethodHead × Ty) : Bool :=
  match Text.isExported a.1.name, Text.isExported b.1.name with
  | true, false => true
  | false, true => false
  | _, _ => a.1.name ≤ b.1.name

/-- The struct tag that a literal spells. -/
def tagBytes (tag : Option (Pos × String)) : Text.Bytes :=
  match tag with
  | none => []
  | some (_, literal) => (Text.unquote? literal).getD []

/-- The identifier an embedded type gives its field the name of. -/
def embeddedIdent? : Expr → Option Ident
  | .ident id => some id
  | .selector _ sel => some sel
  | .star _ x => embeddedIdent? x
  | .index x _ _ _ => embeddedIdent? x
  | .paren _ x _ => embeddedIdent? x
  | _ => none

/-- The fields that a group declares, once its type is known. -/
def groupFields (home : String) (head : GroupHead) (type : Expr) (t : Ty) :
    Check (List (FieldHead × Ty)) := do
  let tag := tagBytes head.tag
  match head.names with
  | [] =>
    let id ← orWrong (embeddedIdent? type)
    return [(⟨id.name, home, true, tag, id.pos⟩, t)]
  | names => return names.map fun id => (⟨id.name, home, false, tag, id.pos⟩, t)

/-- The parameters that a group declares, once its type is known. -/
def groupParamTypes (head : GroupHead) (t : Ty) : List (String × Ty) :=
  match head.names with
  | [] => [("", t)]
  | names => names.map fun id => (id.name, t)

/-- Whether a group of parameters is marked as variadic. -/
def isMarked (g : GroupHead × Expr) : Bool :=
  match g.2 with
  | .ellipsis _ _ => true
  | _ => false

/-- Whether a parameter list ends in a variadic parameter. -/
def isVariadic (params : List (GroupHead × Expr)) : Bool :=
  params.getLast?.any isMarked

/-- Whether nothing but a single parameter at the end is variadic. -/
def marksFit (params results : List (GroupHead × Expr)) : Bool :=
  !(params.dropLast ++ results).any isMarked &&
    params.getLast?.all fun g => !isMarked g || g.1.names.length ≤ 1

/-- The alternatives of a constraint. -/
def alternatives : Ty → List Term
  | .union terms => terms
  | t => [(false, t)]

/-- What stands in front of the type arguments of an instantiated type. -/
def typeReferent? (s : Site) : Expr → Option Referent
  | .ident id => s.lookup id.name
  | .selector (.ident q) sel => (s.lookupIn q.name sel.name).map .foreign
  | .paren _ x _ => typeReferent? s x
  | _ => none

/-- The type of a literal. -/
def literalType : TokenKind → Ty
  | .int => .basic "untyped int"
  | .float => .basic "untyped float"
  | .imaginary => .basic "untyped complex"
  | .rune => .basic "untyped rune"
  | _ => .basic "untyped string"

/-- How the elements of a composite value are read. -/
inductive Plan
  /-- By the names of fields, or in their order. -/
  | fields (types : List (String × Ty))
  /-- By number. -/
  | items (elem : Ty)
  /-- By key. -/
  | entries (key elem : Ty)

/-- How the elements of a value of a type are read. -/
def planFor (s : Site) (ask : Ask) (t : Ty) : Check Plan := do
  match ← underlying s ask t with
  | .struct fields => return .fields (fields.map fun f => (f.1.name, f.2))
  | .array _ elem | .slice elem => return .items elem
  | .map key elem => return .entries key elem
  | _ => throw .unclear

/-- The type of the element with the given number, if it is known. -/
def Plan.hint (p : Plan) (i : Nat) : Option Ty :=
  match p with
  | .fields types => (types[i]?).map (·.2)
  | .items elem => some elem
  | .entries _ elem => some elem

/-- Whether the length of an array is left out. -/
def isOpenLength : Expr → Bool
  | .ellipsis _ (.missing _) => true
  | _ => false

/-- The type of arrays of a length, which is a constant. -/
def arrayOf (s : Site) (ask : Ask) (length : Operand) (elem : Ty) : Check Ty := do
  let isInteger := ((← basicName? s ask length.type).map isIntegerName).getD false
  if !(length.type.isUntyped || isInteger) then throw .wrong
  let count ← orWrong (length.constant?.bind (·.fit? "int"))
  let count ← orWrong count.int?
  if count < 0 then throw .wrong
  return .array count.toNat elem

/-! ## Expressions -/

/-- What an expression stands for. Elements without a type have the type `hint`. -/
def operand (s : Site) (ask : Ask) : Expr → (hint : Option Ty) → Check Operand
  | .missing _, _ => throw .wrong
  | .ident id, _ => nameOperand s ask id.name
  | .literal _ kind text, _ => do
    return .constant (← orWrong (Constant.ofLiteral? kind text)) (literalType kind)
  | .paren _ x _, hint => operand s ask x hint
  | .selector x sel, _ => do
    match x with
    | .ident q =>
      match s.lookup q.name with
      | some (.package _) => qualifiedOperand s ask q.name sel.name
      | _ => select s ask (← nameOperand s ask q.name) sel.name
    | x => select s ask (← operand s ask x none) sel.name
  | .index x _ args _, _ => do
    match typeReferent? s x with
    | some r =>
      if r.isGeneric then
        visitReferent s ask r
        let args ← typesOf args
        return .ofType (← applyType s ask r args)
    | none => pure ()
    let f ← operand s ask x none
    if isGenericFunction f then instantiateOperand s f (← typesOf args)
    else do
      let _ ← operandsOf args
      elementOf s ask f
  | .slicing x _ bounds _, _ => do
    let x ← operand s ask x none
    let _ ← boundsOf bounds
    partOf s ask x
  | .assertion x _ type _, _ => do
    let _ ← attempt (operand s ask x none)
    return .checked (← (← operand s ask type none).asType)
  | .call f _ args dots _, _ => do
    let g ← operand s ask f none
    match g.mode with
    | .type =>
      match ← operandsOf args with
      | [x] => convert s ask g.type x
      | _ => throw .wrong
    | .builtin name =>
      let before := (← get).called
      modify fun σ => { σ with called := false }
      let x ← if name == "unsafe.Offsetof" then offsetOf args
        else do
          let xs ← operandsOf args
          builtinOperand s ask name xs (← get).called
      modify fun σ => { σ with called := before || x.constant?.isNone }
      return x
    | _ => callOperand s ask g (← operandsOf args) (dots != 0)
  | .composite type _ elems _, hint => do
    match type with
    | .missing _ =>
      let t ← orUnclear hint
      let base ← match ← underlying s ask t with
        | .pointer elem => pure elem
        | _ => pure t
      let _ ← elementsOf (← planFor s ask base) 0 elems
      return .value t
    | .array _ length elem =>
      if isOpenLength length then do
        let elem ← (← operand s ask elem none).asType
        return .value (.array (← elementsOf (.items elem) 0 elems) elem)
      else do
        let n ← operand s ask length none
        let t ← arrayOf s ask n (← (← operand s ask elem none).asType)
        let _ ← elementsOf (← planFor s ask t) 0 elems
        return .value t
    | type =>
      let t ← (← operand s ask type none).asType
      match ← attempt (planFor s ask t) with
      | some plan =>
        let _ ← elementsOf plan 0 elems
        return .value t
      | none => return .value t
  | .keyed _ _ _, _ => throw .wrong
  | .closure type _ _ _, _ => do
    return .value (← (← operand s ask type none).asType)
  | .star _ x, _ => do
    let x ← operand s ask x none
    match x.mode with
    | .type => return .ofType (.pointer x.type)
    | _ =>
      match ← underlying s ask x.type with
      | .pointer elem => return .addressable elem
      | _ => throw .unclear
  | .unary _ op x, _ => do
    let x ← operand s ask x none
    if op == "~" then return .ofType (.union [(true, ← x.asType)])
    unaryOperand s ask op x
  | .binary x _ op y, _ => do
    let x ← operand s ask x none
    let y ← operand s ask y none
    match x.mode with
    | .type =>
      if op == "|" then
        return .ofType (.union (alternatives x.type ++ alternatives (← y.asType)))
      else throw .wrong
    | _ => binaryOperand s ask op x y
  | .ellipsis _ elem, _ => do
    return .ofType (.slice (← (← operand s ask elem none).asType))
  | .slice _ elem, _ => do
    return .ofType (.slice (← (← operand s ask elem none).asType))
  | .array _ length elem, _ => do
    let n ← operand s ask length none
    return .ofType (← arrayOf s ask n (← (← operand s ask elem none).asType))
  | .map _ key elem, _ => do
    let key ← (← operand s ask key none).asType
    return .ofType (.map key (← (← operand s ask elem none).asType))
  | .chan _ _ direction elem, _ => do
    return .ofType (.chan direction (← (← operand s ask elem none).asType))
  | .func _ params _ _ results _ _, _ => do
    let ps ← paramsOf params
    let rs ← paramsOf results
    let names := ((ps ++ rs).map (·.1)).filter (· != "")
    if !distinct names || !marksFit params results then throw .wrong
    return .ofType (.func [] ps rs (isVariadic params))
  | .struct _ _ fields _, _ => do
    let fs ← fieldsOf fields
    if !distinct (fs.map (·.1.name)) then throw .wrong
    return .ofType (.struct fs)
  | .interface _ _ elems _, _ => do
    let (methods, embedded) ← elemsOf elems
    if !distinct (methods.map (·.1.name)) then throw .wrong
    return .ofType (.interface (methods.mergeSort methodLe) embedded false)
where
  /-- The types that several expressions denote. -/
  typesOf : List Expr → Check (List Ty)
    | [] => return []
    | x :: rest => do
      let t ← (← operand s ask x none).asType
      return t :: (← typesOf rest)
  /-- What several expressions stand for; unclear ones have an invalid type. -/
  operandsOf : List Expr → Check (List Operand)
    | [] => return []
    | x :: rest => do
      let x := (← attempt (operand s ask x none)).getD (.value .invalid)
      return x :: (← operandsOf rest)
  /-- The bounds of a slice, which may be left out. -/
  boundsOf : List Expr → Check Unit
    | [] => return ()
    | .missing _ :: rest => boundsOf rest
    | x :: rest => do
      let _ ← attempt (operand s ask x none)
      boundsOf rest
  /-- The place of the field that the only argument selects. -/
  offsetOf : List Expr → Check Operand
    | [.selector x sel] => do offsetOperand s ask (← operand s ask x none) sel.name
    | _ => throw .unclear
  /-- The elements of a composite value from the given number on. Returns how many elements an array
  needs for them. -/
  elementsOf (plan : Plan) (i : Nat) : List Expr → Check Nat
    | [] => return i
    | .keyed key _ value :: rest => do
      match plan with
      | .fields types =>
        let hint := match key with
          | .ident id => types.lookup id.name
          | _ => none
        let _ ← attempt (operand s ask value hint)
        elementsOf plan i rest
      | .entries keyType elem =>
        let _ ← attempt (operand s ask key (some keyType))
        let _ ← attempt (operand s ask value (some elem))
        elementsOf plan i rest
      | .items elem =>
        let k ← operand s ask key none
        let n ← orUnclear (k.constant?.bind (·.int?))
        let _ ← attempt (operand s ask value (some elem))
        return max (n.toNat + 1) (← elementsOf plan (n.toNat + 1) rest)
    | x :: rest => do
      let _ ← attempt (operand s ask x (plan.hint i))
      elementsOf plan (i + 1) rest
  /-- The parameters of a list of groups. -/
  paramsOf : List (GroupHead × Expr) → Check (List (String × Ty))
    | [] => return []
    | (head, x) :: rest => do
      let t ← (← operand s ask x none).asType
      return groupParamTypes head t ++ (← paramsOf rest)
  /-- The fields of a list of groups. -/
  fieldsOf : List (GroupHead × Expr) → Check (List (FieldHead × Ty))
    | [] => return []
    | (head, x) :: rest => do
      let t ← (← operand s ask x none).asType
      let fields ← groupFields s.env.self head x t
      return fields ++ (← fieldsOf rest)
  /-- The methods and the embedded types of a list of interface elements. -/
  elemsOf : List (GroupHead × Expr) → Check (List (MethodHead × Ty) × List Ty)
    | [] => return ([], [])
    | (head, x) :: rest => do
      let t ← (← operand s ask x none).asType
      let (methods, embedded) ← elemsOf rest
      match head.names with
      | [] => return (methods, t :: embedded)
      | id :: _ => return ((⟨id.name, s.env.self⟩, t) :: methods, embedded)

/-- The type that an expression denotes. -/
def typeOf (s : Site) (ask : Ask) (x : Expr) : Check Ty := do
  (← operand s ask x none).asType

/-- The bound that a constraint expresses; alternatives without the word `interface` are an
implicit one. -/
def boundOf (s : Site) (ask : Ask) (x : Expr) : Check Ty := do
  let t ← typeOf s ask x
  match x with
  | .unary _ _ _ | .binary _ _ _ _ => return .interface [] [t] true
  | _ => return t

end TaggedUnion.Program
