import TaggedUnion.Proofs.Program.Keeping

/-!
# Evaluation keeps answers

Evaluating an expression adds no answer to a store except by asking (`keeps_operand`): the operations on operands
keep what has been found, and so does the recursion over expressions that applies them.
-/

namespace TaggedUnion.Program

open Source TaggedUnion.Types Syntax

variable {A : Key → Answer → Prop}

section

variable (s : Site) {ask : Ask} (hask : AskKeeps A ask)

include hask

/-! ## Names -/

@[grind ←]
theorem keeps_visitReferent (r : Referent) : Keeps A (visitReferent s ask r) := by
  unfold visitReferent
  grind

@[grind ←]
theorem keeps_applyType (r : Referent) (args : List Ty) : Keeps A (applyType s ask r args) := by
  have hname := fun name => hask (.name name)
  unfold applyType
  grind

omit hask in
@[grind ←]
theorem keeps_predeclaredOperand (name : String) : Keeps A (predeclaredOperand s name) := by
  unfold predeclaredOperand
  grind

@[grind ←]
theorem keeps_objectOperand (o : Object) : Keeps A (objectOperand s ask o) := by
  unfold objectOperand
  grind

@[grind ←]
theorem keeps_nameOperand (name : String) : Keeps A (nameOperand s ask name) := by
  have hname := hask (.name name)
  unfold nameOperand
  grind

@[grind ←]
theorem keeps_qualifiedOperand (qualifier name : String) :
    Keeps A (qualifiedOperand s ask qualifier name) := by
  unfold qualifiedOperand
  grind

@[grind ←]
theorem keeps_select (x : Operand) (name : String) : Keeps A (select s ask x name) := by
  unfold select
  grind

/-! ## Operators -/

@[grind ←]
theorem keeps_fitTo (t : Ty) (c : Constant) : Keeps A (fitTo s ask t c) := by
  unfold fitTo
  grind

@[grind ←]
theorem keeps_shiftOperand (op : String) (x y : Operand) : Keeps A (shiftOperand s ask op x y) := by
  unfold shiftOperand
  grind

@[grind ←]
theorem keeps_checkConstant (t : Ty) (x : Operand) : Keeps A (checkConstant s ask t x) := by
  unfold checkConstant
  grind

@[grind ←]
theorem keeps_binaryOperand (op : String) (x y : Operand) : Keeps A (binaryOperand s ask op x y) := by
  unfold binaryOperand
  grind

@[grind ←]
theorem keeps_unaryOperand (op : String) (x : Operand) : Keeps A (unaryOperand s ask op x) := by
  unfold unaryOperand
  split
  · grind
  · refine keeps_bind (keeps_modify fun _ h => h) fun _ => ?_
    grind
  · grind

@[grind ←]
theorem keeps_convert (t : Ty) (x : Operand) : Keeps A (convert s ask t x) := by
  unfold convert
  grind

/-! ## Elements and calls -/

@[grind ←]
theorem keeps_arrayBehind (t : Ty) : Keeps A (arrayBehind s ask t) := by
  unfold arrayBehind
  grind

@[grind ←]
theorem keeps_elementOf (x : Operand) : Keeps A (elementOf s ask x) := by
  unfold elementOf
  grind

@[grind ←]
theorem keeps_partOf (x : Operand) : Keeps A (partOf s ask x) := by
  unfold partOf
  grind

@[grind ←]
theorem keeps_callOperand (f : Operand) (args : List Operand) (dots : Bool) :
    Keeps A (callOperand s ask f args dots) := by
  unfold callOperand
  refine keeps_bind (keeps_modify fun _ h => h) fun _ => ?_
  grind

omit hask in
@[grind ←]
theorem keeps_instantiateOperand (f : Operand) (args : List Ty) :
    Keeps A (instantiateOperand s f args) := by
  unfold instantiateOperand
  grind

@[grind ←]
theorem keeps_specialise (target : Option Ty) (f : Operand) : Keeps A (specialise s ask target f) := by
  unfold specialise
  split
  · cases target with
    | none => grind
    | some t =>
      refine keeps_bind (keeps_underlying s hask t) fun u => ?_
      split <;> grind
  · grind

@[grind ←]
theorem keeps_constantLength? (x : Operand) (called : Bool) :
    Keeps A (constantLength? s ask x called) := by
  unfold constantLength?
  grind

@[grind ←]
theorem keeps_extreme (op : String) (args : List Operand) : Keeps A (extreme s ask op args) := by
  unfold extreme
  grind

@[grind ←]
theorem keeps_complexPart (real : Bool) (x : Operand) : Keeps A (complexPart s ask real x) := by
  unfold complexPart
  grind

@[grind ←]
theorem keeps_complexWhole (x y : Operand) : Keeps A (complexWhole s ask x y) := by
  unfold complexWhole
  grind

@[grind ←]
theorem keeps_builtinOperand (name : String) (args : List Operand) (called : Bool) :
    Keeps A (builtinOperand s ask name args called) := by
  unfold builtinOperand
  split <;> grind

@[grind ←]
theorem keeps_offsetOperand (x : Operand) (name : String) : Keeps A (offsetOperand s ask x name) := by
  unfold offsetOperand
  grind

end

/-! ## Expressions -/

@[grind ←]
theorem keeps_planFor (s : Site) {ask : Ask} (hask : AskKeeps A ask) (t : Ty) :
    Keeps A (planFor s ask t) := by
  unfold planFor
  grind

@[grind ←]
theorem keeps_arrayOf (s : Site) {ask : Ask} (hask : AskKeeps A ask) (length : Operand) (elem : Ty) :
    Keeps A (arrayOf s ask length elem) := by
  unfold arrayOf
  grind

@[grind ←]
theorem keeps_groupFields (home : String) (head : GroupHead) (x : Expr) (t : Ty) :
    Keeps A (groupFields home head x t) := by
  unfold groupFields
  grind

section

variable (s : Site) {ask : Ask}

mutual

/-- Evaluating an expression keeps to answers of a kind if asking does. -/
theorem keeps_operand (hask : AskKeeps A ask) : ∀ x hint, Keeps A (operand s ask x hint)
  | .missing _, _ => keeps_throw _
  | .keyed _ _ _, _ => keeps_throw _
  | .ident id, _ => keeps_nameOperand s hask id.name
  | .literal _ _ _, _ => keeps_bind (keeps_orWrong _) fun _ => keeps_pure _
  | .paren _ x _, hint => keeps_operand hask x hint
  | .selector x sel, _ => by
    have hx := keeps_operand hask x none
    unfold operand
    split <;> grind
  | .index x _ args _, _ => by
    have hx := keeps_operand hask x none
    have hargs := keeps_typesOf hask args
    have hargs' := keeps_operandsOf hask args
    rw [operand]
    split <;> grind
  | .slicing x _ bounds _, _ => by
    have hx := keeps_operand hask x none
    have hbounds := keeps_boundsOf hask bounds
    rw [operand]
    grind
  | .assertion x _ type _, _ => by
    have hx := keeps_operand hask x none
    have htype := keeps_operand hask type none
    rw [operand]
    grind
  | .call f _ args dots _, _ => by
    have hf := keeps_operand hask f none
    have hargs := keeps_operandsOf hask args
    have hoffset := keeps_offsetOf hask args
    rw [operand]
    refine keeps_bind hf fun g => ?_
    split
    · grind
    · -- a call of a builtin notes whether it is constant, which is no answer
      refine keeps_get fun σ _ => keeps_bind (keeps_modify fun _ h => h) fun _ => ?_
      have hnote : ∀ x : Operand, Keeps A (do
          modify fun τ => { τ with called := σ.called || x.constant?.isNone }
          return x) := fun x => keeps_bind (keeps_modify fun _ h => h) fun _ => keeps_pure _
      dsimp only
      split
      · exact keeps_bind hoffset hnote
      · refine keeps_bind hargs fun xs => keeps_get fun σ' _ => ?_
        exact keeps_bind (keeps_builtinOperand s hask _ _ _) hnote
    · grind
  | .composite type _ elems _, hint => by
    have htype := keeps_operand hask type none
    have helems := keeps_elementsOf hask elems
    -- a literal without a type takes it from around it, and that of an array may leave out the length
    cases type with
    | missing pos =>
      rw [operand]
      grind
    | array pos length elem =>
      have hlength := keeps_operand hask length none
      have helem := keeps_operand hask elem none
      rw [operand]
      grind
    | _ =>
      unfold operand
      grind
  | .closure type _ _ _, _ => by
    have htype := keeps_operand hask type none
    rw [operand]
    grind
  | .star _ x, _ => by
    have hx := keeps_operand hask x none
    rw [operand]
    grind
  | .unary _ op x, _ => by
    have hx := keeps_operand hask x none
    rw [operand]
    grind
  | .binary x _ op y, _ => by
    have hx := keeps_operand hask x none
    have hy := keeps_operand hask y none
    rw [operand]
    grind
  | .ellipsis _ elem, _ | .slice _ elem, _ | .chan _ _ _ elem, _ => by
    have helem := keeps_operand hask elem none
    rw [operand]
    grind
  | .array _ length elem, _ => by
    have hlength := keeps_operand hask length none
    have helem := keeps_operand hask elem none
    rw [operand]
    grind
  | .map _ key elem, _ => by
    have hkey := keeps_operand hask key none
    have helem := keeps_operand hask elem none
    rw [operand]
    grind
  | .func _ params _ _ results _ _, _ => by
    have hparams := keeps_paramsOf hask params
    have hresults := keeps_paramsOf hask results
    rw [operand]
    grind
  | .struct _ _ fields _, _ => by
    have hfields := keeps_fieldsOf hask fields
    rw [operand]
    grind
  | .interface _ _ elems _, _ => by
    have helems := keeps_elemsOf hask elems
    rw [operand]
    grind

theorem keeps_typesOf (hask : AskKeeps A ask) : ∀ xs, Keeps A (operand.typesOf s ask xs)
  | [] => keeps_pure _
  | x :: xs => keeps_bind (keeps_operand hask x none) fun _ => keeps_bind (keeps_asType _) fun _ =>
      keeps_bind (keeps_typesOf hask xs) fun _ => keeps_pure _

theorem keeps_operandsOf (hask : AskKeeps A ask) : ∀ xs, Keeps A (operand.operandsOf s ask xs)
  | [] => keeps_pure _
  | x :: xs => keeps_bind (keeps_attempt (keeps_operand hask x none)) fun _ =>
      keeps_bind (keeps_operandsOf hask xs) fun _ => keeps_pure _

theorem keeps_boundsOf (hask : AskKeeps A ask) : ∀ xs, Keeps A (operand.boundsOf s ask xs)
  | [] => keeps_pure _
  | x :: xs => by
    have hx := keeps_operand hask x none
    have hxs := keeps_boundsOf hask xs
    unfold operand.boundsOf
    grind

theorem keeps_offsetOf (hask : AskKeeps A ask) : ∀ xs, Keeps A (operand.offsetOf s ask xs)
  | [] => keeps_throw _
  | x :: xs => by
    cases x with
    | selector x sel =>
      have hx := keeps_operand hask x none
      unfold operand.offsetOf
      grind
    | _ => exact keeps_throw _

theorem keeps_elementsOf (hask : AskKeeps A ask) :
    ∀ xs plan i, Keeps A (operand.elementsOf s ask plan i xs)
  | [], _, _ => keeps_pure _
  | x :: xs, plan, i => by
    have hx := keeps_operand hask x
    have hxs := keeps_elementsOf hask xs
    cases x with
    | keyed key colon value =>
      have hkey := keeps_operand hask key
      have hvalue := keeps_operand hask value
      unfold operand.elementsOf
      split <;> grind
    | _ =>
      unfold operand.elementsOf
      grind

theorem keeps_paramsOf (hask : AskKeeps A ask) : ∀ groups, Keeps A (operand.paramsOf s ask groups)
  | [] => keeps_pure _
  | (_, x) :: groups => keeps_bind (keeps_operand hask x none) fun _ => keeps_bind (keeps_asType _) fun _ =>
      keeps_bind (keeps_paramsOf hask groups) fun _ => keeps_pure _

theorem keeps_fieldsOf (hask : AskKeeps A ask) : ∀ groups, Keeps A (operand.fieldsOf s ask groups)
  | [] => keeps_pure _
  | (_, x) :: groups => keeps_bind (keeps_operand hask x none) fun _ => keeps_bind (keeps_asType _) fun _ =>
      keeps_bind (keeps_groupFields _ _ _ _) fun _ => keeps_bind (keeps_fieldsOf hask groups) fun _ =>
      keeps_pure _

theorem keeps_elemsOf (hask : AskKeeps A ask) : ∀ groups, Keeps A (operand.elemsOf s ask groups)
  | [] => keeps_pure _
  | (head, x) :: groups => by
    have hx := keeps_operand hask x none
    have hgroups := keeps_elemsOf hask groups
    rw [operand.elemsOf]
    grind

end

end

@[grind ←]
theorem keeps_typeOf (s : Site) {ask : Ask} (hask : AskKeeps A ask) (x : Expr) :
    Keeps A (typeOf s ask x) :=
  keeps_bind (keeps_operand s hask x none) fun _ => keeps_asType _

@[grind ←]
theorem keeps_boundOf (s : Site) {ask : Ask} (hask : AskKeeps A ask) (x : Expr) :
    Keeps A (boundOf s ask x) := by
  unfold boundOf
  refine keeps_bind (keeps_typeOf s hask x) fun t => ?_
  split <;> exact keeps_pure _

end TaggedUnion.Program
