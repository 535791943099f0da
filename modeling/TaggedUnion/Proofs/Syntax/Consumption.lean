import Mathlib.Data.Option.Basic
import TaggedUnion.Syntax.Parser

/-!
# Parsers consume

Parsers read from the front and never put anything back: what they leave is the end of what they were
given. This holds of the parsers of single tokens, and of everything that is put together from them; for
those that call each other it goes by induction on the depth of their calls (`consuming`).
-/

namespace TaggedUnion.Syntax.Parser

open Source TaggedUnion.Types

variable {α β : Type}

/-- What a parser leaves is the end of what it was given. -/
def Consumes (p : Parser α) : Prop :=
  ∀ ts a rest, p.run ts = some (a, rest) → rest <:+ ts

/-! ## Putting parsers together -/

@[grind ←]
theorem consumes_pure (a : α) : Consumes (pure a : Parser α) := by
  rintro ts _ _ ⟨⟩
  exact List.suffix_rfl

@[grind ←]
theorem consumes_failure : Consumes (failure : Parser α) :=
  nofun

/-- What runs one after the other. -/
theorem run_bind_eq_some {p : Parser α} {f : α → Parser β} {ts rest : List LedToken} {b : β} :
    (p >>= f).run ts = some (b, rest) ↔
      ∃ a mid, p.run ts = some (a, mid) ∧ (f a).run mid = some (b, rest) := by
  rw [StateT.run_bind, Option.bind_eq_bind, Option.bind_eq_some_iff, Prod.exists]

@[grind ←]
theorem consumes_bind {p : Parser α} {f : α → Parser β} (hp : Consumes p)
    (hf : ∀ a, Consumes (f a)) : Consumes (p >>= f) := by
  intro ts b rest h
  obtain ⟨a, mid, ha, hb⟩ := run_bind_eq_some.1 h
  exact (hf a mid b rest hb).trans (hp ts a mid ha)

@[grind ←]
theorem consumes_map {p : Parser α} (f : α → β) (hp : Consumes p) : Consumes (f <$> p) := by
  rw [map_eq_pure_bind]
  exact consumes_bind hp fun a => consumes_pure (f a)

/-- What a choice of parsers reads, one of them reads. -/
theorem run_orElse {p : Parser α} {q : Unit → Parser α} {ts rest : List LedToken} {a : α}
    (h : (HOrElse.hOrElse p q).run ts = some (a, rest)) :
    p.run ts = some (a, rest) ∨ (q ()).run ts = some (a, rest) := by
  change (p.run ts <|> (q ()).run ts) = _ at h
  cases hrun : p.run ts with
  | none => rw [hrun] at h; exact .inr h
  | some r => rw [hrun] at h; exact .inl h

@[grind ←]
theorem consumes_orElse {p : Parser α} {q : Unit → Parser α} (hp : Consumes p)
    (hq : Consumes (q ())) : Consumes (HOrElse.hOrElse p q) := fun ts a rest h =>
  (run_orElse h).elim (hp ts a rest) (hq ts a rest)

/-- A condition that is met takes nothing. -/
theorem run_guard_eq_some {c : Prop} [Decidable c] {u : Unit}
    (h : (guard c : Parser Unit).run ts = some (u, rest)) : c ∧ rest = ts := by
  change (if c then pure () else failure : Parser Unit).run ts = some (u, rest) at h
  split at h <;> cases h
  exact ⟨‹c›, rfl⟩

@[grind ←]
theorem consumes_guard (c : Prop) [Decidable c] : Consumes (guard c : Parser Unit) := by
  change Consumes (if c then pure () else failure)
  split
  · exact consumes_pure ()
  · exact consumes_failure

/-- What is looked up elsewhere takes nothing from the front. -/
@[grind ←]
theorem consumes_lift (o : Option α) : Consumes (liftM o : Parser α) := by
  rintro ts a rest h
  cases o with
  | none => cases h
  | some b => cases h; exact List.suffix_rfl

/-- A parser that looks at what is given, and goes on from the end of it. -/
theorem consumes_get {f : List LedToken → Parser α}
    (h : ∀ ts a rest, (f ts).run ts = some (a, rest) → rest <:+ ts) : Consumes (get >>= f) :=
  fun ts a rest hrun => h ts a rest hrun

/-! ## Single tokens -/

@[grind ←]
theorem consumes_peek : Consumes peek := by
  refine consumes_get fun ts a rest h => ?_
  cases ts with
  | nil => cases h
  | cons t ts => cases h; exact List.suffix_rfl

@[grind ←]
theorem consumes_next : Consumes next := by
  refine consumes_get fun ts a rest h => ?_
  cases ts with
  | nil => cases h
  | cons t rest => cases h; exact List.suffix_cons t rest

@[grind ←]
theorem consumes_trail : Consumes trail := by
  refine consumes_get fun ts a rest h => ?_
  cases ts with
  | nil => cases h
  | cons t ts => cases h; exact List.suffix_rfl

@[grind ←]
theorem consumes_lead : Consumes lead := by
  refine consumes_get fun ts a rest h => ?_
  cases ts with
  | nil => cases h
  | cons t ts => cases h; exact List.suffix_rfl

@[grind ←]
theorem consumes_at? (text : String) : Consumes (at? text) := by
  unfold at?
  grind

@[grind ←]
theorem consumes_expect (text : String) : Consumes (expect text) := by
  unfold expect
  grind

@[grind ←]
theorem consumes_accept (text : String) : Consumes (accept text) := by
  unfold accept
  grind

@[grind ←]
theorem consumes_ident : Consumes ident := by
  unfold ident
  grind

@[grind ←]
theorem consumes_ending : Consumes ending := by
  unfold ending
  grind

@[grind ←]
theorem consumes_semicolon : Consumes semicolon := by
  unfold semicolon
  grind

@[grind ←]
theorem consumes_typeName : Consumes typeName := by
  unfold typeName
  grind

/-! ## Types, values and statements -/

/-- The parsers that call each other consume at the given depth. -/
structure Consuming (n : Nat) : Prop where
  typeExpr : Consumes (Parser.typeExpr n)
  arrayType : ∀ pos, Consumes (Parser.arrayType n pos)
  typeArgs : ∀ x, Consumes (Parser.typeArgs n x)
  typeList : Consumes (Parser.typeList n)
  signature : ∀ pos, Consumes (Parser.signature n pos)
  paramList : Consumes (Parser.paramList n)
  params : Consumes (Parser.params n)
  param : Consumes (Parser.param n)
  paramType : Consumes (Parser.paramType n)
  structFields : Consumes (Parser.structFields n)
  structField : Consumes (Parser.structField n)
  identList : Consumes (Parser.identList n)
  interfaceElems : Consumes (Parser.interfaceElems n)
  typeElem : Consumes (Parser.typeElem n)
  moreTerms : ∀ x, Consumes (Parser.moreTerms n x)
  typeTerm : Consumes (Parser.typeTerm n)
  binary : ∀ b i, Consumes (Parser.binary n b i)
  operators : ∀ b i x, Consumes (Parser.operators n b i x)
  unary : ∀ b, Consumes (Parser.unary n b)
  operand : Consumes (Parser.operand n)
  primary : ∀ b x, Consumes (Parser.primary n b x)
  indices : ∀ x pos, Consumes (Parser.indices n x pos)
  arguments : Consumes (Parser.arguments n)
  elements : ∀ x, Consumes (Parser.elements n x)
  elementList : Consumes (Parser.elementList n)
  element : Consumes (Parser.element n)
  typeParamBound : Consumes (Parser.typeParamBound n)
  typeParamEntries : Consumes (Parser.typeParamEntries n)
  rightHandSide : Consumes (Parser.rightHandSide n)
  genericRest : ∀ id bound, Consumes (Parser.genericRest n id bound)
  typeRest : Consumes (Parser.typeRest n)
  statements : Consumes (Parser.statements n)
  statement : Consumes (Parser.statement n)
  unended : Consumes (Parser.unended n)
  block : Consumes (Parser.block n)
  exprs : ∀ b, Consumes (Parser.exprs n b)
  simple : ∀ b, Consumes (Parser.simple n b)
  headPart : Consumes (Parser.headPart n)
  head : Consumes (Parser.head n)
  condition : Consumes (Parser.condition n)
  loop : Consumes (Parser.loop n)
  choice : Consumes (Parser.choice n)
  clauses : ∀ b, Consumes (Parser.clauses n b)
  declaration : Consumes (Parser.declaration n)
  innerSpecs : ∀ keyword i, Consumes (Parser.innerSpecs n keyword i)
  innerSpec : ∀ keyword i doc, Consumes (Parser.innerSpec n keyword i doc)

attribute [grind ←] Consuming.typeExpr Consuming.arrayType Consuming.typeArgs Consuming.typeList
  Consuming.signature Consuming.paramList Consuming.params Consuming.param Consuming.paramType
  Consuming.structFields Consuming.structField Consuming.identList Consuming.interfaceElems
  Consuming.typeElem Consuming.moreTerms Consuming.typeTerm Consuming.binary Consuming.operators
  Consuming.unary Consuming.operand Consuming.primary Consuming.indices Consuming.arguments
  Consuming.elements Consuming.elementList Consuming.element Consuming.typeParamBound
  Consuming.typeParamEntries Consuming.rightHandSide Consuming.genericRest Consuming.typeRest
  Consuming.statements Consuming.statement Consuming.unended Consuming.block Consuming.exprs
  Consuming.simple Consuming.headPart Consuming.head Consuming.condition Consuming.loop Consuming.choice
  Consuming.clauses Consuming.declaration Consuming.innerSpecs Consuming.innerSpec

section

variable {n : Nat} (ih : Consuming n)

include ih

theorem consumes_typeExpr : Consumes (typeExpr (n + 1)) := by
  rw [typeExpr]
  refine consumes_bind consumes_peek fun t => ?_
  split
  · grind
  · refine consumes_bind (consumes_guard _) fun _ => consumes_bind consumes_next fun _ => ?_
    split <;> grind

theorem consumes_param : Consumes (param (n + 1)) := by
  rw [param]
  have hended : Consumes (do let t ← peek; guard (t.is "," || t.is ")")) := by grind
  refine consumes_orElse (consumes_bind consumes_ident fun id => ?_) ?_
  · refine consumes_bind (consumes_at? _) fun comma => consumes_bind (consumes_at? _) fun closed => ?_
    split
    · exact consumes_pure _
    · exact consumes_bind ih.paramType fun type => consumes_bind hended fun _ => consumes_pure _
  · exact consumes_bind ih.paramType fun type => consumes_bind hended fun _ => consumes_pure _

theorem consumes_structFields : Consumes (structFields (n + 1)) := by
  rw [structFields]
  refine consumes_bind (consumes_at? _) fun closed => ?_
  split
  · grind
  · refine consumes_bind consumes_lead fun doc => consumes_bind ih.structField fun (names, type) => ?_
    refine consumes_bind consumes_peek fun t => ?_
    split <;> grind

theorem consumes_interfaceElems : Consumes (interfaceElems (n + 1)) := by
  rw [interfaceElems]
  refine consumes_bind (consumes_at? _) fun closed => ?_
  split
  · grind
  · refine consumes_bind consumes_peek fun t => ?_
    split <;> refine consumes_bind (by grind) fun doc => consumes_bind (by grind) fun (names, type) => ?_
    all_goals grind

theorem consumes_primary (b : Bool) (x : Expr) : Consumes (primary (n + 1) b x) := by
  rw [primary]
  refine consumes_bind consumes_peek fun t => ?_
  split
  · refine consumes_bind consumes_next fun _ => consumes_bind (consumes_at? _) fun asserted => ?_
    split
    · refine consumes_bind (consumes_expect _) fun lparen => consumes_bind consumes_peek fun t => ?_
      grind
    · grind
  · split
    · grind
    · grind

theorem consumes_elementList : Consumes (elementList (n + 1)) := by
  rw [elementList]
  refine consumes_bind (consumes_at? _) fun closed => ?_
  split
  · grind
  · refine consumes_bind ih.element fun x => consumes_bind (consumes_at? _) fun keyed => ?_
    split <;> refine consumes_bind (by grind) fun x => ?_
    all_goals grind

theorem consumes_genericRest (id : Ident) (bound : Option Expr) :
    Consumes (genericRest (n + 1) id bound) := by
  unfold genericRest
  split <;> grind

theorem consumes_typeRest : Consumes (typeRest (n + 1)) := by
  rw [typeRest]
  refine consumes_bind (consumes_at? _) fun bracket => ?_
  split
  · grind
  · refine consumes_bind (consumes_expect _) fun lbrack => consumes_bind consumes_peek fun t => ?_
    split
    · grind
    · refine consumes_bind consumes_ident fun id => consumes_bind (consumes_at? _) fun again => ?_
      have harray : ∀ x, Consumes (do
          let _ ← expect "]"
          return (([] : List (GroupHead × Expr)), (0 : Pos), Expr.array lbrack x (← typeExpr n))) := by
        grind
      split
      · grind
      · refine consumes_bind (by grind) fun y => consumes_bind (by grind) fun x => ?_
        grind

theorem consumes_loop : Consumes (loop (n + 1)) := by
  rw [loop]
  refine consumes_bind (consumes_expect _) fun pos => consumes_orElse ?_ ?_
  · have hrest : ∀ targets opPos op, Consumes (do
        let _ ← expect "range"
        let x ← binary n false 1
        return Statement.range pos targets opPos op x (← block n)) := by
      grind
    refine consumes_bind (consumes_at? _) fun bare => ?_
    split
    · exact hrest _ _ _
    · grind
  · refine consumes_bind ih.headPart fun first => consumes_bind consumes_peek fun t => ?_
    split <;> grind

theorem consumes_clauses (b : Bool) : Consumes (clauses (n + 1) b) := by
  rw [clauses]
  refine consumes_bind consumes_peek fun t => ?_
  split
  · grind
  · have hrest : ∀ values exchange, Consumes (do
        let colon ← expect ":"
        let body ← statements n
        return Statement.clause t.pos values exchange colon body :: (← clauses n b)) := by
      grind
    refine consumes_bind (consumes_accept _) fun bare => ?_
    split
    · exact hrest _ _
    · grind

end

-- Not tagged, as all that goes by tagged lemmas waits for their proofs, and this one takes long.
theorem consuming : ∀ n, Consuming n
  | 0 => by constructor <;> intros <;> exact consumes_failure
  | n + 1 =>
    have ih := consuming n
    {
    typeExpr := consumes_typeExpr ih
    arrayType := by intro pos; rw [Parser.arrayType]; grind
    typeArgs := by intro x; rw [Parser.typeArgs]; grind
    typeList := by rw [Parser.typeList]; grind
    signature := by intro pos; rw [Parser.signature]; grind
    paramList := by rw [Parser.paramList]; grind
    params := by rw [Parser.params]; grind
    param := consumes_param ih
    paramType := by rw [Parser.paramType]; grind
    structFields := consumes_structFields ih
    structField := by rw [Parser.structField]; grind
    identList := by rw [Parser.identList]; grind
    interfaceElems := consumes_interfaceElems ih
    typeElem := by rw [Parser.typeElem]; grind
    moreTerms := by intro x; rw [Parser.moreTerms]; grind
    typeTerm := by rw [Parser.typeTerm]; grind
    binary := by intro b i; rw [Parser.binary]; grind
    operators := by intro b i x; rw [Parser.operators]; grind
    unary := by intro b; rw [Parser.unary]; grind
    operand := by rw [Parser.operand]; grind
    primary := consumes_primary ih
    indices := by intro x pos; rw [Parser.indices]; grind
    arguments := by rw [Parser.arguments]; grind
    elements := by intro x; rw [Parser.elements]; grind
    elementList := consumes_elementList ih
    element := by rw [Parser.element]; grind
    typeParamBound := by rw [Parser.typeParamBound]; grind
    typeParamEntries := by rw [Parser.typeParamEntries]; grind
    rightHandSide := by rw [Parser.rightHandSide]; grind
    genericRest := consumes_genericRest ih
    typeRest := consumes_typeRest ih
    statements := by rw [Parser.statements]; grind
    statement := by rw [Parser.statement]; grind
    unended := by rw [Parser.unended]; grind
    block := by rw [Parser.block]; grind
    exprs := by intro b; rw [Parser.exprs]; grind
    simple := by intro b; rw [Parser.simple]; grind
    headPart := by rw [Parser.headPart]; grind
    head := by rw [Parser.head]; grind
    condition := by rw [Parser.condition]; grind
    loop := consumes_loop ih
    choice := by rw [Parser.choice]; grind
    clauses := consumes_clauses ih
    declaration := by rw [Parser.declaration]; grind
    innerSpecs := by intro keyword i; rw [Parser.innerSpecs]; grind
    innerSpec := by intro keyword i doc; rw [Parser.innerSpec]; grind
    }

/-! ## Declarations -/

theorem skipBraces_suffix {depth : Nat} {ts rest : List LedToken} {pos : Pos}
    (h : skipBraces depth ts = some (pos, rest)) : rest <:+ ts := by
  fun_induction skipBraces depth ts with
  | case1 => cases h
  | case2 depth t ts _ ih => exact (ih h).trans (List.suffix_cons t ts)
  | case3 depth t ts => cases h; exact List.suffix_cons t _
  | case4 depth t ts _ _ _ ih => exact (ih h).trans (List.suffix_cons t ts)
  | case5 => cases h
  | case6 depth t ts _ _ _ ih => exact (ih h).trans (List.suffix_cons t ts)

@[grind ←]
theorem consumes_closingBrace : Consumes closingBrace := by
  refine consumes_get fun ts pos rest h => ?_
  cases hskip : skipBraces 1 ts with
  | none => rw [hskip] at h; cases h
  | some r =>
    rw [hskip] at h
    cases h
    exact skipBraces_suffix hskip

@[grind ←]
theorem consumes_typeParamList (n : Nat) : Consumes (typeParamList n) := by
  have hc := consuming n
  unfold typeParamList
  grind

@[grind ←]
theorem consumes_typeParams (n : Nat) : Consumes (typeParams n) := by
  unfold typeParams
  grind

@[grind ←]
theorem consumes_typeSpec (n : Nat) (doc : Option (List Comment)) : Consumes (typeSpec n doc) := by
  have hc := consuming n
  unfold typeSpec
  grind

@[grind ←]
theorem consumes_valueSpec (n index : Nat) : Consumes (valueSpec n index) := by
  have hc := consuming n
  unfold valueSpec
  grind

@[grind ←]
theorem consumes_funcSpec (n : Nat) (pos : Pos) : Consumes (funcSpec n pos) := by
  have hc := consuming n
  unfold funcSpec
  refine consumes_bind (consumes_at? _) fun method => ?_
  dsimp only
  split
  · refine consumes_bind hc.paramList fun (groups, lparen, rparen) => ?_
    dsimp only
    split
    all_goals
      refine consumes_bind (by grind) fun receiver => consumes_bind consumes_ident fun name => ?_
      grind
  · refine consumes_bind (consumes_pure none) fun receiver => consumes_bind consumes_ident fun name => ?_
    grind

@[grind ←]
theorem consumes_importSpec : Consumes importSpec := by
  unfold importSpec
  refine consumes_bind consumes_peek fun t => ?_
  dsimp only
  have hafter : ∀ name, Consumes (do
      let literal ← next
      guard (literal.kind == .string)
      let path ← Text.unquote? literal.text
      guard (isImportPath path.text)
      semicolon
      return ({ pos := t.pos, name, literal := literal.text, path := path.text } : ImportSpec)) := by
    grind
  split
  · grind
  · split <;> grind

theorem consumes_many {spec : Option (List Comment) → Nat → Parser α}
    (h : ∀ doc i, Consumes (spec doc i)) (fuel i : Nat) : Consumes (specs.many spec fuel i) := by
  induction fuel generalizing i with
  | zero => exact consumes_failure
  | succ fuel ih =>
    rw [specs.many]
    refine consumes_get fun ts a rest hrun => ?_
    cases ts with
    | nil => cases hrun
    | cons t ts =>
      have hc : Consumes (if t.token.is ")" then pure [] else do
          let x ← spec t.lead i
          return x :: (← specs.many spec fuel (i + 1))) := by grind
      exact hc _ _ _ hrun

@[grind ←]
theorem consumes_specs {spec : Option (List Comment) → Nat → Parser α} (n : Nat)
    (h : ∀ doc i, Consumes (spec doc i)) : Consumes (specs n spec) := by
  have hmany := consumes_many h
  unfold specs
  grind

@[grind ←]
theorem consumes_imports (n : Nat) : Consumes (imports n) := by
  induction n with
  | zero => exact consumes_failure
  | succ n ih =>
    have hspecs : Consumes (specs n fun _ _ => importSpec) :=
      consumes_specs n fun _ _ => consumes_importSpec
    rw [imports]
    grind

/-- Goes on with other tokens. -/
theorem run_set_bind {f : Unit → Parser α} (ts rest : List LedToken) :
    (set rest >>= f : Parser α).run ts = (f ()).run rest := rfl

/-- Reads a declaration after its keyword. -/
def declAfter (n : Nat) (t : LedToken) : Parser Decl :=
  match t.token.text with
  | "type" => Decl.types t.lead <$> specs n fun doc _ => typeSpec n doc
  | "var" => Decl.vars <$> specs n fun _ i => valueSpec n i
  | "const" => Decl.consts <$> specs n fun _ i => valueSpec n i
  | "func" => Decl.func <$> funcSpec n t.token.pos
  | _ => failure

@[grind ←]
theorem consumes_declAfter (n : Nat) (t : LedToken) : Consumes (declAfter n t) := by
  have htypes : Consumes (specs n fun doc _ => typeSpec n doc) :=
    consumes_specs n fun doc _ => consumes_typeSpec n doc
  have hvalues : Consumes (specs n fun _ i => valueSpec n i) :=
    consumes_specs n fun _ i => consumes_valueSpec n i
  unfold declAfter
  split <;> grind

/-- Declarations end at the end of the file, or there is one more in front of others. -/
theorem run_decls {n : Nat} {t : LedToken} {ts rest : List LedToken} {ds : List Decl}
    (h : (decls (n + 1)).run (t :: ts) = some (ds, rest)) :
    (ds = [] ∧ rest = t :: ts) ∨
      ∃ d ds' mid, ds = d :: ds' ∧ (declAfter n t).run ts = some (d, mid) ∧
        (decls n).run mid = some (ds', rest) := by
  rw [decls] at h
  change StateT.run (if t.token.kind == .eof then pure [] else _) (t :: ts) = _ at h
  split at h
  · cases h
    exact .inl ⟨rfl, rfl⟩
  · have hrun : (do
        let d ← declAfter n t
        guard (t.token.kind == .keyword)
        return d :: (← decls n) : Parser (List Decl)).run ts = some (ds, rest) := by
      rw [← h, declAfter, run_set_bind]
      dsimp only
      split <;> simp only [*]
    obtain ⟨d, mid, hd, hmore⟩ := run_bind_eq_some.1 hrun
    obtain ⟨_, mid', hguard, hmore⟩ := run_bind_eq_some.1 hmore
    obtain ⟨ds', rest', hds', hpure⟩ := run_bind_eq_some.1 hmore
    cases hpure
    obtain ⟨-, rfl⟩ := run_guard_eq_some hguard
    exact .inr ⟨d, ds', mid', rfl, hd, hds'⟩

theorem consumes_decls (n : Nat) : Consumes (decls n) := by
  induction n with
  | zero => exact consumes_failure
  | succ n ih =>
    intro ts ds rest h
    cases ts with
    | nil => cases h
    | cons t ts =>
      obtain ⟨rfl, rfl⟩ | ⟨d, ds', mid, -, hd, hds'⟩ := run_decls h
      · exact List.suffix_rfl
      · exact ((ih _ _ _ hds').trans (consumes_declAfter n t _ _ _ hd)).trans (List.suffix_cons t ts)

end TaggedUnion.Syntax.Parser
