import TaggedUnion.Program.Evaluate
import TaggedUnion.Proofs.Source.Comments
import TaggedUnion.Proofs.Syntax.Sequence

/-!
# Where declarations are read

What a parser reads comes from the tokens that it is given. The type of a type declaration starts at a token,
and the fields of a struct stand at tokens; doc comments are the comments that lead to tokens
(`finds_decls`). A file that was read lies within its text (`FileAt`).
-/

namespace TaggedUnion.Syntax

open Source TaggedUnion.Types Program

/-! ## What stands at tokens -/

/-- A name of a type stands at some places, and so does the name that it gives a field. -/
structure EmbeddedAt (P : Pos → Prop) (x : Expr) : Prop where
  start : P x.pos
  embedded : ∃ id, embeddedIdent? x = some id ∧ P id.pos

/-- A group of fields stands at some places: its names do, and its type, and the name that an embedded type
gives its field. -/
structure GroupAt (P : Pos → Prop) (g : GroupHead × Expr) : Prop where
  names : ∀ id ∈ g.1.names, P id.pos
  type : P g.2.pos
  embedded : g.1.names = [] → EmbeddedAt P g.2

/-- A type stands at some places: it starts at one, and if it is a struct its fields stand there too. -/
structure TypeAt (P : Pos → Prop) (x : Expr) : Prop where
  start : P x.pos
  fields : ∀ pos lbrace groups rbrace, x = .struct pos lbrace groups rbrace →
    ∀ g ∈ groups, GroupAt P g

/-- A type that is no struct stands where it starts. -/
theorem TypeAt.of_ne {P : Pos → Prop} {x : Expr} (h : P x.pos)
    (hne : ∀ pos lbrace groups rbrace, x ≠ .struct pos lbrace groups rbrace) : TypeAt P x :=
  ⟨h, fun pos lbrace groups rbrace hx => absurd hx (hne pos lbrace groups rbrace)⟩

/-- The name of a type is no struct. -/
theorem EmbeddedAt.typeAt {P : Pos → Prop} {x : Expr} (h : EmbeddedAt P x) : TypeAt P x := by
  obtain ⟨hstart, id, hid, -⟩ := h
  refine .of_ne hstart ?_
  rintro _ _ _ _ rfl
  cases hid

/-- A type declaration stands at some places, and its doc comment is of some kind. -/
structure TypeSpecAt (P : Pos → Prop) (D : List Comment → Prop) (spec : TypeSpec) : Prop where
  name : P spec.name.pos
  type : TypeAt P spec.type
  doc : ∀ g, spec.doc = some g → D g

/-- The types of a declaration stand at some places, and their doc comments are of some kind. -/
def DeclAt (P : Pos → Prop) (D : List Comment → Prop) : Decl → Prop
  | .types doc specs => (∀ g, doc = some g → D g) ∧ ∀ spec ∈ specs, TypeSpecAt P D spec
  | _ => True

namespace Parser

variable {α β γ : Type}

/-! ## Parsers that find -/

/-- From tokens of some kind a parser reads something of some kind. -/
def Finds (T : LedToken → Prop) (Q : α → Prop) (p : Parser α) : Prop :=
  ∀ ts a rest, (∀ t ∈ ts, T t) → p.run ts = some (a, rest) → Q a

section

variable {T : LedToken → Prop} {P Q : α → Prop} {p : Parser α}

theorem finds_pure {a : α} (h : Q a) : Finds T Q (pure a) := by
  rintro ts _ _ - ⟨⟩
  exact h

theorem finds_failure : Finds T Q failure :=
  nofun

theorem Finds.bind {Q : β → Prop} {f : α → Parser β} (hp : Finds T P p) (hconsumes : Consumes p)
    (hf : ∀ a, P a → Finds T Q (f a)) : Finds T Q (p >>= f) := by
  intro ts b rest hts h
  obtain ⟨a, mid, ha, hb⟩ := run_bind_eq_some.1 h
  have hmid : ∀ t ∈ mid, T t := fun t ht => hts t ((hconsumes ts a mid ha).subset ht)
  exact hf a (hp ts a mid hts ha) mid b rest hmid hb

/-- Something of any kind may be read in front of what counts. -/
theorem Consumes.then {Q : β → Prop} {f : α → Parser β} (hp : Consumes p)
    (hf : ∀ a, Finds T Q (f a)) : Finds T Q (p >>= f) :=
  Finds.bind (P := fun _ => True) (fun _ _ _ _ _ => trivial) hp fun a _ => hf a

theorem Consumes.map {Q : β → Prop} {f : α → β} (hp : Consumes p) (hf : ∀ a, Q (f a)) :
    Finds T Q (f <$> p) := by
  rw [map_eq_pure_bind]
  exact hp.then fun a => finds_pure (hf a)

theorem Finds.mono (hp : Finds T P p) (h : ∀ a, P a → Q a) : Finds T Q p :=
  fun ts a rest hts hrun => h a (hp ts a rest hts hrun)

theorem Finds.orElse {q : Unit → Parser α} (hp : Finds T Q p) (hq : Finds T Q (q ())) :
    Finds T Q (HOrElse.hOrElse p q) := fun ts a rest hts h =>
  (run_orElse h).elim (hp ts a rest hts) (hq ts a rest hts)

end

/-! ## Types -/

/-- Type arguments are put behind the name of a type. -/
theorem finds_typeArgs {P : Pos → Prop} {T : LedToken → Prop} {n : Nat} {x : Expr}
    (hx : EmbeddedAt P x) :
    Finds T (EmbeddedAt P) (typeArgs n x) := by
  cases n with
  | zero => exact finds_failure
  | succ n =>
    rw [typeArgs]
    refine (consumes_expect _).then fun lbrack => (consuming n).typeList.then fun args => ?_
    exact (consumes_expect _).then fun rbrack => finds_pure ⟨hx.start, hx.embedded⟩

theorem finds_arrayType {P : Pos → Prop} {T : LedToken → Prop} {n : Nat} {pos : Pos} (hpos : P pos) :
    Finds T (TypeAt P) (arrayType n pos) := by
  cases n with
  | zero => exact finds_failure
  | succ n =>
    rw [arrayType]
    refine (consumes_accept _).then fun slice => ?_
    split
    · exact (consuming n).typeExpr.then fun _ => finds_pure (.of_ne hpos (by simp))
    · have harray : ∀ length, Finds T (TypeAt P) (do
          let _ ← expect "]"
          return .array pos length (← typeExpr n)) := fun length =>
        (consumes_expect _).then fun _ => (consuming n).typeExpr.then fun _ =>
          finds_pure (.of_ne hpos (by simp))
      refine (consumes_at? _).then fun dots => ?_
      dsimp only
      split
      · exact (consumes_expect _).then fun _ => (consumes_pure _).then harray
      · exact ((consuming n).binary _ _).then harray

section

variable {P : Pos → Prop} {T : LedToken → Prop} (hT : ∀ t, T t → P t.token.pos)

include hT

theorem finds_peek : Finds T (fun t => P t.pos) peek := by
  intro ts t rest hts h
  cases ts with
  | nil => cases h
  | cons u ts => cases h; exact hT u (hts u List.mem_cons_self)

theorem finds_next : Finds T (fun t => P t.pos) next := by
  intro ts t rest hts h
  cases ts with
  | nil => cases h
  | cons u ts => cases h; exact hT u (hts u List.mem_cons_self)

theorem finds_expect (text : String) : Finds T P (expect text) :=
  (finds_next hT).bind consumes_next fun _ ht =>
    (consumes_guard _).then fun _ => finds_pure ht

theorem finds_ident : Finds T (fun id => P id.pos) ident :=
  (finds_next hT).bind consumes_next fun _ ht =>
    (consumes_guard _).then fun _ => finds_pure ht

theorem finds_typeName : Finds T (EmbeddedAt P) typeName := by
  refine (finds_ident hT).bind consumes_ident fun id hid => (consumes_accept ".").then fun qualified => ?_
  split
  · exact (finds_ident hT).bind consumes_ident fun sel hsel => finds_pure ⟨hid, sel, rfl, hsel⟩
  · exact finds_pure ⟨hid, id, rfl, hid⟩

/-- A parameter list starts with its bracket. -/
theorem finds_paramList (n : Nat) : Finds T (fun r => P r.2.1) (paramList n) := by
  cases n with
  | zero => exact finds_failure
  | succ n =>
    rw [paramList]
    refine (finds_expect hT _).bind (consumes_expect _) fun lparen hlparen => ?_
    refine (consuming n).params.then fun entries => (consumes_lift _).then fun groups => ?_
    exact (consumes_expect _).then fun rparen => finds_pure hlparen

theorem finds_signature {n : Nat} {pos : Pos} (hpos : P pos) :
    Finds T (TypeAt P) (signature n pos) := by
  cases n with
  | zero => exact finds_failure
  | succ n =>
    rw [signature]
    refine (finds_paramList hT n).bind (consuming n).paramList fun params hlparen => ?_
    have hfunc : ∀ results lresult rresult,
        TypeAt P (.func pos params.1 params.2.1 params.2.2 results lresult rresult) := by
      intro results lresult rresult
      refine .of_ne ?_ (by simp)
      rw [Expr.pos]
      split
      · exact hlparen
      · exact hpos
    refine consumes_peek.then fun t => ?_
    dsimp only
    split
    · exact (consuming n).paramList.then fun _ => finds_pure (hfunc _ _ _)
    · split
      · exact (consuming n).typeExpr.then fun _ => finds_pure (hfunc _ _ _)
      · exact finds_pure (hfunc _ _ _)

theorem finds_typeExpr {n : Nat} (hn : Finds T (fun gs => ∀ g ∈ gs, GroupAt P g) (structFields n)) :
    Finds T (TypeAt P) (typeExpr (n + 1)) := by
  have hc := consuming n
  rw [typeExpr]
  refine (finds_peek hT).bind consumes_peek fun t ht => ?_
  split
  · refine (finds_typeName hT).bind consumes_typeName fun x hx => (consumes_at? _).then fun _ => ?_
    split
    · exact (finds_typeArgs hx).mono fun _ hy => hy.typeAt
    · exact finds_pure hx.typeAt
  · refine (consumes_guard _).then fun _ => consumes_next.then fun _ => ?_
    split
    · exact finds_arrayType ht
    · exact hc.typeExpr.then fun _ => finds_pure (.of_ne ht (by simp))
    · exact hc.typeExpr.then fun _ => (consumes_expect _).then fun _ => finds_pure (.of_ne ht (by simp))
    · exact (consumes_expect _).then fun _ => hc.typeExpr.then fun _ => (consumes_expect _).then
        fun _ => hc.typeExpr.then fun _ => finds_pure (.of_ne ht (by simp))
    · refine (consumes_at? _).then fun arrow => ?_
      split
      · exact (consumes_expect _).then fun _ => hc.typeExpr.then fun _ => finds_pure (.of_ne ht (by simp))
      · exact hc.typeExpr.then fun _ => finds_pure (.of_ne ht (by simp))
    · exact (consumes_expect _).then fun _ => hc.typeExpr.then fun _ => finds_pure (.of_ne ht (by simp))
    · exact finds_signature hT ht
    · refine (consumes_expect _).then fun lbrace => hn.bind hc.structFields fun groups hgroups => ?_
      refine (consumes_expect _).then fun rbrace => finds_pure ⟨ht, ?_⟩
      rintro _ _ _ _ ⟨⟩
      exact hgroups
    · exact (consumes_expect _).then fun _ => hc.interfaceElems.then fun _ => (consumes_expect _).then
        fun _ => finds_pure (.of_ne ht (by simp))
    · exact finds_failure

/-- Names separated by commas, of which there is one at least. -/
theorem finds_identList (n : Nat) :
    Finds T (fun ids => ids ≠ [] ∧ ∀ id ∈ ids, P id.pos) (identList n) := by
  induction n with
  | zero => exact finds_failure
  | succ n ih =>
    rw [identList]
    refine (finds_ident hT).bind consumes_ident fun id hid => (consumes_accept _).then fun more => ?_
    split
    · exact ih.bind (consuming n).identList fun ids hids =>
        finds_pure ⟨List.cons_ne_nil _ _, List.forall_mem_cons.2 ⟨hid, hids.2⟩⟩
    · exact finds_pure ⟨List.cons_ne_nil _ _, List.forall_mem_cons.2 ⟨hid, List.forall_mem_nil _⟩⟩

/-- The name of a type, perhaps with arguments. -/
theorem finds_instance {n : Nat} {Q : β → Prop} {f : Expr → Parser β}
    (hf : ∀ x, EmbeddedAt P x → Finds T Q (f x)) : Finds T Q (do
      let x ← typeName
      let x ← if ← at? "[" then typeArgs n x else pure x
      f x) := by
  refine (finds_typeName hT).bind consumes_typeName fun x hx => (consumes_at? _).then fun generic => ?_
  split
  · exact (finds_typeArgs hx).bind ((consuming n).typeArgs x) fun y hy => hf y hy
  · exact (finds_pure hx).bind (consumes_pure x) fun y hy => hf y hy

theorem finds_structField {n : Nat} (hn : Finds T (TypeAt P) (typeExpr n)) :
    Finds T (fun r => ∀ tag doc comment, GroupAt P (⟨r.1, tag, doc, comment⟩, r.2))
      (structField (n + 1)) := by
  rw [structField]
  refine (consumes_at? _).then fun pointer => ?_
  split
  · refine (finds_expect hT _).bind (consumes_expect _) fun star hstar => finds_instance hT fun x hx => ?_
    exact finds_pure fun _ _ _ => ⟨List.forall_mem_nil _, hstar, fun _ => ⟨hstar, hx.embedded⟩⟩
  · refine Finds.orElse ?_ (finds_instance hT fun x hx => finds_pure fun _ _ _ =>
      ⟨List.forall_mem_nil _, hx.start, fun _ => hx⟩)
    refine (finds_identList hT n).bind (consuming n).identList fun names hnames => ?_
    refine hn.bind (consuming n).typeExpr fun type htype => consumes_peek.then fun t => ?_
    refine (consumes_guard _).then fun _ => finds_pure fun _ _ _ => ?_
    exact ⟨hnames.2, htype.start, fun hnil => absurd hnil hnames.1⟩

omit hT in
theorem finds_structFields {n : Nat}
    (hfield : Finds T (fun r => ∀ tag doc comment, GroupAt P (⟨r.1, tag, doc, comment⟩, r.2))
      (structField n))
    (hrest : Finds T (fun gs => ∀ g ∈ gs, GroupAt P g) (structFields n)) :
    Finds T (fun gs => ∀ g ∈ gs, GroupAt P g) (structFields (n + 1)) := by
  rw [structFields]
  refine (consumes_at? _).then fun closed => ?_
  split
  · exact finds_pure (List.forall_mem_nil _)
  · refine consumes_lead.then fun doc => hfield.bind (consuming n).structField fun field hg => ?_
    have hmore : ∀ tag, Finds T (fun gs => ∀ g ∈ gs, GroupAt P g) (do
        let comment ← ending
        return (⟨field.1, tag, doc, comment⟩, field.2) :: (← structFields n)) := fun tag =>
      consumes_ending.then fun comment => hrest.bind (consuming n).structFields fun gs hgs =>
        finds_pure (List.forall_mem_cons.2 ⟨hg tag doc comment, hgs⟩)
    refine consumes_peek.then fun t => ?_
    dsimp only
    split
    · exact consumes_next.then fun _ => (consumes_pure _).then hmore
    · exact (consumes_pure _).then hmore

/-- Types and the fields of structs, however deep the parsers go. -/
theorem finds_types (n : Nat) : Finds T (TypeAt P) (typeExpr n) ∧
    Finds T (fun gs => ∀ g ∈ gs, GroupAt P g) (structFields n) ∧
    Finds T (fun r => ∀ tag doc comment, GroupAt P (⟨r.1, tag, doc, comment⟩, r.2)) (structField n) := by
  induction n with
  | zero => exact ⟨finds_failure, finds_failure, finds_failure⟩
  | succ n ih =>
    obtain ⟨htype, hfields, hfield⟩ := ih
    exact ⟨finds_typeExpr hT hfields, finds_structFields hfield hfields, finds_structField hT htype⟩

/-- The type of a declaration, with the equals sign in front of it. -/
theorem finds_rightHandSide (n : Nat) : Finds T (fun r => TypeAt P r.2) (rightHandSide n) := by
  cases n with
  | zero => exact finds_failure
  | succ n =>
    have htype := (finds_types hT n).1
    rw [rightHandSide]
    refine (consumes_at? _).then fun isAlias => ?_
    split
    · exact (consumes_expect _).then fun assign => htype.bind (consuming n).typeExpr fun x hx => finds_pure hx
    · exact htype.bind (consuming n).typeExpr fun x hx => finds_pure hx

theorem finds_genericRest (n : Nat) (name : Ident) (bound : Option Expr) :
    Finds T (fun r => TypeAt P r.2.2) (genericRest n name bound) := by
  cases n with
  | zero => exact finds_failure
  | succ n =>
    have hc := consuming n
    have htail : ∀ bound rest, Finds T (fun r => TypeAt P r.2.2) (do
        let groups ← groupParams.go [] ((some name, bound) :: rest)
        let _ ← expect "]"
        return (groups, ← rightHandSide n)) := fun bound rest =>
      (consumes_lift _).then fun groups => (consumes_expect _).then fun _ =>
        (finds_rightHandSide hT n).bind hc.rightHandSide fun r hr => finds_pure hr
    unfold genericRest
    split <;> refine Consumes.then (by grind) fun bound => (consumes_accept _).then fun comma => ?_
    all_goals
      dsimp only
      split
      · exact hc.typeParamEntries.then (htail bound)
      · exact (consumes_pure _).then (htail bound)

omit hT in
/-- An array type, after its length. -/
theorem finds_arrayRest (n : Nat) {lbrack : Pos} (hlbrack : P lbrack) (x : Expr) :
    Finds T (fun r => TypeAt P r.2.2) (do
      let _ ← expect "]"
      return (([] : List (GroupHead × Expr)), (0 : Pos), Expr.array lbrack x (← typeExpr n))) :=
  (consumes_expect _).then fun _ => (consuming n).typeExpr.then fun _ =>
    finds_pure (.of_ne hlbrack (by simp))

/-- What comes after a bracket and an expression ends in an array or in a generic type. -/
theorem finds_afterBracket (n : Nat) {lbrack : Pos} (hlbrack : P lbrack) (x : Expr) :
    Finds T (fun r => TypeAt P r.2.2) (do
      let closed ← at? "]"
      match splitParam? (← at? ",") x with
      | some (name, bound) =>
        if bound.isSome || !closed then genericRest n name bound
        else do
          let _ ← expect "]"
          return (([] : List (GroupHead × Expr)), (0 : Pos), Expr.array lbrack x (← typeExpr n))
      | none => do
        let _ ← expect "]"
        return (([] : List (GroupHead × Expr)), (0 : Pos), Expr.array lbrack x (← typeExpr n))) := by
  refine (consumes_at? _).then fun closed => (consumes_at? _).then fun comma => ?_
  split
  · split
    · exact finds_genericRest hT n _ _
    · exact finds_arrayRest n hlbrack x
  · exact finds_arrayRest n hlbrack x

/-- The rest of a type declaration. -/
theorem finds_typeRest (n : Nat) : Finds T (fun r => TypeAt P r.2.2) (typeRest n) := by
  cases n with
  | zero => exact finds_failure
  | succ n =>
    have hc := consuming n
    rw [typeRest]
    refine (consumes_at? _).then fun bracket => ?_
    split
    · exact (finds_rightHandSide hT n).bind hc.rightHandSide fun r hr => finds_pure hr
    · refine (finds_expect hT _).bind (consumes_expect _) fun lbrack hlbrack => consumes_peek.then fun t => ?_
      split
      · exact (finds_arrayType hlbrack).bind (hc.arrayType lbrack) fun x hx => finds_pure hx
      · refine consumes_ident.then fun id => (consumes_at? _).then fun again => ?_
        dsimp only
        split
        · exact (consumes_pure _).then (finds_afterBracket hT n hlbrack)
        · exact (hc.primary _ _).then fun x => (hc.operators _ _ _).then (finds_afterBracket hT n hlbrack)

end

/-! ## Declarations -/

section

variable {P : Pos → Prop} {D : List Comment → Prop} {T : LedToken → Prop}
  (hT : ∀ t, T t → P t.token.pos) (hD : ∀ t, T t → ∀ g, t.lead = some g → D g)

include hT in
theorem finds_typeSpec (n : Nat) {doc : Option (List Comment)} (hdoc : ∀ g, doc = some g → D g) :
    Finds T (TypeSpecAt P D) (typeSpec n doc) := by
  refine (finds_ident hT).bind consumes_ident fun name hname => ?_
  refine (finds_typeRest hT n).bind (consuming n).typeRest fun (params, assign, type) htype => ?_
  exact consumes_semicolon.then fun _ => finds_pure ⟨hname, htype, hdoc⟩

include hD

theorem finds_many {Q : α → Prop} {spec : Option (List Comment) → Nat → Parser α}
    (hspec : ∀ doc i, (∀ g, doc = some g → D g) → Finds T Q (spec doc i))
    (hconsumes : ∀ doc i, Consumes (spec doc i)) (fuel i : Nat) :
    Finds T (fun found => ∀ a ∈ found, Q a) (specs.many spec fuel i) := by
  induction fuel generalizing i with
  | zero => exact finds_failure
  | succ fuel ih =>
    intro ts found rest hts h
    cases ts with
    | nil => cases h
    | cons t ts =>
      have hhead : Finds T (fun found => ∀ a ∈ found, Q a) (if t.token.is ")" then pure [] else do
          let x ← spec t.lead i
          return x :: (← specs.many spec fuel (i + 1))) := by
        split
        · exact finds_pure (List.forall_mem_nil _)
        · refine (hspec t.lead i (hD t (hts t List.mem_cons_self))).bind (hconsumes _ _) fun x hx => ?_
          exact (ih _).bind (consumes_many hconsumes fuel _) fun xs hxs =>
            finds_pure (List.forall_mem_cons.2 ⟨hx, hxs⟩)
      exact hhead _ _ _ hts h

theorem finds_specs {Q : α → Prop} (n : Nat) {spec : Option (List Comment) → Nat → Parser α}
    (hspec : ∀ doc i, (∀ g, doc = some g → D g) → Finds T Q (spec doc i))
    (hconsumes : ∀ doc i, Consumes (spec doc i)) :
    Finds T (fun found => ∀ a ∈ found, Q a) (specs n spec) := by
  unfold specs
  refine (consumes_accept _).then fun group => ?_
  split
  · refine (finds_many hD hspec hconsumes n 0).bind (consumes_many hconsumes n 0) fun found hfound => ?_
    exact (consumes_expect _).then fun _ => consumes_semicolon.then fun _ => finds_pure hfound
  · exact (hspec none 0 nofun).bind (hconsumes none 0) fun x hx =>
      finds_pure (List.forall_mem_singleton.2 hx)

include hT

theorem finds_declAfter (n : Nat) {t : LedToken} (ht : ∀ g, t.lead = some g → D g) :
    Finds T (DeclAt P D) (declAfter n t) := by
  unfold declAfter
  split
  · rw [map_eq_pure_bind]
    refine (finds_specs hD n (fun doc _ hdoc => finds_typeSpec hT n hdoc)
      fun doc _ => consumes_typeSpec n doc).bind ?_ fun found hfound => finds_pure ⟨ht, hfound⟩
    exact consumes_specs n fun doc _ => consumes_typeSpec n doc
  · exact (consumes_specs n fun _ i => consumes_valueSpec n i).map fun _ => trivial
  · exact (consumes_specs n fun _ i => consumes_valueSpec n i).map fun _ => trivial
  · exact (consumes_funcSpec n _).map fun _ => trivial
  · exact finds_failure

/-- The type declarations of a file stand at its tokens, and their doc comments lead to tokens. -/
theorem finds_decls (n : Nat) : Finds T (fun ds => ∀ d ∈ ds, DeclAt P D d) (decls n) := by
  induction n with
  | zero => exact finds_failure
  | succ n ih =>
    intro ts ds rest hts h
    cases ts with
    | nil => cases h
    | cons t ts =>
      have hrest : ∀ u ∈ ts, T u := fun u hu => hts u (List.mem_cons_of_mem _ hu)
      obtain ⟨rfl, rfl⟩ | ⟨d, ds', mid, rfl, hd, hds'⟩ := run_decls h
      · exact List.forall_mem_nil _
      · have hmid : ∀ u ∈ mid, T u := fun u hu =>
          hrest u ((consumes_declAfter n t _ _ _ hd).subset hu)
        refine List.forall_mem_cons.2 ⟨?_, ih _ _ _ hmid hds'⟩
        refine finds_declAfter hT hD n (hD t (hts t List.mem_cons_self)) _ _ _ hrest hd

end

end Parser

/-! ## Files -/

/-- Whether a file has a place. -/
abbrev Inside (info : FileInfo) (pos : Pos) : Prop :=
  info.contains pos = true

/-- A file that was read lies within its text: its declarations do, its comments, one after the other, and the
names that it declares, one after the other. Its doc comments are among its
comments. -/
structure FileAt (info : FileInfo) (f : File) : Prop where
  name : f.name = info.name
  clause : Inside info f.clause
  decls : ∀ d ∈ f.decls, DeclAt (Inside info) (· ∈ f.comments) d
  comments : ∀ c ∈ f.comments.flatten, Inside info c.pos
  commentsOrdered : f.comments.flatten.Pairwise (·.pos < ·.pos)
  names : ∀ id ∈ f.decls.flatMap Decl.names, Inside info id.pos
  namesOrdered : (f.decls.flatMap Decl.names).Pairwise (·.pos < ·.pos)

namespace Parser

theorem finds_file {P : Pos → Prop} {T : LedToken → Prop} {comments : List (List Comment)}
    (hT : ∀ t, T t → P t.token.pos) (hD : ∀ t, T t → ∀ g, t.lead = some g → g ∈ comments)
    (n : Nat) (name : String) :
    Finds T (fun f => f.name = name ∧ P f.clause ∧ f.comments = comments ∧
      ∀ d ∈ f.decls, DeclAt P (· ∈ comments) d) (file n name comments) := by
  refine (finds_expect hT _).bind (consumes_expect _) fun clause hclause => ?_
  refine consumes_ident.then fun package => (consumes_guard _).then fun _ => ?_
  refine consumes_semicolon.then fun _ => (consumes_imports n).then fun imports => ?_
  exact (finds_decls hT hD n).bind (consumes_decls n) fun ds hds => finds_pure ⟨rfl, hclause, rfl, hds⟩

theorem readsPlaces_file (n : Nat) (name : String) (comments : List (List Comment)) :
    ReadsPlaces [] (fun f => f.decls.flatMap fun d => d.names.map (·.pos)) (file n name comments) := by
  refine (consumes_expect _).thenPlaces fun clause => consumes_ident.thenPlaces fun package => ?_
  refine (consumes_guard _).thenPlaces fun _ => consumes_semicolon.thenPlaces fun _ => ?_
  exact (consumes_imports n).thenPlaces fun imports => (readsPlaces_decls n).bind fun ds =>
    readsPlaces_pure (.refl _)

end Parser

/-- The tokens of a file that are written out stand one after the other. -/
theorem pairwise_writtenPlaces {start stop : Pos} {tokens : List Token} (h : TokensWithin start stop tokens)
    {led : List LedToken} (hled : led.map (·.token) = codeOf tokens) :
    (writtenPlaces led).Pairwise (· < ·) := by
  have hplaces : writtenPlaces led = ((codeOf tokens).filter (·.isWritten)).map (·.pos) := by
    rw [← hled, List.filter_map, List.map_map]
    rfl
  rw [hplaces, List.pairwise_map, codeOf, List.filter_filter]
  exact h.ordered.sublist (List.monotone_filter_right tokens fun t ht => (Bool.and_eq_true_iff.1 ht).1)

/-- Reading a file adds it after the others. -/
theorem parseFile?_eq_some {files files' : FileSet} {name text : String} {f : File}
    (h : parseFile? files name text = some (files', f)) :
    ∃ info, files' = files.add info ∧ info.base = files.nextBase ∧ info.WellFormed ∧ FileAt info f := by
  rw [parseFile?] at h
  obtain ⟨⟨info, tokens⟩, hscan, h⟩ := Option.bind_eq_some_iff.1 h
  obtain ⟨hinfo, hbase, hwell, hwithin⟩ := scan?_eq_some hscan
  have hcomments := groupComments_eq info tokens
  dsimp only at h
  generalize groupComments info tokens = grouped at h hcomments
  obtain ⟨led, comments⟩ := grouped
  obtain ⟨hled, hflatten, hleads⟩ := hcomments
  obtain ⟨⟨file, rest⟩, hfile, h⟩ := Option.bind_eq_some_iff.1 h
  cases h
  have hinside : ∀ t ∈ tokens, Inside info t.pos := by
    intro t ht
    simpa [Inside, FileInfo.contains] using hwithin.within t ht
  have hplaces : ∀ t ∈ led, Inside info t.token.pos := by
    intro t ht
    refine hinside _ (List.mem_of_mem_filter (p := (·.kind != .comment)) ?_)
    rw [← codeOf, ← hled]
    exact List.mem_map_of_mem ht
  obtain ⟨hname, hclause, hsame, hdecls⟩ := Parser.finds_file
    (T := fun t => Inside info t.token.pos ∧ ∀ g, t.lead = some g → g ∈ comments)
    (fun t ht => ht.1) (fun t ht => ht.2) _ _ _ _ _ (fun t ht => ⟨hplaces t ht, hleads t ht⟩) hfile
  obtain ⟨us, rfl, hsub⟩ : ∃ us, led = us ++ rest ∧ _ := Parser.readsPlaces_file _ _ _ _ _ _ hfile
  have hnames : ((file.decls.flatMap Decl.names).map (·.pos)).Sublist (writtenPlaces (us ++ rest)) := by
    rw [List.map_flatMap, writtenPlaces_append]
    exact hsub.trans (List.sublist_append_left _ _)
  have hwritten : ∀ pos ∈ writtenPlaces (us ++ rest), Inside info pos :=
    List.forall_mem_map.2 fun t ht => hplaces t (List.mem_of_mem_filter ht)
  have hordered := pairwise_writtenPlaces hwithin hled
  refine ⟨info, rfl, hbase, hwell, hname.trans hinfo.symm, hclause, ?_, ?_, ?_, ?_, ?_⟩
  · exact fun d hd => hsame ▸ hdecls d hd
  · intro c hc
    rw [hsame, hflatten] at hc
    obtain ⟨t, ht, rfl⟩ := List.mem_map.1 hc
    exact hinside t (List.mem_of_mem_filter ht)
  · rw [hsame, hflatten]
    exact hwithin.pairwise_comments
  · exact fun id hid => hwritten _ (hnames.subset (List.mem_map_of_mem hid))
  · exact List.pairwise_map.1 (hordered.sublist hnames)

end TaggedUnion.Syntax
