import TaggedUnion.Proofs.Code.Spelled
import TaggedUnion.Proofs.Types.Spelling
import TaggedUnion.Proofs.Name.Candidate

/-!
# Captured names

A name of a function that stands for something outside may be captured by one that the function declares
(`Scope.Faithful`). The names that stand for something outside are those of its body and those of the
types in its signature: the bounds, as they come out when they are adapted, and the payload type.

The name of the package of errors is never one of the fixed names (`errorsNameIn_fst`), and in the types of
a signature the fixed names capture nothing. What is left are the names that a declaration chooses: no
name is captured iff the type parameters are none of the names that the functions use, and the union
does not have the name of the argument or of a result (`faithful_iff`).
-/

namespace TaggedUnion

open Source TaggedUnion.Types Syntax Code

/-! ## Qualifiers in expressions -/

/-- The name that was put in front of a dot, if the expression is one. -/
def plainName? : Expr → Option String
  | .ident id => if id.meaning.isNone then some id.name else none
  | _ => none

mutual

/-- The package names that were put into an expression: they stand in front of a dot, without a meaning
of their own. -/
def Syntax.Expr.qualifiers : Expr → List String
  | .missing _ => []
  | .ident _ => []
  | .literal _ _ _ => []
  | .selector x _ => (plainName? x).toList ++ x.qualifiers
  | .index x _ args _ => x.qualifiers ++ allQualifiers args
  | .slicing x _ bounds _ => x.qualifiers ++ allQualifiers bounds
  | .assertion x _ type _ => x.qualifiers ++ type.qualifiers
  | .call function _ args _ _ => function.qualifiers ++ allQualifiers args
  | .composite type _ elems _ => type.qualifiers ++ allQualifiers elems
  | .keyed key _ value => key.qualifiers ++ value.qualifiers
  | .closure type _ body _ => type.qualifiers ++ bodyQualifiers body
  | .star _ x => x.qualifiers
  | .paren _ x _ => x.qualifiers
  | .unary _ _ x => x.qualifiers
  | .binary x _ _ y => x.qualifiers ++ y.qualifiers
  | .ellipsis _ elem => elem.qualifiers
  | .slice _ elem => elem.qualifiers
  | .array _ length elem => length.qualifiers ++ elem.qualifiers
  | .map _ key elem => key.qualifiers ++ elem.qualifiers
  | .chan _ _ _ elem => elem.qualifiers
  | .func _ params _ _ results _ _ => groupQualifiers params ++ groupQualifiers results
  | .struct _ _ fields _ => groupQualifiers fields
  | .interface _ _ elems _ => groupQualifiers elems

/-- The package names that were put into a statement. -/
def Syntax.Statement.qualifiers : Syntax.Statement → List String
  | .empty _ => []
  | .expr x => x.qualifiers
  | .send channel _ value => channel.qualifiers ++ value.qualifiers
  | .step x _ _ => x.qualifiers
  | .assign targets _ _ values => allQualifiers targets ++ allQualifiers values
  | .start _ _ call => call.qualifiers
  | .ret _ results => allQualifiers results
  | .jump _ _ _ => []
  | .block _ body _ => bodyQualifiers body
  | .labelled _ _ target => target.qualifiers
  | .cond _ first test body otherwise =>
    first.qualifiers ++ test.qualifiers ++ body.qualifiers ++ otherwise.qualifiers
  | .loop _ first test after body =>
    first.qualifiers ++ test.qualifiers ++ after.qualifiers ++ body.qualifiers
  | .range _ targets _ _ x body => allQualifiers targets ++ x.qualifiers ++ body.qualifiers
  | .choose _ _ first on _ clauses _ => first.qualifiers ++ on.qualifiers ++ bodyQualifiers clauses
  | .clause _ values exchange _ body =>
    allQualifiers values ++ exchange.qualifiers ++ bodyQualifiers body
  | .declare _ _ _ _ specs _ => bodyQualifiers specs
  | .spec _ params type values => groupQualifiers params ++ type.qualifiers ++ allQualifiers values

/-- The package names that were put into expressions. -/
def allQualifiers : List Expr → List String
  | [] => []
  | x :: rest => x.qualifiers ++ allQualifiers rest

/-- The package names that were put into groups. -/
def groupQualifiers : List (GroupHead × Expr) → List String
  | [] => []
  | (_, x) :: rest => x.qualifiers ++ groupQualifiers rest

/-- The package names that were put into statements. -/
def bodyQualifiers : List Syntax.Statement → List String
  | [] => []
  | t :: rest => t.qualifiers ++ bodyQualifiers rest

end

/-! ## Names of types -/

/-- The bounds of type parameters as the code writes them. -/
def adaptedBounds (s : Subject) (d : Draft) : List (GroupHead × Expr) → List (GroupHead × Expr)
  | [] => []
  | (head, bound) :: rest =>
    let (bound, d) := d.adapt s bound
    (head, bound) :: adaptedBounds s (d.importExpr s bound) rest

/-- The type parameters are written with these bounds. -/
theorem paramTexts_fst (s : Subject) (d : Draft) (gs : List (GroupHead × Expr)) :
    (paramTexts s d gs).1 = (adaptedBounds s d gs).map fun (head, bound) =>
      ", ".intercalate (head.names.map (·.name)) ++ " " ++ Layout.exprText s.files bound := by
  induction gs generalizing d with
  | nil => rfl
  | cons g rest ih => rw [adaptedBounds, List.map_cons, ← ih]; rfl

/-- The type parameters of a union with these bounds. -/
def boundsText (s : Subject) (d : Draft) (u : Union) : String :=
  if u.isGeneric then
    "[" ++ ", ".intercalate ((adaptedBounds s d u.params).map fun (head, bound) =>
      ", ".intercalate (head.names.map (·.name)) ++ " " ++ Layout.exprText s.files bound) ++ "]"
  else ""

theorem params_generics (s : Subject) (d : Draft) (u : Union) : (d.generics s u).1.params = boundsText s d u := by
  rw [Draft.generics, boundsText]
  split
  · rw [← paramTexts_fst]
  · rfl

/-- The package names that the bounds of a union use. -/
def boundNames (s : Subject) (d : Draft) (u : Union) : List String :=
  (adaptedBounds s d u.params).flatMap (·.2.qualifiers)

/-- The name that a piece of a type uses: that of its package, or its own if it is written without
one. -/
def Types.Piece.usedName? (q : Qualifier) : Piece → Option String
  | .plain _ => none
  | .declared home name => some (if home == "" || q home == "" then name else q home)

/-- The names that the text of a type uses in code. -/
def Draft.typeNames (s : Subject) (d : Draft) (t : Ty) : List String :=
  t.pieces.filterMap (Piece.usedName? ((d.importType s t).qualifier s))

/-! ## When nothing is captured -/

/-- The package of errors has a name that starts with its own. -/
theorem errorsNameIn_fst (s : Subject) (d : Draft) :
    ∃ n, (errorsNameIn s d).1 = Name.candidate errorsName n := by
  rw [errorsNameIn]
  cases hpath : d.importPath s errorsPath errorsName with
  | none => exact ⟨0, rfl⟩
  | some r =>
    obtain ⟨found, e⟩ := r
    obtain ⟨hfound, -⟩ := (Draft.importPath_eq_some_iff (by decide)).1 hpath
    obtain ⟨-, n, -, rfl, -⟩ := Draft.importName?_eq_some_iff.1 hfound
    exact ⟨n, rfl⟩

/-- No candidate of a longer name is a fixed name. -/
theorem candidate_errorsName_notMem (n : Nat) :
    Name.candidate errorsName n ∉ [inputName, outputName, errorName] := by
  have hlen : errorsName.toList.length ≤ (Name.candidate errorsName n).toList.length := by
    cases n with
    | zero => exact le_refl _
    | succ n =>
      rw [Name.candidate_succ_toList, List.length_append]
      omega
  intro hmem
  have hshort : ∀ name ∈ [inputName, outputName, errorName],
      name.toList.length < errorsName.toList.length := by decide
  exact absurd (hshort _ hmem) (by omega)

section Conversion

variable (u : Union) (c : Conversion) (g : Generics) (errors payload : String) (types : List String)

theorem scope_unwrapFunction :
    (c.unwrapFunction u g errors payload).scope u types =
      { typeParams := u.typeArguments.filter (· != "_")
        locals := [inputName, outputName, errorName]
        signature := u.name :: "error" :: types
        body := ["nil", errors, u.name, "string"] } := by
  rfl

theorem scope_wrapFunction :
    (c.wrapFunction u g payload).scope u types =
      { typeParams := u.typeArguments.filter (· != "_")
        locals := [inputName, outputName]
        signature := u.name :: types
        body := [] } := by
  rfl

variable {u c g errors payload types}

/-- Nothing is captured in unwrap iff the type parameters are none of the names around them, and the
union is not called as the argument or a result. -/
theorem faithful_unwrapFunction_iff (herrors : errors ∉ [inputName, outputName, errorName]) :
    ((c.unwrapFunction u g errors payload).scope u types).Faithful ↔
      (u.typeArguments.filter (· != "_")).Nodup ∧ u.name ∉ [inputName, outputName, errorName] ∧
        ∀ p ∈ u.typeArguments.filter (· != "_"), p ∉ types ∧
          p ∉ [inputName, outputName, errorName, "error", "nil", "string", u.name, errors] := by
  have hfixed : ∀ name ∈ ["nil", "string"], name ∉ [inputName, outputName, errorName] := by decide
  have hlocals : [inputName, outputName, errorName].Nodup := by decide
  have hbody : (∀ name ∈ ["nil", errors, u.name, "string"], name ∉ [inputName, outputName, errorName]) ↔
      u.name ∉ [inputName, outputName, errorName] := by
    constructor
    · exact fun h => h u.name (by simp)
    · intro hname
      simp only [List.forall_mem_cons]
      exact ⟨hfixed _ (by simp), herrors, hname, hfixed _ (by simp), List.forall_mem_nil _⟩
  -- A type parameter is in scope in the signature and in the body; the argument and the results must
  -- have other names besides.
  have hparams : ∀ p, (p ∉ [inputName, outputName, errorName] ∧ p ∉ u.name :: "error" :: types ∧
      p ∉ ["nil", errors, u.name, "string"]) ↔
        p ∉ types ∧
          p ∉ [inputName, outputName, errorName, "error", "nil", "string", u.name, errors] := by
    intro p
    simp only [List.mem_cons, List.not_mem_nil, or_false, not_or]
    tauto
  rw [scope_unwrapFunction, Scope.faithful_iff_disjoint]
  simp only [hlocals, hbody, hparams, true_and]

/-- The body of wrap uses no name but those of its variables, so only the types are left. -/
theorem faithful_wrapFunction_iff :
    ((c.wrapFunction u g payload).scope u types).Faithful ↔
      (u.typeArguments.filter (· != "_")).Nodup ∧
        ∀ p ∈ u.typeArguments.filter (· != "_"), p ∉ types ∧ p ∉ [inputName, outputName, u.name] := by
  have hlocals : [inputName, outputName].Nodup := by decide
  have hparams : ∀ p, (p ∉ [inputName, outputName] ∧ p ∉ u.name :: types ∧ p ∉ ([] : List String)) ↔
      p ∉ types ∧ p ∉ [inputName, outputName, u.name] := by
    intro p
    simp only [List.mem_cons, List.not_mem_nil, or_false, not_or]
    tauto
  rw [scope_wrapFunction, Scope.faithful_iff_disjoint]
  simp only [hlocals, hparams, true_and]
  exact and_congr_right fun _ => ⟨And.right, fun h => ⟨List.forall_mem_nil _, h⟩⟩

end Conversion

/-- Whatever was generated before, the functions of a variant capture no name iff the type parameters of
the union are different, and none of the names that the functions use, and, for unwrap, the union is not
called as the argument or a result. The package of errors never is. -/
theorem faithful_iff (s : Subject) (u : Union) (c : Conversion) (start requested d : Draft) :
    let g := (start.generics s u).1
    let errors := (errorsNameIn s requested).1
    let unwrap := c.unwrapFunction u g errors (d.typeText s c.payload).1
    let wrap := c.wrapFunction u g (d.typeText s c.payload).1
    let types := boundNames s start u ++ d.typeNames s c.payload
    let typeParams := u.typeArguments.filter (· != "_")
    (d.writeConversion s u g errors c).text = d.text ++ (unwrap.write ++ "\n") ++ (wrap.write ++ "\n") ∧
    errors ∉ [inputName, outputName, errorName] ∧
    ((unwrap.scope u types).Faithful ↔
      typeParams.Nodup ∧ u.name ∉ [inputName, outputName, errorName] ∧
        ∀ p ∈ typeParams, p ∉ types ∧
          p ∉ [inputName, outputName, errorName, "error", "nil", "string", u.name, errors]) ∧
    ((wrap.scope u types).Faithful ↔
      typeParams.Nodup ∧ ∀ p ∈ typeParams, p ∉ types ∧ p ∉ [inputName, outputName, u.name]) := by
  intro g errors unwrap wrap types typeParams
  obtain ⟨n, hn⟩ : ∃ n, errors = Name.candidate errorsName n := errorsNameIn_fst s requested
  have herrors : errors ∉ [inputName, outputName, errorName] := hn ▸ candidate_errorsName_notMem n
  exact ⟨Draft.text_writeConversion s u g errors d c, herrors, faithful_unwrapFunction_iff herrors,
    faithful_wrapFunction_iff⟩

end TaggedUnion
