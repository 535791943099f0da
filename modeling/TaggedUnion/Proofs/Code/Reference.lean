import TaggedUnion.Code.Value
import TaggedUnion.Proofs.Code.ImportTable

/-!
# References

Types, identifiers and the arguments of templates refer to packages. Which packages are imported on
their account, and in which order, depends on nothing but what refers to them: whatever refers to
packages, a list of them is imported, one after the other (`importType_eq`, `importExpr_eq`,
`importValue_eq`).

So whatever every single import by reference keeps is kept by all of them.
-/

namespace TaggedUnion

open Source TaggedUnion.Types Syntax

namespace Types.Ty

/-- The packages that are imported on account of a type, in order. An alias stands for itself, and
what interfaces are made of does not count. -/
def homes : Ty → List String
  | basic _ => []
  | pointer elem => elem.homes
  | slice elem => elem.homes
  | array _ elem => elem.homes
  | map key elem => key.homes ++ elem.homes
  | chan _ elem => elem.homes
  | func _ params results _ => paramHomes params ++ paramHomes results
  | struct fields => fieldHomes fields
  | interface _ _ _ => []
  | union _ => []
  | named name _ args => name.home :: allHomes args
  | synonym name _ _ _ => [name.home]
  | param _ _ => []
where
  allHomes : List Ty → List String
    | [] => []
    | t :: rest => t.homes ++ allHomes rest
  paramHomes : List (String × Ty) → List String
    | [] => []
    | (_, t) :: rest => t.homes ++ paramHomes rest
  fieldHomes : List (FieldHead × Ty) → List String
    | [] => []
    | (_, t) :: rest => t.homes ++ fieldHomes rest

end Types.Ty

/-- The packages that are imported on account of an identifier: those of its type, and its own. -/
def Syntax.Ident.homes (id : Ident) : List String :=
  match id.meaning with
  | none => []
  | some (.package _) => []
  | some (.predeclared type) => type.homes
  | some (.topLevel home type) => type.homes ++ [home]
  | some (.inner home type) => type.homes ++ [home]

/-- The packages that are imported on account of an argument of a template. -/
def Value.homes : Value → List String
  | .expr x _ => x.idents.flatMap Ident.homes
  | .object o | .holder o => [o.home]
  | .type t | .classified t => t.homes
  | _ => []

namespace Draft

variable {s : Subject} {d : Draft}

/-- Imports packages by reference, one after the other. -/
def importPackages (s : Subject) (d : Draft) (paths : List String) : Draft :=
  paths.foldl (·.importPackage s) d

@[simp] theorem importPackages_nil (s : Subject) (d : Draft) : d.importPackages s [] = d := rfl

@[simp] theorem importPackages_cons (s : Subject) (d : Draft) (path : String) (paths : List String) :
    d.importPackages s (path :: paths) = (d.importPackage s path).importPackages s paths := rfl

theorem importPackages_append (s : Subject) (d : Draft) (paths others : List String) :
    d.importPackages s (paths ++ others) = (d.importPackages s paths).importPackages s others :=
  List.foldl_append

/-! ## What refers to packages -/

mutual

theorem importType_eq (s : Subject) :
    ∀ (t : Ty) (d : Draft), d.importType s t = d.importPackages s t.homes
  | .basic _, _ => rfl
  | .pointer elem, d => importType_eq s elem d
  | .slice elem, d => importType_eq s elem d
  | .array _ elem, d => importType_eq s elem d
  | .map key elem, d => by
    rw [importType, Ty.homes, importPackages_append, importType_eq s key, importType_eq s elem]
  | .chan _ elem, d => importType_eq s elem d
  | .func _ params results _, d => by
    rw [importType, Ty.homes, importPackages_append, importParams_eq s params,
      importParams_eq s results]
  | .struct fields, d => importFields_eq s fields d
  | .interface _ _ _, _ => rfl
  | .union _, _ => rfl
  | .named name _ args, d => importAll_eq s args (d.importPackage s name.home)
  | .synonym _ _ _ _, _ => rfl
  | .param _ _, _ => rfl

theorem importAll_eq (s : Subject) :
    ∀ (ts : List Ty) (d : Draft), importType.importAll s d ts = d.importPackages s (Ty.homes.allHomes ts)
  | [], _ => rfl
  | t :: rest, d => by
    rw [importType.importAll, Ty.homes.allHomes, importPackages_append, importType_eq s t,
      importAll_eq s rest]

theorem importParams_eq (s : Subject) :
    ∀ (ps : List (String × Ty)) (d : Draft),
      importType.importParams s d ps = d.importPackages s (Ty.homes.paramHomes ps)
  | [], _ => rfl
  | (_, t) :: rest, d => by
    rw [importType.importParams, Ty.homes.paramHomes, importPackages_append, importType_eq s t,
      importParams_eq s rest]

theorem importFields_eq (s : Subject) :
    ∀ (fs : List (FieldHead × Ty)) (d : Draft),
      importType.importFields s d fs = d.importPackages s (Ty.homes.fieldHomes fs)
  | [], _ => rfl
  | (_, t) :: rest, d => by
    rw [importType.importFields, Ty.homes.fieldHomes, importPackages_append, importType_eq s t,
      importFields_eq s rest]

end

theorem importIdent_eq (s : Subject) (d : Draft) (id : Ident) :
    d.importIdent s id = d.importPackages s id.homes := by
  rw [importIdent, Ident.homes]
  cases id.meaning with
  | none => rfl
  | some m => cases m <;> simp [importType_eq, importPackages_append]

theorem importExpr_eq (s : Subject) (d : Draft) (x : Expr) :
    d.importExpr s x = d.importPackages s (x.idents.flatMap Ident.homes) := by
  rw [importExpr, importPackages, List.foldl_flatMap]
  congr 1
  funext d id
  exact importIdent_eq s d id

theorem importValue_eq (s : Subject) (d : Draft) (v : Value) :
    d.importValue s v = d.importPackages s v.homes := by
  cases v <;> first | rfl | exact importType_eq s _ d | exact importExpr_eq s d _

/-- What the arguments of a template refer to is imported one after the other. -/
theorem importValues_eq (s : Subject) (d : Draft) (args : List Value) :
    args.foldl (importValue s) d = d.importPackages s (args.flatMap Value.homes) := by
  rw [importPackages, List.foldl_flatMap]
  congr 1
  funext d v
  exact importValue_eq s d v

/-! ## Importing several packages -/

theorem current_importPackages_of_not_mem {other : String} (s : Subject) (d : Draft)
    {paths : List String} (h : other ∉ paths) :
    (d.importPackages s paths).names.current other = d.names.current other := by
  induction paths generalizing d with
  | nil => rfl
  | cons path rest ih =>
    rw [List.mem_cons, not_or] at h
    rw [importPackages_cons, ih _ h.2, current_importPackage_of_ne s d h.1]

theorem current_importPackages_eq_empty_iff {other : String} {paths : List String} :
    (d.importPackages s paths).names.current other = "" ↔ d.names.current other = "" := by
  induction paths generalizing d with
  | nil => rfl
  | cons path rest ih => rw [importPackages_cons, ih, current_importPackage_eq_empty_iff]

theorem lookup_of_importPackages {name : String} {i : Import} {paths : List String}
    (h : (d.importPackages s paths).imports.lookup name = some i) (hp : i.path ∉ paths) :
    d.imports.lookup name = some i := by
  induction paths generalizing d with
  | nil => exact h
  | cons path rest ih =>
    rw [List.mem_cons, not_or] at hp
    exact lookup_of_importPackage (ih h hp.2) hp.1

theorem Recorded.importPackages {other : String} (h : Recorded d other) (s : Subject)
    (paths : List String) : Recorded (d.importPackages s paths) other := by
  induction paths generalizing d with
  | nil => exact h
  | cons path rest ih => exact ih (h.importPackage s path)

/-- All packages that call for an import are recorded once they were imported by reference. -/
theorem recorded_importPackages {path : String} {paths : List String} (hmem : path ∈ paths)
    (h : Foreign s d path) : Recorded (d.importPackages s paths) path := by
  induction paths generalizing d with
  | nil => exact absurd hmem List.not_mem_nil
  | cons other rest ih =>
    rw [importPackages_cons]
    by_cases heq : path = other
    · subst heq
      exact (recorded_importPackage h).importPackages s rest
    · refine ih ((List.mem_cons.1 hmem).resolve_left heq) ⟨h.ne_empty, h.ne_self, ?_⟩
      rw [current_importPackage_of_ne s d heq]
      exact h.named

end Draft

end TaggedUnion
