import TaggedUnion.Proofs.Code.Lockstep

/-!
# Runs of a draft

A draft comes about in steps: templates are expanded, texts are written, expressions of the source
are adapted, and packages are requested by their path (`Step`). All steps refer to packages in one
of three ways: by an import by reference, by a qualifier in an expression, or by a request; what all
of these keep is kept by every run (`Kept.run`).

Whatever a run does, its table of imports is the start of the table of any longer run
(`imports_prefix_run`), and a package stays recorded once it is (`Recorded.run`).
-/

namespace TaggedUnion

open Source TaggedUnion.Types Syntax

namespace Draft

/-- What is done to a draft at one time. -/
inductive Step
  /-- A template is expanded; the text is for other use. -/
  | expand (template : String) (args : List Value)
  /-- A template is expanded, and the text is written. -/
  | print (template : String) (args : List Value)
  | write (text : String)
  /-- An expression of the source is adapted to the package names of the code. -/
  | adapt (x : Expr)
  /-- A package is imported by its path, if possible under the given name. -/
  | request (path name : String)

/-- The draft after a package was imported by its path; there is nothing to import it under if
neither the request nor the package has a name. -/
def request (s : Subject) (d : Draft) (path name : String) : Draft :=
  ((d.importPath s path name).map (·.2)).getD d

/-- The draft after a step. -/
def step (workingDir : String) (s : Subject) (d : Draft) : Step → Draft
  | .expand template args => (d.expand workingDir s template args).2
  | .print template args =>
    let (text, d) := d.expand workingDir s template args
    d.write text
  | .write text => d.write text
  | .adapt x => (d.adapt s x).2
  | .request path name => d.request s path name

/-- The draft after several steps. -/
def run (workingDir : String) (s : Subject) (d : Draft) (steps : List Step) : Draft :=
  steps.foldl (step workingDir s) d

/-- The packages that are imported by reference in a step. -/
def Step.homes : Step → List String
  | .expand _ args | .print _ args => args.flatMap Value.homes
  | _ => []

variable {workingDir : String} {s : Subject} {d : Draft}

@[simp] theorem run_nil : d.run workingDir s [] = d := rfl

@[simp] theorem run_cons (σ : Step) (steps : List Step) :
    d.run workingDir s (σ :: steps) = (d.step workingDir s σ).run workingDir s steps := rfl

theorem run_append (steps later : List Step) :
    d.run workingDir s (steps ++ later) = (d.run workingDir s steps).run workingDir s later :=
  List.foldl_append

/-- A template imports what its arguments refer to, one after the other. -/
theorem expand_snd (workingDir : String) (s : Subject) (d : Draft) (template : String)
    (args : List Value) :
    (d.expand workingDir s template args).2 = d.importPackages s (args.flatMap Value.homes) :=
  importValues_eq s d args

/-! ## What runs keep -/

/-- A property of the table of imports and the names of packages that the single imports keep. -/
structure Kept (s : Subject) (P : Draft → Prop) : Prop where
  frame : ∀ d e : Draft, e.imports = d.imports → e.names = d.names → P d → P e
  importPackage : ∀ (d : Draft) path, P d → P (d.importPackage s path)
  importedName : ∀ (d : Draft) path, P d → P (importedName s path d).2

namespace Kept

variable {P : Draft → Prop} (h : Kept s P)

include h

theorem importPackages (paths : List String) (hd : P d) : P (d.importPackages s paths) := by
  induction paths generalizing d with
  | nil => exact hd
  | cons path rest ih => exact ih (h.importPackage d path hd)

/-- Adapting an expression keeps what the single imports keep. -/
theorem adapt (x : Expr) (hd : P d) : P (d.adapt s x).2 := by
  have hy : P (requalify s (d.currentExpr x) d).2 :=
    requalify_keeps (fun path e he => h.importedName e path he) _ hd
  rw [Draft.adapt]
  by_cases hname : isName (d.currentExpr x) = true
  · simp only [hname, if_true]
    exact hy
  · simp only [hname, Bool.false_eq_true, if_false]
    exact h.frame (requalify s (d.currentExpr x) d).2 _ rfl rfl hy

/-- What the single imports and a request keep is kept by a step. -/
theorem step (σ : Step) (hreq : ∀ path name, σ = .request path name → P (d.request s path name))
    (hd : P d) : P (d.step workingDir s σ) := by
  cases σ with
  | expand template args =>
    rw [Draft.step, expand_snd]
    exact h.importPackages _ hd
  | print template args =>
    rw [Draft.step]
    refine h.frame (d.expand workingDir s template args).2 _ rfl rfl ?_
    rw [expand_snd]
    exact h.importPackages _ hd
  | write text => exact h.frame d _ rfl rfl hd
  | adapt x => exact h.adapt x hd
  | request path name => exact hreq path name rfl

/-- What the single imports and the requests of a run keep is kept by the run. -/
theorem run (steps : List Step)
    (hreq : ∀ path name, .request path name ∈ steps → ∀ d, P d → P (d.request s path name))
    (hd : P d) : P (d.run workingDir s steps) := by
  induction steps generalizing d with
  | nil => exact hd
  | cons σ rest ih =>
    refine ih (fun path name hmem => hreq path name (List.mem_cons_of_mem _ hmem)) ?_
    exact h.step σ (fun path name hσ => hreq path name (hσ ▸ List.mem_cons_self) d hd) hd

end Kept

/-! ## The table only grows -/

/-- A request enters what is found into the table, or does nothing. -/
theorem request_eq (s : Subject) (d : Draft) (path name : String) :
    d.request s path name = d ∨ ∃ found i, d.request s path name = d.enter found i := by
  rw [request]
  cases hreq : d.importPath s path name with
  | none => exact .inl rfl
  | some r =>
    obtain ⟨found, e⟩ := r
    obtain ⟨i, hi⟩ := importPath_eq_enter hreq
    exact .inr ⟨found, i, hi⟩

/-- Importing a package for a requalified name enters what is found into the table, or does
nothing. -/
theorem importedName_eq (s : Subject) (d : Draft) (path : String) :
    (importedName s path d).2 = d ∨ ∃ found i, (importedName s path d).2 = d.enter found i := by
  by_cases hc : d.names.current path = ""
  · exact .inl (by rw [importedName_of_empty s hc])
  · obtain ⟨found, -, heq⟩ := importedName_of_ne_empty s hc
    exact .inr ⟨found, _, by rw [heq]⟩

/-- In both cases the table grows and no package gets another name. -/
theorem imports_prefix_of_eq_enter {e : Draft} (h : e = d ∨ ∃ found i, e = d.enter found i) :
    d.imports <+: e.imports ∧ e.names = d.names := by
  rcases h with rfl | ⟨found, i, rfl⟩
  · exact ⟨List.prefix_rfl, rfl⟩
  · exact ⟨imports_prefix_enter _ _ _, names_enter _ _ _⟩

/-- That a table starts with given entries is kept. -/
theorem kept_entries (s : Subject) (entries : List (String × Import)) :
    Kept s fun d => entries <+: d.imports where
  frame _ _ himports _ h := by rwa [himports]
  importPackage d path h := h.trans (imports_prefix_importPackage s d path)
  importedName d path h := h.trans (imports_prefix_of_eq_enter (importedName_eq s d path)).1

/-- What a name stands for in the table never changes: entries are added at the end only. -/
theorem imports_prefix_run (workingDir : String) (s : Subject) (d : Draft) (steps : List Step) :
    d.imports <+: (d.run workingDir s steps).imports :=
  (kept_entries s d.imports).run steps
    (fun path name _ e h => h.trans (imports_prefix_of_eq_enter (request_eq s e path name)).1)
    List.prefix_rfl

theorem kept_recorded (s : Subject) (path : String) : Kept s fun d => Recorded d path where
  frame _ _ himports hnames h := by rwa [Recorded, himports, hnames]
  importPackage _ other h := h.importPackage s other
  importedName d other h := by
    have hgrow := imports_prefix_of_eq_enter (importedName_eq s d other)
    exact h.mono hgrow.1 (by rw [hgrow.2])

theorem Recorded.run {path : String} (h : Recorded d path) (workingDir : String) (s : Subject)
    (steps : List Step) : Recorded (d.run workingDir s steps) path := by
  refine (kept_recorded s path).run steps (fun other name _ e he => ?_) h
  have hgrow := imports_prefix_of_eq_enter (request_eq s e other name)
  exact he.mono hgrow.1 (by rw [hgrow.2])

end Draft

end TaggedUnion
