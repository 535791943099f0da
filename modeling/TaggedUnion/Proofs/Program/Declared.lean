import TaggedUnion.Proofs.Program.Asking
import TaggedUnion.Proofs.Program.Reading

/-!
# What declared types stand for

A type that is declared as a struct stands for a struct with the fields that are written, each with its name and tag
and at the place where it is written.
-/

namespace TaggedUnion.Program

open Source TaggedUnion.Types Syntax

/-! ## Structs -/

/-- The places of the names that groups of fields declare. -/
def fieldPlaces (groups : List (GroupHead × Expr)) : List Pos :=
  groups.flatMap fun g =>
    match g.1.names with
    | [] => (embeddedIdent? g.2).toList.map (·.pos)
    | names => names.map (·.pos)

/-- The fields that a group declares in a package, each with the type of the group as it is written. -/
def declaredGroup (home : String) (g : GroupHead × Expr) : List (FieldHead × Expr) :=
  match g.1.names with
  | [] => (embeddedIdent? g.2).toList.map fun id => (⟨id.name, home, true, tagBytes g.1.tag, id.pos⟩, g.2)
  | names => names.map fun id => (⟨id.name, home, false, tagBytes g.1.tag, id.pos⟩, g.2)

/-- The fields that groups declare in a package, each with the type of its group as it is written. -/
def declaredFields (home : String) (groups : List (GroupHead × Expr)) : List (FieldHead × Expr) :=
  groups.flatMap (declaredGroup home)

/-- The fields that groups declare are at the places of their names. -/
theorem places_declaredFields (home : String) (groups : List (GroupHead × Expr)) :
    (declaredFields home groups).map (·.1.pos) = fieldPlaces groups := by
  rw [declaredFields, fieldPlaces, List.map_flatMap]
  congr 1
  funext g
  rw [declaredGroup]
  split <;> simp

/-- If an expression is written out as a struct, a type is the struct with its fields. -/
def Spells (x : Expr) (t : Ty) : Prop :=
  ∀ pos lbrace groups rbrace, x = .struct pos lbrace groups rbrace →
    ∃ home fields, t = .struct fields ∧ fields.map (·.1) = (declaredFields home groups).map (·.1)

section

variable {A : Key → Answer → Prop} (s : Site) {ask : Ask} (hask : AskKeeps A ask)

theorem ensures_groupFields (home : String) (head : GroupHead) (x : Expr) (t : Ty) :
    Ensures (Store.Answers A) (fun fields => fields.map (·.1) = (declaredFields home [(head, x)]).map (·.1))
      (groupFields home head x t) := by
  rw [groupFields]
  cases hnames : head.names with
  | nil =>
    cases hid : embeddedIdent? x with
    | none => exact .throw_bind
    | some id => exact .pure (by simp [declaredFields, declaredGroup, hnames, hid])
  | cons first rest => exact .pure (by simp [declaredFields, declaredGroup, hnames])

include hask

theorem ensures_fieldsOf (groups : List (GroupHead × Expr)) :
    Ensures (Store.Answers A) (fun fields => fields.map (·.1) = (declaredFields s.env.self groups).map (·.1))
      (operand.fieldsOf s ask groups) := by
  induction groups with
  | nil => exact .pure rfl
  | cons g groups ih =>
    obtain ⟨head, x⟩ := g
    refine (keeps_operand s hask x none).bind fun y _ => (keeps_asType y).bind fun t _ => ?_
    refine (ensures_groupFields _ _ _ _).bind fun fields hfields => ih.bind fun more hmore => .pure ?_
    rw [List.map_append, hfields, hmore, ← List.map_append, declaredFields, declaredFields, ← List.flatMap_append]
    rfl

/-- The type that a struct type denotes has the fields that are written. -/
theorem ensures_typeOf (x : Expr) : Ensures (Store.Answers A) (Spells x) (typeOf s ask x) := by
  by_cases hstruct : ∃ pos lbrace groups rbrace, x = .struct pos lbrace groups rbrace
  · obtain ⟨pos, lbrace, groups, rbrace, rfl⟩ := hstruct
    have hoperand : Ensures (Store.Answers A)
        (fun x => ∃ fields, x = .ofType (.struct fields) ∧
          fields.map (·.1) = (declaredFields s.env.self groups).map (·.1))
        (operand s ask (.struct pos lbrace groups rbrace) none) := by
      rw [operand]
      refine (ensures_fieldsOf s hask groups).bind fun fields hfields => ?_
      split
      · exact .throw_bind
      · exact .pure ⟨fields, rfl, hfields⟩
    refine hoperand.bind ?_
    rintro _ ⟨fields, rfl, hfields⟩
    refine .pure ?_
    rintro _ _ _ _ ⟨⟩
    exact ⟨s.env.self, fields, rfl, hfields⟩
  · refine (keeps_typeOf s hask x).imp fun t _ => ?_
    intro pos lbrace groups rbrace hx
    exact absurd ⟨pos, lbrace, groups, rbrace, hx⟩ hstruct

end

/-! ## Answers -/

/-- An answer about a declaration of a type is the type that is written. -/
def OwnDecl.Spelled (d : OwnDecl) (a : Answer) : Prop :=
  ∀ spec, d.body = .type spec → ∃ params rhs, a = .type params rhs ∧ Spells spec.type rhs

/-- The answers about types that are written out as structs are the structs that are written. -/
def Env.Spelled (env : Env) : Key → Answer → Prop
  | .name name, a => ∀ d, env.find? name = some d → d.Spelled a
  | .method _ _, _ => True

variable {env : Env}

/-- A declaration of a type says what the type is that is written. -/
theorem ensures_ownAnswer {A : Key → Answer → Prop} {ask : Ask} (hask : AskKeeps A ask) (d : OwnDecl) :
    Ensures (Store.Answers A) d.Spelled (d.answer env ask) := by
  cases hbody : d.body with
  | type spec =>
    rw [OwnDecl.answer, hbody]
    dsimp only
    refine (keeps_bounds _ hask _).bind fun _ _ => (ensures_typeOf _ hask _).bind fun rhs hrhs => ?_
    split
    · exact .throw_bind
    · refine .pure fun spec' hspec' => ?_
      cases hbody.symm.trans hspec'
      exact ⟨_, rhs, rfl, hrhs⟩
  | _ => exact (keeps_ownAnswer env hask d).imp fun _ _ spec hspec => nomatch hbody.symm.trans hspec

theorem ensures_answer (ask : Ask) (hask : AskKeeps env.Spelled ask) (k : Key) :
    Ensures (Store.Answers env.Spelled) (env.Spelled k) (env.answer ask k) := by
  cases k with
  | name name =>
    have hfind : Ensures (Store.Answers env.Spelled) (fun d => env.find? name = some d)
        (orWrong (env.find? name)) := by
      cases env.find? name with
      | none => exact .throw
      | some d => exact .pure rfl
    refine hfind.bind fun d hd => (ensures_ownAnswer hask d).imp fun a ha d' hd' => ?_
    cases hd.symm.trans hd'
    exact ha
  | method base name => exact (keeps_answer env hask _).imp fun _ _ => trivial

/-- What is said of a declared type is the type that is written. -/
theorem ensures_recall {d : OwnDecl} (hd : d.isNamed = true → env.find? d.name.name = some d) :
    Ensures (Store.Answers env.Spelled) d.Spelled (d.recall env) := by
  have hask := ensures_ask (@ensures_answer env)
  rw [OwnDecl.recall]
  split
  next hnamed =>
    exact (hask _).imp fun a ha => ha d (hd hnamed)
  next => exact ensures_ownAnswer (fun k => (hask k).keeps) d

/-! ## Declarations -/

/-- An object is that of a declaration: it has its name and is at its place, and if the declaration is that of a
defined type it has that type. -/
structure ObjectOf (env : Env) (d : OwnDecl) (o : Object) : Prop where
  pos : o.pos = d.name.pos
  name : o.name = d.name.name
  home : o.home = env.self
  type : ∀ spec, d.body = .type spec → spec.isAlias = false →
    ∃ generics, o.type = .named ⟨env.self, spec.name.name, spec.name.pos⟩ generics []

/-- A table entry stands for a type that is written: if it is a struct, the fields are those that are
written. -/
structure EntrySpells (x : Expr) (entry : TypeDecl) : Prop where
  rhs : Spells x entry.rhs
  expanded : ∀ pos lbrace groups rbrace, x = .struct pos lbrace groups rbrace → entry.expanded = none

/-- A table entry is that of a declaration of a defined type. -/
def EntryOf (env : Env) (d : OwnDecl) (entry : TypeDecl) : Prop :=
  ∃ spec, d.body = .type spec ∧ entry.name = ⟨env.self, spec.name.name, spec.name.pos⟩ ∧
    EntrySpells spec.type entry

section

variable {d : OwnDecl}

theorem askKeeps_ask : AskKeeps env.Spelled env.ask :=
  fun k => (ensures_ask ensures_answer k).keeps

theorem keeps_recall (d : OwnDecl) : Keeps env.Spelled (d.recall env) := by
  unfold OwnDecl.recall
  split
  · exact askKeeps_ask _
  · exact keeps_ownAnswer env askKeeps_ask d

theorem ensures_object (d : OwnDecl) :
    Ensures (Store.Answers env.Spelled) (ObjectOf env d) (object env d) := by
  rw [object]
  refine (keeps_attempt (keeps_recall d)).bind fun a _ => ?_
  dsimp only
  split
  next spec params rhs hbody =>
    refine (keeps_genericsOf _ askKeeps_ask _).bind fun generics _ => .pure ⟨rfl, rfl, rfl, ?_⟩
    rintro _ hspec halias
    cases hbody.symm.trans hspec
    exact ⟨generics, by simp [halias, ownTypeName, Env.site]⟩
  -- nothing is said of the types of other declarations
  all_goals first
    | exact .throw
    | refine .pure ⟨rfl, rfl, rfl, fun spec hspec => ?_⟩
      simp_all

theorem keeps_methodsOf (base : String) : Keeps env.Spelled (methodsOf env base) :=
  keeps_mapM (fun m => keeps_ownMethodAnswer env askKeeps_ask m) _

/-- A struct that is written out is not expanded. -/
theorem ensures_expansion? (s : Site) (rhs : Ty) :
    Ensures (Store.Answers env.Spelled) (fun expanded => ∀ fields, rhs = .struct fields → expanded = none)
      (expansion? s env.ask rhs) := by
  rw [expansion?]
  split
  next hrhs =>
    refine (keeps_underlying s askKeeps_ask rhs).bind fun u _ => .pure ?_
    rintro fields rfl
    cases hrhs
  next => exact .pure fun _ _ => rfl

theorem ensures_typeDecl? (hd : d.isNamed = true → env.find? d.name.name = some d) :
    Ensures (Store.Answers env.Spelled) (fun found => (∀ entry, found = some entry → EntryOf env d entry) ∧
      ∀ spec, d.body = .type spec → spec.isAlias = false → found.isSome) (typeDecl? env d) := by
  rw [typeDecl?]
  refine (ensures_recall hd).bind fun a ha => ?_
  split
  next spec params rhs hbody =>
    obtain ⟨_, _, ⟨⟩, hrhs⟩ := ha spec hbody
    split
    next halias =>
      refine .pure ⟨nofun, fun spec' hspec' hfalse => ?_⟩
      cases hbody.symm.trans hspec'
      rw [hfalse] at halias
      cases halias
    next =>
      refine (keeps_methodsOf _).bind fun methods _ => (ensures_expansion? _ rhs).bind fun expanded hexp => ?_
      refine .pure ⟨?_, fun _ _ _ => rfl⟩
      rintro _ ⟨⟩
      refine ⟨spec, hbody, rfl, hrhs, fun pos lbrace groups rbrace hstruct => ?_⟩
      obtain ⟨_, fields, hfields, -⟩ := hrhs pos lbrace groups rbrace hstruct
      exact hexp fields hfields
  next hnone =>
    refine .pure ⟨nofun, fun spec hbody _ => ?_⟩
    obtain ⟨params, rhs, rfl, -⟩ := ha spec hbody
    exact (hnone spec params rhs hbody rfl).elim

theorem keeps_claim? (d : OwnDecl) : Keeps env.Spelled (claim? env d) := by
  unfold claim?
  split
  · exact keeps_claimOf _ askKeeps_ask _ _ _
  · exact keeps_pure _

theorem keeps_regardless {m : Check Unit} (h : Keeps env.Spelled m) : Keeps env.Spelled (regardless m) :=
  keeps_bind (Ensures.apart h).keeps fun _ => keeps_pure _

theorem keeps_surveyDecls (all : List OwnDecl) : Keeps env.Spelled (surveyDecls env all) := by
  have hdecl : ∀ ds : List OwnDecl, ∀ e ∈ ds.map (fun d => Errand.mk d.name.pos (do let _ ← d.recall env)),
      Keeps env.Spelled e.run :=
    fun ds => List.forall_mem_map.2 fun d _ => keeps_bind (keeps_recall d) fun _ => keeps_pure _
  have hmethod : ∀ e ∈ env.methods.map (fun m =>
      Errand.mk m.spec.name.pos (do let _ ← env.ask (.method m.base m.spec.name.name))),
      Keeps env.Spelled e.run :=
    List.forall_mem_map.2 fun m _ => keeps_bind (askKeeps_ask _) fun _ => keeps_pure _
  unfold surveyDecls
  refine keeps_forM fun e he => keeps_regardless ?_
  obtain he | he := List.mem_append.1 he
  · obtain he | he := List.mem_append.1 he <;> exact hdecl _ e he
  · obtain he | he := List.mem_append.1 (List.mem_mergeSort.1 he)
    · exact hdecl _ e he
    · exact hmethod e he

theorem keeps_expandInstances : Keeps env.Spelled (expandInstances env) := by
  unfold expandInstances
  refine keeps_get fun σ _ => keeps_bind (keeps_forIn (fun (_, t) _ => ?_) _ _) fun _ => keeps_pure _
  dsimp only
  split
  · refine keeps_bind (keeps_regardless ?_) fun _ => keeps_pure _
    exact keeps_bind (keeps_unfoldOnce _ askKeeps_ask _ _) fun _ => keeps_pure _
  · exact keeps_pure _

/-- Resolving declarations gives each its object, and defined types their table entries. -/
theorem resolveDecls_eq_ok {files : List File} {all : List OwnDecl} {r : Resolved}
    (hall : ∀ d ∈ all, d.isNamed = true → env.find? d.name.name = some d)
    (h : ((resolveDecls env files all).run.run {}).1 = .ok r) :
    List.Forall₂ (ObjectOf env) all r.objects ∧ (∀ entry ∈ r.fresh, ∃ d ∈ all, EntryOf env d entry) ∧
      ∀ d ∈ all, ∀ spec, d.body = .type spec → spec.isAlias = false → ∃ entry ∈ r.fresh, EntryOf env d entry := by
  have hreturns : Returns (Store.Answers env.Spelled) (fun r : Resolved =>
      List.Forall₂ (ObjectOf env) all r.objects ∧ (∀ entry ∈ r.fresh, ∃ d ∈ all, EntryOf env d entry) ∧
        ∀ d ∈ all, ∀ spec, d.body = .type spec → spec.isAlias = false → ∃ entry ∈ r.fresh, EntryOf env d entry)
      (resolveDecls env files all) := by
    refine (keeps_surveyDecls all).bindReturns fun _ _ => keeps_expandInstances.bindReturns fun _ _ => ?_
    refine (Ensures.mapM fun d _ => ensures_object d).bindReturns fun objects hobjects => ?_
    refine (Ensures.filterMapM (S := fun _ _ => True) fun d _ => ?_).bindReturns fun claims _ => ?_
    · exact (keeps_claim? d).imp fun _ _ _ _ => trivial
    · refine (Ensures.filterMapM_related fun d hd => ensures_typeDecl? (hall d hd)).bindReturns ?_
      rintro _ ⟨entries, hentries, rfl⟩
      refine Ensures.returns (.skip fun files => .pure ⟨hobjects, fun entry hentry => ?_, fun d hd spec hbody halias => ?_⟩)
      · obtain ⟨found, hfound, rfl⟩ := List.mem_filterMap.1 hentry
        obtain ⟨d, hd, hof, -⟩ := exists_related hentries _ hfound
        exact ⟨d, hd, hof entry rfl⟩
      · obtain ⟨found, hfound, hof, hsome⟩ := exists_related hentries.flip d hd
        obtain ⟨entry, rfl⟩ := Option.isSome_iff_exists.1 (hsome spec hbody halias)
        exact ⟨entry, List.mem_filterMap.2 ⟨_, hfound, rfl⟩, hof entry rfl⟩
  exact hreturns {} nofun r h

end

end TaggedUnion.Program
