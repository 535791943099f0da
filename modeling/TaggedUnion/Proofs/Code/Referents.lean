import TaggedUnion.Proofs.Code.Generics
import TaggedUnion.Proofs.Code.Names
import TaggedUnion.Proofs.Code.Rewritten
import TaggedUnion.Proofs.Program.Characters
import TaggedUnion.Proofs.Program.Meanings

/-!
# What adapted names refer to

A name in a type expression of a package refers to something by way of its file (`Occurrence.source?`), and a name of
the adapted expression by way of the table of imports, the declarations of the package and the predeclared names
(`Occurrence.result?`). Both should be the same. They are, but for two sorts of names, which stay as they are where a
qualifier is missing: names of embedded types that come from a dot import, and predeclared names that the table has
for a package (`Occurrence.isMisread`, `referents_adapt_iff`).

An expression that was adapted before is remembered as it came out. Since the table only grows, it still refers to the
same (`Draft.Carries`).
-/

namespace TaggedUnion

open Source TaggedUnion.Types Syntax Program

/-! ## Names in a file -/

/-- What the dot imports of a file bring into scope under a name. -/
def dotted? (program : Program) (f : File) (name : String) : Option Object :=
  (f.imports.filter fun i => i.name.any (·.name == ".")).findSome? fun i =>
    if Text.isExported name then (program.package? i.path).bind (·.find? name) else none

/-- What a name refers to at the top level of a file, if it is not that of a package. -/
def fileTarget? (program : Program) (s : Subject) (f : File) (name : String) : Option Target :=
  if s.declares name then some (.object s.path name)
  else match dotted? program f name with
    | some o => some (.object o.home name)
    | none => if predeclaredNames.contains name then some (.predeclared name) else none

/-- Whether a type, or what it points to, is a type parameter or declared in the body of a function. -/
def Subject.isLocal (s : Subject) : Ty → Bool
  | .pointer elem => s.isLocal elem
  | .named name _ _ | .synonym name _ _ _ => name.home == s.path && (s.definition? name.pos).isNone
  | .param _ _ => true
  | _ => false

/-- Whether the name of an embedded type is that of a local one; it means the field, which has the type. -/
def Syntax.Ident.embedsLocal (s : Subject) (id : Ident) : Bool :=
  match id.meaning with
  | some (.inner _ type) => s.isLocal type
  | _ => false

/-- What a name refers to in the source. The meaning tells, but for embedded types. -/
def Syntax.Occurrence.source? (program : Program) (s : Subject) (f : File) : Occurrence → Option Target
  | .qualified id name =>
    match id.meaning with
    | some (.package path) => some (.object path name.name)
    | _ => none
  | .plain id =>
    match id.meaning with
    | some (.topLevel home _) => some (.object home id.name)
    | some (.predeclared _) => some (.predeclared id.name)
    | some (.inner _ _) => some (.inner id.name)
    | some (.package _) | none => none
  | .embedded id => if id.embedsLocal s then some (.inner id.name) else fileTarget? program s f id.name
  | .member id => some (.inner id.name)

/-! ## Names in the code -/

/-- What a name refers to in the code. -/
def Syntax.Occurrence.result? (s : Subject) (table : List (String × Import)) : Occurrence → Option Target
  | .qualified id name =>
    match codeTarget? s table id.name with
    | some (.package path) => some (.object path name.name)
    | _ => none
  | .plain id =>
    match id.meaning with
    | some (.inner _ _) => some (.inner id.name)
    | _ => codeTarget? s table id.name
  | .embedded id => if id.embedsLocal s then some (.inner id.name) else codeTarget? s table id.name
  | .member id => some (.inner id.name)

/-- What a name refers to in the source, another one refers to in the code. -/
def Preserved (program : Program) (s : Subject) (f : File) (table : List (String × Import)) (o o' : Occurrence) :
    Prop :=
  ∀ t, o.source? program s f = some t → o'.result? s table = some t

/-- Whether a name that stays is taken for something else: the table has a predeclared name for a package, or the name of
an embedded type came from a dot import. -/
def Syntax.Occurrence.isMisread (program : Program) (s : Subject) (f : File) (table : List (String × Import)) :
    Occurrence → Bool
  | .plain id =>
    match id.meaning with
    | some (.predeclared _) => (table.lookup id.name).isSome
    | _ => false
  | .embedded id => !id.embedsLocal s && !s.declares id.name &&
      ((dotted? program f id.name).isSome || predeclaredNames.contains id.name && (table.lookup id.name).isSome)
  | .qualified _ _ | .member _ => false

/-! ## Names one by one -/

section

variable {program : Program} {s : Subject} {f : File} {table : List (String × Import)} {name : String}
  (hund : ∀ entry ∈ table, s.declares entry.1 = false)

include hund

theorem codeTarget?_of_declares (h : s.declares name = true) : codeTarget? s table name = some (.object s.path name) := by
  have hnone : table.lookup name = none := by
    cases hl : table.lookup name with
    | none => rfl
    | some i =>
      obtain ⟨before, rest, heq, -⟩ := List.lookup_eq_some_iff.1 hl
      have hfalse := hund (name, i) (heq ▸ List.mem_append_right _ List.mem_cons_self)
      rw [h] at hfalse
      cases hfalse
  rw [codeTarget?, hnone, h, if_pos rfl]

omit hund in
theorem codeTarget?_of_predeclared (h : s.declares name = false) (hname : name ∈ predeclaredNames) :
    codeTarget? s table name = some (.predeclared name) ↔ (table.lookup name).isSome = false := by
  rw [codeTarget?, h]
  cases table.lookup name <;> simp [hname]

omit hund in
theorem foreignHome?_eq_some_iff {id : Ident} {home : String} :
    foreignHome? s id = some home ↔ home ≠ s.path ∧ ∃ type, id.meaning = some (.topLevel home type) := by
  rw [foreignHome?]
  split
  next home' type hmeaning =>
    rw [hmeaning]
    by_cases heq : home' = s.path
    · simp only [heq, beq_self_eq_true, if_true, reduceCtorEq, false_iff]
      rintro ⟨hne, type, ⟨⟩⟩
      exact hne rfl
    · simp only [beq_false_of_ne heq, Bool.false_eq_true, if_false, Option.some_inj]
      constructor
      · rintro rfl
        exact ⟨heq, type, rfl⟩
      · rintro ⟨-, _, ⟨⟩⟩
        rfl
  next hnot =>
    simp only [reduceCtorEq, false_iff]
    rintro ⟨-, type, hmeaning⟩
    exact hnot home type hmeaning

omit hund in
/-- The package whose qualifier a name gets is imported. -/
theorem Syntax.Occurrence.Faithful.mem_imports {imports : List String} {o : Occurrence} {path : String}
    (ho : o.Faithful s.path imports s.declares) (hpackage : o.package? s = some path) : path ∈ imports := by
  cases o with
  | qualified id name =>
    rw [Occurrence.package?] at hpackage
    rw [Occurrence.Faithful, Ident.Faithful] at ho
    split at hpackage
    next path' hmeaning =>
      cases hpackage
      rwa [hmeaning] at ho
    · cases hpackage
  | plain id =>
    obtain ⟨hne, type, hmeaning⟩ := foreignHome?_eq_some_iff.1 hpackage
    rw [Occurrence.Faithful, Ident.Faithful, hmeaning] at ho
    exact ho.resolve_left fun h => hne h.1
  | embedded id =>
    obtain ⟨-, _, hmeaning⟩ := foreignHome?_eq_some_iff.1 hpackage
    obtain ⟨_, _, hinner⟩ := ho
    cases hmeaning.symm.trans hinner
  | member id => cases hpackage

omit hund in
/-- A name that gets the qualifier of a package is one that the package declares. -/
theorem source?_of_package? {imports : List String} {o : Occurrence} {path : String}
    (ho : o.Faithful s.path imports s.declares) (hpackage : o.package? s = some path) :
    o.source? program s f = some (.object path o.name) ∧ o.isMisread program s f table = false := by
  cases o with
  | qualified id name =>
    refine ⟨?_, rfl⟩
    rw [Occurrence.package?] at hpackage
    split at hpackage
    next path' hmeaning =>
      cases hpackage
      rw [Occurrence.source?, hmeaning]
      rfl
    · cases hpackage
  | plain id =>
    obtain ⟨-, type, hmeaning⟩ := foreignHome?_eq_some_iff.1 hpackage
    exact ⟨by rw [Occurrence.source?, hmeaning]; rfl, by rw [Occurrence.isMisread, hmeaning]⟩
  | embedded id =>
    obtain ⟨-, _, hmeaning⟩ := foreignHome?_eq_some_iff.1 hpackage
    obtain ⟨_, _, hinner⟩ := ho
    cases hmeaning.symm.trans hinner
  | member id => cases hpackage

/-- A name that stands by itself and stays means something of the package, something predeclared, or something around
it. -/
theorem preserved_plain_iff {imports : List String} {id : Ident} (hself : s.path ∉ imports)
    (ho : (Occurrence.plain id).Faithful s.path imports s.declares) (hpackage : foreignHome? s id = none) :
    Preserved program s f table (.plain id) (.plain id) ↔ (Occurrence.plain id).isMisread program s f table = false := by
  rw [Occurrence.Faithful, Ident.Faithful] at ho
  cases hmeaning : id.meaning with
  | none => simp [Preserved, Occurrence.source?, Occurrence.isMisread, hmeaning]
  | some meaning =>
    rw [hmeaning] at ho
    cases meaning with
    | package path => simp [Preserved, Occurrence.source?, Occurrence.isMisread, hmeaning]
    | inner home type => simp [Preserved, Occurrence.source?, Occurrence.result?, Occurrence.isMisread, hmeaning]
    | topLevel home type =>
      have hhome : home = s.path := by
        by_contra hne
        rw [foreignHome?_eq_some_iff.2 ⟨hne, type, hmeaning⟩] at hpackage
        cases hpackage
      have hdeclares : s.declares id.name = true := by
        rcases ho with ⟨-, hdeclares⟩ | himport
        · exact hdeclares
        · exact absurd (hhome ▸ himport) hself
      simp [Preserved, Occurrence.source?, Occurrence.result?, Occurrence.isMisread, hmeaning, hhome,
        codeTarget?_of_declares hund hdeclares]
    | predeclared type =>
      simp [Preserved, Occurrence.source?, Occurrence.result?, Occurrence.isMisread, hmeaning,
        codeTarget?_of_predeclared ho.1 ho.2]

/-- The name of an embedded type stays, so it refers to the same unless it came from a dot import, or the table has it
for a package. -/
theorem preserved_unlocal_iff :
    (∀ t, fileTarget? program s f name = some t → codeTarget? s table name = some t) ↔
      (!s.declares name && ((dotted? program f name).isSome ||
        predeclaredNames.contains name && (table.lookup name).isSome)) = false := by
  rw [fileTarget?]
  cases hdeclares : s.declares name with
  | true => simp [codeTarget?_of_declares hund hdeclares]
  | false =>
    cases hdotted : dotted? program f name with
    | some o =>
      have hne : codeTarget? s table name ≠ some (.object o.home name) := by
        rw [codeTarget?, hdeclares]
        cases table.lookup name <;> simp
      simp [hne]
    | none =>
      by_cases hname : name ∈ predeclaredNames
      · simp [hname, codeTarget?_of_predeclared hdeclares hname]
      · simp [hname]

/-- A name that stays refers to the same, unless it is misread. -/
theorem preserved_same_iff {imports : List String} {o : Occurrence} (hself : s.path ∉ imports)
    (ho : o.Faithful s.path imports s.declares) (hpackage : o.package? s = none) :
    Preserved program s f table o o ↔ o.isMisread program s f table = false := by
  cases o with
  | qualified id name =>
    refine ⟨fun _ => rfl, fun _ t ht => ?_⟩
    rw [Occurrence.package?] at hpackage
    rw [Occurrence.source?] at ht
    split at ht
    next path hmeaning =>
      rw [hmeaning] at hpackage
      cases hpackage
    · cases ht
  | plain id => exact preserved_plain_iff hund hself ho hpackage
  | embedded id =>
    cases hlocal : id.embedsLocal s with
    | true => simp [Preserved, Occurrence.source?, Occurrence.result?, Occurrence.isMisread, hlocal]
    | false =>
      simp only [Preserved, Occurrence.source?, Occurrence.result?, Occurrence.isMisread, hlocal, Bool.false_eq_true,
        if_false, Bool.not_false, Bool.true_and]
      exact preserved_unlocal_iff hund
  | member id => exact ⟨fun _ => rfl, fun _ _ h => h⟩

/-- A name that comes out refers to the same, unless it is misread. -/
theorem preserved_iff {imports : List String} {o o' : Occurrence} (hself : s.path ∉ imports)
    (ho : o.Faithful s.path imports s.declares) (h : Rewritten s table o o') :
    Preserved program s f table o o' ↔ o.isMisread program s f table = false := by
  cases h with
  | same hpackage => exact preserved_same_iff hund hself ho hpackage
  | @qualified id sel i hpackage hlookup hname =>
    obtain ⟨hsource, hnot⟩ := @source?_of_package? program s f table imports o i.path ho hpackage
    have hresult : (Occurrence.qualified id sel).result? s table = some (.object i.path o.name) := by
      rw [Occurrence.result?, codeTarget?, hlookup, ← hname]
    refine ⟨fun _ => hnot, fun _ t ht => ?_⟩
    rw [hresult, ← hsource, ht]

/-- All names of an expression refer to what they did exactly if none is misread. -/
theorem all_preserved_iff {imports : List String} {os os' : List Occurrence} (hself : s.path ∉ imports)
    (hos : ∀ o ∈ os, o.Faithful s.path imports s.declares) (h : List.Forall₂ (Rewritten s table) os os') :
    List.Forall₂ (Preserved program s f table) os os' ↔ ∀ o ∈ os, o.isMisread program s f table = false := by
  induction h with
  | nil => simp
  | cons hfirst _ ih =>
    obtain ⟨ho, hos⟩ := List.forall_mem_cons.1 hos
    rw [List.forall₂_cons, List.forall_mem_cons, ih hos, preserved_iff hund hself ho hfirst]

end

namespace Draft

/-! ## Expressions that were adapted before -/

/-- A draft has an expression as it is in the source, or with the names that came out. -/
structure Carries (s : Subject) (x : Expr) (d : Draft) : Prop where
  formed : d.Formed s
  named : Named s d (x.occurrences false)
  rewritten : ∀ y, d.adapted.lookup x = some y →
    List.Forall₂ (Rewritten s d.imports) (x.occurrences false) (y.occurrences false)

namespace Carries

variable {s : Subject} {d e : Draft} {x x' : Expr} (h : Carries s x d)

include h

theorem goesOn (hgo : d.GoesOn e) : Carries s x e where
  formed := by
    rw [Formed, hgo.adapted]
    exact h.formed
  named o ho path hpath := hgo.named path (h.named o ho path hpath)
  rewritten y hy := Rewritten.all_mono (h.rewritten y (hgo.adapted ▸ hy)) hgo.imports

/-- The names of an expression come out one by one, whether it was adapted before or not. -/
theorem rewritten_adapt :
    List.Forall₂ (Rewritten s (d.adapt s x).2.imports) (x.occurrences false) ((d.adapt s x).1.occurrences false) := by
  obtain ⟨adapted, heq⟩ := exists_adapt_eq s x d
  rw [heq]
  cases hy : d.adapted.lookup x with
  | none =>
    have hcurrent : d.currentExpr x = x := by rw [currentExpr, hy, Option.getD_none]
    rw [hcurrent]
    exact rewritten_requalify s h.named
  | some y =>
    -- what was remembered stays as it is
    have hcurrent : d.currentExpr x = y := by rw [currentExpr, hy, Option.getD_some]
    rw [hcurrent, (h.formed.of_lookup hy).2 d]
    exact h.rewritten y hy

/-- Adapting any expression, this one or another, keeps it so. -/
theorem adapt (x' : Expr) : Carries s x (d.adapt s x').2 := by
  have hgrows : d.imports <+: (d.adapt s x').2.imports ∧ (d.adapt s x').2.names = d.names := by
    obtain ⟨adapted, heq⟩ := exists_adapt_eq s x' d
    rw [heq]
    exact imports_prefix_requalify s _ d
  refine ⟨h.formed.adapt x', by rw [Named, hgrows.2]; exact h.named, fun y hy => ?_⟩
  have hbefore : d.adapted.lookup x = some y →
      List.Forall₂ (Rewritten s (d.adapt s x').2.imports) (x.occurrences false) (y.occurrences false) := fun hy =>
    Rewritten.all_mono (h.rewritten y hy) hgrows.1
  rcases Formed.adapted_adapt s d x' with ⟨-, hsame⟩ | ⟨-, hnew⟩
  · exact hbefore (hsame ▸ hy)
  · by_cases hx : x = x'
    · subst hx
      rw [hnew, List.lookup_cons_self, Option.some_inj] at hy
      exact hy ▸ h.rewritten_adapt
    · rw [hnew, List.lookup_cons, beq_false_of_ne hx] at hy
      exact hbefore hy

theorem turn {workingDir : String} (t : Turn) : Carries s x (d.turn workingDir s t) :=
  turn_keeps (fun _ _ hgo hd => goesOn hd hgo) t (fun x' _ _ hd => adapt hd x') h

theorem turns (workingDir : String) (ts : List Turn) : Carries s x (d.turns workingDir s ts) :=
  List.foldlRecOn (motive := Carries s x) ts _ h fun _ hd t _ => turn hd t

end Carries

/-! ## Type expressions of a package -/

/-- When a type expression of a package is adapted, whatever was done before, each name comes out behind a name that the
table has for its package, or stays as it is. So all names refer to what they did, unless one that stays is misread. No
package imports itself, and the packages it imports are known by some name. -/
theorem referents_adapt_iff {sources : List (String × List (String × String))} {program : Program} {p : Package}
    {f : File} {decl : Decl} {z x : Expr} (hload : ({} : Program).loadAll? sources = some program)
    (hp : p ∈ program.packages) (hself : p.path ∉ p.imports) (hf : f ∈ p.files) (hdecl : decl ∈ f.decls)
    (hz : z ∈ decl.typeExprs) (hx : x.occurrences false ⊆ z.occurrences false) (workingDir : String)
    {names : PackageNames} (hnamed : ∀ path ∈ p.imports, names.current path ≠ "") (ts : List Turn) :
    let s := Subject.ofPackage program p
    let adapted := (({ names } : Draft).turns workingDir s ts).adapt s x
    let table := adapted.2.imports
    List.Forall₂ (Rewritten s table) (x.occurrences false) (adapted.1.occurrences false) ∧
      (List.Forall₂ (Preserved program s f table) (x.occurrences false) (adapted.1.occurrences false) ↔
        ∀ o ∈ x.occurrences false, o.isMisread program s f table = false) := by
  intro s adapted table
  have hmeant : ∀ o ∈ x.occurrences false, o.Faithful s.path p.imports s.declares := fun o ho =>
    (meant_of_loadAll? hload).faithful p hp f hf decl hdecl z hz o (hx ho)
  have hstart : Carries s x { names } :=
    ⟨List.forall_mem_nil _, fun o ho path hpath => hnamed path ((hmeant o ho).mem_imports hpath), nofun⟩
  have hrewritten := (hstart.turns workingDir ts).rewritten_adapt
  have hreached : Reached workingDir s (({ names } : Draft).turns workingDir s ts) := (Reached.start names).turns ts
  have hund : adapted.2.Undeclared s := (hreached.turn (.step (.adapt x))).undeclared
  exact ⟨hrewritten, all_preserved_iff hund hself hmeant hrewritten⟩

/-- Packages with a struct that embeds a type from a dot import and has a field of it, and with a map of its pointers. -/
def dottedSources : List (String × List (String × String)) :=
  [("x/geo", [("geo.go", "package geo\n\ntype Point struct \x7b\n\tX int\n\x7d\n")]),
    ("p", [("p.go", "package p\n\nimport . \"x/geo\"\n\nvar v struct \x7b\n\tPoint\n\tnext *Point\n\x7d\n")]),
    ("q", [("q.go", "package q\n\nimport . \"x/geo\"\n\nvar w map[string]*Point\n")])]

/-- In both packages a name of the type is qualified. In the struct the embedded one is not, and refers to nothing. -/
theorem dottedSources_adapted :
    let written (program : Program) (p : Package) (x : Expr) :=
      ({ names := .declared program } : Draft).adapt (Subject.ofPackage program p) x
    let kept (program : Program) (p : Package) (f : File) (x : Expr) :=
      List.Forall₂ (Preserved program (Subject.ofPackage program p) f (written program p x).2.imports)
        (x.occurrences false) ((written program p x).1.occurrences false)
    ∃ program, ({} : Program).loadAll? dottedSources = some program ∧
      (∃ p ∈ program.packages, ∃ f ∈ p.files, ∃ decl ∈ f.decls, ∃ x ∈ decl.typeExprs,
        (written program p x).1.qualifiers = ["geo"] ∧ ¬kept program p f x) ∧
      (∃ p ∈ program.packages, ∃ f ∈ p.files, ∃ decl ∈ f.decls, ∃ x ∈ decl.typeExprs,
        (written program p x).1.qualifiers = ["geo"] ∧ kept program p f x) := by
  intro written kept
  let shown (program : Program) : List (List String × Bool) :=
    program.packages.flatMap fun p => p.files.flatMap fun f => f.decls.flatMap fun decl => decl.typeExprs.flatMap fun x =>
      if p.path ∉ p.imports ∧ ∀ path ∈ p.imports, (PackageNames.declared program).current path ≠ "" then
        [((written program p x).1.qualifiers, (x.occurrences false).all fun o =>
          !o.isMisread program (Subject.ofPackage program p) f (written program p x).2.imports)]
      else []
  have hshown : (({} : Program).loadAll? dottedSources).map shown =
      some [([], true), (["geo"], false), (["geo"], true)] := by
    simp only [dottedSources, loadAll?_cons]
    rw [String.toList_ofList, String.toList_ofList, String.toList_ofList]
    decide +kernel
  obtain ⟨program, hload, hprogram⟩ := Option.map_eq_some_iff.1 hshown
  have hfind : ∀ b, (["geo"], b) ∈ shown program → ∃ p ∈ program.packages, ∃ f ∈ p.files, ∃ decl ∈ f.decls,
      ∃ x ∈ decl.typeExprs, (written program p x).1.qualifiers = ["geo"] ∧ (kept program p f x ↔ b = true) := by
    intro b hmem
    obtain ⟨p, hp, hmem⟩ := List.mem_flatMap.1 hmem
    obtain ⟨f, hf, hmem⟩ := List.mem_flatMap.1 hmem
    obtain ⟨decl, hdecl, hmem⟩ := List.mem_flatMap.1 hmem
    obtain ⟨x, hx, hmem⟩ := List.mem_flatMap.1 hmem
    split at hmem
    next hpackage =>
      obtain ⟨hqualifiers, rfl⟩ := Prod.mk.inj (List.mem_singleton.1 hmem)
      have hiff := (referents_adapt_iff hload hp hpackage.1 hf hdecl hx (List.Subset.refl _) "" hpackage.2 []).2
      refine ⟨p, hp, f, hf, decl, hdecl, x, hx, hqualifiers.symm, hiff.trans ?_⟩
      simp only [List.all_eq_true, Bool.not_eq_true']
      rfl
    · cases hmem
  obtain ⟨p, hp, f, hf, decl, hdecl, x, hx, hqualifiers, hkept⟩ := hfind false (hprogram ▸ by simp)
  obtain ⟨p', hp', f', hf', decl', hdecl', x', hx', hqualifiers', hkept'⟩ := hfind true (hprogram ▸ by simp)
  exact ⟨program, hload, ⟨p, hp, f, hf, decl, hdecl, x, hx, hqualifiers, fun h => nomatch hkept.1 h⟩,
    ⟨p', hp', f', hf', decl', hdecl', x', hx', hqualifiers', hkept'.2 rfl⟩⟩

end Draft

end TaggedUnion
