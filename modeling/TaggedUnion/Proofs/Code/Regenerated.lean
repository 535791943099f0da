import TaggedUnion.Proofs.Code.Capture
import TaggedUnion.Proofs.Code.Consistency
import TaggedUnion.Proofs.Union.Regenerated

/-!
# Generating code once more

What an earlier run generated declares names, and imports go out of the way of declared names. As long as
no import of the code needs one of the new names (`Draft.Clear`), every import gets the same name with and
without them (`Regenerated.importName?_eq`), and so does all code that is generated
(`Regenerated.writeUnions_eq`). A request of the package of errors is the one place where it counts which
packages are imported directly; the invariant of the import table shows that it makes no difference.

The bounds of type parameters are copied, and laid out by where their parts stand in the files of the
program. Requalified names have places that are made up, which may be those of another file; so the code is
only the same if the bounds are laid out the same (`regenerate_eq`).
-/

namespace TaggedUnion

open Source TaggedUnion.Types Syntax Program

/-! ## Names that are not in the way -/

namespace Draft

/-- No name of the table is that of one of the given objects. -/
def Clear (added : List Object) (d : Draft) : Prop :=
  ∀ e ∈ d.imports, ∀ o ∈ added, o.name ≠ e.1

variable {s : Subject} {d : Draft} {added : List Object}

theorem Clear.mono {e : Draft} (h : e.Clear added) (hgrow : d.imports <+: e.imports) : d.Clear added :=
  fun x hx => h x (hgrow.subset hx)

theorem kept_not_clear (s : Subject) (added : List Object) : Kept s fun d => ¬d.Clear added where
  frame _ _ himports _ h hclear := h (hclear.mono (himports ▸ List.prefix_rfl))
  importPackage d path h hclear := h (hclear.mono (imports_prefix_importPackage s d path))
  importedName d path h hclear :=
    h (hclear.mono (imports_prefix_of_eq_enter (importedName_eq s d path)).1)

/-- In the course of the operations a draft that is not clear never becomes so. -/
theorem operations_not_clear (s : Subject) (added : List Object) (types : List Ty) :
    Operations s types (fun d e => d = e ∧ ¬d.Clear added) (fun _ _ => False) fun _ => True :=
  (kept_not_clear s added).operations
    (fun d h hclear => h (hclear.mono (imports_prefix_of_eq_enter (request_eq s d _ _)).1)) types

/-- If a draft is clear after an operation, it was before. -/
theorem Clear.of_keeps {α : Type} {m : StateM Draft α} {agree : Prop}
    (hm : Lockstep (fun d e => d = e ∧ ¬d.Clear added) (fun _ _ => False) agree m)
    (h : (m d).2.Clear added) : d.Clear added :=
  by_contra fun hnot => hm.keeps hnot h

theorem Clear.of_modify {f : Draft → Draft} {agree : Prop}
    (hm : Lockstep (fun d e => d = e ∧ ¬d.Clear added) (fun _ _ => False) agree (modify f))
    (h : (f d).Clear added) : d.Clear added :=
  Clear.of_keeps hm h

/-- A name under which a package was entered is not in the way. -/
theorem Clear.ne_of_enter {path name : String} {i : Import} (h : (d.enter name i).Clear added)
    (hadmits : d.admits s path name = true) (hi : i.path = path) : ∀ o ∈ added, o.name ≠ name := by
  obtain ⟨j, hj, -⟩ := lookup_enter hadmits hi
  exact h _ (mem_of_lookup hj)

theorem typeText_snd (s : Subject) (d : Draft) (t : Ty) :
    (d.typeText s t).2 = d.importPackages s t.homes :=
  importType_eq s t d

theorem writeConversions_of_ne_nil (s : Subject) (d : Draft) (u : Union) {cs : List Conversion}
    (h : cs ≠ []) :
    d.writeConversions s u cs =
      let named := errorsNameIn s (d.generics s u).2
      cs.foldl (writeConversion s u (d.generics s u).1 named.1) named.2 := by
  have hempty : cs.isEmpty = false := by simpa using h
  rw [writeConversions, hempty]
  rfl

/-- What holds of a draft while code is generated: the table is consistent, and all packages that the
second package imports are known. -/
structure Prepared (s s' : Subject) (declared : String → String) (d : Draft) : Prop where
  consistent : Consistent s declared d
  known : ∀ path ∈ s'.imports, d.names.current path ≠ ""

theorem kept_prepared (s s' : Subject) (declared : String → String) :
    Kept s (Prepared s s' declared) where
  frame d e himports hnames h :=
    ⟨(kept_consistent s declared).frame d e himports hnames h.consistent,
      fun path hpath => (kept_named s path).frame d e himports hnames (h.known path hpath)⟩
  importPackage d path h :=
    ⟨h.consistent.importPackage path, fun other hother =>
      (kept_named s other).importPackage d path (h.known other hother)⟩
  importedName d path h :=
    ⟨h.consistent.importedName path, fun other hother =>
      (kept_named s other).importedName d path (h.known other hother)⟩

theorem Prepared.request {s' : Subject} {declared : String → String} (h : Prepared s s' declared d)
    (hdecl : declared errorsPath = errorsName) :
    Prepared s s' declared (d.request s errorsPath errorsName) where
  consistent := hdecl ▸ h.consistent.request (by rw [hdecl]; decide)
  known path hpath := by
    rw [(imports_prefix_of_eq_enter (request_eq s d errorsPath errorsName)).2]
    exact h.known path hpath

/-- All operations keep a draft prepared. -/
theorem operations_prepared (s s' : Subject) {declared : String → String}
    (hdecl : declared errorsPath = errorsName) (types : List Ty) :
    Operations s types (fun d e => d = e ∧ Prepared s s' declared d) (fun _ _ => False) fun _ => True :=
  (kept_prepared s s' declared).operations (fun _ h => h.request hdecl) types

end Draft

/-- The bounds of type parameters that the code for unions shows. -/
def writtenBounds (s : Subject) : Draft → List Built → List Expr
  | _, [] => []
  | d, b :: rest =>
    (if b.conversions.isEmpty then []
      else
        let d := d.write ("// enumorph: " ++ b.union.name ++ "\n\n")
        (adaptedBounds s d b.union.params).map (·.2)) ++
    writtenBounds s (Session.writeUnion s d b) rest

/-! ## The same code -/

namespace Regenerated

open Draft

variable {s s' : Subject} {added : List Object} (h : Regenerated s s' added)
  {d : Draft} {path base name : String}

include h

theorem declares_eq (name : String) :
    s'.declares name = (s.declares name || added.any (·.name == name)) := by
  rw [Subject.declares, Subject.declares, ← List.any_append, Bool.eq_iff_iff, List.any_eq_true,
    List.any_eq_true]
  exact exists_congr fun o => and_congr_left fun _ => h.objects.mem_iff

theorem admits_eq (hne : ∀ o ∈ added, o.name ≠ name) : d.admits s' path name = d.admits s path name := by
  have hadded : added.any (·.name == name) = false := by simpa using hne
  rw [admits, admits, h.declares_eq, hadded, Bool.or_false]

theorem admits_eq_false (hs : d.admits s path name = false) : d.admits s' path name = false := by
  cases hl : d.imports.lookup name with
  | some i => rwa [admits_of_lookup hl] at hs ⊢
  | none =>
    rw [admits_of_lookup_none hl, Bool.not_eq_false'] at hs ⊢
    rw [h.declares_eq, hs, Bool.true_or]

/-- A search finds the same name, unless it is one of the new ones: no candidate before it has become
free. -/
theorem importName?_eq (hfound : d.importName? s path base = some name)
    (hne : ∀ o ∈ added, o.name ≠ name) : d.importName? s' path base = some name := by
  obtain ⟨hb, n, hn, rfl, hok, hmin⟩ := importName?_eq_some_iff.1 hfound
  have hlen := h.objects.length_eq
  rw [List.length_append] at hlen
  exact importName?_eq_some_iff.2 ⟨hb, n, by omega, rfl, h.admits_eq hne ▸ hok,
    fun m hm => h.admits_eq_false (hmin m hm)⟩

theorem importPackage_eq (hclear : (d.importPackage s path).Clear added) :
    d.importPackage s' path = d.importPackage s path := by
  by_cases hforeign : Foreign s d path
  · have hforeign' : Foreign s' d path :=
      ⟨hforeign.ne_empty, h.path ▸ hforeign.ne_self, hforeign.named⟩
    obtain ⟨name, hname, heq⟩ := importPackage_of_foreign hforeign
    obtain ⟨name', hname', heq'⟩ := importPackage_of_foreign hforeign'
    rw [heq] at hclear
    have hne := Clear.ne_of_enter (d := d) hclear (admits_of_importName? hname) rfl
    rw [h.importName?_eq hname hne, Option.some_inj] at hname'
    rw [heq', heq, hname']
  · have hforeign' : ¬Foreign s' d path := fun hf =>
      hforeign ⟨hf.ne_empty, h.path ▸ hf.ne_self, hf.named⟩
    rw [importPackage_of_not_foreign hforeign, importPackage_of_not_foreign hforeign']

theorem importPackages_eq {paths : List String} (hclear : (d.importPackages s paths).Clear added) :
    d.importPackages s' paths = d.importPackages s paths := by
  induction paths generalizing d with
  | nil => rw [importPackages_nil, importPackages_nil]
  | cons path rest ih =>
    have hfirst := Clear.of_modify ((operations_not_clear s added []).importPackages rest) hclear
    rw [importPackages_cons, importPackages_cons, h.importPackage_eq hfirst]
    exact ih hclear

theorem importExpr_eq {x : Expr} (hclear : (d.importExpr s x).Clear added) :
    d.importExpr s' x = d.importExpr s x := by
  rw [Draft.importExpr_eq] at hclear
  rw [Draft.importExpr_eq, Draft.importExpr_eq, h.importPackages_eq hclear]

theorem importedName_eq (hclear : (importedName s path d).2.Clear added) :
    importedName s' path d = importedName s path d := by
  by_cases hc : d.names.current path = ""
  · rw [importedName_of_empty s hc, importedName_of_empty s' hc]
  · obtain ⟨name, hname, heq⟩ := importedName_of_ne_empty s hc
    obtain ⟨name', hname', heq'⟩ := importedName_of_ne_empty s' hc
    rw [heq] at hclear
    have hne := Clear.ne_of_enter hclear (admits_of_importName? hname) rfl
    rw [h.importName?_eq hname hne, Option.some_inj] at hname'
    rw [heq', heq, hname']

/-- The package of errors gets the same name, and is marked as an alias alike, whether or not the
package imports it. -/
theorem errorsNameIn_eq {declared : String → String} (hdecl : declared errorsPath = errorsName)
    (hd : Prepared s s' declared d) (hclear : (errorsNameIn s d).2.Clear added) :
    errorsNameIn s' d = errorsNameIn s d := by
  obtain ⟨name, hname, heq⟩ := errorsNameIn_eq_enter s d
  obtain ⟨name', hname', heq'⟩ := errorsNameIn_eq_enter s' d
  rw [heq] at hclear
  rw [h.importName?_eq hname (Clear.ne_of_enter hclear (admits_of_importName? hname) rfl), Option.some_inj] at hname'
  subst hname'
  rw [heq, heq']
  cases hnew : d.imports.lookup name with
  | some i => rw [enter_of_lookup hnew, enter_of_lookup hnew]
  | none =>
    -- A new name: the package has no other one, so either run takes it to be called as it was declared.
    obtain ⟨-, -, habsent, -⟩ := hd.consistent.search_new (.inl hdecl.symm) hname hnew
    rw [← hdecl, hd.consistent.knownName_eq habsent (hd.known _),
      hd.consistent.knownName_eq habsent (hd.consistent.known _)]

theorem requalify_eq {x : Expr} (hclear : (requalify s x d).2.Clear added) :
    requalify s' x d = requalify s x d := by
  have hname : ∀ path, Abreast (fun d e => d = e) (fun d _ => ¬d.Clear added)
      (importedName s path) (importedName s' path) := by
    refine fun path => ⟨?_, fun d _ => (kept_not_clear s added).importedName d path, fun _ _ hd => hd⟩
    rintro d _ rfl
    -- Once a name is in the way the runs may differ, and what is in the table stays there.
    by_cases hd : (importedName s path d).2.Clear added
    · rw [h.importedName_eq hd]
      exact .inl ⟨rfl, rfl⟩
    · exact .inr hd
  rcases (abreast_requalify ⟨h.path, hname⟩ x).step d d rfl with ⟨hres, hdraft⟩ | hnot
  · exact Prod.ext hres.symm hdraft.symm
  · exact absurd hclear hnot

theorem adapt_eq {x : Expr} (hclear : (d.adapt s x).2.Clear added) : d.adapt s' x = d.adapt s x := by
  have hrequalified : (requalify s (d.currentExpr x) d).2.Clear added := by
    rw [Draft.adapt] at hclear
    cases hname : isName (d.currentExpr x) <;>
      simp only [hname, Bool.false_eq_true, if_false, if_true] at hclear <;> exact hclear
  rw [Draft.adapt, Draft.adapt]
  simp only [StateT.run, h.requalify_eq hrequalified]

/-- The type parameters are the same if their bounds are laid out the same. -/
theorem paramTexts_eq {gs : List (GroupHead × Expr)} (hclear : (paramTexts s d gs).2.Clear added)
    (hlaid : ∀ g ∈ adaptedBounds s d gs, Layout.exprText s'.files g.2 = Layout.exprText s.files g.2) :
    paramTexts s' d gs = paramTexts s d gs := by
  induction gs generalizing d with
  | nil => rw [paramTexts, paramTexts]
  | cons g rest ih =>
    obtain ⟨head, bound⟩ := g
    let bounds := adaptedBounds s ((d.adapt s bound).2.importExpr s (d.adapt s bound).1) rest
    obtain ⟨hfirst, hrest⟩ : Layout.exprText s'.files (d.adapt s bound).1 =
          Layout.exprText s.files (d.adapt s bound).1 ∧
        ∀ g ∈ bounds, Layout.exprText s'.files g.2 = Layout.exprText s.files g.2 :=
      List.forall_mem_cons.1 hlaid
    -- The draft is clear after the last bound, so it is after every step before.
    have himported : ((d.adapt s bound).2.importExpr s (d.adapt s bound).1).Clear added :=
      Clear.of_keeps ((operations_not_clear s added []).paramTexts rest) hclear
    have hadapted : (d.adapt s bound).2.Clear added :=
      Clear.of_modify ((operations_not_clear s added []).importExpr (d.adapt s bound).1) himported
    have htexts := ih (d := (d.adapt s bound).2.importExpr s (d.adapt s bound).1) hclear hrest
    simp only [paramTexts, h.adapt_eq hadapted, h.importExpr_eq himported, htexts, hfirst]

theorem generics_eq {u : Union} (hclear : (d.generics s u).2.Clear added)
    (hlaid : ∀ g ∈ adaptedBounds s d u.params,
      Layout.exprText s'.files g.2 = Layout.exprText s.files g.2) :
    d.generics s' u = d.generics s u := by
  rw [Draft.generics, Draft.generics]
  split
  case isTrue hgeneric =>
    rw [Draft.generics, if_pos hgeneric] at hclear
    rw [h.paramTexts_eq hclear hlaid]
  case isFalse => rfl

theorem typeText_eq {t : Ty} (hclear : (d.typeText s t).2.Clear added) :
    d.typeText s' t = d.typeText s t := by
  have hhomes : (d.importPackages s t.homes).Clear added := by rwa [← importType_eq]
  have hq : ∀ e : Draft, e.qualifier s' = e.qualifier s := fun e => by
    funext home
    rw [Draft.qualifier, Draft.qualifier, Subject.qualifier, Subject.qualifier, h.path]
  rw [Draft.typeText, Draft.typeText, importType_eq, importType_eq, h.importPackages_eq hhomes, hq]

theorem writeConversion_eq {u : Union} {g : Generics} {errors : String} {c : Conversion}
    (hclear : (d.writeConversion s u g errors c).Clear added) :
    d.writeConversion s' u g errors c = d.writeConversion s u g errors c := by
  -- The payload type is written twice, and the draft is clear after the second time.
  let text := (c.unwrapFunction u g errors (d.typeText s c.payload).1).write ++ "\n"
  have hsecond : (((d.typeText s c.payload).2.write text).typeText s c.payload).2.Clear added := hclear
  have hfirst : (d.typeText s c.payload).2.Clear added := by
    rw [typeText_snd] at hsecond
    have hwritten : ((d.typeText s c.payload).2.write text).Clear added :=
      Clear.of_modify ((operations_not_clear s added []).importPackages c.payload.homes) hsecond
    exact hwritten
  have htext := h.typeText_eq hsecond
  simp only [Draft.writeConversion, h.typeText_eq hfirst]
  rw [htext]

/-- Conversions are written the same, one after the other. -/
theorem foldl_writeConversion_eq {u : Union} {g : Generics} {errors : String} {cs : List Conversion}
    (hclear : (cs.foldl (writeConversion s u g errors) d).Clear added) :
    cs.foldl (writeConversion s' u g errors) d = cs.foldl (writeConversion s u g errors) d := by
  induction cs generalizing d with
  | nil => rw [List.foldl_nil, List.foldl_nil]
  | cons c rest ih =>
    have hops := operations_not_clear s added (rest.map (·.payload))
    have hrest := Lockstep.foldl rest fun c hc =>
      hops.writeConversion u g errors (List.mem_map_of_mem hc)
    rw [List.foldl_cons, List.foldl_cons, h.writeConversion_eq (Clear.of_modify hrest hclear)]
    exact ih hclear

variable {declared : String → String} (hdecl : declared errorsPath = errorsName)

include hdecl

theorem writeConversions_eq {u : Union} {cs : List Conversion} (hd : Prepared s s' declared d)
    (hclear : (d.writeConversions s u cs).Clear added)
    (hlaid : cs ≠ [] → ∀ g ∈ adaptedBounds s d u.params,
      Layout.exprText s'.files g.2 = Layout.exprText s.files g.2) :
    d.writeConversions s' u cs = d.writeConversions s u cs := by
  by_cases hne : cs = []
  · simp only [hne, writeConversions, List.isEmpty_nil, if_true]
  · have hops := operations_not_clear s added (cs.map (·.payload))
    rw [writeConversions_of_ne_nil s d u hne] at hclear
    have hnamed : (errorsNameIn s (d.generics s u).2).2.Clear added :=
      Clear.of_modify (Lockstep.foldl cs fun c hc =>
        hops.writeConversion u _ _ (List.mem_map_of_mem hc)) hclear
    have hgenerics : (d.generics s u).2.Clear added := Clear.of_keeps hops.errors hnamed
    have hprepared : Prepared s s' declared (d.generics s u).2 :=
      ((operations_prepared s s' hdecl []).generics u).keeps hd
    rw [writeConversions_of_ne_nil s d u hne, writeConversions_of_ne_nil s' d u hne,
      h.generics_eq hgenerics (hlaid hne), h.errorsNameIn_eq hdecl hprepared hnamed]
    exact h.foldl_writeConversion_eq hclear

theorem writeUnion_eq {b : Built} (hd : Prepared s s' declared d)
    (hclear : (Session.writeUnion s d b).Clear added)
    (hlaid : ∀ x ∈ writtenBounds s d [b], Layout.exprText s'.files x = Layout.exprText s.files x) :
    Session.writeUnion s' d b = Session.writeUnion s d b := by
  cases hempty : b.conversions.isEmpty with
  | true => simp only [Session.writeUnion, hempty, if_true]
  | false =>
    simp only [Session.writeUnion, writtenBounds, hempty, Bool.false_eq_true, if_false,
      List.append_nil, List.forall_mem_map] at hclear hlaid ⊢
    exact h.writeConversions_eq hdecl ((kept_prepared s s' declared).frame d _ rfl rfl hd) hclear
      fun _ => hlaid

/-- The code for unions is the same, if no import of it needs one of the new names and their bounds are
laid out the same. -/
theorem writeUnions_eq {unions : List Built} (hd : Prepared s s' declared d)
    (hclear : (unions.foldl (Session.writeUnion s) d).Clear added)
    (hlaid : ∀ x ∈ writtenBounds s d unions, Layout.exprText s'.files x = Layout.exprText s.files x) :
    unions.foldl (Session.writeUnion s') d = unions.foldl (Session.writeUnion s) d := by
  induction unions generalizing d with
  | nil => rw [List.foldl_nil, List.foldl_nil]
  | cons b rest ih =>
    rw [writtenBounds, List.forall_mem_append] at hlaid
    rw [List.foldl_cons] at hclear
    have hfirst : (Session.writeUnion s d b).Clear added :=
      Clear.of_modify ((operations_not_clear s added (payloads rest)).draft fun b hb c hc =>
        List.mem_flatMap.2 ⟨b, hb, List.mem_map_of_mem hc⟩) hclear
    have hnext := (kept_prepared s s' declared).writeUnions (fun _ he => he.request hdecl) [b] hd
    rw [List.foldl_cons, List.foldl_nil] at hnext
    rw [List.foldl_cons, List.foldl_cons, h.writeUnion_eq hdecl hd hfirst (by
      rw [writtenBounds, writtenBounds, List.append_nil]
      exact hlaid.1)]
    exact ih hnext hclear hlaid.2

end Regenerated

/-! ## Sessions -/

namespace Session

/-- What is left of the draft for the next time has the imports of the code. -/
theorem imports_code (version : String) (σ : Session) :
    (σ.code version).2.draft.imports = (σ.unions.foldl (writeUnion σ.subject) σ.draft).imports := by
  rw [code]
  cases hnone : σ.unions.all (·.conversions.isEmpty) <;>
    simp only [Bool.false_eq_true, if_false, if_true]

/-- Another package under the same name makes the same code if it writes the same. -/
theorem code_eq {version : String} {σ : Session} {s' : Subject} (hname : s'.name = σ.subject.name)
    (hfold : σ.unions.foldl (writeUnion s') σ.draft = σ.unions.foldl (writeUnion σ.subject) σ.draft) :
    { σ with subject := s' }.code version =
      ((σ.code version).1, { (σ.code version).2 with subject := s' }) := by
  simp only [code, hfold, hname]
  cases hnone : σ.unions.all (·.conversions.isEmpty) <;>
    simp only [Bool.false_eq_true, if_false, if_true]

end Session

section

variable {s s' : Subject} {added : List Object} (h : Regenerated s s' added)
  {workingDir version : String} {code : Option String}

include h

/-- Building a package that was built without an error comes to the same unions and conversions. -/
theorem Regenerated.session_build_eq {names : PackageNames} {built : Session}
    (hbuild : (Session.start s names).build workingDir = (none, built)) :
    (Session.start s' names).build workingDir = (none, { built with subject := s' }) := by
  rw [Session.build, Prod.mk.injEq] at hbuild
  obtain ⟨hnone, rfl⟩ := hbuild
  have hclean : s.build.findings = [] := (error?_eq_none_iff _ _).1 hnone
  have hbuilt : s'.build = s.build := h.build_eq hclean
  rw [Session.build, Prod.mk.injEq]
  refine ⟨(error?_eq_none_iff _ _).2 (hbuilt ▸ hclean), ?_⟩
  rw [Session.start, Session.start, hbuilt]

/-- Generating the code comes to the same from any draft that is prepared. -/
theorem Regenerated.generate?_eq {declared : String → String} (hdecl : declared errorsPath = errorsName)
    {built generated : Session} (hsubject : built.subject = s)
    (hd : Draft.Prepared s s' declared built.draft)
    (hgenerate : built.generate? version = some (code, generated))
    (hclear : generated.draft.Clear added)
    (hlaid : ∀ x ∈ writtenBounds s built.draft built.unions,
      Layout.exprText s'.files x = Layout.exprText s.files x) :
    { built with subject := s' }.generate? version = some (code, { generated with subject := s' }) := by
  subst hsubject
  rw [Session.generate?] at hgenerate ⊢
  split at hgenerate
  case isFalse => cases hgenerate
  case isTrue hready =>
    rw [Option.some_inj] at hgenerate
    have hfold := h.writeUnions_eq hdecl hd (fun e he => ?_) hlaid
    · rw [if_pos hready, Session.code_eq h.name hfold, hgenerate]
    · rw [← Session.imports_code version built, hgenerate] at he
      exact hclear e he

end

/-- A package that was built without an error, and then its code generated, is built without an error
once what was generated is part of it, with the same unions and conversions, and has the same code, if

* packages are called as they are declared at first, and those that are imported directly are known;
* no import of the code is called like something that was generated;
* the bounds of the type parameters are laid out the same among the files.

What else the generated file contains, and which packages it imports, makes no difference. -/
theorem regenerate_eq {s s' : Subject} {added : List Object} (h : Regenerated s s' added)
    {declared : String → String} (hdecl : declared errorsPath = errorsName) {names : PackageNames}
    (hstart : ∀ path, names.current path = "" ∨ names.current path = declared path)
    (hknown : ∀ path, path ∈ s.imports ∨ path ∈ s'.imports → names.current path ≠ "")
    {workingDir version : String} {built generated : Session} {code : Option String}
    (hbuild : (Session.start s names).build workingDir = (none, built))
    (hgenerate : built.generate? version = some (code, generated))
    (hfree : ∀ e ∈ generated.draft.imports, ∀ o ∈ added, o.name ≠ e.1)
    (hlaid : ∀ x ∈ writtenBounds s { names } built.unions,
      Layout.exprText s'.files x = Layout.exprText s.files x) :
    (Session.start s' names).build workingDir = (none, { built with subject := s' }) ∧
    { built with subject := s' }.generate? version = some (code, { generated with subject := s' }) := by
  refine ⟨h.session_build_eq hbuild, ?_⟩
  rw [Session.build, Prod.mk.injEq] at hbuild
  obtain ⟨-, rfl⟩ := hbuild
  refine h.generate?_eq hdecl rfl ⟨?_, fun path hpath => hknown path (.inr hpath)⟩ hgenerate hfree hlaid
  exact Draft.consistent_start hstart fun path hpath => hknown path (.inl hpath)

/-! ## An example -/

/-- A file that declares a union with a type parameter:

    package p

    //enumorph:derive
    type Box[T int | string] struct {
    	Kind string `enumorph:"tag"`
    	Item T
    }
-/
def boxFile : File where
  name := "box.go"
  clause := 1
  package := "p"
  decls := [.types (some [⟨12, directiveText⟩])
    [{ name := { pos := 35, name := "Box" }
       params := [({ names := [{ pos := 39, name := "T" }] },
         .binary (.ident { pos := 41, name := "int" }) 45 "|" (.ident { pos := 47, name := "string" }))]
       type := .struct 55 62
        [({ names := [{ pos := 65, name := "Kind" }] }, .ident { pos := 70, name := "string" }),
         ({ names := [{ pos := 95, name := "Item" }] }, .ident { pos := 100, name := "T" })] 102 }]]
  comments := [[⟨12, directiveText⟩]]

/-- What an earlier run generated for it, without the bodies of the functions. -/
def boxOutput : File where
  name := "enumorph_gen.go"
  clause := 169
  package := "p"
  comments := [[⟨105, generatedHeader ++ ". DO NOT EDIT."⟩]]

/-- The functions that it declares. -/
def boxAdded : List Object :=
  [{ name := "BoxToItem", home := "p", pos := 300, kind := .func, type := .func [] [] [] false },
   { name := "BoxFromItem", home := "p", pos := 400, kind := .func, type := .func [] [] [] false }]

/-- The declared type. -/
def boxObject : Object where
  name := "Box"
  home := "p"
  pos := 35
  kind := .type
  type := .named ⟨"p", "Box", 35⟩
    [([⟨"T", 39⟩], .interface [] [.union [(false, .basic "int"), (false, .basic "string")]] true)] []
  params := [⟨"T", 39⟩]

/-- What it stands for. -/
def boxDecl : TypeDecl where
  name := ⟨"p", "Box", 35⟩
  params := [⟨"T", 39⟩]
  rhs := .struct
    [(⟨"Kind", "p", false, Text.Bytes.ofText "enumorph:\"tag\"", 65⟩, .basic "string"),
     (⟨"Item", "p", false, [], 95⟩, .param "T" 39)]

/-- The package before anything is generated for it. -/
def boxSubject : Subject where
  name := "p"
  path := "p"
  objects := [boxObject]
  imports := []
  files := ⟨[{ name := "box.go", base := 1, size := 103, lines := [0, 10, 11, 29, 63, 93, 101] }]⟩
  sources := [boxFile]
  info := ⟨[boxDecl], [boxObject]⟩

/-- The package in the next run. -/
def boxAgain : Subject :=
  { boxSubject with
    objects := boxSubject.objects ++ boxAdded
    imports := [errorsPath]
    files := boxSubject.files.add
      { name := "enumorph_gen.go", base := 105, size := 400, lines := [0, 63, 64] }
    sources := [boxFile, boxOutput] }

/-- The package of errors is known in both runs. -/
def boxNames : PackageNames := ⟨[(errorsPath, errorsName)]⟩

theorem regenerated_box : Regenerated boxSubject boxAgain boxAdded where
  name := rfl
  path := rfl
  table := rfl
  definitions _ _ := rfl
  own := by decide +kernel
  sources := ⟨[boxFile], [], boxOutput, rfl, rfl, by decide +kernel⟩
  objects := .refl _
  new := by decide +kernel

/-- The package is built once more, and has the same code. -/
theorem box_regenerate :
    let built := ((Session.start boxSubject boxNames).build "").2
    let generated := (built.code "").2
    (Session.start boxAgain boxNames).build "" = (none, { built with subject := boxAgain }) ∧
      { built with subject := boxAgain }.generate? "" =
        some ((built.code "").1, { generated with subject := boxAgain }) := by
  intro built generated
  have hbuild : (Session.start boxSubject boxNames).build "" = (none, built) :=
    Prod.ext (Option.isNone_iff_eq_none.1 (by decide +kernel)) rfl
  have hready : built.ready = true := by decide +kernel
  have hgenerate : built.generate? "" = some ((built.code "").1, generated) := by
    rw [Session.generate?, if_pos hready]
  have hknown : ∀ path, path ∈ boxSubject.imports ∨ path ∈ boxAgain.imports →
      boxNames.current path ≠ "" := by
    rintro path (hpath | hpath)
    · exact absurd hpath List.not_mem_nil
    · rw [List.mem_singleton.1 hpath]
      decide +kernel
  have hstart : ∀ path, boxNames.current path = "" ∨ boxNames.current path = errorsName := by
    intro path
    rw [PackageNames.current, boxNames, List.lookup_cons]
    cases path == errorsPath with
    | true => exact .inr rfl
    | false => exact .inl rfl
  have hfree : ∀ e ∈ generated.draft.imports, ∀ o ∈ boxAdded, o.name ≠ e.1 := by
    rw [Session.imports_code]
    decide +kernel
  have hdecl : (fun _ => errorsName) errorsPath = errorsName := rfl
  refine regenerate_eq regenerated_box hdecl hstart hknown hbuild hgenerate hfree ?_
  decide +kernel

end TaggedUnion
