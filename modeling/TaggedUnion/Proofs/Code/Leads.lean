import TaggedUnion.Proofs.Code.Spelled
import TaggedUnion.Proofs.Code.Regenerated

/-!
# What a draft leads to

A draft *leads* to another one if what was done so far still shows in it: the table of the other one goes on where
its own ends, and packages are called as they were, or as searches from the names they had come out by then
(`Leads`). Each operation leads on, so that whatever an operation leads to, the draft before it leads to as well
(`Leads.before`).

An operation that leads to a draft has left its mark there. Done once more on a draft that has the table and the
names of that one (`Rests`), it finds the packages it asks for under the names that it gave them, and changes nothing
(`Leads.importPackages`, `Leads.importedName_eq`, `Leads.errorsNameIn_eq`, `Leads.requalify_eq`).
-/

namespace TaggedUnion

open Source TaggedUnion.Types Syntax

namespace Draft

variable {s : Subject} {d e D : Draft} {path base name : String} {i : Import}

/-! ## Undeclared names -/

/-- No name of the table is declared by the package that the code is for. -/
def Undeclared (s : Subject) (d : Draft) : Prop :=
  ∀ entry ∈ d.imports, s.declares entry.1 = false

theorem Undeclared.enter (h : d.Undeclared s) (hname : d.admits s path name = true) (i : Import) :
    (d.enter name i).Undeclared s := by
  intro entry hentry
  cases hl : d.imports.lookup name with
  | some j =>
    rw [enter_of_lookup hl] at hentry
    exact h entry hentry
  | none =>
    rw [enter_of_lookup_none hl] at hentry
    rw [admits_of_lookup_none hl, Bool.not_eq_true'] at hname
    rcases List.mem_append.1 hentry with hold | hnew
    · exact h entry hold
    · exact List.mem_singleton.1 hnew ▸ hname

theorem kept_undeclared (s : Subject) : Kept s (Undeclared s) where
  frame _ _ himports _ h := by rwa [Undeclared, himports]
  importPackage d path h := by
    by_cases hforeign : Foreign s d path
    · obtain ⟨name, hname, heq⟩ := importPackage_of_foreign hforeign
      rw [heq]
      exact h.enter (admits_of_importName? hname) _
    · rwa [importPackage_of_not_foreign hforeign]
  importedName d path h := by
    by_cases hc : d.names.current path = ""
    · rwa [importedName_of_empty s hc]
    · obtain ⟨name, hname, heq⟩ := importedName_of_ne_empty s hc
      rw [heq]
      exact h.enter (admits_of_importName? hname) _

theorem Undeclared.writeUnions (h : d.Undeclared s) (unions : List Built) :
    (unions.foldl (Session.writeUnion s) d).Undeclared s := by
  refine (kept_undeclared s).writeUnions (fun d hd => ?_) unions h
  obtain ⟨found, hfound, heq⟩ := errorsNameIn_eq_enter s d
  rw [← errorsNameIn_snd, heq]
  exact hd.enter (admits_of_importName? hfound) _

/-! ## Drafts on the way -/

/-- What was done to the draft so far shows in another one. -/
structure Leads (s : Subject) (d D : Draft) : Prop where
  imports : d.imports <+: D.imports
  named : ∀ path, D.names.current path = "" ↔ d.names.current path = ""
  current : ∀ path, D.names.current path = d.names.current path ∨
    D.importName? s path (d.names.current path) = some (D.names.current path)

theorem Leads.refl (s : Subject) (d : Draft) : d.Leads s d :=
  ⟨List.prefix_rfl, fun _ => .rfl, fun _ => .inl rfl⟩

/-- A search that found a name once finds it again: candidates before it are not admitted later either. -/
theorem importName?_again (hD : D.Undeclared s) (himports : d.imports <+: D.imports)
    (hname : d.importName? s path base = some name) (hl : D.imports.lookup name = some i) (hi : i.path = path) :
    D.importName? s path base = some name := by
  obtain ⟨hne, n, hn, rfl, -, hmin⟩ := importName?_eq_some_iff.1 hname
  have hlength := himports.length_le
  refine importName?_eq_some_iff.2 ⟨hne, n, by omega, rfl, ?_, fun m hm => ?_⟩
  · rw [admits_of_lookup hl, hi, beq_self_eq_true]
  · exact admits_eq_false_mono himports hD (hmin m hm)

/-- A package that is recorded is called so in whatever the draft leads to. -/
theorem Leads.recorded (h : d.Leads s D) (hrec : Recorded d path) :
    Recorded D path ∧ D.names.current path = d.names.current path := by
  obtain ⟨i, hl, hi⟩ := hrec
  have hl' := h.imports.lookup_eq_some hl
  have hcurrent : D.names.current path = d.names.current path := by
    refine (h.current path).elim id fun hfound => ?_
    have hne := (importName?_eq_some_iff.1 hfound).1
    rw [importName?_self hne hl' hi, Option.some_inj] at hfound
    exact hfound.symm
  exact ⟨⟨i, hcurrent ▸ hl', hi⟩, hcurrent⟩

section

variable (hD : D.Undeclared s)

include hD

/-- What was entered after a search is found again. -/
theorem Leads.search (h : (d.enter name i).Leads s D) (hname : d.importName? s path base = some name)
    (hi : i.path = path) :
    D.importName? s path base = some name ∧ ∃ j, D.imports.lookup name = some j ∧ j.path = path := by
  obtain ⟨j, hj, hpath⟩ := lookup_enter (admits_of_importName? hname) hi
  have hl := h.imports.lookup_eq_some hj
  exact ⟨importName?_again hD ((imports_prefix_enter _ _ _).trans h.imports) hname hl hpath, j, hl, hpath⟩

/-- Importing a package by reference leads on. -/
theorem Leads.of_importPackage (h : (d.importPackage s path).Leads s D) : d.Leads s D := by
  refine ⟨(imports_prefix_importPackage s d path).trans h.imports,
    fun other => (h.named other).trans current_importPackage_eq_empty_iff, fun other => ?_⟩
  by_cases hother : other = path
  · subst hother
    by_cases hforeign : Foreign s d other
    · have hrecorded := (h.recorded (recorded_importPackage hforeign)).2
      obtain ⟨name, hname, heq⟩ := importPackage_of_foreign hforeign
      obtain ⟨j, hj, hpath⟩ :=
        lookup_enter (i := ⟨other, name != d.names.current other⟩) (admits_of_importName? hname) rfl
      have hgrow : (d.enter name ⟨other, name != d.names.current other⟩).imports <+: D.imports := by
        rw [heq] at h
        exact h.imports
      rw [heq, PackageNames.current_rename_self] at hrecorded
      rw [hrecorded]
      exact .inr (importName?_again hD ((imports_prefix_enter _ _ _).trans hgrow) hname
        (hgrow.lookup_eq_some hj) hpath)
    · rw [importPackage_of_not_foreign hforeign] at h
      exact h.current other
  · have hsame := h.current other
    rwa [current_importPackage_of_ne s d hother] at hsame

end

/-- Entering a name leads on. -/
theorem Leads.of_eq_enter (h : e.Leads s D) (heq : e = d ∨ ∃ found i, e = d.enter found i) : d.Leads s D := by
  obtain ⟨himports, hnames⟩ := imports_prefix_of_eq_enter heq
  exact ⟨himports.trans h.imports, hnames ▸ h.named, hnames ▸ h.current⟩

theorem kept_not_leads (hD : D.Undeclared s) : Kept s fun d => ¬d.Leads s D where
  frame _ _ himports hnames h hlead := h ⟨himports ▸ hlead.imports, hnames ▸ hlead.named, hnames ▸ hlead.current⟩
  importPackage _ _ h hlead := h (hlead.of_importPackage hD)
  importedName d path h hlead := h (hlead.of_eq_enter (importedName_eq s d path))

/-- All operations lead on. -/
theorem operations_not_leads (hD : D.Undeclared s) (types : List Ty) :
    Operations s types (fun d e => d = e ∧ ¬d.Leads s D) (fun _ _ => False) fun _ => True :=
  (kept_not_leads hD).operations (fun d h hlead => h (hlead.of_eq_enter (request_eq s d _ _))) types

/-- What a computation leads to, the draft before it leads to. -/
theorem Leads.before {α : Type} {agree : Prop} {m : StateM Draft α}
    (hm : Lockstep (fun d e => d = e ∧ ¬d.Leads s D) (fun _ _ => False) agree m) (h : (m d).2.Leads s D) :
    d.Leads s D :=
  by_contra fun hnot => hm.keeps hnot h

/-! ## Doing it again -/

/-- The draft has the table and the names of another one. -/
structure Rests (D e : Draft) : Prop where
  imports : e.imports = D.imports
  current : ∀ path, e.names.current path = D.names.current path

theorem Rests.refl (D : Draft) : D.Rests D :=
  ⟨rfl, fun _ => rfl⟩

theorem Rests.importName?_eq (h : D.Rests e) (s : Subject) (path base : String) :
    e.importName? s path base = D.importName? s path base := by
  have hadmits : e.admits s path = D.admits s path := by
    funext name
    rw [admits, admits, h.imports]
  rw [importName?, importName?, hadmits, h.imports]

theorem imports_importPackages_of_recorded {paths : List String}
    (h : ∀ path ∈ paths, Foreign s d path → Recorded d path) : (d.importPackages s paths).imports = d.imports := by
  induction paths generalizing d with
  | nil => rfl
  | cons path rest ih =>
    rw [importPackages_cons]
    by_cases hforeign : Foreign s d path
    · obtain ⟨i, hl, hi⟩ := h path List.mem_cons_self hforeign
      obtain ⟨name, hname, heq⟩ := importPackage_of_foreign hforeign
      rw [importName?_self hforeign.named hl hi, Option.some_inj] at hname
      subst hname
      have himports : (d.importPackage s path).imports = d.imports := by rw [heq, enter_of_lookup hl]
      rw [ih fun other hother hf => ?_, himports]
      have hnamed : d.names.current other ≠ "" := fun hc => hf.named (current_importPackage_eq_empty_iff.2 hc)
      exact (h other (List.mem_cons_of_mem _ hother) ⟨hf.ne_empty, hf.ne_self, hnamed⟩).importPackage s path
    · rw [importPackage_of_not_foreign hforeign]
      exact ih fun other hother => h other (List.mem_cons_of_mem _ hother)

/-- Packages that were imported by reference on the way are recorded. -/
theorem Leads.importPackages {paths : List String} (h : (d.importPackages s paths).Leads s D) (he : D.Rests e) :
    D.Rests (e.importPackages s paths) := by
  have hrec : ∀ path ∈ paths, Foreign s e path → Recorded e path := by
    intro path hpath hforeign
    have hnamed : d.names.current path ≠ "" := fun hc => hforeign.named <| by
      rw [he.current, h.named]
      exact current_importPackages_eq_empty_iff.2 hc
    obtain ⟨i, hl, hi⟩ :=
      (h.recorded (recorded_importPackages hpath ⟨hforeign.ne_empty, hforeign.ne_self, hnamed⟩)).1
    exact ⟨i, by rw [he.imports, he.current, hl], hi⟩
  exact ⟨(imports_importPackages_of_recorded hrec).trans he.imports,
    fun path => (current_importPackages_of_recorded hrec path).trans (he.current path)⟩

section

variable (hD : D.Undeclared s) (he : D.Rests e)

include hD he

/-- A package that was imported for a qualifier on the way is found under the same name. -/
theorem Leads.importedName_eq (h : (importedName s path d).2.Leads s D) :
    importedName s path e = ((importedName s path d).1, e) := by
  by_cases hc : d.names.current path = ""
  · rw [importedName_of_empty s hc] at h ⊢
    exact importedName_of_empty s (by rw [he.current, h.named, hc])
  · obtain ⟨found, hfound, heq⟩ := importedName_of_ne_empty s hc
    rw [heq] at h ⊢
    obtain ⟨hsearch, j, hl, hj⟩ := h.search hD hfound rfl
    have hcurrent := h.current path
    rw [names_enter, hsearch, Option.some_inj] at hcurrent
    have hagain : e.importName? s path (e.names.current path) = some found := by
      rw [he.importName?_eq, he.current]
      rcases hcurrent with hsame | hrenamed
      · rw [hsame, hsearch]
      · exact hrenamed ▸ importName?_self (importName?_ne_empty hfound) hl hj
    have hce : e.names.current path ≠ "" := (importName?_eq_some_iff.1 hagain).1
    obtain ⟨found', hfound', heq'⟩ := importedName_of_ne_empty s hce
    rw [hagain, Option.some_inj] at hfound'
    subst hfound'
    rw [heq', enter_of_lookup (he.imports ▸ hl)]

/-- The package of errors is found under the same name. -/
theorem Leads.errorsNameIn_eq (h : (errorsNameIn s d).2.Leads s D) :
    errorsNameIn s e = ((errorsNameIn s d).1, e) := by
  obtain ⟨found, hfound, heq⟩ := errorsNameIn_eq_enter s d
  obtain ⟨found', hfound', heq'⟩ := errorsNameIn_eq_enter s e
  rw [heq] at h ⊢
  obtain ⟨hsearch, j, hl, -⟩ := h.search hD hfound rfl
  rw [he.importName?_eq, hsearch, Option.some_inj] at hfound'
  subst hfound'
  rw [heq', enter_of_lookup (he.imports ▸ hl)]

/-- An expression that was requalified on the way is requalified in the same way. -/
theorem Leads.requalify_eq {x : Expr} (h : (requalify s x d).2.Leads s D) :
    requalify s x e = ((requalify s x d).1, e) := by
  have hname : ∀ path, Abreast (fun _ f => f = e) (fun d _ => ¬d.Leads s D)
      (importedName s path) (importedName s path) := by
    refine fun path => ⟨?_, fun d _ => (kept_not_leads hD).importedName d path, fun _ _ hd => hd⟩
    rintro d _ rfl
    by_cases hd : (importedName s path d).2.Leads s D
    · rw [hd.importedName_eq hD he]
      exact .inl ⟨rfl, rfl⟩
    · exact .inr hd
  rcases (abreast_requalify ⟨rfl, hname⟩ x).step d e rfl with ⟨hres, hdraft⟩ | hnot
  · exact Prod.ext hres.symm hdraft
  · exact absurd h hnot

end

end Draft

end TaggedUnion
