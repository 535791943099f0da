import TaggedUnion.Proofs.Batch.Results
import TaggedUnion.Proofs.Code.Qualifiers

/-!
# Twin drafts

The code of one package, made twice: with the names that packages have at first, and with later
ones. As long as nothing refers to a package that has another name by then, the drafts are *twins*
(`Twin`): their tables and texts are the same. From the first such reference on they are *apart*
(`Apart`): a table is entered under different names or with different flags, since a numbered name
leads to other candidates than the name itself does, or a text goes on with different qualifiers.

All operations that code is made with keep this (`operations_twin`), so the code of a package is one
or the other (`twin_or_apart`). The package of errors, which is requested under a fixed name, must
not have another name.
-/

namespace TaggedUnion

open Source TaggedUnion.Types Syntax

/-- The packages whose current names the text of a type shows in code that goes into a package. -/
def Types.Ty.shown (s : Subject) (t : Ty) : List String :=
  t.mentions.filter fun home => home ≠ "" && home ≠ s.path

/-- All of the packages have the same name later. -/
def PackageNames.AgreesOn (names later : PackageNames) (paths : List String) : Prop :=
  ∀ path ∈ paths, later.current path = names.current path

namespace Draft

/-- The packages that the names of the table stand for. -/
def paths (d : Draft) : List String :=
  d.imports.map (·.2.path)

/-! ## Drafts that go on -/

/-- A draft goes on as another: entries and text are added at the end. -/
def Grows (d e : Draft) : Prop :=
  d.imports <+: e.imports ∧ ∃ u, e.text = d.text ++ u

theorem Grows.of_text_eq {d e : Draft} (himports : d.imports <+: e.imports)
    (htext : e.text = d.text) : d.Grows e :=
  ⟨himports, "", by rw [htext, String.append_empty]⟩

theorem Grows.refl (d : Draft) : d.Grows d :=
  .of_text_eq List.prefix_rfl rfl

theorem grows_write (d : Draft) (text : String) : d.Grows (d.write text) :=
  ⟨List.prefix_rfl, text, rfl⟩

theorem grows_enter (d : Draft) (name : String) (i : Import) : d.Grows (d.enter name i) :=
  .of_text_eq (imports_prefix_enter _ _ _) (text_enter _ _ _)

theorem grows_of_eq_enter {d e : Draft} (h : e = d ∨ ∃ found i, e = d.enter found i) : d.Grows e := by
  rcases h with rfl | ⟨found, i, rfl⟩
  · exact .refl _
  · exact grows_enter _ _ _

theorem mem_paths_enter {d : Draft} {name path : String} {i : Import}
    (h : path ∈ (d.enter name i).paths) : path ∈ d.paths ∨ path = i.path := by
  rw [enter] at h
  split at h
  · exact .inl h
  · simpa [paths] using h

/-- A package of which a name stands in the table is among its packages. -/
theorem mem_paths_of_lookup {d : Draft} {name : String} {i : Import}
    (h : d.imports.lookup name = some i) : i.path ∈ d.paths :=
  List.mem_map.2 ⟨(name, i), mem_of_lookup h, rfl⟩

/-! ## Twins -/

/-- The drafts of two runs that came to the same so far, with names that may be different later.
Packages of another name were not referred to, and still have the name they started with. -/
structure Twin (names later : PackageNames) (d e : Draft) : Prop where
  imports : d.imports = e.imports
  text : d.text = e.text
  adapted : d.adapted = e.adapted
  same : ∀ path, later.current path = names.current path → e.names.current path = d.names.current path
  changed : ∀ path, later.current path ≠ names.current path →
    path ∉ d.paths ∧ d.names.current path = names.current path ∧
      e.names.current path = later.current path

namespace Twin

variable {names later : PackageNames} {d e : Draft} {s : Subject} {path name base : String}
  {i : Import}

theorem start (names later : PackageNames) : Twin names later { names } { names := later } where
  imports := rfl
  text := rfl
  adapted := rfl
  same _ h := h
  changed _ _ := ⟨List.not_mem_nil, rfl, rfl⟩

theorem eq_empty_iff (h : Twin names later d e) (hl : names.Later later) (path : String) :
    e.names.current path = "" ↔ d.names.current path = "" := by
  by_cases hsame : later.current path = names.current path
  · rw [h.same path hsame]
  · obtain ⟨-, hd, he⟩ := h.changed path hsame
    rw [hd, he, hl.eq_empty_iff]

theorem importName?_eq (h : Twin names later d e) (s : Subject) (path base : String) :
    e.importName? s path base = d.importName? s path base := by
  have hadmits : e.admits s path = d.admits s path := by
    funext name
    rw [admits, admits, h.imports]
  rw [importName?, importName?, hadmits, h.imports]

theorem write (h : Twin names later d e) (text : String) :
    Twin names later (d.write text) (e.write text) :=
  { h with text := congrArg (· ++ text) h.text }

/-- Entering a name for a package that keeps its name. -/
theorem enter (h : Twin names later d e) (name : String)
    (hi : later.current i.path = names.current i.path) :
    Twin names later (d.enter name i) (e.enter name i) where
  imports := by
    rw [Draft.enter, Draft.enter, h.imports]
    split
    · exact h.imports
    · rfl
  text := by rw [text_enter, text_enter, h.text]
  adapted := by rw [adapted_enter, adapted_enter, h.adapted]
  same path hpath := by rw [names_enter, names_enter, h.same path hpath]
  changed path hpath := by
    rw [names_enter, names_enter]
    refine ⟨fun hmem => ?_, (h.changed path hpath).2⟩
    rcases mem_paths_enter hmem with hmem | rfl
    · exact (h.changed path hpath).1 hmem
    · exact hpath hi

/-- Naming a package that keeps its name. -/
theorem rename (h : Twin names later d e) (hpath : later.current path = names.current path)
    (name : String) :
    Twin names later { d with names := d.names.rename path name }
      { e with names := e.names.rename path name } where
  imports := h.imports
  text := h.text
  adapted := h.adapted
  same other hother := by
    rw [PackageNames.current_rename, PackageNames.current_rename, h.same other hother]
  changed other hother := by
    have hne : other ≠ path := fun heq => hother (heq ▸ hpath)
    rw [PackageNames.current_rename_of_ne _ _ hne, PackageNames.current_rename_of_ne _ _ hne]
    exact h.changed other hother

/-- A package with another name is not in the table, so it is entered under a name that is free. -/
theorem lookup_eq_none (h : Twin names later d e)
    (hchanged : later.current path ≠ names.current path)
    (hname : d.importName? s path base = some name) : d.imports.lookup name = none := by
  have hok := admits_of_importName? hname
  cases hl : d.imports.lookup name with
  | none => rfl
  | some j =>
    rw [admits_of_lookup hl, beq_iff_eq] at hok
    exact absurd (hok ▸ mem_paths_of_lookup hl) (h.changed path hchanged).1

end Twin

/-! ## Drafts that came apart -/

/-- The drafts of two runs that referred to a package that has another name later. -/
inductive Apart (s : Subject) (types : List Ty) (names later : PackageNames) (d e : Draft) : Prop
  /-- The tables have different entries at one place, for such a package. -/
  | table (k : ℕ) (x y : String × Import) (hx : d.imports[k]? = some x) (hy : e.imports[k]? = some y)
      (hne : x ≠ y) (hchanged : later.current x.2.path ≠ names.current x.2.path)
  /-- The texts go on in different ways, where a type shows such a package. -/
  | text (t : Ty) (ht : t ∈ types) (hdiv : Diverge d.text e.text)
      (hchanged : ¬names.AgreesOn later (t.shown s))

variable {names later : PackageNames} {d e : Draft} {s : Subject} {types : List Ty} {path : String}

namespace Apart

/-- What came apart stays apart. -/
theorem mono {d' e' : Draft} (h : Apart s types names later d e) (hd : d.Grows d') (he : e.Grows e') :
    Apart s types names later d' e' := by
  obtain ⟨⟨rest, hrest⟩, u, hu⟩ := hd
  obtain ⟨⟨rest', hrest'⟩, v, hv⟩ := he
  cases h with
  | table k x y hx hy hne hchanged =>
    have hget : ∀ {l r : List (String × Import)} {z}, l[k]? = some z → (l ++ r)[k]? = some z :=
      fun hz => by rw [List.getElem?_append_left (List.getElem?_eq_some_iff.1 hz).1, hz]
    exact .table k x y (hrest ▸ hget hx) (hrest' ▸ hget hy) hne hchanged
  | text t ht hdiv hchanged =>
    exact .text t ht (by rw [hu, hv]; exact hdiv.append u v) hchanged

/-- Drafts that came apart are different. -/
theorem ne (h : Apart s types names later d e) : ¬(e.imports = d.imports ∧ e.text = d.text) := by
  rintro ⟨himports, htext⟩
  cases h with
  | table k x y hx hy hne hchanged =>
    rw [himports, hx, Option.some_inj] at hy
    exact hne hy
  | text t ht hdiv hchanged => exact hdiv.ne htext.symm

/-- Drafts only come apart if a package in the table or one that a type shows has another name. -/
theorem exists_changed (h : Apart s types names later d e) :
    ¬names.AgreesOn later (d.paths ++ types.flatMap (·.shown s)) := by
  intro hagree
  cases h with
  | table k x y hx hy hne hchanged =>
    exact hchanged (hagree _ (List.mem_append_left _ (List.mem_map_of_mem (List.mem_of_getElem? hx))))
  | text t ht hdiv hchanged =>
    refine hchanged fun home hhome => hagree home (List.mem_append_right _ ?_)
    exact List.mem_flatMap.2 ⟨t, ht, hhome⟩

end Apart

/-- A package that has another name later is entered differently: under the names themselves, under
one of them and with an alias, or under numbered names, which are different. -/
theorem Twin.apart_enter {found found' : String} (h : Twin names later d e) (hl : names.Later later)
    (hchanged : later.current path ≠ names.current path)
    (hd : d.importName? s path (d.names.current path) = some found)
    (he : e.importName? s path (e.names.current path) = some found') :
    Apart s types names later (d.enter found ⟨path, found != d.names.current path⟩)
      (e.enter found' ⟨path, found' != e.names.current path⟩) := by
  -- Neither table has an entry for the package, so both names are entered, at the same place.
  have hfree := h.lookup_eq_none hchanged hd
  rw [h.importName?_eq] at he
  have hfree' := h.lookup_eq_none hchanged he
  obtain ⟨-, hbase, hbase'⟩ := h.changed path hchanged
  obtain ⟨-, hnum⟩ := (hl path).resolve_left hchanged
  obtain ⟨-, n, -, hfound, -⟩ := importName?_eq_some_iff.1 hd
  obtain ⟨-, n', -, hfound', -⟩ := importName?_eq_some_iff.1 he
  rw [hbase] at hfound ⊢
  rw [hbase'] at hfound' ⊢
  rw [enter_of_lookup_none hfree, enter_of_lookup_none (h.imports ▸ hfree')]
  have hentry : (found, (⟨path, found != names.current path⟩ : Import)) ≠
      (found', ⟨path, found' != later.current path⟩) := by
    intro heq
    obtain ⟨hname, hi⟩ := Prod.ext_iff.1 heq
    have halias : (found != names.current path) = (found' != later.current path) :=
      congrArg Import.hasAlias hi
    dsimp only at hname
    cases n' with
    | zero =>
      -- The later name itself: then the other is the name itself as well, but these two differ.
      change found' = later.current path at hfound'
      rw [hfound', bne_self_eq_false, bne_eq_false_iff_eq, hname, hfound'] at halias
      exact hchanged halias
    | succ m =>
      refine Name.candidate_ne_of_numbered hnum m n ?_
      rw [← hfound, ← hfound', hname]
  refine .table d.imports.length _ _ List.getElem?_concat_length ?_ hentry hchanged
  rw [h.imports]
  exact List.getElem?_concat_length

/-! ## Texts of types -/

/-- Twins write a type in one way if the packages that it shows have the same names, and otherwise
in ways that diverge. -/
theorem Twin.typeText (h : Twin names later d e) (hl : names.Later later)
    (hdot : ∀ path, '.' ∉ (names.current path).toList) (s : Subject) (t : Ty) :
    t.text (e.qualifier s) = t.text (d.qualifier s) ∧ names.AgreesOn later (t.shown s) ∨
      Diverge (t.text (d.qualifier s)) (t.text (e.qualifier s)) ∧
        ¬names.AgreesOn later (t.shown s) := by
  -- The drafts call a package the same iff it has the same name later.
  have hcur : ∀ path, e.names.current path = d.names.current path ↔
      later.current path = names.current path := by
    intro path
    refine ⟨fun heq => by_contra fun hchanged => ?_, h.same path⟩
    obtain ⟨-, hd, he⟩ := h.changed path hchanged
    exact hchanged (by rw [← he, heq, hd])
  rw [Ty.text_eq_written, Ty.text_eq_written]
  by_cases hagree : names.AgreesOn later (t.shown s)
  · refine .inl ⟨Piece.written_congr fun home hmem hne => ?_, hagree⟩
    by_cases hself : home = s.path
    · rw [hself, qualifier_self, qualifier_self]
    · rw [qualifier_of_ne hself, qualifier_of_ne hself, hcur]
      exact hagree home (List.mem_filter.2 ⟨hmem, by simp [hne, hself]⟩)
  · refine .inr ⟨Piece.written_diverge (fun home hq => ?_) (fun home => ?_) ?_, hagree⟩
    · have hself : home ≠ s.path := by
        rintro rfl
        exact hq (by rw [qualifier_self, qualifier_self])
      rw [qualifier_of_ne hself, qualifier_of_ne hself] at hq ⊢
      have hchanged : later.current home ≠ names.current home := fun heq => hq ((hcur home).2 heq)
      obtain ⟨-, hd, he⟩ := h.changed home hchanged
      rw [hd, he]
      exact ⟨hdot home, hl.dot_notMem (hdot home)⟩
    · by_cases hself : home = s.path
      · rw [hself, qualifier_self, qualifier_self]
      · rw [qualifier_of_ne hself, qualifier_of_ne hself, h.eq_empty_iff hl]
    · simp only [PackageNames.AgreesOn, not_forall] at hagree
      obtain ⟨home, hhome, hchanged⟩ := hagree
      obtain ⟨hmem, hfilter⟩ := List.mem_filter.1 hhome
      obtain ⟨hne, hself⟩ : home ≠ "" ∧ home ≠ s.path := by simpa using hfilter
      refine ⟨home, hmem, hne, ?_⟩
      rw [qualifier_of_ne hself, qualifier_of_ne hself, ne_eq, hcur]
      exact hchanged

/-! ## Operations on twins -/

/-- An operation that only adds to a draft runs in lockstep if twins stay twins or come apart. -/
theorem lockstep_of_grows {α : Type} {agree : Prop} {m : StateM Draft α}
    (hgrows : ∀ d : Draft, d.Grows (m d).2)
    (hstep : ∀ d e, Twin names later d e →
      (m d).1 = (m e).1 ∧ Twin names later (m d).2 (m e).2 ∧ agree ∨
        Apart s types names later (m d).2 (m e).2) :
    Lockstep (Twin names later) (Apart s types names later) agree m where
  step := hstep
  left d e h := h.mono (hgrows d) (.refl e)
  right d e h := h.mono (.refl d) (hgrows e)

theorem lockstep_importedName (hl : names.Later later) (path : String) :
    Lockstep (Twin names later) (Apart s types names later) True (importedName s path) := by
  refine lockstep_of_grows (fun d => grows_of_eq_enter (importedName_eq s d path)) fun d e h => ?_
  by_cases hd : d.names.current path = ""
  · rw [importedName_of_empty s hd, importedName_of_empty s ((h.eq_empty_iff hl path).2 hd)]
    exact .inl ⟨rfl, h, trivial⟩
  · have he : e.names.current path ≠ "" := fun he => hd ((h.eq_empty_iff hl path).1 he)
    obtain ⟨found, hfound, heq⟩ := importedName_of_ne_empty s hd
    obtain ⟨found', hfound', heq'⟩ := importedName_of_ne_empty s he
    rw [heq, heq']
    by_cases hsame : later.current path = names.current path
    · rw [h.importName?_eq, h.same path hsame, hfound, Option.some_inj] at hfound'
      subst hfound'
      rw [h.same path hsame]
      exact .inl ⟨rfl, h.enter found hsame, trivial⟩
    · exact .inr (h.apart_enter hl hsame hfound hfound')

theorem grows_importPackage (s : Subject) (d : Draft) (path : String) :
    d.Grows (d.importPackage s path) :=
  .of_text_eq (imports_prefix_importPackage s d path) (text_importPackage s d path)

theorem lockstep_importPackage (hl : names.Later later) (path : String) :
    Lockstep (Twin names later) (Apart s types names later) True
      (modify fun d => d.importPackage s path) := by
  refine lockstep_of_grows (fun d => grows_importPackage s d path) fun d e h => ?_
  change () = () ∧ Twin names later (d.importPackage s path) (e.importPackage s path) ∧ True ∨
    Apart s types names later (d.importPackage s path) (e.importPackage s path)
  by_cases hd : Foreign s d path
  · have he : Foreign s e path :=
      ⟨hd.ne_empty, hd.ne_self, fun he => hd.named ((h.eq_empty_iff hl path).1 he)⟩
    obtain ⟨found, hfound, heq⟩ := importPackage_of_foreign hd
    obtain ⟨found', hfound', heq'⟩ := importPackage_of_foreign he
    rw [heq, heq']
    by_cases hsame : later.current path = names.current path
    · rw [h.importName?_eq, h.same path hsame, hfound, Option.some_inj] at hfound'
      subst hfound'
      have htwin := (h.enter (i := ⟨path, found != d.names.current path⟩) found hsame).rename
        hsame found
      rw [names_enter, names_enter] at htwin
      rw [h.same path hsame]
      exact .inl ⟨rfl, htwin, trivial⟩
    · exact .inr ((h.apart_enter hl hsame hfound hfound').mono (.of_text_eq List.prefix_rfl rfl)
        (.of_text_eq List.prefix_rfl rfl))
  · have he : ¬Foreign s e path := fun he =>
      hd ⟨he.ne_empty, he.ne_self, fun hc => he.named ((h.eq_empty_iff hl path).2 hc)⟩
    rw [importPackage_of_not_foreign hd, importPackage_of_not_foreign he]
    exact .inl ⟨rfl, h, trivial⟩

/-- The package of errors is requested under a fixed name, so that twins stay twins if it keeps its
own. -/
theorem lockstep_errorsNameIn (herrors : later.current errorsPath = names.current errorsPath) :
    Lockstep (Twin names later) (Apart s types names later) True (errorsNameIn s) := by
  refine lockstep_of_grows (fun d => ?_) fun d e h => ?_
  · obtain ⟨found, -, hd⟩ := errorsNameIn_eq_enter s d
    rw [hd]
    exact grows_enter _ _ _
  · obtain ⟨found, hfound, hd⟩ := errorsNameIn_eq_enter s d
    obtain ⟨found', hfound', he⟩ := errorsNameIn_eq_enter s e
    -- What is found depends on the table only.
    rw [h.importName?_eq, hfound, Option.some_inj] at hfound'
    subst hfound'
    have hknown : knownName s e errorsPath errorsName = knownName s d errorsPath errorsName := by
      rw [knownName, knownName, h.same errorsPath herrors]
    rw [hd, he, hknown]
    exact .inl ⟨rfl, h.enter found herrors, trivial⟩

theorem lockstep_write (text : String) :
    Lockstep (Twin names later) (Apart s types names later) True (modify fun d => d.write text) :=
  lockstep_of_grows (fun d => grows_write d text) fun _ _ h => .inl ⟨rfl, h.write text, trivial⟩

/-- Where a type is written the runs agree on the packages that it shows, or they come apart. -/
theorem lockstep_writeType (hl : names.Later later) (hdot : ∀ path, '.' ∉ (names.current path).toList)
    (before after : String) {t : Ty} (ht : t ∈ types) :
    Lockstep (Twin names later) (Apart s types names later) (names.AgreesOn later (t.shown s))
      (modify fun d => d.writeType s before after t) := by
  have himport : Lockstep (Twin names later) (Apart s types names later) True
      (modify fun d => d.importType s t) := by
    simp only [importType_eq]
    exact (Lockstep.foldl t.homes fun path _ => lockstep_importPackage hl path).imp fun _ => trivial
  -- The text after the import, with the qualifiers that the packages have then.
  let text (d : Draft) : String := before ++ t.text (d.qualifier s) ++ after
  have hwrite : Lockstep (Twin names later) (Apart s types names later)
      (names.AgreesOn later (t.shown s)) (modify fun d => d.write (text d)) := by
    refine lockstep_of_grows (fun d => grows_write d _) fun d e h => ?_
    change () = () ∧ Twin names later (d.write (text d)) (e.write (text e)) ∧ _ ∨
      Apart s types names later (d.write (text d)) (e.write (text e))
    rcases h.typeText hl hdot s t with ⟨htext, hagree⟩ | ⟨hdiv, hchanged⟩
    · have heq : text e = text d := by simp only [text, htext]
      rw [heq]
      exact .inl ⟨rfl, h.write (text d), hagree⟩
    · -- The common start is what both texts were so far, and what stands before the type.
      refine .inr (.text t ht ?_ hchanged)
      change Diverge (d.text ++ text d) (e.text ++ text e)
      rw [← h.text]
      exact ((hdiv.prepend before).append after after).prepend d.text
  exact (himport.comp hwrite).imp And.right

/-- Everything that code is made with runs in lockstep on twins. -/
theorem operations_twin (hl : names.Later later) (hdot : ∀ path, '.' ∉ (names.current path).toList)
    (herrors : later.current errorsPath = names.current errorsPath) (s : Subject) (types : List Ty) :
    Operations s types (Twin names later) (Apart s types names later)
      fun t => names.AgreesOn later (t.shown s) where
  name := lockstep_importedName hl
  package := lockstep_importPackage hl
  errors := lockstep_errorsNameIn herrors
  write := lockstep_write
  writeType before after _ ht := lockstep_writeType hl hdot before after ht
  read x := lockstep_of_grows .refl fun d e h =>
    .inl ⟨by rw [currentExpr, currentExpr, h.adapted], h, trivial⟩
  remember pos x := lockstep_of_grows (fun d => .of_text_eq List.prefix_rfl rfl) fun d e h =>
    .inl ⟨rfl, { h with adapted := congrArg ((pos, x) :: ·) h.adapted }, trivial⟩

end Draft

/-- The code of a package, made with the names that packages have at first and with later ones: the
drafts are twins, and the packages that the types in it show have the same names; or they are
apart. -/
theorem Subject.twin_or_apart {names later : PackageNames} (hl : names.Later later)
    (hdot : ∀ path, '.' ∉ (names.current path).toList)
    (herrors : later.current errorsPath = names.current errorsPath) (s : Subject)
    (unions : List Built) :
    Draft.Twin names later (s.draftOf names unions) (s.draftOf later unions) ∧
        names.AgreesOn later ((payloads unions).flatMap (·.shown s)) ∨
      Draft.Apart s (payloads unions) names later (s.draftOf names unions)
        (s.draftOf later unions) := by
  have hmem : ∀ b ∈ unions, ∀ c ∈ b.conversions, c.payload ∈ payloads unions := fun b hb c hc =>
    List.mem_flatMap.2 ⟨b, hb, List.mem_map_of_mem hc⟩
  have hrun := (Draft.operations_twin hl hdot herrors s (payloads unions)).draft hmem
  rcases hrun.step _ _ (.start names later) with ⟨-, htwin, hagree⟩ | hapart
  · refine .inl ⟨htwin, fun home hhome => ?_⟩
    obtain ⟨t, ht, hhome⟩ := List.mem_flatMap.1 hhome
    obtain ⟨b, hb, ht⟩ := List.mem_flatMap.1 ht
    obtain ⟨c, hc, rfl⟩ := List.mem_map.1 ht
    exact hagree b hb c hc home hhome
  · exact .inr hapart

/-- The same table and text come about with later names iff the packages in the table, and those
that the types show, have the same names as before. -/
theorem Subject.draftOf_eq_iff {names later : PackageNames} (hl : names.Later later)
    (hdot : ∀ path, '.' ∉ (names.current path).toList)
    (herrors : later.current errorsPath = names.current errorsPath) (s : Subject)
    (unions : List Built) :
    ((s.draftOf later unions).imports = (s.draftOf names unions).imports ∧
        (s.draftOf later unions).text = (s.draftOf names unions).text) ↔
      names.AgreesOn later
        ((s.draftOf names unions).paths ++ (payloads unions).flatMap (·.shown s)) := by
  rcases s.twin_or_apart hl hdot herrors unions with ⟨htwin, hagree⟩ | hapart
  · refine iff_of_true ⟨htwin.imports.symm, htwin.text.symm⟩ fun path hpath => ?_
    rcases List.mem_append.1 hpath with hpath | hpath
    · exact by_contra fun hchanged => (htwin.changed path hchanged).1 hpath
    · exact hagree path hpath
  · exact iff_of_false hapart.ne hapart.exists_changed

end TaggedUnion
