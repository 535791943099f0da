import Mathlib.Data.List.Infix
import TaggedUnion.Code.Requalify
import TaggedUnion.Proofs.Name.Candidate

/-!
# The import table

What the two ways to import a package do to the table of imports and to the names of packages.

* A package that has a name always gets one in the code, the first admitted candidate of the name it
  starts from (`importName?_eq_some_iff`, `exists_importName?`).
* The table only grows at its end (`imports_prefix_importPackage`, `imports_prefix_importPath`), so
  what a name stands for never changes.
* Importing a package by a reference to it makes it *recorded*: its current name is a name of the
  table that stands for it (`recorded_importPackage`). It stays recorded whatever is imported later.
-/

namespace TaggedUnion

open Source TaggedUnion.Types Syntax

namespace PackageNames

theorem current_rename (names : PackageNames) (path name other : String) :
    (names.rename path name).current other = if other = path then name else names.current other := by
  rw [current, rename, List.lookup_cons]
  by_cases h : other = path
  · simp [h]
  · have hne : (other == path) = false := by simpa using h
    rw [hne, if_neg h]
    rfl

@[simp] theorem current_rename_self (names : PackageNames) (path name : String) :
    (names.rename path name).current path = name := by
  rw [current_rename, if_pos rfl]

theorem current_rename_of_ne (names : PackageNames) {path other : String} (name : String)
    (h : other ≠ path) : (names.rename path name).current other = names.current other := by
  rw [current_rename, if_neg h]

end PackageNames

theorem Subject.declares_eq_false_iff {s : Subject} {name : String} :
    s.declares name = false ↔ name ∉ s.objects.map (·.name) := by
  simp [Subject.declares]

namespace Draft

variable {s : Subject} {d : Draft} {path name base : String} {i : Import}

/-! ## Entries -/

theorem mem_of_lookup (h : d.imports.lookup name = some i) : (name, i) ∈ d.imports := by
  obtain ⟨l, r, hlr, -⟩ := List.lookup_eq_some_iff.1 h
  rw [hlr]
  exact List.mem_append_right _ List.mem_cons_self

theorem admits_of_lookup (h : d.imports.lookup name = some i) :
    d.admits s path name = (i.path == path) := by
  rw [admits, h]

theorem admits_of_lookup_none (h : d.imports.lookup name = none) :
    d.admits s path name = !s.declares name := by
  rw [admits, h]

/-- A name that is not admitted stands for something else, or is declared by the package itself. -/
theorem mem_of_admits_eq_false (h : d.admits s path name = false) :
    name ∈ d.imports.map (·.1) ++ s.objects.map (·.name) := by
  rw [List.mem_append]
  cases hl : d.imports.lookup name with
  | some i =>
    exact .inl (List.mem_map.2 ⟨(name, i), mem_of_lookup hl, rfl⟩)
  | none =>
    rw [admits_of_lookup_none hl, Bool.not_eq_false'] at h
    refine .inr (by_contra fun hmem => ?_)
    rw [Subject.declares_eq_false_iff.2 hmem] at h
    exact Bool.false_ne_true h

theorem enter_of_lookup (h : d.imports.lookup name = some i) (j : Import) : d.enter name j = d := by
  rw [enter, h, Option.isSome_some, if_pos rfl]

theorem enter_of_lookup_none (h : d.imports.lookup name = none) (j : Import) :
    d.enter name j = { d with imports := d.imports ++ [(name, j)] } := by
  rw [enter, h, Option.isSome_none, if_neg Bool.false_ne_true]

theorem imports_prefix_enter (d : Draft) (name : String) (i : Import) :
    d.imports <+: (d.enter name i).imports := by
  rw [enter]
  split
  · exact List.prefix_rfl
  · exact List.prefix_append _ _

@[simp] theorem names_enter (d : Draft) (name : String) (i : Import) :
    (d.enter name i).names = d.names := by
  rw [enter]
  split <;> rfl

@[simp] theorem text_enter (d : Draft) (name : String) (i : Import) :
    (d.enter name i).text = d.text := by
  rw [enter]
  split <;> rfl

@[simp] theorem adapted_enter (d : Draft) (name : String) (i : Import) :
    (d.enter name i).adapted = d.adapted := by
  rw [enter]
  split <;> rfl

/-- After an admitted name was entered for a package, it stands for that package. -/
theorem lookup_enter (h : d.admits s path name = true) (hi : i.path = path) :
    ∃ j, (d.enter name i).imports.lookup name = some j ∧ j.path = path := by
  cases hl : d.imports.lookup name with
  | some j =>
    rw [admits_of_lookup hl] at h
    exact ⟨j, by rw [enter_of_lookup hl, hl], eq_of_beq h⟩
  | none => exact ⟨i, by simp [enter_of_lookup_none hl, List.lookup_append, hl], hi⟩

/-! ## Searches -/

/-- The name of an imported package is the first admitted candidate of the name that is tried. -/
theorem importName?_eq_some_iff :
    d.importName? s path base = some name ↔
      base ≠ "" ∧ ∃ n ≤ d.imports.length + s.objects.length, name = Name.candidate base n ∧
        d.admits s path name = true ∧ ∀ m < n, d.admits s path (Name.candidate base m) = false :=
  Name.search?_eq_some_iff

/-- There always is a name to import a package under. -/
theorem exists_importName? (s : Subject) (d : Draft) (path : String) (hb : base ≠ "") :
    ∃ name, d.importName? s path base = some name :=
  Name.exists_search? hb (d.imports.map (·.1) ++ s.objects.map (·.name)) (by simp)
    fun _ h => mem_of_admits_eq_false h

theorem admits_of_importName? (h : d.importName? s path base = some name) :
    d.admits s path name = true := by
  obtain ⟨-, -, -, -, hok, -⟩ := importName?_eq_some_iff.1 h
  exact hok

theorem importName?_ne_empty (h : d.importName? s path base = some name) : name ≠ "" := by
  obtain ⟨hb, n, -, rfl, -⟩ := importName?_eq_some_iff.1 h
  exact Name.candidate_ne_empty hb n

/-- A name that stands for the package is kept. -/
theorem importName?_self (hb : base ≠ "") (h : d.imports.lookup base = some i) (hi : i.path = path) :
    d.importName? s path base = some base :=
  Name.search?_self hb (by rw [admits_of_lookup h]; exact beq_iff_eq.2 hi)

/-! ## Importing by reference -/

/-- Whether a reference to a package calls for an import: it is another package than the one that
the code is for, and it has a name. -/
structure Foreign (s : Subject) (d : Draft) (path : String) : Prop where
  ne_empty : path ≠ ""
  ne_self : path ≠ s.path
  named : d.names.current path ≠ ""

theorem importPackage_of_not_foreign (h : ¬Foreign s d path) : d.importPackage s path = d := by
  rw [importPackage]
  by_cases hp : path = ""
  · simp [hp]
  by_cases hs : path = s.path
  · simp [hs]
  have hc : d.names.current path = "" := by_contra fun hc => h ⟨hp, hs, hc⟩
  have hnone : d.importName? s path (d.names.current path) = none := by
    rw [importName?, Name.search?, hc]
    rfl
  simp [hp, hs, hnone]

/-- Importing a package by reference searches from its current name, enters what is found and calls
the package so. -/
theorem importPackage_of_foreign (h : Foreign s d path) :
    ∃ name, d.importName? s path (d.names.current path) = some name ∧
      d.importPackage s path =
        { d.enter name ⟨path, name != d.names.current path⟩ with
          names := d.names.rename path name } := by
  obtain ⟨name, hname⟩ := exists_importName? s d path h.named
  refine ⟨name, hname, ?_⟩
  rw [importPackage]
  simp [h.ne_empty, h.ne_self, hname]

theorem imports_prefix_importPackage (s : Subject) (d : Draft) (path : String) :
    d.imports <+: (d.importPackage s path).imports := by
  by_cases h : Foreign s d path
  · obtain ⟨name, -, heq⟩ := importPackage_of_foreign h
    rw [heq]
    exact imports_prefix_enter _ _ _
  · rw [importPackage_of_not_foreign h]

@[simp] theorem text_importPackage (s : Subject) (d : Draft) (path : String) :
    (d.importPackage s path).text = d.text := by
  by_cases h : Foreign s d path
  · obtain ⟨name, -, heq⟩ := importPackage_of_foreign h
    rw [heq]
    exact text_enter _ _ _
  · rw [importPackage_of_not_foreign h]

/-- Only the package that is imported gets another name. -/
theorem current_importPackage_of_ne {other : String} (s : Subject) (d : Draft) (h : other ≠ path) :
    (d.importPackage s path).names.current other = d.names.current other := by
  by_cases hf : Foreign s d path
  · obtain ⟨name, -, heq⟩ := importPackage_of_foreign hf
    rw [heq]
    exact PackageNames.current_rename_of_ne _ _ h
  · rw [importPackage_of_not_foreign hf]

/-- A package that has no name gets none, one that has a name never loses it. -/
theorem current_importPackage_eq_empty_iff {other : String} :
    (d.importPackage s path).names.current other = "" ↔ d.names.current other = "" := by
  by_cases h : other = path
  · subst h
    by_cases hf : Foreign s d other
    · obtain ⟨name, hname, heq⟩ := importPackage_of_foreign hf
      rw [heq]
      simp [importName?_ne_empty hname, hf.named]
    · rw [importPackage_of_not_foreign hf]
  · rw [current_importPackage_of_ne s d h]

/-- An entry that importing a package by reference leaves, and that is not for that package, was
there before. -/
theorem lookup_of_importPackage (h : (d.importPackage s path).imports.lookup name = some i)
    (hp : i.path ≠ path) : d.imports.lookup name = some i := by
  by_cases hf : Foreign s d path
  · obtain ⟨found, -, heq⟩ := importPackage_of_foreign hf
    rw [heq] at h
    cases hl : d.imports.lookup found with
    | some j => rwa [enter_of_lookup hl] at h
    | none =>
      rw [enter_of_lookup_none hl, List.lookup_append, Option.or_eq_some_iff] at h
      rcases h with h | ⟨-, h⟩
      · exact h
      · rw [List.lookup_cons] at h
        split at h
        · cases h
          exact absurd rfl hp
        · cases h
  · rwa [importPackage_of_not_foreign hf] at h

/-! ## Importing by path -/

/-- What a package is taken to be called when it is imported by its path and a name. -/
def knownName (s : Subject) (d : Draft) (path name : String) : String :=
  if s.imports.contains path then d.names.current path else name

/-- Importing a package by its path enters what is found, and renames nothing. -/
theorem importPath_eq_some_iff (hn : name ≠ "") {found : String} {e : Draft} :
    d.importPath s path name = some (found, e) ↔
      d.importName? s path name = some found ∧
        e = d.enter found ⟨path, found != knownName s d path name⟩ := by
  have hne : (name == "") = false := by simpa using hn
  rw [importPath]
  simp only [hne, Bool.false_eq_true, if_false, Option.map_eq_some_iff, Prod.mk.injEq]
  constructor
  · rintro ⟨_, h, rfl, rfl⟩
    exact ⟨h, rfl⟩
  · rintro ⟨h, rfl⟩
    exact ⟨found, h, rfl, rfl⟩

/-- The draft after a package was imported by its path, whatever the name. -/
theorem importPath_eq_enter {found : String} {e : Draft}
    (h : d.importPath s path name = some (found, e)) : ∃ i, e = d.enter found i := by
  rw [importPath] at h
  simp only [Option.map_eq_some_iff, Prod.mk.injEq] at h
  obtain ⟨_, -, rfl, rfl⟩ := h
  exact ⟨_, rfl⟩

/-- For requalified names a package is searched from its current name, whoever imports it. -/
theorem importedName_of_ne_empty (s : Subject) (hc : d.names.current path ≠ "") :
    ∃ found, d.importName? s path (d.names.current path) = some found ∧
      importedName s path d = (found, d.enter found ⟨path, found != d.names.current path⟩) := by
  obtain ⟨found, hfound⟩ := exists_importName? s d path hc
  refine ⟨found, hfound, ?_⟩
  have hpath := (importPath_eq_some_iff hc).2 ⟨hfound, rfl⟩
  rw [importedName, hpath, Option.getD_some, knownName, ite_self]

/-- A package without a name is not imported for requalified names. -/
theorem importedName_of_empty (s : Subject) (hc : d.names.current path = "") :
    importedName s path d = ("", d) := by
  have hnone : ∀ base, base = "" → d.importName? s path base = none := by
    rintro _ rfl
    rw [importName?, Name.search?]
    rfl
  rw [importedName, importPath]
  simp [hc, hnone]

theorem imports_prefix_importPath {found : String} {e : Draft}
    (h : d.importPath s path name = some (found, e)) : d.imports <+: e.imports := by
  obtain ⟨i, rfl⟩ := importPath_eq_enter h
  exact imports_prefix_enter _ _ _

theorem names_importPath {found : String} {e : Draft}
    (h : d.importPath s path name = some (found, e)) : e.names = d.names := by
  obtain ⟨i, rfl⟩ := importPath_eq_enter h
  exact names_enter _ _ _

/-! ## Recorded packages -/

/-- A package is *recorded* if its current name stands for it in the table. -/
def Recorded (d : Draft) (path : String) : Prop :=
  ∃ i, d.imports.lookup (d.names.current path) = some i ∧ i.path = path

/-- A recorded package stays so while the table grows and the package keeps its name. -/
theorem Recorded.mono {e : Draft} (h : Recorded d path) (himports : d.imports <+: e.imports)
    (hname : e.names.current path = d.names.current path) : Recorded e path := by
  obtain ⟨i, hi, hp⟩ := h
  exact ⟨i, by rw [hname]; exact himports.lookup_eq_some hi, hp⟩

/-- A package is recorded once it was imported by reference. -/
theorem recorded_importPackage (h : Foreign s d path) : Recorded (d.importPackage s path) path := by
  obtain ⟨name, hname, heq⟩ := importPackage_of_foreign h
  obtain ⟨i, hi, hp⟩ :=
    lookup_enter (i := ⟨path, name != d.names.current path⟩) (admits_of_importName? hname) rfl
  refine ⟨i, ?_, hp⟩
  rw [heq]
  simpa using hi

/-- Whatever is imported by reference, recorded packages stay recorded. -/
theorem Recorded.importPackage {other : String} (h : Recorded d other) (s : Subject) (path : String) :
    Recorded (d.importPackage s path) other := by
  by_cases hf : Foreign s d path
  · by_cases heq : other = path
    · subst heq
      exact recorded_importPackage hf
    · exact h.mono (imports_prefix_importPackage s d path) (current_importPackage_of_ne s d heq)
  · rwa [importPackage_of_not_foreign hf]

theorem Recorded.importPath {other found : String} {e : Draft} (h : Recorded d other)
    (he : d.importPath s path name = some (found, e)) : Recorded e other :=
  h.mono (imports_prefix_importPath he) (by rw [names_importPath he])

end Draft

end TaggedUnion
