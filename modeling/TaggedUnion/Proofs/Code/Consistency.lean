import TaggedUnion.Proofs.Code.Run

/-!
# The invariant of the import table

A package is named in two ways: an import by reference starts from its current name and gives it
another one, a request starts from the declared name and renames nothing. Both come to the same
name, whatever the order: every name in the table is the first candidate of the declared name of its
package that was not taken when it was entered, and what was taken then is taken ever after
(`Consistent.first`). So a package has at most one name in the table (`Consistent.name_unique`), and
any search for a package that has one finds it (`Consistent.search_new`), from whichever of its
names it starts.

All steps of a draft keep this (`kept_consistent`, `Consistent.request`), from which the theorem on
runs follows (`run_importTable`).
-/

namespace TaggedUnion.Draft

open TaggedUnion.Types

/-- What holds of the table and of the names of packages at any time, given the declared names. -/
structure Consistent (s : Subject) (declared : String → String) (d : Draft) : Prop where
  nodup : (d.imports.map (·.1)).Nodup
  undeclared : ∀ e ∈ d.imports, s.declares e.1 = false
  /-- A name is the first candidate of the declared name that is not taken. -/
  first : ∀ e ∈ d.imports, ∃ n, e.1 = Name.candidate (declared e.2.path) n ∧
    ∀ m < n, d.admits s e.2.path (Name.candidate (declared e.2.path) m) = false
  hasAlias : ∀ e ∈ d.imports, e.2.hasAlias = (e.1 != declared e.2.path)
  current : ∀ path, d.names.current path = "" ∨ d.names.current path = declared path ∨ Recorded d path
  /-- The packages that the package imports itself are known. -/
  known : ∀ path ∈ s.imports, d.names.current path ≠ ""

variable {s : Subject} {declared : String → String} {d : Draft} {path base found : String}

theorem lookup_of_mem (hnodup : (d.imports.map (·.1)).Nodup) {e : String × Import}
    (he : e ∈ d.imports) : d.imports.lookup e.1 = some e.2 := by
  obtain ⟨l, r, hlr⟩ := List.append_of_mem he
  refine List.lookup_eq_some_iff.2 ⟨l, r, hlr, fun p hp => ?_⟩
  rw [hlr, List.map_append, List.map_cons, List.nodup_append] at hnodup
  have hne := hnodup.2.2 p.1 (List.mem_map_of_mem hp) e.1 List.mem_cons_self
  simpa using hne.symm

/-- A candidate that is not admitted is never admitted later: names in the table are declared by no
object of the package, so it can only be taken by what it stands for. -/
theorem admits_eq_false_mono {e : Draft} {name : String} (hgrow : d.imports <+: e.imports)
    (hund : ∀ x ∈ e.imports, s.declares x.1 = false) (h : d.admits s path name = false) :
    e.admits s path name = false := by
  cases hd : d.imports.lookup name with
  | some i =>
    rw [admits_of_lookup hd] at h
    rw [admits_of_lookup (hgrow.lookup_eq_some hd), h]
  | none =>
    rw [admits_of_lookup_none hd] at h
    cases he : e.imports.lookup name with
    | some j =>
      rw [hund _ (mem_of_lookup he)] at h
      exact absurd h (by simp)
    | none => rw [admits_of_lookup_none he, h]

namespace Consistent

variable (h : Consistent s declared d)

include h

/-- A package has at most one name in the table. -/
theorem name_unique {e e' : String × Import} (he : e ∈ d.imports) (he' : e' ∈ d.imports)
    (hpath : e.2.path = e'.2.path) : e.1 = e'.1 := by
  obtain ⟨n, hn, hmin⟩ := h.first e he
  obtain ⟨n', hn', hmin'⟩ := h.first e' he'
  have hadmits : d.admits s e'.2.path e.1 = true := by
    rw [admits_of_lookup (lookup_of_mem h.nodup he), hpath, beq_self_eq_true]
  have hadmits' : d.admits s e.2.path e'.1 = true := by
    rw [admits_of_lookup (lookup_of_mem h.nodup he'), hpath, beq_self_eq_true]
  -- The smaller of the two numbers would be passed over in the search for the larger.
  rcases Nat.lt_trichotomy n n' with hlt | heq | hlt
  · have hfalse := hmin' n hlt
    rw [← hpath, ← hn, hpath, hadmits] at hfalse
    exact absurd hfalse (by simp)
  · rw [hn, hn', hpath, heq]
  · have hfalse := hmin n' hlt
    rw [hpath, ← hn', ← hpath, hadmits'] at hfalse
    exact absurd hfalse (by simp)

/-- A search from the declared name, or from the name in the table, finds a new name only if the
package has none in the table; then the search started from the declared name, and no earlier
candidate is free. -/
theorem search_new (hbase : base = declared path ∨ ∃ i, d.imports.lookup base = some i ∧ i.path = path)
    (hfound : d.importName? s path base = some found) (hnew : d.imports.lookup found = none) :
    base = declared path ∧ s.declares found = false ∧ (∀ e ∈ d.imports, e.2.path ≠ path) ∧
      ∃ n, found = Name.candidate (declared path) n ∧
        ∀ m < n, d.admits s path (Name.candidate (declared path) m) = false := by
  obtain ⟨hne, n, -, hn, hok, hmin⟩ := importName?_eq_some_iff.1 hfound
  rcases hbase with rfl | ⟨i, hi, hp⟩
  · refine ⟨rfl, ?_, fun e he hp => ?_, n, hn, hmin⟩
    · rwa [admits_of_lookup_none hnew, Bool.not_eq_true'] at hok
    · obtain ⟨n', hn', hmin'⟩ := h.first e he
      rw [hp] at hn' hmin'
      have hadmits : d.admits s path e.1 = true := by
        rw [admits_of_lookup (lookup_of_mem h.nodup he), hp, beq_self_eq_true]
      -- An entry for the package would have been found, or what was found would have been entered
      -- for it.
      rcases Nat.lt_trichotomy n n' with hlt | heq | hlt
      · have hfalse := hmin' n hlt
        rw [← hn, hok] at hfalse
        exact absurd hfalse (by simp)
      · have hkey : found = e.1 := by rw [hn, hn', heq]
        rw [hkey, lookup_of_mem h.nodup he] at hnew
        exact absurd hnew (by simp)
      · have hfalse := hmin n' hlt
        rw [← hn', hadmits] at hfalse
        exact absurd hfalse (by simp)
  · rw [importName?_self hne hi hp, Option.some_inj] at hfound
    rw [← hfound, hi] at hnew
    exact absurd hnew (by simp)

/-- Entering what a search found keeps the invariant if a new name is marked as an alias exactly if
it is not the declared one. -/
theorem enter {f : Bool}
    (hbase : base = declared path ∨ ∃ i, d.imports.lookup base = some i ∧ i.path = path)
    (hfound : d.importName? s path base = some found)
    (hf : d.imports.lookup found = none → f = (found != declared path)) :
    Consistent s declared (d.enter found ⟨path, f⟩) := by
  cases hnew : d.imports.lookup found with
  | some i => rwa [enter_of_lookup hnew]
  | none =>
  obtain ⟨-, hund, -, n, hn, hmin⟩ := h.search_new hbase hfound hnew
  have hgrow := imports_prefix_enter d found ⟨path, f⟩
  rw [enter_of_lookup_none hnew] at hgrow ⊢
  have hall : ∀ e ∈ d.imports ++ [(found, (⟨path, f⟩ : Import))], s.declares e.1 = false := by
    intro e he
    rcases List.mem_append.1 he with he | he
    · exact h.undeclared e he
    · rw [List.mem_singleton.1 he]
      exact hund
  refine ⟨?_, hall, ?_, ?_, fun p => ?_, h.known⟩
  · rw [List.map_append, List.nodup_append]
    refine ⟨h.nodup, List.nodup_singleton _, ?_⟩
    intro a ha b hb hab
    rw [List.map_cons, List.map_nil, List.mem_singleton] at hb
    obtain ⟨e, he, rfl⟩ := List.mem_map.1 ha
    have hkey : e.1 = found := hab.trans hb
    rw [← hkey, lookup_of_mem h.nodup he] at hnew
    exact absurd hnew (by simp)
  · intro e he
    rcases List.mem_append.1 he with he | he
    · obtain ⟨m, hm, hbefore⟩ := h.first e he
      exact ⟨m, hm, fun k hk => admits_eq_false_mono hgrow hall (hbefore k hk)⟩
    · rw [List.mem_singleton.1 he]
      exact ⟨n, hn, fun k hk => admits_eq_false_mono hgrow hall (hmin k hk)⟩
  · intro e he
    rcases List.mem_append.1 he with he | he
    · exact h.hasAlias e he
    · rw [List.mem_singleton.1 he]
      exact hf hnew
  · rcases h.current p with hp | hp | hp
    · exact .inl hp
    · exact .inr (.inl hp)
    · exact .inr (.inr (hp.mono hgrow rfl))

/-- The current name of a package that is known is one that searches for it may start from. -/
theorem base_of_current (hc : d.names.current path ≠ "") :
    d.names.current path = declared path ∨
      ∃ i, d.imports.lookup (d.names.current path) = some i ∧ i.path = path :=
  (h.current path).resolve_left hc

/-- Importing a package by reference keeps the invariant. -/
theorem importPackage (path : String) : Consistent s declared (d.importPackage s path) := by
  by_cases hforeign : Foreign s d path
  · have hrec := recorded_importPackage hforeign
    have hnamed : ∀ p, (d.importPackage s path).names.current p = "" ↔ d.names.current p = "" :=
      fun p => current_importPackage_eq_empty_iff
    have hne : ∀ p, p ≠ path → (d.importPackage s path).names.current p = d.names.current p :=
      fun p hp => current_importPackage_of_ne s d hp
    have hprefix := imports_prefix_importPackage s d path
    obtain ⟨name, hname, heq⟩ := importPackage_of_foreign hforeign
    have hbase := h.base_of_current hforeign.named
    have henter := h.enter (f := name != d.names.current path) hbase hname fun hnew => by
      rw [(h.search_new hbase hname hnew).1]
    rw [heq] at hrec hnamed hne hprefix ⊢
    refine ⟨henter.nodup, henter.undeclared, henter.first, henter.hasAlias, fun p => ?_, fun p hp => ?_⟩
    · by_cases hp : p = path
      · exact .inr (.inr (hp ▸ hrec))
      · rcases h.current p with hcur | hcur | hcur
        · exact .inl ((hnamed p).2 hcur)
        · exact .inr (.inl ((hne p hp).trans hcur))
        · exact .inr (.inr (hcur.mono hprefix (hne p hp)))
    · exact fun hcur => h.known p hp ((hnamed p).1 hcur)
  · rwa [importPackage_of_not_foreign hforeign]

/-- Importing a package for a qualifier keeps the invariant. -/
theorem importedName (path : String) : Consistent s declared (importedName s path d).2 := by
  by_cases hc : d.names.current path = ""
  · rwa [importedName_of_empty s hc]
  · obtain ⟨name, hname, heq⟩ := importedName_of_ne_empty s hc
    rw [heq]
    have hbase := h.base_of_current hc
    exact h.enter hbase hname fun hnew => by rw [(h.search_new hbase hname hnew).1]

/-- Whatever package requests it, a package without a name in the table is called as it was declared. -/
theorem knownName_eq {t : Subject} (habsent : ∀ e ∈ d.imports, e.2.path ≠ path)
    (hknown : path ∈ t.imports → d.names.current path ≠ "") :
    knownName t d path (declared path) = declared path := by
  rw [knownName]
  split
  case isTrue himported =>
    rcases h.base_of_current (hknown (List.contains_iff_mem.1 himported)) with hcur | ⟨i, hi, hp⟩
    · exact hcur
    · exact absurd hp (habsent _ (mem_of_lookup hi))
  case isFalse => rfl

/-- A request under the declared name keeps the invariant. -/
theorem request (hdecl : declared path ≠ "") :
    Consistent s declared (d.request s path (declared path)) := by
  obtain ⟨name, hname⟩ := exists_importName? s d path hdecl
  have hreq := (importPath_eq_some_iff hdecl).2 ⟨hname, rfl⟩
  rw [Draft.request, hreq, Option.map_some, Option.getD_some]
  refine h.enter (.inl rfl) hname fun hnew => ?_
  obtain ⟨-, -, habsent, -⟩ := h.search_new (.inl rfl) hname hnew
  rw [h.knownName_eq habsent (h.known path)]

end Consistent

/-- All single imports keep the invariant. -/
theorem kept_consistent (s : Subject) (declared : String → String) : Kept s (Consistent s declared) where
  frame d e himports hnames h := by
    obtain ⟨text, imports, names, adapted⟩ := d
    obtain ⟨text', imports', names', adapted'⟩ := e
    obtain rfl : imports' = imports := himports
    obtain rfl : names' = names := hnames
    exact ⟨h.nodup, h.undeclared, h.first, h.hasAlias, h.current, h.known⟩
  importPackage _ path h := h.importPackage path
  importedName _ path h := h.importedName path

/-! ## Runs -/

/-- Before the first step nothing is imported, and packages are called as they are declared. -/
theorem consistent_start {names : PackageNames}
    (hstart : ∀ path, names.current path = "" ∨ names.current path = declared path)
    (himports : ∀ path ∈ s.imports, names.current path ≠ "") :
    Consistent s declared { names } where
  nodup := List.nodup_nil
  undeclared := fun _ he => absurd he List.not_mem_nil
  first := fun _ he => absurd he List.not_mem_nil
  hasAlias := fun _ he => absurd he List.not_mem_nil
  current := fun path => (hstart path).imp_right .inl
  known := himports

/-- The invariant holds after every run whose requests are under declared names. -/
theorem Consistent.run (h : Consistent s declared d) (hdecl : ∀ path, declared path ≠ "")
    (workingDir : String) (steps : List Step)
    (hreq : ∀ path name, .request path name ∈ steps → name = declared path) :
    Consistent s declared (d.run workingDir s steps) := by
  refine (kept_consistent s declared).run steps (fun path name hmem e he => ?_) h
  rw [hreq path name hmem]
  exact he.request (hdecl path)

/-- Packages that are known stay so. -/
theorem kept_named (s : Subject) (path : String) : Kept s fun d => d.names.current path ≠ "" where
  frame _ _ _ hnames h := by rwa [hnames]
  importPackage _ _ h := fun hc => h (current_importPackage_eq_empty_iff.1 hc)
  importedName d other h := by rwa [(imports_prefix_of_eq_enter (importedName_eq s d other)).2]

theorem current_run_ne_empty (hc : d.names.current path ≠ "") (workingDir : String) (s : Subject)
    (steps : List Step) : (d.run workingDir s steps).names.current path ≠ "" := by
  refine (kept_named s path).run steps (fun other name _ e he => ?_) hc
  rwa [(imports_prefix_of_eq_enter (request_eq s e other name)).2]

/-- All packages that a step of a run imports by reference are recorded after the run. -/
theorem recorded_run {steps : List Step} {σ : Step} (hσ : σ ∈ steps) (hmem : path ∈ σ.homes)
    (hne : path ≠ "") (hself : path ≠ s.path) (hnamed : d.names.current path ≠ "") (workingDir : String) :
    Recorded (d.run workingDir s steps) path := by
  obtain ⟨pre, post, rfl⟩ := List.append_of_mem hσ
  rw [run_append, run_cons]
  refine Recorded.run ?_ workingDir s post
  have hforeign : Foreign s (d.run workingDir s pre) path :=
    ⟨hne, hself, current_run_ne_empty hnamed workingDir s pre⟩
  cases σ with
  | expand template args =>
    rw [step, expand_snd]
    exact recorded_importPackages hmem hforeign
  | print template args =>
    refine (kept_recorded s path).frame (expand workingDir s _ template args).2 _ rfl rfl ?_
    rw [expand_snd]
    exact recorded_importPackages hmem hforeign
  | write _ | adapt _ | request _ _ => exact absurd hmem List.not_mem_nil

/-- Packages that are recorded have different current names. -/
theorem Recorded.current_ne {other : String} (h : Recorded d path) (h' : Recorded d other)
    (hne : path ≠ other) : d.names.current path ≠ d.names.current other := by
  obtain ⟨i, hi, hp⟩ := h
  obtain ⟨j, hj, hp'⟩ := h'
  intro heq
  rw [heq, hj, Option.some_inj] at hi
  exact hne (by rw [← hp, ← hi, hp'])

/-- The table of imports and the names of packages after any run that starts with an empty table and with
packages called as they are declared:

* no name of the table is declared by the package;
* no package has two names in the table, no name stands for two packages, and entries stay in any longer run;
* an entry is no alias iff its name is the declared one;
* known packages are called as they are declared or as in the table; those that were imported by reference
  are called as in the table, and no two such packages are called the same. -/
theorem run_importTable (workingDir : String) (s : Subject) (declared : String → String)
    (hdecl : ∀ path, declared path ≠ "") (names : PackageNames)
    (hstart : ∀ path, names.current path = "" ∨ names.current path = declared path)
    (himports : ∀ path ∈ s.imports, names.current path ≠ "")
    (steps : List Step) (hreq : ∀ path name, .request path name ∈ steps → name = declared path) :
    let d := run workingDir s { names } steps
    (∀ e ∈ d.imports, s.declares e.1 = false) ∧
    ((∀ e ∈ d.imports, ∀ e' ∈ d.imports, e.2.path = e'.2.path → e = e') ∧
      (d.imports.map (·.1)).Nodup ∧
      ∀ later, d.imports <+: (run workingDir s { names } (steps ++ later)).imports) ∧
    (∀ e ∈ d.imports, e.2.hasAlias = false ↔ e.1 = declared e.2.path) ∧
    ((∀ path, names.current path ≠ "" → d.names.current path = declared path ∨ Recorded d path) ∧
      (∀ σ ∈ steps, ∀ path ∈ σ.homes, path ≠ "" → path ≠ s.path → names.current path ≠ "" →
        Recorded d path) ∧
      ∀ path other, Recorded d path → Recorded d other → path ≠ other →
        d.names.current path ≠ d.names.current other) := by
  intro d
  have h : Consistent s declared d := (consistent_start hstart himports).run hdecl workingDir steps hreq
  refine ⟨h.undeclared, ⟨fun e he e' he' hpath => ?_, h.nodup, fun later => ?_⟩, fun e he => ?_,
    fun path hknown => ?_, fun σ hσ path hmem hne hself hknown => ?_,
    fun path other hp ho hne => hp.current_ne ho hne⟩
  · have hname := h.name_unique he he' hpath
    have hl := lookup_of_mem h.nodup he
    rw [hname, lookup_of_mem h.nodup he', Option.some_inj] at hl
    exact Prod.ext hname hl.symm
  · rw [run_append]
    exact imports_prefix_run workingDir s d later
  · rw [h.hasAlias e he, bne_eq_false_iff_eq]
  · exact (h.current path).resolve_left (current_run_ne_empty hknown workingDir s steps)
  · exact recorded_run hσ hmem hne hself hknown workingDir

/-- A package that declares `geo` and imports a package of that name. -/
def clashSubject : Subject where
  name := "p"
  path := "example.com/p"
  objects := [{ name := "geo", home := "example.com/p", pos := 1, kind := .var, type := .basic "int" }]
  imports := ["example.com/geo"]
  files := {}
  sources := []
  info := ⟨[], []⟩

/-- Two packages with the names they declare: `geo`, and `geo2`, which is a candidate of the other
name. -/
def clashNames : PackageNames := ⟨[("example.com/geo", "geo"), ("example.com/geo2", "geo2")]⟩

/-- A type that refers to both packages, a request, and the same type again. -/
def clashSteps : List Step :=
  let point : Ty := .named ⟨"example.com/geo", "Point", 0⟩ [] []
  let other : Ty := .named ⟨"example.com/geo2", "Point", 0⟩ [] []
  [.expand "%t" [.type (.map point other)], .request "example.com/geo" "geo",
    .print "%t" [.type (.map other point)]]

/-- A run on packages whose names clash: `geo2` is taken for the first, so that the second becomes
`geo2_2`. -/
theorem clash_importTable :
    (run "" clashSubject { names := clashNames } clashSteps).imports =
        [("geo2", ⟨"example.com/geo", true⟩), ("geo2_2", ⟨"example.com/geo2", true⟩)] ∧
      Recorded (run "" clashSubject { names := clashNames } clashSteps) "example.com/geo" := by
  have htable := run_importTable "" clashSubject
    (fun path => if path = "example.com/geo" then "geo" else if path = "example.com/geo2" then "geo2" else "q")
    (fun path => by split <;> [decide; split <;> decide]) clashNames
    (fun path => by
      rw [PackageNames.current, clashNames, List.lookup_cons]
      by_cases h1 : path = "example.com/geo"
      · simp [h1]
      by_cases h2 : path = "example.com/geo2"
      · simp [h2]
      · rw [beq_false_of_ne h1, List.lookup_cons, beq_false_of_ne h2]
        exact .inl rfl)
    (fun path hpath => by rw [List.mem_singleton.1 hpath]; decide +kernel) clashSteps
    (fun path name hmem => by
      simp only [clashSteps, List.mem_cons, reduceCtorEq, Step.request.injEq, List.not_mem_nil, or_false,
        false_or] at hmem
      obtain ⟨rfl, rfl⟩ := hmem
      simp)
  refine ⟨by decide +kernel, ?_⟩
  obtain ⟨-, -, -, -, hrec, -⟩ := htable
  exact hrec _ List.mem_cons_self _ List.mem_cons_self (by decide) (by decide) (by decide +kernel)

end TaggedUnion.Draft
