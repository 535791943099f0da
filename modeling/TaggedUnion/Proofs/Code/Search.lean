import Mathlib.Logic.Function.Iterate
import TaggedUnion.Proofs.Code.ImportTable

/-!
# Searches for the names of imports

A search looks at one candidate of a name after the other, and nothing bounds it: a turn ends it at an acceptable
candidate and takes it to the next one otherwise (`Name.Search.turn`).

* After any number of turns a search has either passed over as many candidates, of which none was acceptable, or it is
  done with the first acceptable one (`Name.Search.passed_after`).
* `Name.search?`, which counts the names that can be in its way, is that search after one turn more than there are
  such names (`Name.search?_eq_some_iff_after`).
* A package is imported under the first candidate that is *open* to it (`Draft.Open`). All others are names of the table
  or of the package, so that each search ends, and both ways to import a package go on with what it has found
  (`Draft.search_stops_at_first_open`). The numbers it tries are at most one more than there are such names.
-/

namespace TaggedUnion.Name

variable {base name : String} {acceptable : String → Bool} {k n : Nat}

/-! ## Turns of a search -/

/-- How far a search has got: it looks at the candidate of a number, or it is done with a name. -/
inductive Search
  | looking (n : Nat)
  | done (name : String)

namespace Search

/-- A turn of a search among the candidates of a name. -/
def turn (base : String) (acceptable : String → Bool) : Search → Search
  | looking n => if acceptable (candidate base n) then done (candidate base n) else looking (n + 1)
  | done name => done name

/-- A search after a number of turns. It starts with the name itself. -/
def after (base : String) (acceptable : String → Bool) (turns : Nat) : Search :=
  (turn base acceptable)^[turns] (looking 0)

theorem after_succ (base : String) (acceptable : String → Bool) (k : Nat) :
    after base acceptable (k + 1) = (after base acceptable k).turn base acceptable :=
  Function.iterate_succ_apply' _ _ _

/-- What is known of a search after `k` turns: it has passed over that many candidates, or it is done with the first of
them that is acceptable. -/
def Passed (base : String) (acceptable : String → Bool) (k : Nat) : Search → Prop
  | looking n => n = k ∧ ∀ m < k, acceptable (candidate base m) = false
  | done name => ∃ n < k, name = candidate base n ∧ acceptable name = true ∧
      ∀ m < n, acceptable (candidate base m) = false

/-- A turn adds a candidate to those that a search has passed over, unless it is done. -/
theorem Passed.turn {search : Search} (h : search.Passed base acceptable k) :
    (search.turn base acceptable).Passed base acceptable (k + 1) := by
  cases search with
  | looking n =>
    obtain ⟨rfl, hmin⟩ := h
    rw [Search.turn]
    split
    case isTrue hok => exact ⟨n, Nat.lt_succ_self n, rfl, hok, hmin⟩
    case isFalse hno =>
      refine ⟨rfl, fun m hm => ?_⟩
      rcases Nat.lt_succ_iff_lt_or_eq.1 hm with hlt | rfl
      · exact hmin m hlt
      · exact Bool.eq_false_iff.2 hno
  | done name =>
    obtain ⟨n, hn, hfirst⟩ := h
    exact ⟨n, Nat.lt_succ_of_lt hn, hfirst⟩

/-- A search passes over a candidate in each turn until it is done. -/
theorem passed_after (base : String) (acceptable : String → Bool) (k : Nat) :
    (after base acceptable k).Passed base acceptable k := by
  induction k with
  | zero => exact ⟨rfl, fun _ hm => absurd hm (Nat.not_lt_zero _)⟩
  | succ k ih =>
    rw [after_succ]
    exact ih.turn

/-- A search goes on as long as it meets no acceptable candidate. -/
theorem after_eq_looking (h : ∀ m < k, acceptable (candidate base m) = false) :
    after base acceptable k = looking k := by
  have hpassed := passed_after base acceptable k
  cases hafter : after base acceptable k with
  | looking n =>
    rw [hafter] at hpassed
    rw [hpassed.1]
  | done name =>
    rw [hafter] at hpassed
    obtain ⟨n, hn, rfl, hok, -⟩ := hpassed
    exact absurd (hok.symm.trans (h n hn)) Bool.noConfusion

/-- A search is done once it has met an acceptable candidate. -/
theorem after_eq_done (hok : acceptable (candidate base n) = true)
    (hmin : ∀ m < n, acceptable (candidate base m) = false) (hk : n < k) :
    after base acceptable k = done (candidate base n) := by
  induction k, hk using Nat.le_induction with
  | base => rw [after_succ, after_eq_looking hmin, turn, if_pos hok]
  | succ k _ ih => rw [after_succ, ih, turn]

end Search

/-- A search with as many candidates as names can be in its way, and one more, is the search that nothing bounds after
as many turns. -/
theorem search?_eq_some_iff_after (hb : base ≠ "") {blocked : Nat} :
    search? base blocked acceptable = some name ↔
      Search.after base acceptable (blocked + 1) = .done name := by
  rw [search?_eq_some_iff, and_iff_right hb]
  constructor
  · rintro ⟨n, hn, rfl, hok, hmin⟩
    exact Search.after_eq_done hok hmin (Nat.lt_succ_of_le hn)
  · intro hdone
    obtain ⟨n, hn, hfirst⟩ := hdone ▸ Search.passed_after base acceptable (blocked + 1)
    exact ⟨n, Nat.le_of_lt_succ hn, hfirst⟩

end TaggedUnion.Name

namespace TaggedUnion.Draft

variable {s : Subject} {d : Draft} {path base name : String} {n : Nat}

/-! ## Open names -/

/-- A name is *open* to a package if it stands for the package in the table, or if it stands for nothing there and the
package that the code is for does not declare it. -/
def Open (s : Subject) (d : Draft) (path name : String) : Prop :=
  (∃ i, d.imports.lookup name = some i ∧ i.path = path) ∨
    name ∉ d.imports.map (·.1) ∧ name ∉ s.objects.map (·.name)

theorem lookup_eq_none_iff : d.imports.lookup name = none ↔ name ∉ d.imports.map (·.1) := by
  rw [List.lookup_eq_none_iff, List.mem_map, not_exists]
  refine forall_congr' fun e => ?_
  rw [bne_iff_ne, not_and, ne_comm]

/-- The names that are admitted for a package are those that are open to it. -/
theorem admits_iff : d.admits s path name = true ↔ Open s d path name := by
  rw [Open, ← lookup_eq_none_iff]
  cases hl : d.imports.lookup name with
  | some i => simp [admits_of_lookup hl]
  | none => simp [admits_of_lookup_none hl, Subject.declares_eq_false_iff]

/-- The names of the table and of the package are too few to block all candidates. -/
theorem exists_first_open (s : Subject) (d : Draft) (path : String) (hb : base ≠ "") :
    ∃ n ≤ d.imports.length + s.objects.length, Open s d path (Name.candidate base n) ∧
      ∀ m < n, ¬Open s d path (Name.candidate base m) := by
  obtain ⟨name, hname⟩ := exists_importName? s d path hb
  obtain ⟨-, n, hn, rfl, hok, hmin⟩ := importName?_eq_some_iff.1 hname
  refine ⟨n, hn, admits_iff.1 hok, fun m hm hopen => ?_⟩
  exact absurd ((admits_iff.2 hopen).symm.trans (hmin m hm)) Bool.noConfusion

/-- A search looks at the candidates up to the first one that is open to the package, and at no other. -/
theorem after_eq_ite (hopen : Open s d path (Name.candidate base n))
    (hmin : ∀ m < n, ¬Open s d path (Name.candidate base m)) (k : Nat) :
    Name.Search.after base (d.admits s path) k =
      if k ≤ n then .looking k else .done (Name.candidate base n) := by
  have hclosed : ∀ m < n, d.admits s path (Name.candidate base m) = false :=
    fun m hm => Bool.eq_false_iff.2 fun hok => hmin m hm (admits_iff.1 hok)
  split
  case isTrue hk => exact Name.Search.after_eq_looking fun m hm => hclosed m (Nat.lt_of_lt_of_le hm hk)
  case isFalse hk => exact Name.Search.after_eq_done (admits_iff.2 hopen) hclosed (Nat.lt_of_not_le hk)

/-! ## Imports after a search -/

/-- The name from which a package is searched for that is imported by its path. -/
def soughtName (s : Subject) (d : Draft) (path name : String) : String :=
  if name = "" then knownName s d path name else name

/-- A package that is imported by its path gets the name that is found from the one sought. -/
theorem importPath_eq (s : Subject) (d : Draft) (path name : String) :
    d.importPath s path name = (d.importName? s path (soughtName s d path name)).map fun found =>
      (found, d.enter found ⟨path, found != knownName s d path name⟩) := by
  rw [importPath, soughtName, knownName]
  simp only [beq_iff_eq]

/-- The candidates of a name are distinct. Whatever the table holds and the package declares, a search among them ends
after finitely many turns, at the first candidate that is open to the package, and this is the name that the package is
imported under, by reference as well as by its path. -/
theorem search_stops_at_first_open (s : Subject) (d : Draft) (path : String) (hb : base ≠ "") :
    Function.Injective (Name.candidate base) ∧
    ∃ n ≤ d.imports.length + s.objects.length,
      let found := Name.candidate base n
      (∀ k, Name.Search.after base (d.admits s path) k = if k ≤ n then .looking k else .done found) ∧
      Open s d path found ∧ (∀ m < n, ¬Open s d path (Name.candidate base m)) ∧
      (path ≠ "" → path ≠ s.path → d.names.current path = base →
        d.importPackage s path =
          { d.enter found ⟨path, found != base⟩ with names := d.names.rename path found }) ∧
      ∀ name, soughtName s d path name = base →
        d.importPath s path name = some (found, d.enter found ⟨path, found != knownName s d path name⟩) := by
  refine ⟨Name.candidate_injective base, ?_⟩
  obtain ⟨n, hn, hopen, hmin⟩ := exists_first_open s d path hb
  have hturns := after_eq_ite hopen hmin
  -- The draft allows a search for one turn more than there are names that can block it, and it is done by then.
  have hname : d.importName? s path base = some (Name.candidate base n) := by
    rw [importName?, Name.search?_eq_some_iff_after hb, hturns, if_neg (Nat.not_le_of_lt (Nat.lt_succ_of_le hn))]
  refine ⟨n, hn, hturns, hopen, hmin, fun hne hself hcurrent => ?_, fun name hsought => ?_⟩
  · subst hcurrent
    obtain ⟨found, hfound, heq⟩ := importPackage_of_foreign ⟨hne, hself, hb⟩
    rw [hname, Option.some_inj] at hfound
    rw [heq, hfound]
  · rw [importPath_eq, hsought, hname, Option.map_some]

/-- A package that declares the third name that a package `v2` could have. -/
def crowdedSubject : Subject where
  name := "p"
  path := "example.com/p"
  objects := [{ name := "v2_3", home := "example.com/p", pos := 1, kind := .var, type := .basic "int" }]
  imports := ["example.com/v2"]
  files := {}
  sources := []
  info := ⟨[], []⟩

/-- A draft in which the two names before that one stand for other packages. -/
def crowdedDraft : Draft where
  imports := [("v2", ⟨"example.com/old/v2", false⟩), ("v2_2", ⟨"example.com/other/v2", true⟩)]
  names := ⟨[("example.com/v2", "v2")]⟩

/-- Either way, the package is imported under the fourth name, which the fourth turn finds. -/
theorem crowded_search :
    "v2" ≠ "" ∧
      (∀ k, Name.Search.after "v2" (crowdedDraft.admits crowdedSubject "example.com/v2") k =
        if k ≤ 3 then .looking k else .done "v2_4") ∧
      (crowdedDraft.importPackage crowdedSubject "example.com/v2").names.current "example.com/v2" = "v2_4" ∧
      (crowdedDraft.importPath crowdedSubject "example.com/v2" "").map (·.1) = some "v2_4" := by
  have hb : "v2" ≠ "" := by decide
  obtain ⟨hinj, n, -, hturns, -, -, hpackage, hpath⟩ :=
    search_stops_at_first_open crowdedSubject crowdedDraft "example.com/v2" hb
  have hname : Name.candidate "v2" 3 = "v2_4" := by decide +kernel
  have hfound : (crowdedDraft.importPath crowdedSubject "example.com/v2" "").map (·.1) = some "v2_4" := by
    decide +kernel
  have hentered := hpath "" (by decide)
  -- What is found determines the number of its candidate.
  obtain rfl : n = 3 := by
    rw [hentered, Option.map_some, Option.some_inj, ← hname] at hfound
    exact hinj hfound
  rw [hname] at hturns hpackage
  refine ⟨hb, hturns, ?_, hfound⟩
  rw [hpackage (by decide) (by decide) (by decide), PackageNames.current_rename_self]

end TaggedUnion.Draft
