import TaggedUnion.Proofs.Code.Qualifiers
import TaggedUnion.Proofs.Code.Regenerated
import TaggedUnion.Proofs.Code.Requalified

/-!
# Imports that the code does not use

Code shows the names of packages in the bounds of type parameters, in payload types, and where it refers to the
package of errors (`codeQualifiers`). A package that is imported for one of these is imported under the name that is
shown. But an identifier that is kept in a bound has its type imported as well, which the code does not show: in a
bound `[N]int` the type of the constant `N`.

Each entry of the table is accounted for by one of the two (`Draft.Accounted`), through all that the code is made of.
So all imports are used iff the packages of kept identifiers are shown elsewhere (`imports_used_iff`).
-/

namespace TaggedUnion

open Source TaggedUnion.Types Syntax

/-! ## Names that code shows -/

/-- The package name that a piece of a type shows in front of a dot. -/
def Types.Piece.qualifier? (q : Qualifier) : Piece → Option String
  | .plain _ => none
  | .declared home _ => if home == "" || q home == "" then none else some (q home)

/-- The package names that the text of a type shows. -/
def Types.Ty.qualifiers (q : Qualifier) (t : Ty) : List String :=
  t.pieces.filterMap (Piece.qualifier? q)

/-- The package names that the functions of variants show in payload types, each of which is written twice. -/
def payloadQualifiers (s : Subject) (u : Union) (g : Generics) (errors : String) :
    Draft → List Conversion → List String
  | _, [] => []
  | d, c :: rest =>
    let (payload, once) := d.typeText s c.payload
    let (_, twice) := (once.write ((c.unwrapFunction u g errors payload).write ++ "\n")).typeText s c.payload
    c.payload.qualifiers (once.qualifier s) ++ c.payload.qualifiers (twice.qualifier s) ++
      payloadQualifiers s u g errors (d.writeConversion s u g errors c) rest

/-- The package names that the code for unions shows in front of dots. -/
def codeQualifiers (s : Subject) : Draft → List Built → List String
  | _, [] => []
  | d, b :: rest =>
    (if b.conversions.isEmpty then []
      else
        let d := d.write ("// enumorph: " ++ b.union.name ++ "\n\n")
        let (g, named) := d.generics s b.union
        let (errors, named) := errorsNameIn s named
        boundNames s d b.union ++ errors :: payloadQualifiers s b.union g errors named b.conversions) ++
    codeQualifiers s (Session.writeUnion s d b) rest

/-- The packages that are imported for the identifiers of an expression. -/
def Syntax.Expr.keptHomes (x : Expr) : List String :=
  x.idents.flatMap Ident.homes

/-! ## Entries under current names -/

namespace Draft

/-- An entry of the table is found by its name, and its package is called so. -/
structure Called (d : Draft) (entry : String × Import) : Prop where
  lookup : d.imports.lookup entry.1 = some entry.2
  current : d.names.current entry.2.path = entry.1

variable {s : Subject} {d e : Draft} {entry : String × Import} {path : String}

theorem Called.mono (h : d.Called entry) (himports : d.imports <+: e.imports) (hnames : e.names = d.names) :
    e.Called entry :=
  ⟨himports.lookup_eq_some h.lookup, hnames ▸ h.current⟩

/-- Importing a package by reference leaves entries and their packages together. -/
theorem Called.importPackage (h : d.Called entry) (path : String) : (d.importPackage s path).Called entry where
  lookup := (imports_prefix_importPackage s d path).lookup_eq_some h.lookup
  current := by
    by_cases hpath : entry.2.path = path
    · by_cases hforeign : Foreign s d path
      · have hcurrent : d.names.current path = entry.1 := hpath ▸ h.current
        obtain ⟨name, hname, heq⟩ := importPackage_of_foreign hforeign
        rw [hcurrent, importName?_self (hcurrent ▸ hforeign.named) h.lookup hpath, Option.some_inj] at hname
        rw [heq, hpath, ← hname]
        exact PackageNames.current_rename_self _ _ _
      · rw [importPackage_of_not_foreign hforeign]
        exact h.current
    · rw [current_importPackage_of_ne s d hpath]
      exact h.current

theorem Called.importPackages (h : d.Called entry) (paths : List String) :
    (d.importPackages s paths).Called entry := by
  induction paths generalizing d with
  | nil => exact h
  | cons path rest ih => exact ih (h.importPackage path)

/-- A package that is imported by reference is called by its entry. -/
theorem mem_imports_importPackage (h : entry ∈ (d.importPackage s path).imports) :
    entry ∈ d.imports ∨ entry.2.path = path ∧ Foreign s d path ∧ (d.importPackage s path).Called entry := by
  by_cases hforeign : Foreign s d path
  · obtain ⟨name, -, heq⟩ := importPackage_of_foreign hforeign
    rw [heq] at h ⊢
    cases hl : d.imports.lookup name with
    | some i =>
      rw [enter_of_lookup hl] at h
      exact .inl h
    | none =>
      rw [enter_of_lookup_none hl] at h ⊢
      refine (List.mem_append.1 h).imp_right fun hnew => ?_
      obtain rfl := List.mem_singleton.1 hnew
      refine ⟨rfl, hforeign, ?_, PackageNames.current_rename_self _ _ _⟩
      simp [List.lookup_append, hl]
  · rw [importPackage_of_not_foreign hforeign] at h
    exact .inl h

theorem foreign_importPackages_iff {paths : List String} {other : String} :
    Foreign s (d.importPackages s paths) other ↔ Foreign s d other :=
  ⟨fun h => ⟨h.ne_empty, h.ne_self, fun hc => h.named (current_importPackages_eq_empty_iff.2 hc)⟩,
    fun h => ⟨h.ne_empty, h.ne_self, fun hc => h.named (current_importPackages_eq_empty_iff.1 hc)⟩⟩

theorem mem_imports_importPackages {paths : List String} (h : entry ∈ (d.importPackages s paths).imports) :
    entry ∈ d.imports ∨
      entry.2.path ∈ paths ∧ Foreign s d entry.2.path ∧ (d.importPackages s paths).Called entry := by
  induction paths generalizing d with
  | nil => exact .inl h
  | cons path rest ih =>
    obtain hmid | ⟨hmem, hforeign, hcalled⟩ := ih h
    · refine (mem_imports_importPackage hmid).imp_right ?_
      rintro ⟨rfl, hforeign, hcalled⟩
      exact ⟨List.mem_cons_self, hforeign, hcalled.importPackages rest⟩
    · have hfirst : Foreign s (d.importPackages s [path]) entry.2.path := hforeign
      have hbefore := foreign_importPackages_iff.1 hfirst
      exact .inr ⟨List.mem_cons_of_mem _ hmem, hbefore, hcalled⟩

/-- A type shows the packages that are imported on its account under their names. -/
theorem mem_qualifiers_of_called {t : Ty} (hmem : entry.2.path ∈ t.homes) (hforeign : Foreign s d entry.2.path)
    (hcalled : d.Called entry) : entry.1 ∈ t.qualifiers (d.qualifier s) := by
  obtain ⟨name, hpiece⟩ := Piece.mem_homes_iff.1 ((Ty.mem_mentions_iff t).2 (.inl hmem))
  refine List.mem_filterMap.2 ⟨_, hpiece, ?_⟩
  have hq : d.qualifier s entry.2.path = entry.1 := (qualifier_of_ne hforeign.ne_self).trans hcalled.current
  have hne : entry.1 ≠ "" := hcalled.current ▸ hforeign.named
  simp [Piece.qualifier?, hq, hforeign.ne_empty, hne]

/-! ## Accounts -/

/-- Each entry of the table is under a name that the code shows, or it was made for an identifier that is kept, whose
package is called so. All packages of these identifiers are in the table. -/
structure Accounted (s : Subject) (names : PackageNames) (shown kept : List String) (d : Draft) : Prop where
  named : ∀ path, d.names.current path = "" ↔ names.current path = ""
  entries : ∀ entry ∈ d.imports,
    entry.1 ∈ shown ∨ entry.2.path ∈ kept ∧ Foreign s d entry.2.path ∧ d.Called entry
  recorded : ∀ path ∈ kept, Foreign s d path → Recorded d path

namespace Accounted

variable {names : PackageNames} {shown kept : List String}

theorem start : Accounted s names [] [] { names } :=
  ⟨fun _ => .rfl, List.forall_mem_nil _, List.forall_mem_nil _⟩

/-- New entries under names that are shown are accounted for while no package gets another name. -/
theorem grow {more : List String} (h : Accounted s names shown kept d) (himports : d.imports <+: e.imports)
    (hnames : e.names = d.names) (hnew : ∀ entry ∈ e.imports, entry ∈ d.imports ∨ entry.1 ∈ more) :
    Accounted s names (shown ++ more) kept e where
  named path := by rw [hnames]; exact h.named path
  entries entry hentry := by
    obtain hold | hshown := hnew entry hentry
    · refine (h.entries entry hold).imp (List.mem_append_left _) ?_
      rintro ⟨hkept, hforeign, hcalled⟩
      exact ⟨hkept, ⟨hforeign.ne_empty, hforeign.ne_self, hnames ▸ hforeign.named⟩, hcalled.mono himports hnames⟩
    · exact .inl (List.mem_append_right _ hshown)
  recorded path hpath hforeign := by
    have hd := h.recorded path hpath ⟨hforeign.ne_empty, hforeign.ne_self, hnames ▸ hforeign.named⟩
    exact hd.mono himports (by rw [hnames])

/-- What was accounted for stays so while packages are imported by reference, and these are called by their
entries. -/
theorem mem_importPackages (h : Accounted s names shown kept d) {paths : List String}
    (hentry : entry ∈ (d.importPackages s paths).imports) :
    entry.1 ∈ shown ∨ (entry.2.path ∈ kept ∨ entry.2.path ∈ paths) ∧
      Foreign s (d.importPackages s paths) entry.2.path ∧ (d.importPackages s paths).Called entry := by
  obtain hold | ⟨hmem, hforeign, hcalled⟩ := mem_imports_importPackages hentry
  · refine (h.entries entry hold).imp_right ?_
    rintro ⟨hkept, hforeign, hcalled⟩
    exact ⟨.inl hkept, foreign_importPackages_iff.2 hforeign, hcalled.importPackages paths⟩
  · exact .inr ⟨.inr hmem, foreign_importPackages_iff.2 hforeign, hcalled⟩

/-- Packages that are imported by reference are accounted for by being kept. -/
theorem importPackages (h : Accounted s names shown kept d) (paths : List String) :
    Accounted s names shown (kept ++ paths) (d.importPackages s paths) where
  named path := current_importPackages_eq_empty_iff.trans (h.named path)
  entries entry hentry :=
    (h.mem_importPackages hentry).imp_right fun hrest => ⟨List.mem_append.2 hrest.1, hrest.2⟩
  recorded path hpath hforeign := by
    have hbefore := foreign_importPackages_iff.1 hforeign
    obtain hkept | hmem := List.mem_append.1 hpath
    · exact (h.recorded path hkept hbefore).importPackages s paths
    · exact recorded_importPackages hmem hbefore

/-- Those of a type are accounted for by its text. -/
theorem typeText (h : Accounted s names shown kept d) (t : Ty) :
    Accounted s names (shown ++ t.qualifiers ((d.typeText s t).2.qualifier s)) kept (d.typeText s t).2 := by
  rw [typeText_snd]
  refine ⟨(h.importPackages t.homes).named, fun entry hentry => ?_, fun path hpath hforeign => ?_⟩
  · obtain hshown | ⟨hkept | hmem, hforeign, hcalled⟩ := h.mem_importPackages hentry
    · exact .inl (List.mem_append_left _ hshown)
    · exact .inr ⟨hkept, hforeign, hcalled⟩
    · exact .inl (List.mem_append_right _ (mem_qualifiers_of_called hmem hforeign hcalled))
  · exact (h.recorded path hpath (foreign_importPackages_iff.1 hforeign)).importPackages s t.homes

/-! ### The parts of code -/

theorem write (h : Accounted s names shown kept d) (text : String) :
    Accounted s names shown kept (d.write text) := by
  have hgrown : Accounted s names (shown ++ []) kept (d.write text) := h.grow List.prefix_rfl rfl fun _ => .inl
  rwa [List.append_nil] at hgrown

/-- Packages that are imported for the names in a bound show in it. -/
theorem adapt (h : Accounted s names shown kept d) (x : Expr) :
    Accounted s names (shown ++ (d.adapt s x).1.qualifiers) kept (d.adapt s x).2 := by
  obtain ⟨himports, hnames⟩ := imports_prefix_requalify s (d.currentExpr x) d
  obtain ⟨adapted, heq⟩ := exists_adapt_eq s x d
  rw [heq]
  exact h.grow himports hnames (shows_requalify s (d.currentExpr x) d)

theorem importExpr (h : Accounted s names shown kept d) (x : Expr) :
    Accounted s names shown (kept ++ x.keptHomes) (d.importExpr s x) := by
  rw [importExpr_eq]
  exact h.importPackages x.keptHomes

theorem paramTexts (h : Accounted s names shown kept d) (gs : List (GroupHead × Expr)) :
    Accounted s names (shown ++ (adaptedBounds s d gs).flatMap (·.2.qualifiers))
      (kept ++ (adaptedBounds s d gs).flatMap (·.2.keptHomes)) (TaggedUnion.paramTexts s d gs).2 := by
  induction gs generalizing d shown kept with
  | nil => simpa [adaptedBounds, TaggedUnion.paramTexts] using h
  | cons g rest ih =>
    obtain ⟨head, bound⟩ := g
    have hrest := ih ((h.adapt bound).importExpr (d.adapt s bound).1)
    rw [List.append_assoc, List.append_assoc] at hrest
    exact hrest

theorem generics (h : Accounted s names shown kept d) (u : Union) :
    Accounted s names (shown ++ boundNames s d u)
      (kept ++ (adaptedBounds s d u.params).flatMap (·.2.keptHomes)) (d.generics s u).2 := by
  cases hgeneric : u.isGeneric with
  | true =>
    rw [Draft.generics, if_pos hgeneric]
    exact h.paramTexts u.params
  | false =>
    have hnil : u.params = [] := by simpa [Union.isGeneric] using hgeneric
    simpa [Draft.generics, hgeneric, boundNames, hnil, adaptedBounds] using h

theorem errors (h : Accounted s names shown kept d) :
    Accounted s names (shown ++ [(errorsNameIn s d).1]) kept (errorsNameIn s d).2 := by
  obtain ⟨found, -, heq⟩ := errorsNameIn_eq_enter s d
  rw [heq]
  refine h.grow (imports_prefix_enter _ _ _) (names_enter _ _ _) fun entry hentry => ?_
  exact (mem_imports_enter hentry).imp_right fun hnew => by simp [hnew]

theorem payloads (h : Accounted s names shown kept d) (u : Union) (g : Generics) (errors : String)
    (cs : List Conversion) :
    Accounted s names (shown ++ payloadQualifiers s u g errors d cs) kept
      (cs.foldl (writeConversion s u g errors) d) := by
  induction cs generalizing d shown with
  | nil => simpa [payloadQualifiers] using h
  | cons c rest ih =>
    let unwrap := (c.unwrapFunction u g errors (d.typeText s c.payload).1).write ++ "\n"
    let once := (d.typeText s c.payload).2.write unwrap
    have honce : Accounted s names (shown ++ c.payload.qualifiers (once.qualifier s)) kept once :=
      (h.typeText c.payload).write unwrap
    have htwice : Accounted s names
        (shown ++ c.payload.qualifiers (once.qualifier s) ++
          c.payload.qualifiers ((once.typeText s c.payload).2.qualifier s))
        kept (d.writeConversion s u g errors c) :=
      (honce.typeText c.payload).write _
    rw [payloadQualifiers, List.foldl_cons, ← List.append_assoc, ← List.append_assoc]
    exact ih htwice

/-- What the code for unions imports is accounted for by the code, and by the identifiers that it keeps. -/
theorem unions (h : Accounted s names shown kept d) (us : List Built) :
    Accounted s names (shown ++ codeQualifiers s d us) (kept ++ (writtenBounds s d us).flatMap Expr.keptHomes)
      (us.foldl (Session.writeUnion s) d) := by
  induction us generalizing d shown kept with
  | nil => simpa [codeQualifiers, writtenBounds] using h
  | cons b rest ih =>
    rw [codeQualifiers, writtenBounds, List.flatMap_append, ← List.append_assoc, ← List.append_assoc]
    refine ih ?_
    cases hempty : b.conversions.isEmpty with
    | true => simpa [Session.writeUnion, hempty] using h
    | false =>
      have hne : b.conversions ≠ [] := by simpa using hempty
      let begun := d.write ("// enumorph: " ++ b.union.name ++ "\n\n")
      have hbegun : Accounted s names shown kept begun := h.write _
      have hcode := (hbegun.generics b.union).errors.payloads b.union (begun.generics s b.union).1
        (errorsNameIn s (begun.generics s b.union).2).1 b.conversions
      rw [Session.writeUnion, hempty, if_neg Bool.false_ne_true, writeConversions_of_ne_nil s begun b.union hne,
        if_neg Bool.false_ne_true, if_neg Bool.false_ne_true, List.flatMap_map]
      rw [List.append_assoc, List.append_assoc] at hcode
      exact hcode

end Accounted

end Draft

/-- The code that is generated is laid out from the draft of it. -/
theorem code_of_generate? {version code : String} {σ generated : Session}
    (h : σ.generate? version = some (some code, generated)) :
    code = generatedFile version σ.subject.name (σ.unions.foldl (Session.writeUnion σ.subject) σ.draft) := by
  rw [Session.generate?] at h
  split at h
  · rw [Option.some_inj, Session.code] at h
    split at h
    · cases h
    · exact (Option.some.inj (Prod.mk.inj h).1).symm
  · cases h

/-- Once code was generated for a package that was built without an error, all imports of the code are used iff each
other, known package that an identifier kept in a bound refers to is shown in the code, under the name that it is
called by then. -/
theorem imports_used_iff {s : Subject} {names : PackageNames} {workingDir version code : String}
    {built generated : Session} (hbuild : (Session.start s names).build workingDir = (none, built))
    (hgenerate : built.generate? version = some (some code, generated)) :
    let d := s.draftOf names built.unions
    let shown := codeQualifiers s { names } built.unions
    let kept := (writtenBounds s { names } built.unions).flatMap Expr.keptHomes
    code = generatedFile version s.name d ∧
      ((∀ entry ∈ d.imports, entry.1 ∈ shown) ↔
        ∀ path ∈ kept, path ≠ "" → path ≠ s.path → names.current path ≠ "" → d.names.current path ∈ shown) := by
  intro d shown kept
  have haccounted : d.Accounted s names shown kept := Draft.Accounted.start.unions built.unions
  refine ⟨?_, fun hall path hpath hne hself hnamed => ?_, fun hall entry hentry => ?_⟩
  · have hstart : built.subject = s ∧ built.draft = { names } := by
      rw [← (Prod.mk.inj hbuild).2]
      exact ⟨rfl, rfl⟩
    rw [code_of_generate? hgenerate, hstart.1, hstart.2, ← Subject.draftOf]
  · obtain ⟨i, hi, -⟩ := haccounted.recorded path hpath ⟨hne, hself, fun hc => hnamed ((haccounted.named path).1 hc)⟩
    exact hall _ (Draft.mem_of_lookup hi)
  · refine (haccounted.entries entry hentry).elim id ?_
    rintro ⟨hpath, hforeign, hcalled⟩
    have hnamed : names.current entry.2.path ≠ "" := fun hc => hforeign.named ((haccounted.named _).2 hc)
    exact hcalled.current ▸ hall entry.2.path hpath hforeign.ne_empty hforeign.ne_self hnamed

/-! ## An example -/

/-- The type of a constant that another package declares. -/
def geoInt : Ty := .named ⟨"x/geo", "Int", 19⟩ [] []

/-- A file that declares a union with a constant in a bound:

    package p; import "x/geo"

    const N geo.Int = 3

    //enumorph:derive
    type Box[T ~[N]int] struct {
    	Kind string `enumorph:"tag"`
    	Item T
    }
-/
def sizedFile : File where
  name := "box.go"
  clause := 28
  package := "p"
  imports := [{ pos := 46, name := none, literal := "\"x/geo\"", path := "x/geo" }]
  decls := [
    .consts [{ names := [{ pos := 61, name := "N" }]
               type := some (.selector (.ident { pos := 63, name := "geo", meaning := some (.package "x/geo") })
                 { pos := 67, name := "Int", meaning := some (.topLevel "x/geo" geoInt) })
               values := [.literal 73 .int "3"] }],
    .types (some [⟨76, directiveText⟩])
      [{ name := { pos := 99, name := "Box" }
         params := [({ names := [{ pos := 103, name := "T" }] },
           .unary 105 "~" (.array 106 (.ident { pos := 107, name := "N", meaning := some (.topLevel "p" geoInt) })
             (.ident { pos := 109, name := "int", meaning := some (.predeclared (.basic "int")) })))]
         type := .struct 114 121
          [({ names := [{ pos := 124, name := "Kind" }] }, .ident { pos := 129, name := "string" }),
           ({ names := [{ pos := 154, name := "Item" }] }, .ident { pos := 159, name := "T" })] 161 }]]
  comments := [[⟨76, directiveText⟩]]

/-- What it declares. -/
def sizedObjects : List Program.Object :=
  [{ name := "Box"
     home := "p"
     pos := 99
     kind := .type
     type := .named ⟨"p", "Box", 99⟩
       [([⟨"T", 103⟩], .interface [] [.union [(true, .array 3 (.basic "int"))]] true)] []
     params := [⟨"T", 103⟩] },
   { name := "N", home := "p", pos := 61, kind := .const, type := geoInt }]

/-- The package of the file, after the other package. -/
def sizedSubject : Subject where
  name := "p"
  path := "p"
  objects := sizedObjects
  imports := ["x/geo"]
  files := ⟨[{ name := "g.go", base := 1, size := 26, lines := [0, 12, 13] },
    { name := "box.go", base := 28, size := 135, lines := [0, 10, 11, 26, 27, 47, 48, 66, 95, 125, 133] }]⟩
  sources := [sizedFile]
  info := ⟨[
    { name := ⟨"x/geo", "Int", 19⟩, params := [], rhs := .basic "int" },
    { name := ⟨"p", "Box", 99⟩
      params := [⟨"T", 103⟩]
      rhs := .struct
        [(⟨"Kind", "p", false, Text.Bytes.ofText "enumorph:\"tag\"", 124⟩, .basic "string"),
         (⟨"Item", "p", false, [], 154⟩, .param "T" 103)] }], sizedObjects⟩

/-- The names of the packages. -/
def sizedNames : PackageNames := ⟨[("x/geo", "geo"), (errorsPath, errorsName)]⟩

/-- The type of the constant is imported, and nothing in the code shows its package. -/
theorem sizedBox_not_used :
    let built := ((Session.start sizedSubject sizedNames).build "").2
    let d := sizedSubject.draftOf sizedNames built.unions
    built.generate? "" = some (some (generatedFile "" "p" d), (built.code "").2) ∧
      d.imports = [("geo", ⟨"x/geo", false⟩), (errorsName, ⟨errorsPath, false⟩)] ∧
      ¬∀ entry ∈ d.imports, entry.1 ∈ codeQualifiers sizedSubject { names := sizedNames } built.unions := by
  intro built d
  have hbuild : (Session.start sizedSubject sizedNames).build "" = (none, built) :=
    Prod.ext (Option.isNone_iff_eq_none.1 (by decide +kernel)) rfl
  have hsome : (built.unions.all (·.conversions.isEmpty)) = false := by decide +kernel
  have hgenerate : built.generate? "" = some (some (generatedFile "" "p" d), (built.code "").2) := by
    rw [Session.generate?, if_pos (by decide +kernel), Session.code, hsome]
    rfl
  obtain ⟨-, hiff⟩ := imports_used_iff hbuild hgenerate
  refine ⟨hgenerate, by decide +kernel, fun hall => ?_⟩
  have hshown := hiff.1 hall "x/geo" (by decide +kernel) (by decide) (by decide) (by decide +kernel)
  exact absurd hshown (by decide +kernel)

end TaggedUnion
