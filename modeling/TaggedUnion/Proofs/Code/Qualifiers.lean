import TaggedUnion.Proofs.Code.Run
import TaggedUnion.Proofs.Types.Spelling

/-!
# Qualifiers in printed types

The text of a type and the import of what it refers to are two recursions over types, and they do
not visit the same parts. The text names a package on whose account nothing is imported
(`passedOver`) in the elements of an interface literal, in the type arguments of an alias, in the
bounds of a generic type that stands without arguments, and for the unsafe pointer; apart from these
the two agree (`mem_mentions_iff`).

So the table has every qualifier of a printed type, for the package that declares the qualified
name, iff what is passed over is imported anyway: on account of another argument, or because it was
before (`step_covers_iff`). Where it is not, the code refers to a package that it does not import.
-/

namespace TaggedUnion

open Source TaggedUnion.Types Syntax

namespace Types.Ty

/-- The packages that the text of a type names and that are not imported on account of the place
where it names them. -/
def passedOver : Ty → List String
  | basic name => if name == "Pointer" then ["unsafe"] else []
  | pointer elem => elem.passedOver
  | slice elem => elem.passedOver
  | array _ elem => elem.passedOver
  | map key elem => key.passedOver ++ elem.passedOver
  | chan _ elem => elem.passedOver
  | func generics params results _ =>
    Piece.homes (Piece.bracketed (pieces.groupPieces generics)) ++
      (ofParams params ++ ofParams results)
  | struct fields => ofFields fields
  | interface methods embedded implicit => (interface methods embedded implicit).mentions
  | union terms => (union terms).mentions
  | named _ generics args =>
    if args.isEmpty then Piece.homes (Piece.bracketed (pieces.groupPieces generics)) else ofAll args
  | synonym _ generics args _ =>
    Piece.homes (Piece.bracketed
      (if args.isEmpty then pieces.groupPieces generics else pieces.allPieces args))
  | param _ _ => []
where
  ofAll : List Ty → List String
    | [] => []
    | t :: rest => t.passedOver ++ ofAll rest
  ofParams : List (String × Ty) → List String
    | [] => []
    | (_, t) :: rest => t.passedOver ++ ofParams rest
  ofFields : List (FieldHead × Ty) → List String
    | [] => []
    | (_, t) :: rest => t.passedOver ++ ofFields rest

section Mentions

variable {home : String}

mutual

/-- The text of a type names the packages that are imported on its account, and those passed
over. -/
theorem mem_mentions_iff :
    ∀ t : Ty, home ∈ t.mentions ↔ home ∈ t.homes ∨ home ∈ t.passedOver
  | basic name => by
    rw [mentions, pieces, homes, passedOver]
    split <;> simp
  | pointer elem => mem_mentions_iff elem
  | slice elem => mem_mentions_iff elem
  | array _ elem => mem_mentions_iff elem
  | map key elem => by
    have hkey := mem_mentions_iff key
    have helem := mem_mentions_iff elem
    rw [mentions] at hkey helem
    rw [mentions, pieces, homes, passedOver]
    simp only [Piece.homes_plain, Piece.homes_append, List.mem_append, hkey, helem]
    exact or_or_or_comm
  | chan direction elem => by
    have helem := mem_mentions_iff elem
    rw [mentions] at helem
    rw [mentions, pieces, homes, passedOver, Piece.homes_plain]
    split <;> simp [helem]
  | func generics params results variadic => by
    rw [mentions, pieces, homes, passedOver]
    simp only [Piece.homes_plain, Piece.homes_append, List.mem_append, Piece.mem_homes_params,
      Piece.mem_homes_results, exists_paramPieces variadic params, exists_paramPieces false results]
    tauto
  | struct fields => by
    rw [mentions, pieces, homes, passedOver]
    simp [exists_fieldPieces fields]
  | interface _ _ _ => by simp [homes, passedOver]
  | union _ => by simp [homes, passedOver]
  | named name generics args => by
    rw [mentions, pieces, homes, passedOver, Piece.homes_declared, List.mem_cons, List.mem_cons,
      or_assoc]
    cases args with
    | nil => simp [homes.allHomes]
    | cons t rest =>
      rw [List.isEmpty_cons, if_neg Bool.false_ne_true, if_neg Bool.false_ne_true,
        Piece.mem_homes_bracketed, exists_allPieces (t :: rest)]
  | synonym name generics args _ => by
    rw [mentions, pieces, homes, passedOver, Piece.homes_declared, List.mem_cons, List.mem_singleton]
  | param _ _ => by simp [mentions, pieces, homes, passedOver]

theorem exists_allPieces : ∀ ts : List Ty,
    (∃ ps ∈ pieces.allPieces ts, home ∈ Piece.homes ps) ↔
      home ∈ homes.allHomes ts ∨ home ∈ passedOver.ofAll ts
  | [] => by simp [pieces.allPieces, homes.allHomes, passedOver.ofAll]
  | t :: rest => by
    have ht := mem_mentions_iff t
    rw [mentions] at ht
    rw [pieces.allPieces, homes.allHomes, passedOver.ofAll]
    simp only [List.mem_cons, exists_eq_or_imp, List.mem_append, ht, exists_allPieces rest]
    exact or_or_or_comm

theorem exists_paramPieces (variadic : Bool) : ∀ ps : List (String × Ty),
    (∃ p ∈ pieces.paramPieces variadic ps, home ∈ Piece.homes p.2) ↔
      home ∈ homes.paramHomes ps ∨ home ∈ passedOver.ofParams ps
  | [] => by simp [pieces.paramPieces, homes.paramHomes, passedOver.ofParams]
  | (name, t) :: rest => by
    have ht := mem_mentions_iff t
    rw [mentions] at ht
    -- Dots in place of brackets name no package.
    have hcons : (∃ p ∈ pieces.paramPieces variadic ((name, t) :: rest), home ∈ Piece.homes p.2) ↔
        home ∈ Piece.homes t.pieces ∨
          ∃ p ∈ pieces.paramPieces variadic rest, home ∈ Piece.homes p.2 := by
      by_cases h : ∃ elem, rest = [] ∧ t = slice elem
      · obtain ⟨elem, rfl, rfl⟩ := h
        simp [pieces.paramPieces, pieces]
      · rw [pieces.paramPieces]
        · simp
        · exact fun elem hr ht => h ⟨elem, hr, ht⟩
    rw [hcons, homes.paramHomes, passedOver.ofParams, ht, exists_paramPieces variadic rest,
      List.mem_append, List.mem_append]
    exact or_or_or_comm

theorem exists_fieldPieces : ∀ fs : List (FieldHead × Ty),
    (∃ ps ∈ pieces.fieldPieces fs, home ∈ Piece.homes ps) ↔
      home ∈ homes.fieldHomes fs ∨ home ∈ passedOver.ofFields fs
  | [] => by simp [pieces.fieldPieces, homes.fieldHomes, passedOver.ofFields]
  | (head, t) :: rest => by
    have ht := mem_mentions_iff t
    rw [mentions] at ht
    rw [pieces.fieldPieces, homes.fieldHomes, passedOver.ofFields]
    simp only [List.mem_cons, exists_eq_or_imp, List.mem_append, Piece.homes_plain, Piece.homes_append,
      ht, exists_fieldPieces rest, Piece.homes_nil, List.not_mem_nil, or_false]
    exact or_or_or_comm

end

end Mentions

end Types.Ty

namespace Draft

/-- The table has every qualifier that the pieces show, for the package that declares the qualified
name. -/
def Covers (s : Subject) (d : Draft) (ps : List Piece) : Prop :=
  ∀ home name, .declared home name ∈ ps → home ≠ "" → d.qualifier s home ≠ "" →
    ∃ i, d.imports.lookup (d.qualifier s home) = some i ∧ i.path = home

variable {s : Subject} {d : Draft}

/-- Other packages are qualified with their current name. -/
theorem qualifier_of_ne {home : String} (h : home ≠ s.path) :
    d.qualifier s home = d.names.current home := by
  have hne : (home == s.path) = false := by simpa using h
  rw [qualifier, Subject.qualifier, hne, if_neg Bool.false_ne_true]

/-- The package that the code is for needs no qualifier. -/
theorem qualifier_self (s : Subject) (d : Draft) : d.qualifier s s.path = "" := by
  simp [qualifier, Subject.qualifier]

/-- After packages were imported by reference, what a type shows is in the table iff the packages
that it passes over are, provided that the others are among those imported. -/
theorem covers_importPackages_iff {t : Ty} {paths : List String}
    (hsub : ∀ home ∈ t.homes, home ∈ paths) :
    (d.importPackages s paths).Covers s t.pieces ↔
      ∀ home ∈ t.passedOver,
        home = "" ∨ home = s.path ∨ d.names.current home = "" ∨ home ∈ paths ∨ Recorded d home := by
  constructor
  · intro hcov home hmem
    by_contra hnot
    simp only [not_or] at hnot
    obtain ⟨hne, hself, hnamed, hout, hrec⟩ := hnot
    obtain ⟨name, hpiece⟩ := Piece.mem_homes_iff.1 (Ty.mem_mentions_iff t |>.2 (.inr hmem))
    have hcur := current_importPackages_of_not_mem s d hout
    have hq : (d.importPackages s paths).qualifier s home = d.names.current home := by
      rw [qualifier_of_ne hself, hcur]
    obtain ⟨i, hi, hp⟩ := hcov home name hpiece hne (by rwa [hq])
    rw [hq] at hi
    -- Nothing was imported for the package now, so the entry was there before.
    exact hrec ⟨i, lookup_of_importPackages hi (by rwa [hp]), hp⟩
  · intro hpass home name hpiece hne hq
    have hself : home ≠ s.path := by
      rintro rfl
      exact hq (qualifier_self s _)
    rw [qualifier_of_ne hself] at hq ⊢
    have hnamed : d.names.current home ≠ "" := fun h => hq (current_importPackages_eq_empty_iff.2 h)
    have hforeign : home ∈ paths → Recorded (d.importPackages s paths) home := fun hmem =>
      recorded_importPackages hmem ⟨hne, hself, hnamed⟩
    rcases (Ty.mem_mentions_iff t).1 (Piece.mem_homes_iff.2 ⟨name, hpiece⟩) with hmem | hmem
    · exact hforeign (hsub home hmem)
    · rcases hpass home hmem with h | h | h | h | h
      · exact absurd h hne
      · exact absurd h hself
      · exact absurd h hnamed
      · exact hforeign h
      · exact h.importPackages s paths

end Draft

/-- A type is written as its pieces are, each package with its qualifier in the draft. -/
theorem Value.write_type {s : Subject} {workingDir : String} {d : Draft} {v : Value} {t : Ty}
    (hv : v = .type t ∨ v = .classified t) (f : Text.Flags) :
    v.write (s.manner workingDir d.names.current) f 't' = Piece.written (d.qualifier s) t.pieces := by
  rw [← Ty.text_eq_written]
  rcases hv with rfl | rfl <;> rfl

/-- After a template with a type among its arguments was expanded, by whatever draft, the text that
the verb for types gives has all its qualifiers in the table iff every package that the type passes
over is there on account of something else. -/
theorem Draft.step_covers_iff (workingDir : String) (s : Subject) (d : Draft) (σ : Step)
    (template : String) (args : List Value) (v : Value) (t : Ty)
    (hσ : σ = .expand template args ∨ σ = .print template args)
    (hv : v = .type t ∨ v = .classified t) (hmem : v ∈ args) :
    (∀ f : Text.Flags, v.write (s.manner workingDir (d.step workingDir s σ).names.current) f 't' =
        Piece.written ((d.step workingDir s σ).qualifier s) t.pieces) ∧
      ((d.step workingDir s σ).Covers s t.pieces ↔
        ∀ home ∈ t.passedOver, home = "" ∨ home = s.path ∨ d.names.current home = "" ∨
          home ∈ σ.homes ∨ Recorded d home) := by
  refine ⟨fun f => Value.write_type hv f, ?_⟩
  have hsub : ∀ home ∈ t.homes, home ∈ args.flatMap Value.homes := by
    intro home hhome
    refine List.mem_flatMap.2 ⟨v, hmem, ?_⟩
    rcases hv with rfl | rfl <;> exact hhome
  have hcov := covers_importPackages_iff (s := s) (d := d) hsub
  rw [← expand_snd workingDir s d template args] at hcov
  -- Writing the text changes neither the table nor the names.
  rcases hσ with rfl | rfl <;> exact hcov

/-- A package that declares an alias `A`, generic in its argument. -/
def aliasSubject : Subject where
  name := "p"
  path := "example.com/p"
  objects := []
  imports := ["example.com/geo"]
  files := {}
  sources := []
  info := ⟨[], []⟩

/-- The type `A[geo.Point]`, which stands for `[]geo.Point`. -/
def aliasOfPoint : Ty :=
  let point : Ty := .named ⟨"example.com/geo", "Point", 0⟩ [] []
  .synonym ⟨"example.com/p", "A", 0⟩ [] [point] (.slice point)

/-- A type argument of an alias is written with a qualifier that is not in the table. -/
theorem alias_argument_not_covered :
    let d : Draft := { names := ⟨[("example.com/geo", "geo")]⟩ }
    let σ : Draft.Step := .expand "%t" [.type aliasOfPoint]
    (d.expand "" aliasSubject "%t" [.type aliasOfPoint]).1 = "A[geo.Point]" ∧
      aliasOfPoint.passedOver = ["example.com/geo"] ∧
      ¬(d.step "" aliasSubject σ).Covers aliasSubject aliasOfPoint.pieces := by
  intro d σ
  refine ⟨by decide +kernel, by decide +kernel, fun hcov => ?_⟩
  have hiff := (Draft.step_covers_iff "" aliasSubject d σ "%t" [.type aliasOfPoint] (.type aliasOfPoint)
    aliasOfPoint (.inl rfl) (.inl rfl) List.mem_cons_self).2
  rcases hiff.1 hcov "example.com/geo" (by decide +kernel) with h | h | h | h | ⟨i, hi, -⟩
  · exact absurd h (by decide +kernel)
  · exact absurd h (by decide +kernel)
  · exact absurd h (by decide +kernel)
  · exact absurd h (by decide +kernel)
  · exact absurd (List.lookup_nil.symm.trans hi) (by simp)

end TaggedUnion
