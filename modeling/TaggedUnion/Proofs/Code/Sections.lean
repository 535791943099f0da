import TaggedUnion.Proofs.Code.Spelled
import TaggedUnion.Proofs.Code.Regenerated
import TaggedUnion.Proofs.Code.Repeated

/-!
# The sections of the code

The code for unions is a sequence of sections (`Section`), one for each union that has conversions. A section starts
with the name of its union, and goes on with the two functions of each conversion, in the order of the variants
(`Renders`). What is written stands after what was written before (`exists_sections`), so no section is lost, repeated
or moved, and the names of all functions are those of the conversions (`map_name_functions`).
-/

namespace TaggedUnion

open Source TaggedUnion.Types Syntax Code

/-- The code of a union. -/
structure Section where
  /-- The name of the union. -/
  union : String
  /-- The two functions of each variant. -/
  pairs : List (Function × Function)

namespace Section

/-- The functions in the order that they are written in: the one from the union goes first. -/
def functions (x : Section) : List Function :=
  x.pairs.flatMap fun pair => [pair.1, pair.2]

/-- The text of a section: a comment with the name of the union, and the functions with a blank line after each. -/
def text (x : Section) : String :=
  "// enumorph: " ++ x.union ++ "\n\n" ++ String.join (x.functions.map fun f => f.write ++ "\n")

end Section

/-- The two functions of a conversion, given how the union and the package of errors are written. -/
def Subject.Pairs (s : Subject) (u : Union) (g : Generics) (errors : String) (c : Conversion)
    (pair : Function × Function) : Prop :=
  ∃ d : Draft, pair =
    (c.unwrapFunction u g errors (d.typeText s c.payload).1, c.wrapFunction u g (d.typeText s c.payload).1)

/-- What a section has to do with a union that was built: each variant that is asked for has its conversion, and each
conversion its two functions, all of them in order. -/
structure Subject.Renders (s : Subject) (b : Built) (x : Section) : Prop where
  union : x.union = b.union.name
  conversions : List.Forall₂ (fun v c => Conversion.IsFor b.union c v) b.union.wanted b.conversions
  pairs : ∃ d : Draft, let g := (d.generics s b.union).1
    let errors := (errorsNameIn s (d.generics s b.union).2).1
    List.Forall₂ (s.Pairs b.union g errors) b.conversions x.pairs

/-! ## Names of functions -/

variable {s : Subject} {u : Union} {b : Built} {x : Section}

theorem map_name_of_pairs {g : Generics} {errors : String} {vs : List Variant} {cs : List Conversion}
    {pairs : List (Function × Function)} (hfor : List.Forall₂ (fun v c => Conversion.IsFor u c v) vs cs)
    (hpairs : List.Forall₂ (s.Pairs u g errors) cs pairs) :
    (pairs.flatMap fun pair => [pair.1, pair.2]).map (·.name) = vs.flatMap u.conversionNames := by
  induction hfor generalizing pairs with
  | nil =>
    cases hpairs
    rfl
  | cons hc _ ih =>
    cases hpairs with
    | cons hpair hrest =>
      obtain ⟨d, rfl⟩ := hpair
      rw [List.flatMap_cons, List.flatMap_cons, List.map_append, ih hrest, Union.conversionNames, ← hc.unwrap,
        ← hc.wrap]
      rfl

/-- The functions of a section have the names of the conversions that the union asks for. -/
theorem Subject.Renders.map_name (h : s.Renders b x) : x.functions.map (·.name) = b.union.names := by
  obtain ⟨d, hpairs⟩ := h.pairs
  exact map_name_of_pairs h.conversions hpairs

/-- The functions of several sections have the names of all these conversions, in order. -/
theorem map_name_functions {unions : List Union} {sections : List Section}
    (h : List.Forall₂ (fun u x => ∃ b ∈ s.build.unions, b.union = u ∧ s.Renders b x) unions sections) :
    (sections.flatMap Section.functions).map (·.name) = unions.flatMap Union.names := by
  induction h with
  | nil => rfl
  | cons hrenders _ ih =>
    obtain ⟨b, -, rfl, hrenders⟩ := hrenders
    rw [List.flatMap_cons, List.flatMap_cons, List.map_append, ih, hrenders.map_name]

theorem length_names (u : Union) : u.names.length = 2 * u.wanted.length := by
  rw [Union.names, List.length_flatMap]
  simp [Union.conversionNames, Nat.mul_comm]

/-! ## What is written -/

namespace Draft

/-- Writing type parameters down adds no text to the code. -/
theorem text_paramTexts (s : Subject) (d : Draft) (gs : List (GroupHead × Expr)) :
    (paramTexts s d gs).2.text = d.text := by
  induction gs generalizing d with
  | nil => rfl
  | cons g rest ih =>
    obtain ⟨head, bound⟩ := g
    calc (paramTexts s ((d.adapt s bound).2.importExpr s (d.adapt s bound).1) rest).2.text
        = ((d.adapt s bound).2.importExpr s (d.adapt s bound).1).text := ih _
      _ = (d.adapt s bound).2.text := by rw [importExpr_eq, text_importPackages]
      _ = d.text := text_adapt s d bound

theorem text_generics (s : Subject) (d : Draft) (u : Union) : (d.generics s u).2.text = d.text := by
  rw [generics]
  split
  · exact text_paramTexts s d u.params
  · rfl

/-- Conversions are written one after the other, and each is two functions. -/
theorem exists_pairs (s : Subject) (u : Union) (g : Generics) (errors : String) (d : Draft) (cs : List Conversion) :
    ∃ pairs, List.Forall₂ (s.Pairs u g errors) cs pairs ∧
      (cs.foldl (writeConversion s u g errors) d).text = d.text ++
        String.join ((pairs.flatMap fun pair => [pair.1, pair.2]).map fun f => f.write ++ "\n") := by
  induction cs generalizing d with
  | nil => exact ⟨[], .nil, (String.append_empty ..).symm⟩
  | cons c rest ih =>
    obtain ⟨pairs, hpairs, htext⟩ := ih (d.writeConversion s u g errors c)
    refine ⟨_, .cons ⟨d, rfl⟩ hpairs, ?_⟩
    rw [List.foldl_cons, htext, text_writeConversion]
    simp [String.append_assoc]

/-- What is written for a union with conversions is a section. -/
theorem exists_section (s : Subject) (d : Draft) (hne : b.conversions ≠ [])
    (hfor : List.Forall₂ (fun v c => Conversion.IsFor b.union c v) b.union.wanted b.conversions) :
    ∃ x, s.Renders b x ∧ (Session.writeUnion s d b).text = d.text ++ x.text := by
  have hempty : b.conversions.isEmpty = false := by simpa using hne
  let start := d.write ("// enumorph: " ++ b.union.name ++ "\n\n")
  let named := errorsNameIn s (start.generics s b.union).2
  obtain ⟨pairs, hpairs, htext⟩ := exists_pairs s b.union (start.generics s b.union).1 named.1 named.2 b.conversions
  refine ⟨⟨b.union.name, pairs⟩, ⟨rfl, hfor, start, hpairs⟩, ?_⟩
  rw [Session.writeUnion, hempty, if_neg Bool.false_ne_true, writeConversions_of_ne_nil s start b.union hne]
  calc (b.conversions.foldl (writeConversion s b.union (start.generics s b.union).1 named.1) named.2).text
      = start.text ++ _ := by
        rw [htext, (text_adapted_errorsNameIn s _).1, text_generics]
    _ = d.text ++ (⟨b.union.name, pairs⟩ : Section).text := by
        simp [start, write, Section.text, Section.functions, String.append_assoc]

/-- What is written for unions is a section for each one with conversions, in order. -/
theorem exists_sections (s : Subject) (d : Draft) {unions : List Built}
    (hfor : ∀ b ∈ unions, List.Forall₂ (fun v c => Conversion.IsFor b.union c v) b.union.wanted b.conversions) :
    ∃ sections, List.Forall₂ s.Renders (unions.filter fun b => !b.conversions.isEmpty) sections ∧
      (unions.foldl (Session.writeUnion s) d).text = d.text ++ String.join (sections.map Section.text) := by
  induction unions generalizing d with
  | nil => exact ⟨[], .nil, (String.append_empty ..).symm⟩
  | cons b rest ih =>
    obtain ⟨hb, hrest⟩ := List.forall_mem_cons.1 hfor
    obtain ⟨sections, hsections, htext⟩ := ih (Session.writeUnion s d b) hrest
    rw [List.foldl_cons, htext]
    cases hempty : b.conversions.isEmpty with
    | true =>
      rw [Session.writeUnion, hempty, if_pos rfl, List.filter_cons_of_neg (by simp [hempty])]
      exact ⟨sections, hsections, rfl⟩
    | false =>
      obtain ⟨x, hx, hxtext⟩ := exists_section s d (by simpa using hempty) hb
      rw [List.filter_cons_of_pos (by simp [hempty]), hxtext]
      refine ⟨x :: sections, .cons hx hsections, ?_⟩
      rw [List.map_cons, String.join_cons, String.append_assoc]

end Draft

/-! ## Clean builds -/

/-- Variants that all pass have a conversion each, in order. -/
theorem forall₂_isFor_of_clean {table : TypeTable} {c : Checking} {vs : List Variant}
    (h : failed (checkVariants table u c vs).2 = []) :
    List.Forall₂ (fun v conversion => Conversion.IsFor u conversion v) vs (passed (checkVariants table u c vs).2) := by
  induction vs generalizing c with
  | nil => exact .nil
  | cons v rest ih =>
    rw [checkVariants] at h ⊢
    cases hout : checkVariant table u v c with
    | mk c' outcome =>
      rw [hout] at h
      cases outcome with
      | error finding => exact absurd h (List.cons_ne_nil _ _)
      | ok conversion => exact .cons (isFor_of_checkVariant hout).1 (ih h)

/-- In a build without findings, each variant that is asked for has its conversion. -/
theorem isFor_of_buildAll_clean {taken : TakenNames} {rs : List Request} (h : (buildAll s taken rs).findings = []) :
    ∀ b ∈ (buildAll s taken rs).unions,
      List.Forall₂ (fun v c => Conversion.IsFor b.union c v) b.union.wanted b.conversions := by
  induction rs generalizing taken with
  | nil => exact nofun
  | cons r rest ih =>
    rw [buildAll] at h ⊢
    cases hu : s.union r.spec with
    | error finding =>
      rw [hu] at h
      exact absurd h (List.cons_ne_nil _ _)
    | ok u =>
      rw [hu] at h
      obtain ⟨hcheck, hrest⟩ := List.append_eq_nil_iff.1 h
      exact List.forall_mem_cons.2 ⟨forall₂_isFor_of_clean hcheck, ih hrest⟩

theorem isFor_of_build_clean (h : s.build.findings = []) : ∀ b ∈ s.build.unions,
    List.Forall₂ (fun v c => Conversion.IsFor b.union c v) b.union.wanted b.conversions :=
  isFor_of_buildAll_clean (List.append_eq_nil_iff.1 h).2

end TaggedUnion
