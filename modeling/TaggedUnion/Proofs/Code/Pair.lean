import TaggedUnion.Proofs.Code.Nameable
import TaggedUnion.Proofs.Code.References

/-!
# The two conversions of a variant

The code of a variant spells two functions (`spells_conversion`), and the functions are inverse to each
other as far as they can be (`IsPair`) if they are *understood* (`Understood`): all names stand for what they
are meant for, and none is captured. What is wrapped is unwrapped again then, a union with the tag of
the variant is unwrapped to its payload, and any other union is handed back in an error. A function that
is not understood has another meaning or none, so this is the exact condition (`IsPair.of_understood`, `IsPair.understood`).

A union declares its name and the names of its type parameters as it likes, and the package may declare
names that are predeclared otherwise; nothing keeps these from the names that the functions use. As no
two conversions of a union are for variants of one name, at most one of them unwraps a union, whatever
names stand for (`check_isPair`).
-/

namespace TaggedUnion

open Source TaggedUnion.Types Syntax Program Code Text

variable {α : Type} {Γ : Surroundings α}

/-! ## Calls -/

/-- The results of a function of a union, given what is around the function. -/
def Code.Function.call (Γ : Surroundings α) (u : Union) (zero : String → Data α) (f : Function) (x : Data α) :
    Option (List (Item α)) :=
  f.run (Γ.within (f.scope u [])) zero x

/-- Whether a function returns a value and no error. -/
def Code.Function.Succeeds (Γ : Surroundings α) (u : Union) (zero : String → Data α) (f : Function)
    (x : Data α) : Prop :=
  ∃ y, f.call Γ u zero x = some [.value y, .failure none]

namespace Conversion

variable {u : Union} {c : Conversion} {g : Generics} {errors payload : String} {zero : String → Data α}

/-- Where the tag is not that of the variant, unwrap returns an error, or has no results. -/
theorem tag_of_succeeds {x : Data α}
    (h : (c.unwrapFunction u g errors payload).Succeeds Γ u zero x) : x [u.tag.name] = .text c.variant := by
  obtain ⟨y, hy⟩ := h
  let σ := (c.unwrapFunction u g errors payload).start zero x
  change execAll (Γ.within _) σ [_] = _ at hy
  cases htext : ((⟨inputName, [u.tag.name]⟩ : Place).read σ).bind Data.text? with
  | none =>
    rw [execAll, Statement.exec, htext] at hy
    cases hy
  | some t =>
    obtain ⟨z, hz, ht⟩ := Option.bind_eq_some_iff.1 htext
    have hpart : x.part [u.tag.name] = z := by
      rw [Place.read, show σ inputName = some (.value x) from rfl] at hz
      split at hz
      next hroot =>
        cases hroot
        exact Option.some_inj.1 hz
      next => cases hz
    have htag : x [u.tag.name] = .text t := by
      rw [← hpart, Data.text?, Data.part, List.append_nil] at ht
      split at ht
      next hx => rw [hx, Option.some_inj.1 ht]
      next => cases ht
    rw [execAll_choose _ htext] at hy
    by_cases heq : t = c.variant
    · rw [htag, heq]
    · -- What is returned then is an error.
      rw [if_neg heq, execAll_ret, List.mapM_cons, List.mapM_cons, List.mapM_nil, Term.eval, Term.eval] at hy
      simp [Option.bind_eq_some_iff] at hy

end Conversion

/-! ## Pairs -/

/-- What is expected of the two conversions of a variant, whose payload is the given field, if it is one:
they are functions, and do what they are for. The zero values of types are given, and the texts of the union
type and the payload type with what their names are meant for. -/
structure IsPair (Γ : Surroundings α) (s : Subject) (u : Union) (c : Conversion) (field : Option FieldHead)
    (types : List Reference) (zero : String → Data α) (union payload : String) (unwrap wrap : Function) :
    Prop where
  nameable : Nameable s.path u c field
  shown : c.payload.words.all (Word.isShown s.path) = true
  unwrapAccepted : unwrap.Accepted Γ.target? s.path u types
  wrapAccepted : wrap.Accepted Γ.target? s.path u types
  /-- Wrap sets the tag and the payload and leaves everything else at its zero value, and unwrap
  returns the payload. -/
  inverse : ∀ p, ∃ x, wrap.call Γ u zero p = some [.value x] ∧ x [u.tag.name] = .text c.variant ∧
    x.part c.path = p ∧ (∀ q, ¬[u.tag.name] <+: q → ¬c.path <+: q → x q = zero union q) ∧
    unwrap.call Γ u zero x = some [.value p, .failure none]
  /-- Unwrap succeeds iff the tag is the variant. -/
  succeeds_iff : ∀ x, unwrap.Succeeds Γ u zero x ↔ x [u.tag.name] = .text c.variant
  /-- Then it returns the payload. -/
  holds : ∀ x, x [u.tag.name] = .text c.variant →
    unwrap.call Γ u zero x = some [.value (x.part c.path), .failure none]
  /-- Otherwise it returns the zero payload and the union in an error. -/
  rejects : ∀ x tag, x [u.tag.name] = .text tag → tag ≠ c.variant →
    unwrap.call Γ u zero x = some [.value (zero payload),
      .failure (some (.mismatch { type := union, value := x, tag, want := c.variant }))]

/-- What it takes to understand the two conversions of a variant: fields can be named, no name is captured,
and in the package each stands for what it is meant for. A package that leaves `nil` and `string` to the
language has them mean no error and the text of a tag; what it declares under these names must do so. -/
structure Understood (Γ : Surroundings α) (s : Subject) (u : Union) (c : Conversion) (field : Option FieldHead)
    (types : List Reference) (errors : String) (unwrap wrap : Function) : Prop where
  nameable : Nameable s.path u c field
  shown : c.payload.words.all (Word.isShown s.path) = true
  unwrapFaithful : (unwrap.scope u (types.map Reference.head)).Faithful
  wrapFaithful : (wrap.scope u (types.map Reference.head)).Faithful
  union : Γ.target? u.name = some (.object s.path u.name)
  error : Γ.target? "error" = some (.predeclared "error")
  errors : Γ.target? errors = some (.package errorsPath)
  types : ∀ r ∈ types, r.Holds Γ.target?
  noError : Γ.noError = some none
  asText : ∀ (y : Data α) t, y [] = .text t → t ≠ c.variant → Γ.asText y = some t

/-- Two functions are understood in a package that leaves `nil` and `string` to the language, if all other
names are. -/
theorem Understood.of_predeclared {s : Subject} {u : Union} {c : Conversion} {field : Option FieldHead}
    {types : List Reference} {errors : String} {unwrap wrap : Function}
    (hnil : Γ.target? "nil" = some (.predeclared "nil"))
    (hstring : Γ.target? "string" = some (.predeclared "string"))
    (h : (Nameable s.path u c field ∧ c.payload.words.all (Word.isShown s.path) = true) ∧
      ((unwrap.scope u (types.map Reference.head)).Faithful ∧
        (wrap.scope u (types.map Reference.head)).Faithful) ∧
      Γ.target? u.name = some (.object s.path u.name) ∧ Γ.target? "error" = some (.predeclared "error") ∧
        Γ.target? errors = some (.package errorsPath) ∧ ∀ r ∈ types, r.Holds Γ.target?) :
    Understood Γ s u c field types errors unwrap wrap := by
  obtain ⟨⟨hnameable, hshown⟩, ⟨hunwrap, hwrap⟩, hunion, herror, herrors, htypes⟩ := h
  refine ⟨hnameable, hshown, hunwrap, hwrap, hunion, herror, herrors, htypes,
    Surroundings.noError_of_predeclared hnil, fun y t hy _ => ?_⟩
  rw [Surroundings.asText_of_predeclared hstring, Data.text?, hy]

namespace Conversion

variable {s : Subject} {u : Union} {c : Conversion} {g : Generics} {errors payload : String}
  {zero : String → Data α} {field : Option FieldHead} {types : List Reference}

/-- Unwrap is accepted iff its own names are different and no other one that it declares a type with is
captured, and these stand for what they are meant for. -/
theorem accepted_unwrapFunction_iff {look : String → Option Target} :
    let f := c.unwrapFunction u g errors payload
    let σ := f.scope u (types.map Reference.head)
    f.Accepted look s.path u types ↔
      ((σ.typeParams ++ σ.locals).Nodup ∧ (∀ name ∈ σ.signature, σ.inSignature name = .outside) ∧
        σ.inBody errors = .outside ∧ σ.inBody u.name = .outside) ∧
      look u.name = some (.object s.path u.name) ∧ look "error" = some (.predeclared "error") ∧
        look errors = some (.package errorsPath) ∧ ∀ r ∈ types, r.Holds look := by
  intro f σ
  have hbody : f.body.flatMap (Statement.references s.path) =
      [⟨some errors, "Mismatch", .object errorsPath "Mismatch"⟩, ⟨none, u.name, .object s.path u.name⟩] := rfl
  have hsignature : f.signatureReferences s.path u types =
      ⟨none, u.name, .object s.path u.name⟩ :: ⟨none, "error", .predeclared "error"⟩ :: types := rfl
  have hexported : isExported "Mismatch" = true := by decide
  refine Function.accepted_iff.trans ?_
  rw [hbody, hsignature]
  simp only [List.cons_append, List.forall_mem_cons, List.forall_mem_append,
    Reference.holds_qualified_iff hexported, List.not_mem_nil, false_imp_iff, implies_true, and_true]
  simp only [Reference.Holds, Reference.target?, Reference.head, Option.getD_some, Option.getD_none]
  tauto

theorem accepted_wrapFunction_iff {look : String → Option Target} :
    let f := c.wrapFunction u g payload
    let σ := f.scope u (types.map Reference.head)
    f.Accepted look s.path u types ↔
      σ.Faithful ∧ look u.name = some (.object s.path u.name) ∧ ∀ r ∈ types, r.Holds look := by
  intro f σ
  have hbody : f.body.flatMap (Statement.references s.path) = [] := rfl
  have hsignature : f.signatureReferences s.path u types =
      ⟨none, u.name, .object s.path u.name⟩ :: types := rfl
  have hinner : σ.body = [] := rfl
  refine Function.accepted_iff.trans ?_
  rw [hbody, hsignature, List.append_nil, List.forall_mem_cons]
  constructor
  · rintro ⟨hdistinct, hsig, -, hunion, htypes⟩
    exact ⟨⟨hdistinct, hsig, hinner ▸ List.forall_mem_nil _⟩, hunion, htypes⟩
  · rintro ⟨hfaithful, hunion, htypes⟩
    exact ⟨hfaithful.distinct, hfaithful.signature, List.forall_mem_nil _, hunion, htypes⟩

/-- Unwrap returns the payload of its variant, without an error, iff that is what `nil` stands for. -/
theorem call_unwrap_eq_iff (h : c.Reachable u) {x : Data α} (hx : x [u.tag.name] = .text c.variant) :
    let f := c.unwrapFunction u g errors payload
    f.call Γ u zero x = some [.value (x.part c.path), .failure none] ↔
      (f.scope u []).inBody "nil" = .outside ∧ Γ.noError = some none := by
  intro f
  rw [Function.call, run_unwrap _ g errors payload zero h hx, unwrapResults, if_pos rfl,
    ← Surroundings.noError_within_eq_some_iff]
  cases (Γ.within (f.scope u [])).noError <;> simp

/-- Unwrap returns another union in an error iff that can be made out of the names around. -/
theorem call_unwrap_eq_mismatch_iff (h : c.Reachable u) {x : Data α} {t : String}
    (hx : x [u.tag.name] = .text t) (ht : t ≠ c.variant) :
    let f := c.unwrapFunction u g errors payload
    f.call Γ u zero x = some [.value (zero payload),
        .failure (some (.mismatch { type := u.name ++ g.args, value := x, tag := t, want := c.variant }))] ↔
      (Γ.within (f.scope u [])).mismatch errors u.name g.args x (x.part [u.tag.name]) c.variant =
        some (.mismatch { type := u.name ++ g.args, value := x, tag := t, want := c.variant }) := by
  intro f
  rw [Function.call, run_unwrap _ g errors payload zero h hx, unwrapResults, if_neg ht]
  cases (Γ.within (f.scope u [])).mismatch errors u.name g.args x (x.part [u.tag.name]) c.variant <;> simp

end Conversion

section Pair

variable {s : Subject} {spec : TypeSpec} {u : Union} (hu : s.union spec = .ok u)
  (hnamed : s.WellNamed spec) {limit : Option Nat} {taken : TakenNames} {c : Conversion}
  (hc : .ok c ∈ (u.check s.info.table limit taken).2) {g : Generics} {errors payload : String}
  {zero : String → Data α} {field : Option FieldHead} {types : List Reference}

include hu hnamed hc

/-- Two functions that are understood are a pair. -/
theorem IsPair.of_understood
    (h : Understood Γ s u c field types errors (c.unwrapFunction u g errors payload)
      (c.wrapFunction u g payload)) :
    IsPair Γ s u c field types zero (u.name ++ g.args) payload (c.unwrapFunction u g errors payload)
      (c.wrapFunction u g payload) := by
  have hreach := reachable hu hc h.nameable.tag h.nameable.accessor
  have hbody : ∀ name ∈ ["nil", errors, u.name, "string"],
      ((c.unwrapFunction u g errors payload).scope u []).inBody name = .outside := h.unwrapFaithful.body
  have hapart : ¬c.path <+: [u.tag.name] := by
    rw [Conversion.path]
    cases c.accessor <;> simp [List.cons_prefix_cons, (tag_ne_variant hu hnamed hc h.nameable.tag).symm]
  have hholds : ∀ x : Data α, x [u.tag.name] = .text c.variant →
      (c.unwrapFunction u g errors payload).call Γ u zero x =
        some [.value (x.part c.path), .failure none] := fun x hx =>
    (Conversion.call_unwrap_eq_iff hreach hx).2 ⟨hbody _ (by simp), h.noError⟩
  refine ⟨h.nameable, h.shown, ?_, ?_, fun p => ?_, fun x => ⟨Conversion.tag_of_succeeds, fun hx =>
    ⟨_, hholds x hx⟩⟩, hholds, fun x t hx ht => ?_⟩
  · exact Conversion.accepted_unwrapFunction_iff.2 ⟨⟨h.unwrapFaithful.distinct, h.unwrapFaithful.signature,
      hbody _ (by simp), hbody _ (by simp)⟩, h.union, h.error, h.errors, h.types⟩
  · exact Conversion.accepted_wrapFunction_iff.2 ⟨h.wrapFaithful, h.union, h.types⟩
  · let x := ((zero (u.name ++ g.args)).put [u.tag.name] (.ofText c.variant)).put c.path p
    have hx : x [u.tag.name] = .text c.variant :=
      (Data.put_of_not_prefix hapart).trans (Data.put_append _ _ [u.tag.name] [])
    have hpart : x.part c.path = p := Data.part_put _ p c.path
    refine ⟨x, Conversion.run_wrap _ g payload zero hreach p, hx, hpart, fun q hq hq' => ?_, ?_⟩
    · exact (Data.put_of_not_prefix hq').trans (Data.put_of_not_prefix hq)
    · rw [hholds x hx, hpart]
  · have htext : (x.part [u.tag.name]) [] = .text t := by rw [Data.part, List.append_nil, hx]
    have houtside : ∀ name ∈ ["nil", errors, u.name, "string"],
        (Γ.within ((c.unwrapFunction u g errors payload).scope u [])).target? name = Γ.target? name :=
      fun name hname => if_pos (hbody name hname)
    refine (Conversion.call_unwrap_eq_mismatch_iff hreach hx ht).2
      (Surroundings.mismatch_eq_some_iff.2 ⟨?_, s.path, u.name, t, ?_, ?_, rfl⟩)
    · rw [houtside _ (by simp), h.errors]
    · rw [houtside _ (by simp), h.union]
    · exact Surroundings.asText_within_eq_some_iff.2 ⟨hbody _ (by simp), h.asText _ t htext ht⟩

/-- Two functions that are a pair are understood. -/
theorem IsPair.understood
    (h : IsPair Γ s u c field types zero (u.name ++ g.args) payload (c.unwrapFunction u g errors payload)
      (c.wrapFunction u g payload)) :
    Understood Γ s u c field types errors (c.unwrapFunction u g errors payload)
      (c.wrapFunction u g payload) := by
  have hreach := reachable hu hc h.nameable.tag h.nameable.accessor
  obtain ⟨⟨hdistinct, hsignature, herrors, hunion⟩, hnames⟩ :=
    Conversion.accepted_unwrapFunction_iff.1 h.unwrapAccepted
  obtain ⟨hwrap, -⟩ := Conversion.accepted_wrapFunction_iff.1 h.wrapAccepted
  obtain ⟨hnil, hnone⟩ : ((c.unwrapFunction u g errors payload).scope u []).inBody "nil" = .outside ∧
      Γ.noError = some none := by
    obtain ⟨x, -, hx, -⟩ := h.inverse (.ofText "")
    exact (Conversion.call_unwrap_eq_iff hreach hx).1 (h.holds x hx)
  -- Any text that is not the variant can be the tag.
  have htexts : ∀ (y : Data α) t, y [] = .text t → t ≠ c.variant →
      ((c.unwrapFunction u g errors payload).scope u []).inBody "string" = .outside ∧
        Γ.asText y = some t := by
    intro y t hy ht
    let x := (Data.ofText "" : Data α).put [u.tag.name] y
    have hpart : x.part [u.tag.name] = y := Data.part_put _ y _
    have hx : x [u.tag.name] = .text t := by rw [← hy, ← hpart, Data.part, List.append_nil]
    have hmismatch := (Conversion.call_unwrap_eq_mismatch_iff hreach hx ht).1 (h.rejects x t hx ht)
    obtain ⟨-, _, _, t', -, ht', heq⟩ := Surroundings.mismatch_eq_some_iff.1 hmismatch
    have htag : t = t' := congrArg Mismatch.tag (Failure.mismatch.inj heq)
    rw [hpart, ← htag] at ht'
    exact Surroundings.asText_within_eq_some_iff.1 ht'
  have hstring : ((c.unwrapFunction u g errors payload).scope u []).inBody "string" = .outside := by
    have hne : "" ≠ c.variant := by
      intro heq
      have hvariant := isIdentifier_variant hu hnamed hc
      rw [← heq] at hvariant
      cases hvariant
    exact (htexts (.ofText "") "" rfl hne).1
  have hbody : ∀ name ∈ ["nil", errors, u.name, "string"],
      ((c.unwrapFunction u g errors payload).scope u []).inBody name = .outside := by
    simp only [List.forall_mem_cons]
    exact ⟨hnil, herrors, hunion, hstring, List.forall_mem_nil _⟩
  exact ⟨h.nameable, h.shown, ⟨hdistinct, hsignature, hbody⟩, hwrap, hnames.1, hnames.2.1, hnames.2.2.1,
    hnames.2.2.2, hnone, fun y t hy ht => (htexts y t hy ht).2⟩

end Pair

/-- What is written for a conversion of a union spells two functions, whose type parameters have the bounds
as they come out of the draft. The functions are a pair iff they are understood in the package, and at most
one of the conversions unwraps a union, whatever names stand for. -/
theorem check_isPair {s : Subject} {spec : TypeSpec} {u : Union} (hu : s.union spec = .ok u)
    (hnamed : s.WellNamed spec) {errors : String} (herrors : isIdentifier errors = true)
    (limit : Option Nat) (taken : TakenNames) (start : Draft) (program : Program) (f : File)
    (table : List (String × Import)) (held : String → Option (Option (Failure (Data α))))
    (made : String → Data α → Option String) (zero : String → Data α) :
    let Γ : Surroundings α := ⟨codeTarget? s table, held, made⟩
    let g := (start.generics s u).1
    g.params = boundsText s start u ∧
    (∀ c, .ok c ∈ (u.check s.info.table limit taken).2 → ∀ d : Draft,
      let payload := (d.typeText s c.payload).1
      let unwrap := c.unwrapFunction u g errors payload
      let wrap := c.wrapFunction u g payload
      let types := boundReferences program s f start u ++ d.typeReferences s c.payload
      (∃ unwrapText wrapText, (d.writeConversion s u g errors c).text =
          d.text ++ (unwrapText ++ "\n") ++ (wrapText ++ "\n") ∧
        Spells unwrapText unwrap ∧ Spells wrapText wrap) ∧
      ∃ v ∈ s.fieldsOf spec, v.head.name = c.variant ∧
        Shape.ofType s.info.table v.type = .single c.accessor c.payload ∧
        (IsPair Γ s u c (payloadField? s.info.table v.type) types zero (u.name ++ g.args) payload unwrap wrap ↔
          Understood Γ s u c (payloadField? s.info.table v.type) types errors unwrap wrap)) ∧
    (passed (u.check s.info.table limit taken).2).Pairwise fun c c' => ∀ payload payload' x,
      ¬((c.unwrapFunction u g errors payload).Succeeds Γ u zero x ∧
        (c'.unwrapFunction u g errors payload').Succeeds Γ u zero x) := by
  intro Γ g
  refine ⟨params_generics s start u, fun c hc d => ⟨spells_conversion hu hnamed hc herrors start d, ?_⟩, ?_⟩
  · obtain ⟨v, hv, -, -, hvariant, hshape⟩ := conversion_field hu hc
    exact ⟨v, hv, hvariant.symm, hshape, IsPair.understood hu hnamed hc, IsPair.of_understood hu hnamed hc⟩
  · refine (pairwise_variant_ne s.info.table u limit taken).imp fun {c c'} hne payload payload' x => ?_
    rintro ⟨hx, hx'⟩
    have htag := Conversion.tag_of_succeeds hx
    rw [Conversion.tag_of_succeeds hx', Content.text.injEq] at htag
    exact hne htag.symm

/-! ## An example -/

/-- Three packages with a union each. The second union has a type parameter with the name of the package of
errors, and the third one is called `nil`. -/
def shapeSources : List (String × List (String × String)) :=
  [("p", [("p.go", "package p\n\n//enumorph:derive\ntype Shape struct \x7b\n\tKind string `enumorph:\"tag\"`\n" ++
      "\tCircle struct \x7b\n\t\tRadius int\n\t\x7d\n\x7d\n")]),
    ("q", [("q.go", "package q\n\n//enumorph:derive\ntype Shape[enumorpherrors any] struct \x7b\n" ++
      "\tKind string `enumorph:\"tag\"`\n\tSquare enumorpherrors\n\x7d\n")]),
    ("r", [("r.go", "package r\n\n//enumorph:derive\ntype nil struct \x7b\n" ++
      "\tKind string `enumorph:\"tag\"`\n\tOval int\n\x7d\n")])]

/-- The imports after the functions of a conversion were written, if it is the first one to be written. -/
def firstImports (program : Program) (s : Subject) (u : Union) (c : Conversion) : List (String × Import) :=
  let start : Draft := { names := .declared program }
  let named := errorsNameIn s (start.generics s u).2
  (named.2.writeConversion s u (start.generics s u).1 named.1 c).imports

/-- The circle is unwrapped as it was wrapped. The square has no unwrap function, since the package of errors is
captured, and the oval has none, since `nil` is a type. -/
theorem circle_isPair :
    let pair (program : Program) (p : Package) (f : File) (u : Union) (c : Conversion) (v : WrittenField) : Prop :=
      let s := Subject.ofPackage program p
      let start : Draft := { names := .declared program }
      let g := (start.generics s u).1
      let named := errorsNameIn s (start.generics s u).2
      let payload := (named.2.typeText s c.payload).1
      let Γ : Surroundings Unit := ⟨codeTarget? s (firstImports program s u c), fun _ => none, fun _ _ => none⟩
      IsPair Γ s u c (payloadField? program.table v.type)
        (boundReferences program s f start u ++ named.2.typeReferences s c.payload) (fun _ => Data.ofText "")
        (u.name ++ g.args) payload (c.unwrapFunction u g named.1 payload) (c.wrapFunction u g payload)
    ∃ program, ({} : Program).loadAll? shapeSources = some program ∧
      ∀ unwrap ∈ ["ShapeToCircle", "ShapeToSquare", "nilToOval"], ∃ p ∈ program.packages, ∃ f ∈ p.files,
        ∃ x ∈ (Subject.ofPackage program p).conversions, x.2.2.unwrap = unwrap ∧
          ∃ v ∈ (Subject.ofPackage program p).fieldsOf x.1, v.head.name = x.2.2.variant ∧
            (pair program p f x.2.1 x.2.2 v ↔ unwrap = "ShapeToCircle") := by
  intro pair
  let shown (program : Program) (p : Package) (f : File) (x : TypeSpec × Union × Conversion) :=
    let s := Subject.ofPackage program p
    let u := x.2.1
    let c := x.2.2
    let start : Draft := { names := .declared program }
    let g := (start.generics s u).1
    let named := errorsNameIn s (start.generics s u).2
    let payload := (named.2.typeText s c.payload).1
    let unwrap := c.unwrapFunction u g named.1 payload
    let wrap := c.wrapFunction u g payload
    let types := boundReferences program s f start u ++ named.2.typeReferences s c.payload
    let Γ : Surroundings Unit := ⟨codeTarget? s (firstImports program s u c), fun _ => none, fun _ _ => none⟩
    (c.unwrap, decide (s.WellNamed x.1 ∧ isIdentifier named.1 = true),
      decide ((Γ.target? "nil" = some (.predeclared "nil") ∧ Γ.target? "string" = some (.predeclared "string")) ∧
        ∀ v ∈ s.fieldsOf x.1, (Nameable s.path u c (payloadField? program.table v.type) ∧
          c.payload.words.all (Word.isShown s.path) = true) ∧
        ((unwrap.scope u (types.map Reference.head)).Faithful ∧
          (wrap.scope u (types.map Reference.head)).Faithful) ∧
        Γ.target? u.name = some (.object s.path u.name) ∧ Γ.target? "error" = some (.predeclared "error") ∧
          Γ.target? named.1 = some (.package errorsPath) ∧ ∀ r ∈ types, r.Holds Γ.target?),
      decide (unwrap.scope u (types.map Reference.head)).Faithful && Γ.noError.any Option.isNone)
  have hshown : (({} : Program).loadAll? shapeSources).map (fun program => program.packages.flatMap fun p =>
      p.files.flatMap fun f => (Subject.ofPackage program p).conversions.map (shown program p f)) =
      some [("ShapeToCircle", true, true, true), ("ShapeToSquare", true, false, false),
        ("nilToOval", true, false, false)] := by
    simp only [shapeSources, loadAll?_cons]
    rw [String.toList_append, String.toList_ofList, String.toList_ofList, String.toList_append, String.toList_ofList,
      String.toList_ofList, String.toList_append, String.toList_ofList, String.toList_ofList]
    decide +kernel
  obtain ⟨program, hload, hprogram⟩ := Option.map_eq_some_iff.1 hshown
  have hfind : ∀ unwrap b, (unwrap, true, b, b) ∈ [("ShapeToCircle", true, true, true),
      ("ShapeToSquare", true, false, false), ("nilToOval", true, false, false)] →
      (b = true ↔ unwrap = "ShapeToCircle") → ∃ p ∈ program.packages, ∃ f ∈ p.files, ∃ x ∈ (Subject.ofPackage program p).conversions,
        x.2.2.unwrap = unwrap ∧ ∃ v ∈ (Subject.ofPackage program p).fieldsOf x.1,
          v.head.name = x.2.2.variant ∧ (pair program p f x.2.1 x.2.2 v ↔ unwrap = "ShapeToCircle") := by
    intro unwrap b hmem hb
    rw [← hprogram] at hmem
    obtain ⟨p, hp, hmem⟩ := List.mem_flatMap.1 hmem
    obtain ⟨f, hf, hmem⟩ := List.mem_flatMap.1 hmem
    obtain ⟨⟨spec, u, c⟩, hx, heq⟩ := List.mem_map.1 hmem
    simp only [shown, Prod.mk.injEq, decide_eq_true_eq] at heq
    obtain ⟨hunwrap, ⟨hnamed, herrors⟩, hcore, hlast⟩ := heq
    obtain ⟨hu, hc⟩ := Subject.of_mem_conversions hx
    obtain ⟨-, hpairs, -⟩ := check_isPair hu hnamed herrors none {} { names := .declared program } program f
      (firstImports program (Subject.ofPackage program p) u c) (fun _ => none) (fun _ _ => none)
      (fun _ => (Data.ofText "" : Data Unit))
    obtain ⟨-, v, hv, hvariant, -, hiff⟩ := hpairs c hc
      (errorsNameIn (Subject.ofPackage program p)
        (({ names := .declared program } : Draft).generics (Subject.ofPackage program p) u).2).2
    refine ⟨p, hp, f, hf, ⟨spec, u, c⟩, hx, hunwrap, v, hv, hvariant, (hiff.trans ⟨fun h => ?_, fun h => ?_⟩).trans hb⟩
    · rw [← hlast, Bool.and_eq_true, decide_eq_true_eq]
      exact ⟨h.unwrapFaithful, by rw [h.noError]; rfl⟩
    · obtain ⟨⟨hnil, hstring⟩, hall⟩ := of_decide_eq_true (hcore.trans h)
      exact .of_predeclared hnil hstring (hall v hv)
  refine ⟨program, hload, fun unwrap hmem => ?_⟩
  simp only [List.mem_cons, List.not_mem_nil, or_false] at hmem
  rcases hmem with rfl | rfl | rfl
  · exact hfind _ true (by simp) (by decide)
  · exact hfind _ false (by simp) (by decide)
  · exact hfind _ false (by simp) (by decide)

end TaggedUnion
