import TaggedUnion.Proofs.Code.Generation
import TaggedUnion.Proofs.Code.Meaning
import TaggedUnion.Proofs.Code.Reading
import TaggedUnion.Proofs.Union.Origin

/-!
# The text of conversions

What is written for a variant are its two functions, one after the other, with the payload type in the
same words (`Draft.text_writeConversion`). The body of a function can be read off its text (`Spells`), as
long as it consists of names: what is written between quotes and brackets must end where the quotes and
brackets do. The declaration of a union makes sure of that (`spells_conversion`).
-/

namespace TaggedUnion

open Source TaggedUnion.Types Syntax Code Text

/-! ## The text of the two functions -/

namespace Draft

variable {s : Subject} {d e : Draft}

@[simp] theorem text_importPackages (s : Subject) (d : Draft) (paths : List String) :
    (d.importPackages s paths).text = d.text := by
  induction paths generalizing d with
  | nil => rfl
  | cons path rest ih => rw [importPackages_cons, ih, text_importPackage]

/-- Importing a recorded package once more leaves its name as it is. -/
theorem current_importPackage_of_recorded {path : String} (h : Recorded d path) (other : String) :
    (d.importPackage s path).names.current other = d.names.current other := by
  by_cases heq : other = path
  · subst heq
    by_cases hf : Foreign s d other
    · obtain ⟨name, hname, heq⟩ := importPackage_of_foreign hf
      obtain ⟨i, hi, hp⟩ := h
      rw [importName?_self hf.named hi hp, Option.some.injEq] at hname
      subst hname
      rw [heq]
      simp
    · rw [importPackage_of_not_foreign hf]
  · exact current_importPackage_of_ne s d heq

/-- Importing packages that are recorded, or that call for no import, leaves all names as they are. -/
theorem current_importPackages_of_recorded {paths : List String}
    (h : ∀ path ∈ paths, Foreign s d path → Recorded d path) (other : String) :
    (d.importPackages s paths).names.current other = d.names.current other := by
  induction paths generalizing d with
  | nil => rfl
  | cons path rest ih =>
    have hpath : ∀ other, (d.importPackage s path).names.current other = d.names.current other := by
      intro other
      by_cases hf : Foreign s d path
      · exact current_importPackage_of_recorded (h path List.mem_cons_self hf) other
      · rw [importPackage_of_not_foreign hf]
    rw [importPackages_cons, ih fun path' hmem hf => ?_, hpath]
    refine (h path' (List.mem_cons_of_mem _ hmem) ⟨hf.ne_empty, hf.ne_self, ?_⟩).importPackage s path
    rw [← hpath]
    exact hf.named

/-- After the packages of a type were imported, importing them again leaves all names as they are. -/
theorem current_importType_again (s : Subject) (d : Draft) (t : Ty)
    (himports : e.imports = (d.typeText s t).2.imports)
    (hnames : e.names = (d.typeText s t).2.names) (other : String) :
    (e.importType s t).names.current other = (d.importType s t).names.current other := by
  rw [importType_eq s t e, current_importPackages_of_recorded fun path hmem hf => ?_, hnames]
  · rfl
  · have hrec : Recorded (d.importPackages s t.homes) path := by
      refine recorded_importPackages hmem ⟨hf.ne_empty, hf.ne_self, fun hempty => hf.named ?_⟩
      rw [hnames, typeText, importType_eq]
      exact current_importPackages_eq_empty_iff.2 hempty
    rw [← importType_eq] at hrec
    rwa [Recorded, himports, hnames]

/-- A type that is written again is written the same. -/
theorem typeText_again (s : Subject) (d : Draft) (t : Ty)
    (himports : e.imports = (d.typeText s t).2.imports)
    (hnames : e.names = (d.typeText s t).2.names) : (e.typeText s t).1 = (d.typeText s t).1 := by
  have hcurrent := funext (current_importType_again s d t himports hnames)
  rw [typeText, typeText, qualifier, qualifier, hcurrent]

/-- What is written for a variant are its two functions, with the payload type in the same words. -/
theorem text_writeConversion (s : Subject) (u : Union) (g : Generics) (errors : String) (d : Draft)
    (c : Conversion) :
    (d.writeConversion s u g errors c).text =
      d.text ++ ((c.unwrapFunction u g errors (d.typeText s c.payload).1).write ++ "\n") ++
        ((c.wrapFunction u g (d.typeText s c.payload).1).write ++ "\n") := by
  have hagain := typeText_again s d c.payload
    (e := (d.typeText s c.payload).2.write
      ((c.unwrapFunction u g errors (d.typeText s c.payload).1).write ++ "\n")) rfl rfl
  simp only [writeConversion, hagain]
  simp [write, typeText, importType_eq]

end Draft

/-- The text of a function up to its body: its comment, its name and its types. -/
def Code.Function.head (f : Function) : String :=
  String.join (f.doc.map fun line => "// " ++ line ++ "\n") ++
    "func " ++ f.name ++ f.params ++ "(" ++ inputName ++ " " ++ f.input ++ ") (" ++
    ", ".intercalate (f.outputs.map fun (name, type) => name ++ " " ++ type) ++ ") \x7b\n"

/-- A text spells a function if it has its head, and its body can be read off the rest. -/
def Spells (text : String) (f : Function) : Prop :=
  ∃ body, text = f.head ++ body ++ "\x7d\n" ∧ readBody body = some f.body

theorem spells_write {f : Function} (h : ∀ st ∈ f.body, st.IsReadable) : Spells f.write f :=
  ⟨_, rfl, readBody_of_isReadable h⟩

/-! ## Names -/

theorem args_generics (s : Subject) (d : Draft) (u : Union) :
    (d.generics s u).1.args =
      if u.isGeneric then "[" ++ ", ".intercalate u.typeArguments ++ "]" else "" := by
  rw [Draft.generics]
  split <;> rfl

/-- What the language makes sure of in a declaration: its names are identifiers, and the fields that
are not blank have different names. -/
structure Subject.WellNamed (s : Subject) (spec : TypeSpec) : Prop where
  name : isIdentifier spec.name.name = true
  params : ∀ g ∈ spec.params, ∀ id ∈ g.1.names, isIdentifier id.name = true
  fields : ∀ f ∈ s.fieldsOf spec, isIdentifier f.head.name = true
  /-- The fields of fields that are structs. -/
  inner : ∀ f ∈ s.fieldsOf spec, ∀ g ∈ (f.type.struct? s.info.table).getD [],
    isIdentifier g.1.name = true
  different : (((s.fieldsOf spec).filter fun f => !f.isBlank).map (·.head.name)).Nodup

instance (s : Subject) (spec : TypeSpec) : Decidable (s.WellNamed spec) :=
  decidable_of_iff
    (isIdentifier spec.name.name = true ∧ (∀ g ∈ spec.params, ∀ id ∈ g.1.names, isIdentifier id.name = true) ∧
      (∀ f ∈ s.fieldsOf spec, isIdentifier f.head.name = true) ∧
      (∀ f ∈ s.fieldsOf spec, ∀ g ∈ (f.type.struct? s.info.table).getD [], isIdentifier g.1.name = true) ∧
      (((s.fieldsOf spec).filter fun f => !f.isBlank).map (·.head.name)).Nodup)
    ⟨fun ⟨h₁, h₂, h₃, h₄, h₅⟩ => ⟨h₁, h₂, h₃, h₄, h₅⟩, fun ⟨h₁, h₂, h₃, h₄, h₅⟩ => ⟨h₁, h₂, h₃, h₄, h₅⟩⟩

/-- What stands neither in texts nor between them is not in the list of them. -/
theorem notMem_intercalate {c : Char} {sep : String} {texts : List String} (hsep : c ∉ sep.toList)
    (h : ∀ text ∈ texts, c ∉ text.toList) : c ∉ (sep.intercalate texts).toList := by
  induction texts with
  | nil => simp
  | cons text rest ih =>
    have htext := h text List.mem_cons_self
    have hrest := ih fun text hmem => h text (List.mem_cons_of_mem _ hmem)
    cases rest with
    | nil => simpa using htext
    | cons text' rest =>
      rw [String.intercalate_cons_cons, String.toList_append, String.toList_append, List.mem_append,
        List.mem_append]
      rintro ((hmem | hmem) | hmem)
      · exact htext hmem
      · exact hsep hmem
      · exact hrest hmem

section Names

variable {s : Subject} {spec : TypeSpec} {u : Union} (hu : s.union spec = .ok u)
  (hnamed : s.WellNamed spec)

include hu hnamed

theorem isIdentifier_tag : isIdentifier u.tag.name = true := by
  obtain ⟨f, hf, -, htag⟩ := (union_eq_ok hu).2.1
  have hmem : f ∈ (s.fieldsOf spec).filter WrittenField.isTag := hf ▸ List.mem_singleton_self f
  rw [htag]
  exact hnamed.fields f (List.mem_filter.1 hmem).1

theorem isIdentifier_union : isIdentifier u.name = true := by
  obtain ⟨⟨hname, -⟩, -, -⟩ := union_eq_ok hu
  exact hname ▸ hnamed.name

/-- The type arguments of a union are identifiers in brackets. -/
theorem arguments_isReadable (d : Draft) :
    Ends isIdentPart (d.generics s u).1.args.toList ∧ '\x7b' ∉ (d.generics s u).1.args.toList := by
  obtain ⟨⟨-, hparams⟩, -, -⟩ := union_eq_ok hu
  have hargs : ∀ name ∈ u.typeArguments, '\x7b' ∉ name.toList := by
    intro name hmem
    obtain ⟨g, hg, hname⟩ := List.mem_flatMap.1 hmem
    obtain ⟨id, hid, rfl⟩ := List.mem_map.1 hname
    exact notMem_of_isIdentifier (hnamed.params g (hparams ▸ hg) id hid) (by decide)
  rw [args_generics]
  split
  · rw [String.toList_append, String.toList_append]
    refine ⟨ends_cons (by decide), ?_⟩
    rw [List.mem_append, List.mem_append]
    rintro ((hmem | hmem) | hmem)
    · exact absurd hmem (by decide)
    · exact notMem_intercalate (by decide) hargs hmem
    · exact absurd hmem (by decide)
  · exact ⟨nofun, List.not_mem_nil⟩

variable {limit : Option Nat} {taken : TakenNames} {c : Conversion}
  (hc : .ok c ∈ (u.check s.info.table limit taken).2)

include hc

theorem isIdentifier_variant : isIdentifier c.variant = true := by
  obtain ⟨f, hf, -, -, hvariant, -⟩ := conversion_field hu hc
  rw [hvariant]
  exact hnamed.fields f hf

theorem isIdentifier_accessor {name : String} (hname : c.accessor = .field name) :
    isIdentifier name = true := by
  obtain ⟨f, hf, -, -, -, hshape⟩ := conversion_field hu hc
  have hinner := hnamed.inner f hf
  rw [Shape.ofType] at hshape
  split at hshape
  · rw [Shape.single.injEq, hname] at hshape
    exact absurd hshape.1 (by simp)
  · split at hshape
    · rw [Shape.single.injEq, hname] at hshape
      exact absurd hshape.1 (by simp)
    · cases hshape
    · rename_i head type hstruct
      rw [Shape.single.injEq, hname, Accessor.of] at hshape
      rw [hstruct] at hinner
      split at hshape
      · exact absurd hshape.1 (by simp)
      · rw [← Accessor.field.inj hshape.1]
        exact hinner (head, type) List.mem_cons_self
    · cases hshape

theorem isIdentifier_of_mem_path {name : String} (hmem : name ∈ c.path) : isIdentifier name = true := by
  have hvariant := isIdentifier_variant hu hnamed hc
  rw [Conversion.path] at hmem
  cases hacc : c.accessor with
  | whole index =>
    rw [hacc] at hmem
    rwa [List.mem_singleton.1 hmem]
  | field inner =>
    rw [hacc] at hmem
    rcases List.mem_cons.1 hmem with rfl | hmem
    · exact hvariant
    · rw [List.mem_singleton.1 hmem]
      exact isIdentifier_accessor hu hnamed hc hacc

/-- The tag is another field than the variant. -/
theorem tag_ne_variant (htag : u.tag.name ≠ "_") : u.tag.name ≠ c.variant := by
  obtain ⟨f, hf, -, htagname⟩ := (union_eq_ok hu).2.1
  obtain ⟨f', hf', hnot, hblank, hvariant, -⟩ := conversion_field hu hc
  have hmem : f ∈ (s.fieldsOf spec).filter WrittenField.isTag := hf ▸ List.mem_singleton_self f
  obtain ⟨hfields, histag⟩ := List.mem_filter.1 hmem
  rw [htagname] at htag ⊢
  rw [hvariant]
  intro heq
  have hinj := List.inj_on_of_nodup_map hnamed.different
    (List.mem_filter.2 ⟨hfields, by simpa [WrittenField.isBlank] using htag⟩)
    (List.mem_filter.2 ⟨hf', by simpa [WrittenField.isBlank] using hblank⟩) heq
  rw [hinj, hnot] at histag
  cases histag

omit hnamed in
theorem reachable (htag : u.tag.name ≠ "_") (haccessor : c.accessor ≠ .field "_") : c.Reachable u := by
  obtain ⟨f, -, -, hblank, hvariant, -⟩ := conversion_field hu hc
  exact (Conversion.reachable_iff (hvariant ▸ hblank)).2 ⟨htag, haccessor⟩

end Names

/-- The two functions of a variant consist of names. -/
theorem isReadable_body {s : Subject} {spec : TypeSpec} {u : Union} (hu : s.union spec = .ok u)
    (hnamed : s.WellNamed spec) {limit : Option Nat} {taken : TakenNames} {c : Conversion}
    (hc : .ok c ∈ (u.check s.info.table limit taken).2) {errors : String}
    (herrors : isIdentifier errors = true) (d : Draft) (payload : String) :
    (∀ st ∈ (c.unwrapFunction u (d.generics s u).1 errors payload).body, st.IsReadable) ∧
      ∀ st ∈ (c.wrapFunction u (d.generics s u).1 payload).body, st.IsReadable := by
  have hroot : ∀ root ∈ [inputName, outputName], isIdentifier root = true ∧ root ∉ reservedWords := by
    decide
  have hplace : ∀ root ∈ [inputName, outputName], ∀ fields : List String,
      (∀ name ∈ fields, isIdentifier name = true) → (⟨root, fields⟩ : Place).IsReadable :=
    fun root hmem fields hfields =>
      ⟨List.forall_mem_cons.2 ⟨(hroot root hmem).1, hfields⟩, (hroot root hmem).2⟩
  have hin : inputName ∈ [inputName, outputName] := List.mem_cons_self
  have hout : outputName ∈ [inputName, outputName] := List.mem_cons_of_mem _ List.mem_cons_self
  have htag : ∀ name ∈ [u.tag.name], isIdentifier name = true := fun name hmem =>
    List.mem_singleton.1 hmem ▸ isIdentifier_tag hu hnamed
  have hpath : ∀ name ∈ c.path, isIdentifier name = true := fun name hmem =>
    isIdentifier_of_mem_path hu hnamed hc hmem
  have hvariant := isIdentifier_variant hu hnamed hc
  obtain ⟨hends, hbrace⟩ := arguments_isReadable hu hnamed d
  constructor
  · refine List.forall_mem_singleton.2 ⟨hplace _ hin _ htag, hvariant, ⟨by simp, ?_⟩, by simp, ?_⟩
    · rw [Conversion.place_eq]
      exact List.forall_mem_cons.2 ⟨hplace _ hin _ hpath, List.forall_mem_singleton.2 trivial⟩
    · exact List.forall_mem_cons.2 ⟨hplace _ hout _ nofun, List.forall_mem_singleton.2
        ⟨herrors, isIdentifier_union hu hnamed, hends, hbrace, hplace _ hin _ nofun, hplace _ hin _ htag,
          hvariant⟩⟩
  · refine List.forall_mem_cons.2 ⟨⟨hplace _ hout _ htag, hvariant⟩, List.forall_mem_cons.2
      ⟨⟨?_, hplace _ hin _ nofun⟩, List.forall_mem_singleton.2 ⟨by simp, ?_⟩⟩⟩
    · rw [Conversion.place_eq]
      exact hplace _ hout _ hpath
    · exact List.forall_mem_singleton.2 (hplace _ hout _ nofun)

/-- What is written for a variant spells its two functions. -/
theorem spells_conversion {s : Subject} {spec : TypeSpec} {u : Union} (hu : s.union spec = .ok u)
    (hnamed : s.WellNamed spec) {limit : Option Nat} {taken : TakenNames} {c : Conversion}
    (hc : .ok c ∈ (u.check s.info.table limit taken).2) {errors : String}
    (herrors : isIdentifier errors = true) (start d : Draft) :
    let g := (start.generics s u).1
    let payload := (d.typeText s c.payload).1
    ∃ unwrapText wrapText, (d.writeConversion s u g errors c).text =
        d.text ++ (unwrapText ++ "\n") ++ (wrapText ++ "\n") ∧
      Spells unwrapText (c.unwrapFunction u g errors payload) ∧
      Spells wrapText (c.wrapFunction u g payload) := by
  intro g payload
  obtain ⟨hunwrap, hwrap⟩ := isReadable_body hu hnamed hc herrors start payload
  exact ⟨_, _, Draft.text_writeConversion s u g errors d c, spells_write hunwrap, spells_write hwrap⟩

end TaggedUnion
