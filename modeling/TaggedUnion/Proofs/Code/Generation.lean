import TaggedUnion.Proofs.Code.Run
import TaggedUnion.Session

/-!
# Generating in lockstep

The code of a package comes about by few operations on the draft: packages are imported in three
ways, texts are written, some with a type in them, and expressions are adapted. If all of these run
in lockstep (`Operations`), the code as a whole does (`Operations.draft`), and the runs agree on
every payload type that is written.
-/

namespace TaggedUnion

open Source TaggedUnion.Types Syntax Code

/-- Imports the package of errors and returns the name it has got. -/
def errorsNameIn (s : Subject) : StateM Draft String := fun d =>
  (d.importPath s errorsPath errorsName).getD (errorsName, d)

/-- Writes a type with text around it, after what it refers to is imported. -/
def Draft.writeType (s : Subject) (d : Draft) (before after : String) (t : Ty) : Draft :=
  (d.typeText s t).2.write (before ++ (d.typeText s t).1 ++ after)

namespace Conversion

/-- The payload type stands at one place in the function from the union. -/
theorem exists_unwrap_write (c : Conversion) (u : Union) (g : Generics) (errors : String) :
    ∃ before after, ∀ payload,
      (c.unwrapFunction u g errors payload).write ++ "\n" = before ++ payload ++ after := by
  let f := c.unwrapFunction u g errors ""
  refine ⟨String.join (f.doc.map fun line => "// " ++ line ++ "\n") ++
      "func " ++ f.name ++ f.params ++ "(" ++
      inputName ++ " " ++ f.input ++ ") (" ++ outputName ++ " ",
    ", " ++ errorName ++ " error) \x7b\n" ++ String.join (f.body.map Statement.write) ++ "\x7d\n\n",
    fun payload => ?_⟩
  simp [f, Function.write, unwrapFunction, String.append_assoc]

/-- The payload type stands at one place in the function to the union. -/
theorem exists_wrap_write (c : Conversion) (u : Union) (g : Generics) :
    ∃ before after, ∀ payload,
      (c.wrapFunction u g payload).write ++ "\n" = before ++ payload ++ after := by
  let f := c.wrapFunction u g ""
  refine ⟨String.join (f.doc.map fun line => "// " ++ line ++ "\n") ++
      "func " ++ f.name ++ f.params ++ "(" ++
      inputName ++ " ",
    ") (" ++ ", ".intercalate (f.outputs.map fun o => o.1 ++ " " ++ o.2) ++ ") \x7b\n" ++
      String.join (f.body.map Statement.write) ++ "\x7d\n\n",
    fun payload => ?_⟩
  simp [f, Function.write, wrapFunction, String.append_assoc]

end Conversion

/-- The draft of the code for unions, given the current names of packages. -/
def Subject.draftOf (s : Subject) (names : PackageNames) (unions : List Built) : Draft :=
  unions.foldl (Session.writeUnion s) { names }

/-- A generated file shows the imports and the text of a draft, and nothing else of it. -/
theorem generatedFile_congr {d e : Draft} (himports : e.imports = d.imports) (htext : e.text = d.text)
    (version package : String) : generatedFile version package e = generatedFile version package d := by
  rw [generatedFile, generatedFile, rawFile, rawFile, himports, htext]

/-- The types that the code for unions shows. -/
def payloads (unions : List Built) : List Ty :=
  unions.flatMap fun b => b.conversions.map (·.payload)

/-- The operations that code is made with run in lockstep, and where one of the given types is
written the runs agree on it, in a sense that depends on the type. -/
structure Operations (s : Subject) (types : List Ty) (alike apart : Draft → Draft → Prop)
    (agree : Ty → Prop) : Prop where
  name : ∀ path, Lockstep alike apart True (importedName s path)
  package : ∀ path, Lockstep alike apart True (modify fun d => d.importPackage s path)
  errors : Lockstep alike apart True (errorsNameIn s)
  write : ∀ text, Lockstep alike apart True (modify fun d => d.write text)
  writeType : ∀ before after, ∀ t ∈ types,
    Lockstep alike apart (agree t) (modify fun d => d.writeType s before after t)
  read : ∀ x, Lockstep alike apart True (fun d => (d.currentExpr x, d))
  remember : ∀ x y,
    Lockstep alike apart True (modify fun d => { d with adapted := (x, y) :: d.adapted })

namespace Operations

variable {s : Subject} {types : List Ty} {alike apart : Draft → Draft → Prop} {agree : Ty → Prop}
  (h : Operations s types alike apart agree)

include h

theorem adapt (x : Expr) : Lockstep alike apart True (fun d => d.adapt s x) := by
  have hrest : ∀ current, Lockstep alike apart True (fun d =>
      let r := requalify s current d
      if Draft.isName current then r else (r.1, { r.2 with adapted := (x, r.1) :: r.2.adapted })) := by
    intro current
    cases Draft.isName current with
    | true => exact lockstep_requalify h.name current
    | false =>
      exact (lockstep_requalify h.name current).bind fun y => (h.remember x y).bind fun _ => .pure y
  exact (h.read x).bind hrest

/-- Importing what an expression refers to is importing packages, one after the other. -/
theorem importPackages (paths : List String) :
    Lockstep alike apart True (modify fun d => d.importPackages s paths) :=
  (Lockstep.foldl paths fun path _ => h.package path).imp fun _ => trivial

theorem importExpr (x : Expr) : Lockstep alike apart True (modify fun d => d.importExpr s x) := by
  simp only [Draft.importExpr_eq]
  exact h.importPackages _

theorem paramTexts (gs : List (GroupHead × Expr)) :
    Lockstep alike apart True (fun d => TaggedUnion.paramTexts s d gs) := by
  induction gs with
  | nil => exact .pure []
  | cons g rest ih =>
    obtain ⟨head, bound⟩ := g
    exact (h.adapt bound).bind fun y => (h.importExpr y).bind fun _ => ih.bind fun texts =>
      .pure ((", ".intercalate (head.names.map (·.name)) ++ " " ++ Layout.exprText s.files y) :: texts)

theorem generics (u : Union) : Lockstep alike apart True (fun d => d.generics s u) := by
  cases hgen : u.isGeneric with
  | true =>
    simp only [Draft.generics, hgen, if_true]
    exact (h.paramTexts u.params).bind fun texts => .pure
      ({ params := "[" ++ ", ".intercalate texts ++ "]"
         args := "[" ++ ", ".intercalate (u.params.flatMap fun p => p.1.names.map (·.name)) ++
           "]" } : Generics)
  | false =>
    simp only [Draft.generics, hgen, Bool.false_eq_true, if_false]
    exact .pure ({} : Generics)

/-- Both functions of a variant show its payload type. -/
theorem writeConversion (u : Union) (g : Generics) (errors : String) {c : Conversion}
    (hc : c.payload ∈ types) :
    Lockstep alike apart (agree c.payload)
      (modify fun d => Draft.writeConversion s u g errors d c) := by
  obtain ⟨before, after, hunwrap⟩ := c.exists_unwrap_write u g errors
  obtain ⟨before', after', hwrap⟩ := c.exists_wrap_write u g
  have heq : (fun d => Draft.writeConversion s u g errors d c) = fun d =>
      (d.writeType s before after c.payload).writeType s before' after' c.payload := by
    funext d
    simp only [Draft.writeConversion, hunwrap, hwrap]
    rfl
  rw [heq]
  exact ((h.writeType before after _ hc).comp (h.writeType before' after' _ hc)).imp And.left

theorem writeConversions (u : Union) {conversions : List Conversion}
    (hall : ∀ c ∈ conversions, c.payload ∈ types) :
    Lockstep alike apart (∀ c ∈ conversions, agree c.payload)
      (modify fun d => d.writeConversions s u conversions) := by
  cases hempty : conversions.isEmpty with
  | true =>
    simp only [Draft.writeConversions, hempty, if_true]
    exact (Lockstep.pure ()).imp fun _ c hc => by
      rw [List.isEmpty_iff.1 hempty] at hc
      exact absurd hc List.not_mem_nil
  | false =>
    simp only [Draft.writeConversions, hempty, Bool.false_eq_true, if_false]
    exact (h.generics u).bind fun g => h.errors.bind fun errors =>
      Lockstep.foldl conversions fun c hc => h.writeConversion u g errors (hall c hc)

theorem writeUnion {b : Built} (hall : ∀ c ∈ b.conversions, c.payload ∈ types) :
    Lockstep alike apart (∀ c ∈ b.conversions, agree c.payload)
      (modify fun d => Session.writeUnion s d b) := by
  cases hempty : b.conversions.isEmpty with
  | true =>
    simp only [Session.writeUnion, hempty, if_true]
    exact (Lockstep.pure ()).imp fun _ c hc => by
      rw [List.isEmpty_iff.1 hempty] at hc
      exact absurd hc List.not_mem_nil
  | false =>
    simp only [Session.writeUnion, hempty, Bool.false_eq_true, if_false]
    exact ((h.write _).comp (h.writeConversions b.union hall)).imp And.right

/-- The code of a package is made in lockstep, and the runs agree on all payload types. -/
theorem draft {unions : List Built} (hall : ∀ b ∈ unions, ∀ c ∈ b.conversions, c.payload ∈ types) :
    Lockstep alike apart (∀ b ∈ unions, ∀ c ∈ b.conversions, agree c.payload)
      (modify fun d => unions.foldl (Session.writeUnion s) d) :=
  Lockstep.foldl unions fun b hb => h.writeUnion (hall b hb)

end Operations

/-- The name under which the package of errors is imported is the one a request of it gets. -/
theorem errorsNameIn_snd (s : Subject) (d : Draft) :
    (errorsNameIn s d).2 = d.request s errorsPath errorsName := by
  rw [errorsNameIn, Draft.request]
  cases d.importPath s errorsPath errorsName <;> rfl

/-- Requesting the package of errors enters what a search from its name finds. The flag also shows the name that the
package has. -/
theorem errorsNameIn_eq_enter (s : Subject) (d : Draft) :
    ∃ found, d.importName? s errorsPath errorsName = some found ∧ errorsNameIn s d =
      (found, d.enter found ⟨errorsPath, found != d.knownName s errorsPath errorsName⟩) := by
  have hbase : errorsName ≠ "" := by decide
  obtain ⟨found, hfound⟩ := Draft.exists_importName? s d errorsPath hbase
  refine ⟨found, hfound, ?_⟩
  rw [errorsNameIn, (Draft.importPath_eq_some_iff hbase).2 ⟨hfound, rfl⟩, Option.getD_some]

section Kept

variable {s : Subject} {P : Draft → Prop} (h : Draft.Kept s P)
  (herrors : ∀ d, P d → P (d.request s errorsPath errorsName))

include h herrors

/-- What the single imports and the request of the package of errors keep is kept by all
operations. -/
theorem Draft.Kept.operations (types : List Ty) :
    Operations s types (fun d e => d = e ∧ P d) (fun _ _ => False) fun _ => True where
  name path := .of_keeps fun d => h.importedName d path
  package path := .of_keeps fun d => h.importPackage d path
  errors := .of_keeps fun d hd => by rw [errorsNameIn_snd]; exact herrors d hd
  write _ := .of_keeps fun d => h.frame d _ rfl rfl
  writeType before after t _ := .of_keeps fun d hd => by
    refine h.frame (d.importType s t) _ rfl rfl ?_
    rw [importType_eq]
    exact h.importPackages _ hd
  read _ := .of_keeps fun _ hd => hd
  remember _ _ := .of_keeps fun d => h.frame d _ rfl rfl

/-- What the operations keep is kept by the code for unions. -/
theorem Draft.Kept.writeUnions (unions : List Built) {d : Draft} (hd : P d) :
    P (unions.foldl (Session.writeUnion s) d) := by
  refine ((h.operations herrors (payloads unions)).draft fun b hb c hc => ?_).keeps hd
  exact List.mem_flatMap.2 ⟨b, hb, List.mem_map_of_mem hc⟩

end Kept

/-- What the request of the package of errors establishes holds after the code for unions was
written, if they have conversions. -/
theorem Draft.Kept.writeUnions_of_request {s : Subject} {P : Draft → Prop} (h : Draft.Kept s P)
    (herrors : ∀ d : Draft, P (d.request s errorsPath errorsName)) {unions : List Built} {b : Built}
    (hb : b ∈ unions) (hne : b.conversions ≠ []) (d : Draft) :
    P (unions.foldl (Session.writeUnion s) d) := by
  obtain ⟨l, r, rfl⟩ := List.append_of_mem hb
  rw [List.foldl_append, List.foldl_cons]
  -- It is requested before the conversions of the union are written, and all that follows keeps it.
  refine h.writeUnions (fun d _ => herrors d) r ?_
  have hempty : b.conversions.isEmpty = false := by simpa using hne
  simp only [Session.writeUnion, writeConversions, hempty, Bool.false_eq_true, if_false]
  have hops := h.operations (fun d _ => herrors d) (b.conversions.map (·.payload))
  refine (Lockstep.foldl b.conversions fun c hc =>
    hops.writeConversion b.union _ _ (List.mem_map_of_mem hc)).keeps ?_
  let start := (l.foldl (Session.writeUnion s) d).write ("// enumorph: " ++ b.union.name ++ "\n\n")
  have hrequest := herrors (start.generics s b.union).2
  rwa [← errorsNameIn_snd] at hrequest

end TaggedUnion
