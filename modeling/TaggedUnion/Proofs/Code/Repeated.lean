import TaggedUnion.Proofs.Code.Leads
import TaggedUnion.Proofs.Code.Qualifiers
import TaggedUnion.Proofs.Code.Requalified
import TaggedUnion.Proofs.Syntax.Equality

/-!
# Code that is written once more

After the code for unions was written, writing it once more enters nothing into the table of imports and gives no
package another name. Bounds of type parameters come out the same, whether or not their new form was remembered
(`Remembers`). What may be different are the payload types: they name a package as it is called when they are
written, and a package that a type passes over may get its name only later. Where it does, the texts diverge.

Each part of the code is followed from a draft on the way and from any draft that has what the first run left
(`Redone`); parts that follow each other are put together by `Redone.bind`. For all of the code this is
`Subject.redone_draftOf`.
-/

namespace TaggedUnion

open Source TaggedUnion.Types Syntax

/-! ## The names that types are written with -/

/-- The payload types of variants, each with the names that packages have when it is written. -/
def writtenPayloads (s : Subject) (u : Union) (g : Generics) (errors : String) :
    Draft → List Conversion → List (Ty × PackageNames)
  | _, [] => []
  | d, c :: rest =>
    (c.payload, (d.typeText s c.payload).2.names) ::
      writtenPayloads s u g errors (d.writeConversion s u g errors c) rest

/-- The payload types in the code for unions, each with the names that packages have when it is written. -/
def writtenTypes (s : Subject) : Draft → List Built → List (Ty × PackageNames)
  | _, [] => []
  | d, b :: rest =>
    (if b.conversions.isEmpty then []
      else
        let (g, named) := (d.write ("// enumorph: " ++ b.union.name ++ "\n\n")).generics s b.union
        let (errors, named) := errorsNameIn s named
        writtenPayloads s b.union g errors named b.conversions) ++
    writtenTypes s (Session.writeUnion s d b) rest

/-- The packages that the type passes over, and that its text names, are called the same later. -/
def Types.Ty.Settled (s : Subject) (names later : PackageNames) (t : Ty) : Prop :=
  ∀ home ∈ t.passedOver, home = "" ∨ home = s.path ∨ later.current home = names.current home

instance (s : Subject) (names later : PackageNames) (t : Ty) : Decidable (t.Settled s names later) :=
  inferInstanceAs (Decidable (∀ home ∈ t.passedOver,
    home = "" ∨ home = s.path ∨ later.current home = names.current home))

/-! ## Requalified expressions -/

/-- Requalifying writes nothing, and remembers nothing. -/
theorem text_adapted_requalify (s : Subject) (x : Expr) (d : Draft) :
    (requalify s x d).2.text = d.text ∧ (requalify s x d).2.adapted = d.adapted := by
  refine requalify_keeps (P := fun e => e.text = d.text ∧ e.adapted = d.adapted) (fun path e he => ?_) x ⟨rfl, rfl⟩
  rcases Draft.importedName_eq s e path with heq | ⟨found, i, heq⟩ <;> rw [heq]
  · exact he
  · exact ⟨(Draft.text_enter _ _ _).trans he.1, (Draft.adapted_enter _ _ _).trans he.2⟩

namespace Draft

variable {s : Subject} {D d e : Draft} {bounds : List Expr} {x : Expr}

@[simp] theorem adapted_importPackages (s : Subject) (d : Draft) (paths : List String) :
    (d.importPackages s paths).adapted = d.adapted := by
  induction paths generalizing d with
  | nil => rfl
  | cons path rest ih =>
    rw [importPackages_cons, ih]
    by_cases hforeign : Foreign s d path
    · obtain ⟨name, -, heq⟩ := importPackage_of_foreign hforeign
      rw [heq]
      exact adapted_enter _ _ _
    · rw [importPackage_of_not_foreign hforeign]

@[simp] theorem text_adapt (s : Subject) (d : Draft) (x : Expr) : (d.adapt s x).2.text = d.text := by
  obtain ⟨adapted, heq⟩ := exists_adapt_eq s x d
  rw [heq]
  exact (text_adapted_requalify s _ d).1

theorem text_adapted_errorsNameIn (s : Subject) (d : Draft) :
    (errorsNameIn s d).2.text = d.text ∧ (errorsNameIn s d).2.adapted = d.adapted := by
  obtain ⟨found, -, heq⟩ := errorsNameIn_eq_enter s d
  rw [heq]
  exact ⟨text_enter _ _ _, adapted_enter _ _ _⟩

/-- A mere name is not remembered in its new form. -/
theorem adapt_of_isName (h : isName (d.currentExpr x) = true) : d.adapt s x = requalify s (d.currentExpr x) d := by
  simp only [Draft.adapt, h, if_true]
  rfl

theorem adapt_of_not_isName (h : isName (d.currentExpr x) = false) :
    d.adapt s x = ((requalify s (d.currentExpr x) d).1, { (requalify s (d.currentExpr x) d).2 with
      adapted := (x, (requalify s (d.currentExpr x) d).1) :: (requalify s (d.currentExpr x) d).2.adapted }) := by
  simp only [Draft.adapt, h, Bool.false_eq_true, if_false]
  rfl

/-! ## Remembered bounds -/

/-- Each of the bounds is by now as in the source, or as it is in the end; in the end, all of its packages are in the
table. -/
def Remembers (s : Subject) (D : Draft) (bounds : List Expr) (d : Draft) : Prop :=
  ∀ x ∈ bounds, d.currentExpr x = x ∨ requalify s x D = (d.currentExpr x, D)

theorem Remembers.of_adapted_eq (h : Remembers s D bounds d) (hadapted : e.adapted = d.adapted) :
    Remembers s D bounds e := by
  intro x hx
  rw [currentExpr, hadapted]
  exact h x hx

/-- A bound that is adapted on the way comes out as it is in the end. -/
theorem Remembers.adapt_eq (h : Remembers s D bounds d) (hD : D.Undeclared s) (hx : x ∈ bounds)
    (hlead : (d.adapt s x).2.Leads s D) : requalify s x D = ((d.adapt s x).1, D) := by
  obtain ⟨adapted, heq⟩ := exists_adapt_eq s x d
  rw [heq] at hlead ⊢
  have hrequalified : (requalify s (d.currentExpr x) d).2.Leads s D := ⟨hlead.imports, hlead.named, hlead.current⟩
  -- Nothing was put into the bound so far, or all that there is to put in.
  rcases h x hx with hsource | hfinal
  · rw [hsource] at hrequalified ⊢
    exact hrequalified.requalify_eq hD (.refl D)
  · have hrests := requalify_requalify s x D d
    rw [hfinal] at hrests
    rw [hrests]
    exact hfinal

/-- A bound that is adapted is remembered as it is in the end, and no other one is touched. -/
theorem Remembers.adapt (h : Remembers s D bounds d) (hfinal : requalify s x D = ((d.adapt s x).1, D)) :
    Remembers s D bounds (d.adapt s x).2 := by
  have hadapted := (text_adapted_requalify s (d.currentExpr x) d).2
  cases hname : isName (d.currentExpr x) with
  | true =>
    rw [adapt_of_isName hname]
    exact h.of_adapted_eq hadapted
  | false =>
    have hadapt := adapt_of_not_isName (s := s) hname
    rw [hadapted] at hadapt
    rw [hadapt] at hfinal ⊢
    generalize requalify s (d.currentExpr x) d = adapted at hfinal
    intro y hy
    by_cases hsame : y = x
    · subst hsame
      rw [currentExpr, List.lookup_cons_self]
      exact .inr hfinal
    · rw [currentExpr, List.lookup_cons, beq_false_of_ne hsame]
      exact h y hy

/-! ## Parts that are written once more -/

/-- The draft has what the first run left. -/
structure Resumed (s : Subject) (D : Draft) (bounds : List Expr) (e : Draft) : Prop where
  rests : D.Rests e
  remembers : Remembers s D bounds e

/-- What was written does not count. -/
theorem Resumed.of_text (h : Resumed s D bounds e) (text : String) : Resumed s D bounds { e with text } :=
  ⟨⟨h.rests.imports, h.rests.current⟩, h.remembers.of_adapted_eq rfl⟩

/-- A part of the code that is made on the way, and once more. It adds a text to the draft on the way, and another
one to each draft that has what the first run left, which still has it then. These texts are one if what is required
for it holds, and else they diverge. -/
structure Redone {α : Type} (s : Subject) (D : Draft) (bounds : List Expr) (m : StateM Draft α) (d : Draft)
    (same : Prop) : Prop where
  remembers : Remembers s D bounds (m d).2
  texts : ∃ first second, (m d).2.text = d.text ++ first ∧
    (∀ e, Resumed s D bounds e →
      (m e).1 = (m d).1 ∧ Resumed s D bounds (m e).2 ∧ (m e).2.text = e.text ++ second) ∧
    (same ∧ second = first ∨ ¬same ∧ Diverge first second)

namespace Redone

variable {α β : Type} {m : StateM Draft α} {k : α → StateM Draft β} {same other : Prop}

theorem iff (h : Redone s D bounds m d same) (hiff : same ↔ other) : Redone s D bounds m d other :=
  propext hiff ▸ h

/-- A part without text. -/
theorem silent (hremembers : Remembers s D bounds (m d).2) (htext : ∀ e, (m e).2.text = e.text)
    (hagain : ∀ e, Resumed s D bounds e → (m e).1 = (m d).1 ∧ Resumed s D bounds (m e).2) :
    Redone s D bounds m d True where
  remembers := hremembers
  texts := by
    refine ⟨"", "", by rw [htext, String.append_empty], fun e he => ?_, .inl ⟨trivial, rfl⟩⟩
    obtain ⟨hres, hresumed⟩ := hagain e he
    exact ⟨hres, hresumed, by rw [htext, String.append_empty]⟩

theorem pure {a : α} (hremembers : Remembers s D bounds d) :
    Redone s D bounds (Pure.pure a : StateM Draft α) d True :=
  .silent hremembers (fun _ => rfl) fun _ he => ⟨rfl, he⟩

/-- One part after the other: if the first texts diverge, so do the whole ones. -/
theorem bind (hm : Redone s D bounds m d same) (hk : Redone s D bounds (k (m d).1) (m d).2 other) :
    Redone s D bounds (m >>= k) d (same ∧ other) where
  remembers := hk.remembers
  texts := by
    obtain ⟨first, second, htext, hagain, hor⟩ := hm.texts
    obtain ⟨first', second', htext', hagain', hor'⟩ := hk.texts
    refine ⟨first ++ first', second ++ second', ?_, fun e he => ?_, ?_⟩
    · rw [← String.append_assoc, ← htext]
      exact htext'
    · -- The second part starts where the first one ends, in the first run and in any other.
      obtain ⟨hres, hresumed, hmid⟩ := hagain e he
      obtain ⟨hres', hresumed', hend⟩ := hagain' (m e).2 hresumed
      change (k (m e).1 (m e).2).1 = (k (m d).1 (m d).2).1 ∧ Resumed s D bounds (k (m e).1 (m e).2).2 ∧
        (k (m e).1 (m e).2).2.text = e.text ++ (second ++ second')
      rw [hres, hend, hmid, String.append_assoc]
      exact ⟨hres', hresumed', rfl⟩
    · rcases hor with ⟨hsame, rfl⟩ | ⟨hnot, hdiverge⟩
      · rcases hor' with ⟨hother, rfl⟩ | ⟨hnot, hdiverge⟩
        · exact .inl ⟨⟨hsame, hother⟩, rfl⟩
        · exact .inr ⟨fun h => hnot h.2, hdiverge.prepend second⟩
      · exact .inr ⟨fun h => hnot h.1, hdiverge.append first' second'⟩

/-- One change after the other. -/
theorem comp {f g : Draft → Draft} (hf : Redone s D bounds (modify f) d same)
    (hg : Redone s D bounds (modify g) (f d) other) : Redone s D bounds (modify fun d => g (f d)) d (same ∧ other) :=
  hf.bind (k := fun _ => modify g) hg

end Redone

section

variable (hD : D.Undeclared s) (hrem : Remembers s D bounds d)

/-- Importing packages by reference. -/
theorem redone_importPackages (hrem : Remembers s D bounds d) {paths : List String}
    (h : (d.importPackages s paths).Leads s D) :
    Redone s D bounds (modify fun d => d.importPackages s paths) d True :=
  .silent (hrem.of_adapted_eq (adapted_importPackages s d paths)) (fun e => text_importPackages s e paths) fun e he =>
    ⟨rfl, h.importPackages he.rests, he.remembers.of_adapted_eq (adapted_importPackages s e paths)⟩

theorem redone_importExpr (hrem : Remembers s D bounds d) (h : (d.importExpr s x).Leads s D) :
    Redone s D bounds (modify fun d => d.importExpr s x) d True := by
  simp only [importExpr_eq] at h ⊢
  exact redone_importPackages hrem h

theorem redone_write (hrem : Remembers s D bounds d) (text : String) :
    Redone s D bounds (modify fun d => d.write text) d True where
  remembers := hrem.of_adapted_eq rfl
  texts := ⟨text, text, rfl, fun _ he => ⟨rfl, he.of_text _, rfl⟩, .inl ⟨trivial, rfl⟩⟩

include hD hrem

theorem redone_errors (h : (errorsNameIn s d).2.Leads s D) : Redone s D bounds (errorsNameIn s) d True := by
  refine .silent (hrem.of_adapted_eq (text_adapted_errorsNameIn s d).2) (fun e => (text_adapted_errorsNameIn s e).1)
    fun e he => ?_
  rw [h.errorsNameIn_eq hD he.rests]
  exact ⟨rfl, he⟩

/-- Adapting a bound, which may or may not be remembered in its new form. -/
theorem redone_adapt (hx : x ∈ bounds) (h : (d.adapt s x).2.Leads s D) :
    Redone s D bounds (fun d => d.adapt s x) d True := by
  have hfinal := hrem.adapt_eq hD hx h
  refine .silent (hrem.adapt hfinal) (fun e => text_adapt s e x) fun e he => ?_
  have hrests : requalify s (e.currentExpr x) e = ((d.adapt s x).1, e) := by
    rcases he.remembers x hx with hsource | hcurrent
    · have hagain := Leads.requalify_eq (d := D) (x := x) hD he.rests (hfinal ▸ .refl s D)
      rw [hsource, hagain, hfinal]
    · have hagain := requalify_requalify s x D e
      rw [hcurrent] at hagain
      rw [hagain, (Prod.mk.inj (hcurrent.symm.trans hfinal)).1]
  obtain ⟨adapted, heq⟩ := exists_adapt_eq s x e
  have hres : (e.adapt s x).1 = (d.adapt s x).1 := by rw [heq, hrests]
  refine ⟨hres, ?_, he.remembers.adapt (hfinal.trans (by rw [hres]))⟩
  rw [heq, hrests]
  exact ⟨he.rests.imports, he.rests.current⟩

theorem redone_paramTexts {gs : List (GroupHead × Expr)} (hgs : ∀ g ∈ gs, g.2 ∈ bounds)
    (h : (paramTexts s d gs).2.Leads s D) : Redone s D bounds (fun d => paramTexts s d gs) d True := by
  induction gs generalizing d with
  | nil => exact .pure hrem
  | cons g rest ih =>
    obtain ⟨head, bound⟩ := g
    obtain ⟨hbound, hrest⟩ := List.forall_mem_cons.1 hgs
    -- What all of it leads to, the steps before lead to.
    have himported : ((d.adapt s bound).2.importExpr s (d.adapt s bound).1).Leads s D :=
      Leads.before ((operations_not_leads hD []).paramTexts rest) h
    have hadapted : (d.adapt s bound).2.Leads s D :=
      Leads.before ((operations_not_leads hD []).importExpr (d.adapt s bound).1) himported
    have hadapt := redone_adapt hD hrem hbound hadapted
    have himport := redone_importExpr hadapt.remembers himported
    have htexts := ih himport.remembers hrest h
    have hseq : (fun d => paramTexts s d ((head, bound) :: rest)) = (do
        let y ← fun d => d.adapt s bound
        modify fun d => d.importExpr s y
        let texts ← fun d => paramTexts s d rest
        return (", ".intercalate (head.names.map (·.name)) ++ " " ++ Layout.exprText s.files y) :: texts :
        StateM Draft (List String)) := rfl
    rw [hseq]
    refine Redone.iff (hadapt.bind (himport.bind (htexts.bind (.pure htexts.remembers)))) (by simp)

theorem redone_generics {u : Union} (hu : ∀ g ∈ u.params, g.2 ∈ bounds) (h : (d.generics s u).2.Leads s D) :
    Redone s D bounds (fun d => d.generics s u) d True := by
  cases hgeneric : u.isGeneric with
  | true =>
    simp only [Draft.generics, hgeneric, if_true] at h ⊢
    have htexts := redone_paramTexts hD hrem hu h
    let generics (texts : List String) : Generics :=
      { params := "[" ++ ", ".intercalate texts ++ "]"
        args := "[" ++ ", ".intercalate (u.params.flatMap fun g => g.1.names.map (·.name)) ++ "]" }
    exact (htexts.bind (k := fun texts => return generics texts) (.pure htexts.remembers)).iff and_self_iff
  | false =>
    simp only [Draft.generics, hgeneric, Bool.false_eq_true, if_false]
    exact .pure hrem

end

/-! ### Types -/

/-- Names that have no dots in the end have none on the way: they are the start of candidates of them. -/
theorem Leads.dot_notMem (h : d.Leads s D) (hdot : ∀ path, '.' ∉ (D.names.current path).toList) (path : String) :
    '.' ∉ (d.names.current path).toList := by
  rcases h.current path with hsame | hfound
  · exact hsame ▸ hdot path
  · obtain ⟨-, n, -, hcandidate, -⟩ := importName?_eq_some_iff.1 hfound
    have hend := hdot path
    rw [hcandidate] at hend
    cases n with
    | zero => exact hend
    | succ n =>
      rw [Name.candidate_succ_toList] at hend
      exact fun hmem => hend (List.mem_append_left _ hmem)

/-- After its packages were imported, a type is written as it is in the end if the packages that it passes over are
called the same, and else the texts diverge. -/
theorem Leads.text_eq_or_diverge {t : Ty} (h : (d.importPackages s t.homes).Leads s D)
    (hdot : ∀ path, '.' ∉ (D.names.current path).toList) :
    let written := d.importPackages s t.homes
    t.Settled s written.names D.names ∧ t.text (D.qualifier s) = t.text (written.qualifier s) ∨
      ¬t.Settled s written.names D.names ∧
        Diverge (t.text (written.qualifier s)) (t.text (D.qualifier s)) := by
  intro written
  have hempty : ∀ home, D.qualifier s home = "" ↔ written.qualifier s home = "" := by
    intro home
    by_cases hself : home = s.path
    · rw [hself, qualifier_self, qualifier_self]
    · rw [qualifier_of_ne hself, qualifier_of_ne hself, h.named]
  rw [Ty.text_eq_written, Ty.text_eq_written]
  by_cases hsettled : t.Settled s written.names D.names
  · refine .inl ⟨hsettled, Piece.written_congr fun home hmem hne => ?_⟩
    by_cases hself : home = s.path
    · rw [hself, qualifier_self, qualifier_self]
    rw [qualifier_of_ne hself, qualifier_of_ne hself]
    -- A package that is imported on account of the type keeps the name it has got by then.
    rcases (Ty.mem_mentions_iff t).1 hmem with hhome | hpassed
    · by_cases hnamed : d.names.current home = ""
      · have hwritten : written.names.current home = "" := current_importPackages_eq_empty_iff.2 hnamed
        rw [hwritten, h.named, hwritten]
      · exact (h.recorded (recorded_importPackages hhome ⟨hne, hself, hnamed⟩)).2
    · exact ((hsettled home hpassed).resolve_left hne).resolve_left hself
  · refine .inr ⟨hsettled, Piece.written_diverge (fun home hq => ?_) hempty ?_⟩
    · have hself : home ≠ s.path := by
        rintro rfl
        exact hq (by rw [qualifier_self, qualifier_self])
      rw [qualifier_of_ne hself, qualifier_of_ne hself]
      exact ⟨h.dot_notMem hdot home, hdot home⟩
    · simp only [Ty.Settled, not_forall, not_or] at hsettled
      obtain ⟨home, hpassed, hne, hself, hchanged⟩ := hsettled
      refine ⟨home, (Ty.mem_mentions_iff t).2 (.inr hpassed), hne, ?_⟩
      rwa [qualifier_of_ne hself, qualifier_of_ne hself]

/-- Writing a type with text around it. -/
theorem redone_writeType (hdot : ∀ path, '.' ∉ (D.names.current path).toList) (before after : String) {t : Ty}
    (hrem : Remembers s D bounds d) (h : (d.typeText s t).2.Leads s D) :
    Redone s D bounds (modify fun d => d.writeType s before after t) d
      (t.Settled s (d.typeText s t).2.names D.names) := by
  have hadapted : ∀ e : Draft, (e.typeText s t).2.adapted = e.adapted := fun e => by
    rw [typeText_snd, adapted_importPackages]
  have htext : ∀ e : Draft, (e.typeText s t).2.text = e.text := fun e => by
    rw [typeText_snd, text_importPackages]
  refine ⟨hrem.of_adapted_eq (hadapted d), before ++ (d.typeText s t).1 ++ after,
    before ++ t.text (D.qualifier s) ++ after, congrArg (· ++ _) (htext d), fun e he => ?_, ?_⟩
  · -- Written once more, the type shows the names that packages have in the end.
    rw [typeText_snd] at h
    have hrests : D.Rests (e.typeText s t).2 := typeText_snd s e t ▸ h.importPackages he.rests
    have hq : (e.typeText s t).2.qualifier s = D.qualifier s := by
      rw [qualifier, qualifier, funext hrests.current]
    have hresumed : Resumed s D bounds (e.typeText s t).2 := ⟨hrests, he.remembers.of_adapted_eq (hadapted e)⟩
    refine ⟨rfl, hresumed.of_text _, ?_⟩
    change (e.typeText s t).2.text ++ (before ++ t.text ((e.typeText s t).2.qualifier s) ++ after) = _
    rw [htext, hq]
  · rw [typeText_snd] at h ⊢
    have hfirst : (d.typeText s t).1 = t.text ((d.importPackages s t.homes).qualifier s) := by
      rw [typeText, importType_eq]
    rw [hfirst]
    rcases h.text_eq_or_diverge hdot with ⟨hsettled, heq⟩ | ⟨hnot, hdiverge⟩
    · exact .inl ⟨hsettled, by rw [heq]⟩
    · exact .inr ⟨hnot, (hdiverge.prepend before).append after after⟩

/-! ### Functions and unions -/

section

variable (hD : D.Undeclared s) (hdot : ∀ path, '.' ∉ (D.names.current path).toList)

include hD hdot

/-- Both functions of a variant show its payload type, in the same words. -/
theorem redone_writeConversion (hrem : Remembers s D bounds d) {u : Union} {g : Generics} {errors : String}
    {c : Conversion} (h : (d.writeConversion s u g errors c).Leads s D) :
    Redone s D bounds (modify fun d => d.writeConversion s u g errors c) d
      (c.payload.Settled s (d.typeText s c.payload).2.names D.names) := by
  obtain ⟨before, after, hunwrap⟩ := c.exists_unwrap_write u g errors
  obtain ⟨before', after', hwrap⟩ := c.exists_wrap_write u g
  have heq : ∀ d : Draft, d.writeConversion s u g errors c =
      (d.writeType s before after c.payload).writeType s before' after' c.payload := by
    intro d
    simp only [writeConversion, hunwrap, hwrap]
    rfl
  let once := d.writeType s before after c.payload
  have htwice : (once.typeText s c.payload).2.Leads s D := by
    rw [heq] at h
    exact ⟨h.imports, h.named, h.current⟩
  have honce : (d.typeText s c.payload).2.Leads s D := by
    rw [typeText_snd] at htwice
    have hwritten : once.Leads s D :=
      Leads.before ((operations_not_leads hD []).importPackages c.payload.homes) htwice
    exact ⟨hwritten.imports, hwritten.named, hwritten.current⟩
  have hsame : c.payload.Settled s (once.typeText s c.payload).2.names D.names ↔
      c.payload.Settled s (d.typeText s c.payload).2.names D.names := by
    have hcurrent : ∀ home, (once.typeText s c.payload).2.names.current home =
        (d.typeText s c.payload).2.names.current home :=
      current_importType_again s d c.payload rfl rfl
    simp only [Ty.Settled, hcurrent]
  have hfirst := redone_writeType hdot before after hrem honce
  have hboth := hfirst.comp (redone_writeType hdot before' after' hfirst.remembers htwice)
  simp only [heq]
  exact hboth.iff (by rw [hsame, and_self_iff])

theorem redone_conversions (hrem : Remembers s D bounds d) {u : Union} {g : Generics} {errors : String}
    {cs : List Conversion} (h : (cs.foldl (writeConversion s u g errors) d).Leads s D) :
    Redone s D bounds (modify fun d => cs.foldl (writeConversion s u g errors) d) d
      (∀ w ∈ writtenPayloads s u g errors d cs, w.1.Settled s w.2 D.names) := by
  induction cs generalizing d with
  | nil => exact (Redone.pure (a := ()) hrem).iff (by simp [writtenPayloads])
  | cons c rest ih =>
    have hops := operations_not_leads hD (rest.map (·.payload))
    have hhead : (d.writeConversion s u g errors c).Leads s D :=
      Leads.before (Lockstep.foldl rest fun c hc =>
        hops.writeConversion u g errors (List.mem_map_of_mem hc)) h
    have hfirst := redone_writeConversion hD hdot hrem hhead
    have hall := hfirst.comp (ih hfirst.remembers h)
    exact hall.iff (by rw [writtenPayloads, List.forall_mem_cons])

theorem redone_writeUnion (hrem : Remembers s D bounds d) {b : Built} (hb : ∀ g ∈ b.union.params, g.2 ∈ bounds)
    (h : (Session.writeUnion s d b).Leads s D) :
    Redone s D bounds (modify fun d => Session.writeUnion s d b) d
      (∀ w ∈ writtenTypes s d [b], w.1.Settled s w.2 D.names) := by
  by_cases hnil : b.conversions = []
  · simp only [Session.writeUnion, writtenTypes, hnil, List.isEmpty_nil, if_true]
    exact (Redone.pure (a := ()) hrem).iff (by simp)
  · have hempty : b.conversions.isEmpty = false := by simpa using hnil
    have hunion : ∀ d : Draft, Session.writeUnion s d b =
        let begun := d.write ("// enumorph: " ++ b.union.name ++ "\n\n")
        let named := errorsNameIn s (begun.generics s b.union).2
        b.conversions.foldl (writeConversion s b.union (begun.generics s b.union).1 named.1) named.2 := by
      intro d
      rw [Session.writeUnion, hempty, if_neg Bool.false_ne_true, writeConversions_of_ne_nil s _ b.union hnil]
    simp only [hunion] at h ⊢
    let begun := d.write ("// enumorph: " ++ b.union.name ++ "\n\n")
    have hops := operations_not_leads hD (b.conversions.map (·.payload))
    have herrors : (errorsNameIn s (begun.generics s b.union).2).2.Leads s D :=
      Leads.before (Lockstep.foldl b.conversions fun c hc =>
        hops.writeConversion b.union _ _ (List.mem_map_of_mem hc)) h
    have hgenerics : (begun.generics s b.union).2.Leads s D := Leads.before hops.errors herrors
    have hbegun := redone_write (D := D) hrem ("// enumorph: " ++ b.union.name ++ "\n\n")
    have hparams := redone_generics hD hbegun.remembers hb hgenerics
    have hnamed := redone_errors hD hparams.remembers herrors
    let functions (g : Generics) (errors : String) : StateM Draft Unit :=
      modify fun d => b.conversions.foldl (writeConversion s b.union g errors) d
    have hfunctions := hnamed.bind (k := functions (begun.generics s b.union).1)
      (redone_conversions hD hdot hnamed.remembers h)
    have hunder := hparams.bind (k := fun g => errorsNameIn s >>= functions g) hfunctions
    have hall := hbegun.bind (k := fun _ => (fun d => d.generics s b.union) >>= fun g =>
      errorsNameIn s >>= functions g) hunder
    refine Redone.iff hall ?_
    simp only [true_and, writtenTypes, hempty, Bool.false_eq_true, if_false, List.append_nil]
    rfl

theorem redone_unions (hrem : Remembers s D bounds d) {us : List Built}
    (hus : ∀ b ∈ us, ∀ g ∈ b.union.params, g.2 ∈ bounds) (h : (us.foldl (Session.writeUnion s) d).Leads s D) :
    Redone s D bounds (modify fun d => us.foldl (Session.writeUnion s) d) d
      (∀ w ∈ writtenTypes s d us, w.1.Settled s w.2 D.names) := by
  induction us generalizing d with
  | nil => exact (Redone.pure (a := ()) hrem).iff (by simp [writtenTypes])
  | cons b rest ih =>
    obtain ⟨hb, hrest⟩ := List.forall_mem_cons.1 hus
    have hhead : (Session.writeUnion s d b).Leads s D := by_contra fun hnot =>
      (kept_not_leads hD).writeUnions
        (fun d hd hlead => hd (hlead.of_eq_enter (request_eq s d _ _))) rest hnot h
    have hfirst := redone_writeUnion hD hdot hrem hb hhead
    have hall := hfirst.comp (ih hfirst.remembers hrest h)
    refine hall.iff ?_
    rw [← List.forall_mem_append, writtenTypes, writtenTypes, List.append_nil]
    rfl

end

/-- Names without dots get none: candidates add digits and underscores. -/
theorem kept_dotless (s : Subject) : Kept s fun d => ∀ path, '.' ∉ (d.names.current path).toList where
  frame _ _ _ hnames h := by rwa [hnames]
  importPackage d path h := by
    by_cases hforeign : Foreign s d path
    · obtain ⟨name, hname, heq⟩ := importPackage_of_foreign hforeign
      obtain ⟨-, n, -, hcandidate, -⟩ := importName?_eq_some_iff.1 hname
      intro other
      rw [heq]
      by_cases hother : other = path
      · rw [hother, PackageNames.current_rename_self, hcandidate]
        cases n with
        | zero => exact h path
        | succ n => exact (Name.numbered_candidate _ n).dot_notMem (h path)
      · rw [PackageNames.current_rename_of_ne _ _ hother]
        exact h other
    · rwa [importPackage_of_not_foreign hforeign]
  importedName d path h := by rwa [(imports_prefix_of_eq_enter (importedName_eq s d path)).2]

end Draft

/-! ## All of the code -/

/-- The bounds of the type parameters of unions, as they are in the source. -/
def sourceBounds (unions : List Built) : List Expr :=
  unions.flatMap fun b => b.union.params.map (·.2)

/-- The code for unions is the same when it is written once more iff whatever package a payload type passes over was
called by its last name when the type was written. -/
theorem Subject.redone_draftOf (s : Subject) (names : PackageNames) (hdot : ∀ path, '.' ∉ (names.current path).toList)
    (unions : List Built) :
    Draft.Redone s (s.draftOf names unions) (sourceBounds unions)
      (modify fun d => unions.foldl (Session.writeUnion s) d) { names }
      (∀ w ∈ writtenTypes s { names } unions, w.1.Settled s w.2 (s.draftOf names unions).names) := by
  have hundeclared : Draft.Undeclared s { names } := fun entry hentry => absurd hentry List.not_mem_nil
  have hend : ∀ path, '.' ∉ ((s.draftOf names unions).names.current path).toList :=
    (Draft.kept_dotless s).writeUnions (d := { names })
      (fun d hd => by rwa [(Draft.imports_prefix_of_eq_enter (Draft.request_eq s d _ _)).2]) unions hdot
  refine Draft.redone_unions (hundeclared.writeUnions unions) hend (fun x _ => .inl rfl) (fun b hb g hg => ?_)
    (.refl s _)
  exact List.mem_flatMap.2 ⟨b, hb, List.mem_map_of_mem hg⟩

end TaggedUnion
