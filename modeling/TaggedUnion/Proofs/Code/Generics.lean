import TaggedUnion.Proofs.Code.Repeated

/-!
# Type parameters that are written again

The type parameters of a union are written out from their bounds, and bounds that are no mere names are replaced in the
source by their new form. So they are written from another source the next time, when packages may be called
differently and more of them may be imported. Still they come out the same, whatever was done to the draft in between
(`generics_again`).

What is kept in between is that each bound stands for its new form (`Stands`): a bound that was replaced is the new
form by now, which stays as it is (`Formed`), and a mere name is requalified to the new form once more, since what was
done leads to the draft (`Leads`). One turn keeps it (`Stands.turn`), so any number of them do.
-/

namespace TaggedUnion

open Source TaggedUnion.Types Syntax

/-- The bounds of the type parameters of a union. -/
def Union.bounds (u : Union) : List Expr :=
  u.params.map (·.2)

namespace Draft

/-! ## Turns -/

/-- What is done to a draft in one go. -/
inductive Turn
  | step (σ : Step)
  /-- The type parameters of a union are written out. -/
  | generics (u : Union)
  /-- The functions of variants of a union are written. -/
  | functions (u : Union) (conversions : List Conversion)

/-- The draft after a turn. -/
def turn (workingDir : String) (s : Subject) (d : Draft) : Turn → Draft
  | .step σ => d.step workingDir s σ
  | .generics u => (d.generics s u).2
  | .functions u conversions => d.writeConversions s u conversions

/-- The draft after several turns. -/
def turns (workingDir : String) (s : Subject) (d : Draft) (ts : List Turn) : Draft :=
  ts.foldl (turn workingDir s) d

/-- The expressions of the source that a turn adapts. -/
def Turn.adapts : Turn → List Expr
  | .step (.adapt x) => [x]
  | .step _ => []
  | .generics u | .functions u _ => u.bounds

/-- The drafts that come about: a draft starts with any names of packages, and with the expressions of the source as
an earlier draft has left them. -/
inductive Reached (workingDir : String) (s : Subject) : Draft → Prop
  | start (names : PackageNames) : Reached workingDir s { names }
  | next {d : Draft} (names : PackageNames) : Reached workingDir s d →
    Reached workingDir s { names, adapted := d.adapted }
  | turn {d : Draft} (t : Turn) : Reached workingDir s d → Reached workingDir s (d.turn workingDir s t)

variable {workingDir : String} {s : Subject} {d e D : Draft} {x bound y : Expr} {p : Pos}

/-! ## What turns keep -/

/-- A draft goes on to another one with nothing adapted in between: what is remembered is the same, the table has grown
at its end, and packages with names still have names. -/
structure GoesOn (d e : Draft) : Prop where
  adapted : e.adapted = d.adapted
  imports : d.imports <+: e.imports
  named : ∀ path, d.names.current path ≠ "" → e.names.current path ≠ ""

theorem GoesOn.trans {f : Draft} (h : d.GoesOn e) (h' : e.GoesOn f) : d.GoesOn f :=
  ⟨h'.adapted.trans h.adapted, h.imports.trans h'.imports, fun path hd => h'.named path (h.named path hd)⟩

theorem GoesOn.of_eq_enter (h : e = d ∨ ∃ found i, e = d.enter found i) : d.GoesOn e := by
  obtain ⟨himports, hnames⟩ := imports_prefix_of_eq_enter h
  refine ⟨?_, himports, fun path hd => hnames ▸ hd⟩
  rcases h with rfl | ⟨found, i, rfl⟩
  · rfl
  · exact adapted_enter _ _ _

theorem goesOn_importPackages (s : Subject) (d : Draft) (paths : List String) : d.GoesOn (d.importPackages s paths) :=
  ⟨adapted_importPackages s d paths, (kept_entries s d.imports).importPackages paths List.prefix_rfl,
    fun path hd => (kept_named s path).importPackages paths hd⟩

section Kept

variable {P : Draft → Prop}

/-- What the single imports and the requests keep is kept by a turn. -/
theorem Kept.turn (h : Kept s P) (hreq : ∀ d path name, P d → P (d.request s path name)) (t : Turn) (hd : P d) :
    P (d.turn workingDir s t) := by
  have herrors : ∀ d, P d → P (d.request s errorsPath errorsName) := fun d => hreq d _ _
  cases t with
  | step σ => exact h.step σ (fun path name _ => hreq d path name hd) hd
  | generics u => exact ((h.operations herrors []).generics u).keeps hd
  | functions u conversions =>
    exact ((h.operations herrors (conversions.map (·.payload))).writeConversions u fun c hc =>
      List.mem_map_of_mem hc).keeps hd

variable (hframe : ∀ d e : Draft, d.GoesOn e → P d → P e)

include hframe

theorem paramTexts_keeps {gs : List (GroupHead × Expr)} (hadapt : ∀ g ∈ gs, ∀ d, P d → P (d.adapt s g.2).2)
    (hd : P d) : P (paramTexts s d gs).2 := by
  induction gs generalizing d with
  | nil => exact hd
  | cons g rest ih =>
    obtain ⟨hfirst, hrest⟩ := List.forall_mem_cons.1 hadapt
    refine ih hrest (hframe (d.adapt s g.2).2 _ ?_ (hfirst d hd))
    exact (importExpr_eq s _ _).symm ▸ goesOn_importPackages s _ _

theorem generics_keeps {u : Union} (hadapt : ∀ x ∈ u.bounds, ∀ d, P d → P (d.adapt s x).2) (hd : P d) :
    P (d.generics s u).2 := by
  rw [Draft.generics]
  cases u.isGeneric with
  | true => exact paramTexts_keeps hframe (fun g hg => hadapt g.2 (List.mem_map_of_mem hg)) hd
  | false => exact hd

theorem writeConversion_keeps (u : Union) (g : Generics) (errors : String) (c : Conversion) (hd : P d) :
    P (d.writeConversion s u g errors c) := by
  have htype : ∀ (d : Draft) t, d.GoesOn (d.typeText s t).2 := fun d t => by
    rw [typeText_snd]
    exact goesOn_importPackages s d _
  have hwrite : ∀ (d e : Draft) text, d.GoesOn e → d.GoesOn (e.write text) := fun d e text h =>
    ⟨h.adapted, h.imports, h.named⟩
  exact hframe d _ (hwrite _ _ _ ((hwrite _ _ _ (htype d c.payload)).trans (htype _ c.payload))) hd

/-- What is kept while nothing is adapted, and where expressions of the source are, is kept by a turn. -/
theorem turn_keeps (t : Turn) (hadapt : ∀ x ∈ t.adapts, ∀ d, P d → P (d.adapt s x).2) (hd : P d) :
    P (d.turn workingDir s t) := by
  cases t with
  | step σ =>
    cases σ with
    | expand template args =>
      rw [turn, Draft.step, expand_snd]
      exact hframe d _ (goesOn_importPackages s d _) hd
    | print template args =>
      have hexpand := goesOn_importPackages s d (args.flatMap Value.homes)
      rw [← expand_snd workingDir s d template args] at hexpand
      exact hframe d _ ⟨hexpand.adapted, hexpand.imports, hexpand.named⟩ hd
    | write text => exact hframe d _ ⟨rfl, List.prefix_rfl, fun _ => id⟩ hd
    | adapt x => exact hadapt x List.mem_cons_self d hd
    | request path name => exact hframe d _ (GoesOn.of_eq_enter (request_eq s d path name)) hd
  | generics u => exact generics_keeps hframe hadapt hd
  | functions u conversions =>
    rw [turn, writeConversions]
    split
    · exact hd
    · have hnamed : P (errorsNameIn s (d.generics s u).2).2 := by
        rw [errorsNameIn_snd]
        exact hframe _ _ (GoesOn.of_eq_enter (request_eq s _ _ _)) (generics_keeps hframe hadapt hd)
      exact List.foldlRecOn conversions _ hnamed fun d hd c _ => writeConversion_keeps hframe u _ _ c hd

end Kept

theorem Undeclared.request (h : d.Undeclared s) (path name : String) : (d.request s path name).Undeclared s := by
  rw [Draft.request, importPath]
  cases hfound : d.importName? s path _ with
  | none => exact h
  | some found => exact h.enter (admits_of_importName? hfound) _

theorem Reached.undeclared (h : Reached workingDir s d) : d.Undeclared s := by
  induction h with
  | start names => exact fun _ hentry => absurd hentry List.not_mem_nil
  | next names _ _ => exact fun _ hentry => absurd hentry List.not_mem_nil
  | turn t _ ih => exact (kept_undeclared s).turn (fun _ path name hd => hd.request path name) t ih

theorem Reached.turns (h : Reached workingDir s d) (ts : List Turn) :
    Reached workingDir s (d.turns workingDir s ts) :=
  List.foldlRecOn ts _ h fun _ hd t _ => hd.turn t

/-- What turns lead to, the draft before them leads to. -/
theorem Leads.of_turns (hD : D.Undeclared s) {ts : List Turn} (h : (d.turns workingDir s ts).Leads s D) :
    d.Leads s D := by
  refine by_contra fun hnot => List.foldlRecOn (motive := fun d : Draft => ¬d.Leads s D) ts _ hnot (fun d hd t _ => ?_) h
  exact (kept_not_leads hD).turn (fun d path name hd hlead => hd (hlead.of_eq_enter (request_eq s d path name))) t hd

/-! ## What is remembered -/

/-- What is remembered of the source is in its new form, which stays as it is, and is no mere name. -/
def Formed (s : Subject) (d : Draft) : Prop :=
  ∀ entry ∈ d.adapted, isName entry.2 = false ∧ ∀ e, requalify s entry.2 e = (entry.2, e)

theorem isName_requalify (hx : isName x = false) (d : Draft) : isName (requalify s x d).1 = false := by
  cases x with
  | ident id => cases hx
  | selector x sel => cases hx
  | _ => rw [requalify]; rfl

namespace Formed

theorem of_lookup (h : d.Formed s) (hy : d.adapted.lookup x = some y) :
    isName y = false ∧ ∀ e, requalify s y e = (y, e) := by
  obtain ⟨before, after, heq, -⟩ := List.lookup_eq_some_iff.1 hy
  exact h (x, y) (heq ▸ List.mem_append_right _ List.mem_cons_self)

/-- A mere name is as it is in the source. -/
theorem currentExpr_of_isName (h : d.Formed s) (hname : isName (d.currentExpr x) = true) : d.currentExpr x = x := by
  rw [currentExpr] at hname ⊢
  cases hy : d.adapted.lookup x with
  | none => rfl
  | some y =>
    rw [hy, Option.getD_some, (h.of_lookup hy).1] at hname
    cases hname

/-- Adapting an expression leaves a mere name out of what is remembered, and puts anything else in. -/
theorem adapted_adapt (s : Subject) (d : Draft) (x : Expr) :
    isName (d.currentExpr x) = true ∧ (d.adapt s x).2.adapted = d.adapted ∨
      isName (d.currentExpr x) = false ∧ (d.adapt s x).2.adapted = (x, (d.adapt s x).1) :: d.adapted := by
  have hadapted := (text_adapted_requalify s (d.currentExpr x) d).2
  cases hname : isName (d.currentExpr x) with
  | true => exact .inl ⟨rfl, by rw [adapt_of_isName hname, hadapted]⟩
  | false => exact .inr ⟨rfl, by rw [adapt_of_not_isName hname, hadapted]⟩

theorem adapt_fst (s : Subject) (d : Draft) (x : Expr) :
    (d.adapt s x).1 = (requalify s (d.currentExpr x) d).1 := by
  obtain ⟨adapted, heq⟩ := exists_adapt_eq s x d
  rw [heq]

theorem adapt (h : d.Formed s) (x : Expr) : (d.adapt s x).2.Formed s := by
  rcases adapted_adapt s d x with ⟨-, hadapted⟩ | ⟨hname, hadapted⟩ <;> rw [Formed, hadapted]
  · exact h
  · refine List.forall_mem_cons.2 ⟨⟨?_, fun e => ?_⟩, h⟩ <;> rw [adapt_fst]
    · exact isName_requalify hname d
    · exact requalify_requalify s _ d e

/-- What is remembered of an expression stays, and of a mere name nothing is remembered. -/
theorem lookup_adapt (h : d.Formed s) (hb : (d.adapted.lookup bound).isSome ∨ isName bound = true) (x : Expr) :
    (d.adapt s x).2.adapted.lookup bound = d.adapted.lookup bound := by
  rcases adapted_adapt s d x with ⟨-, hadapted⟩ | ⟨hname, hadapted⟩
  · rw [hadapted]
  · by_cases hx : bound = x
    · subst hx
      rw [hadapted, List.lookup_cons_self]
      cases hy : d.adapted.lookup bound with
      | some y =>
        -- The new form stays as it is.
        have hcurrent : d.currentExpr bound = y := by rw [currentExpr, hy, Option.getD_some]
        rw [adapt_fst, hcurrent, (h.of_lookup hy).2]
      | none =>
        have hcurrent : d.currentExpr bound = bound := by rw [currentExpr, hy, Option.getD_none]
        rw [hcurrent] at hname
        rw [hy, hname] at hb
        simp at hb
    · rw [hadapted, List.lookup_cons, beq_false_of_ne hx]

end Formed

theorem Reached.formed (h : Reached workingDir s d) : d.Formed s := by
  induction h with
  | start names => exact List.forall_mem_nil _
  | next names _ ih => exact ih
  | turn t _ ih =>
    exact turn_keeps (fun d e hgo hd => by rwa [Formed, hgo.adapted]) t (fun x _ d hd => hd.adapt x) ih

/-! ## Bounds that stand for their new form -/

/-- The bound comes out in its new form when it is adapted, after what leads to the given draft. Either it was
replaced by it, or it is a mere name. -/
structure Stands (s : Subject) (D d : Draft) (bound y : Expr) : Prop where
  formed : d.Formed s
  again : requalify s (d.currentExpr bound) D = (y, D)
  kept : (d.adapted.lookup bound).isSome ∨ isName bound = true

namespace Stands

theorem of_adapted_eq (h : Stands s D d bound y) (heq : e.adapted = d.adapted) : Stands s D e bound y := by
  obtain ⟨hformed, hagain, hkept⟩ := h
  exact ⟨by rwa [Formed, heq], by rwa [currentExpr, heq], by rwa [heq]⟩

/-- Adapting an expression does not touch the bound. -/
theorem adapt (h : Stands s D d bound y) (x : Expr) : Stands s D (d.adapt s x).2 bound y := by
  have hlookup : (d.adapt s x).2.adapted.lookup bound = d.adapted.lookup bound := h.formed.lookup_adapt h.kept x
  exact ⟨h.formed.adapt x, by rw [currentExpr, hlookup]; exact h.again, by rw [hlookup]; exact h.kept⟩

/-- A bound that is adapted stands for what comes out. -/
theorem of_adapt (hd : d.Formed s) (hD : D.Undeclared s) (h : (d.adapt s bound).2.Leads s D) :
    Stands s D (d.adapt s bound).2 bound (d.adapt s bound).1 := by
  refine ⟨hd.adapt bound, ?_, ?_⟩
  · rcases Formed.adapted_adapt s d bound with ⟨hname, hadapted⟩ | ⟨-, hadapted⟩
    · rw [adapt_of_isName hname] at h
      have hsame : (d.adapt s bound).2.currentExpr bound = d.currentExpr bound := by
        rw [currentExpr, hadapted, currentExpr]
      rw [hsame, Formed.adapt_fst]
      exact h.requalify_eq hD (.refl D)
    · rw [currentExpr, hadapted, List.lookup_cons_self, Option.getD_some, Formed.adapt_fst]
      exact requalify_requalify s _ d D
  · rcases Formed.adapted_adapt s d bound with ⟨hname, -⟩ | ⟨-, hadapted⟩
    · exact .inr (hd.currentExpr_of_isName hname ▸ hname)
    · rw [hadapted, List.lookup_cons_self]
      exact .inl rfl

/-- A bound that stands for its new form comes out in it. -/
theorem adapt_eq (h : Stands s D e bound y) (hD : D.Undeclared s) (he : D.Rests e) :
    (e.adapt s bound).1 = y ∧ D.Rests (e.adapt s bound).2 := by
  have hrests : requalify s (e.currentExpr bound) e = (y, e) := by
    have hlead : (requalify s (e.currentExpr bound) D).2.Leads s D := h.again ▸ .refl s D
    rw [hlead.requalify_eq hD he, h.again]
  obtain ⟨adapted, heq⟩ := exists_adapt_eq s bound e
  rw [heq, hrests]
  exact ⟨rfl, he.imports, he.current⟩

end Stands

/-- So does any turn, whatever it adapts. -/
theorem Stands.turn (h : Stands s D d bound y) (t : Turn) : Stands s D (d.turn workingDir s t) bound y :=
  turn_keeps (P := fun d => Stands s D d bound y) (fun _ _ hgo hd => hd.of_adapted_eq hgo.adapted) t
    (fun x _ _ hd => hd.adapt x) h

theorem Stands.turns (h : Stands s D d bound y) (ts : List Turn) : Stands s D (d.turns workingDir s ts) bound y :=
  List.foldlRecOn (motive := fun d => Stands s D d bound y) ts _ h fun _ hd t _ => hd.turn t

/-! ## Groups of type parameters -/

/-- The text of a group of type parameters, with their bound as the code writes it. -/
def paramText (s : Subject) (head : GroupHead) (bound : Expr) : String :=
  ", ".intercalate (head.names.map (·.name)) ++ " " ++ Layout.exprText s.files bound

/-- A group of type parameters comes out as the text: its bound stands for a new form that the text shows, and all that
the new form refers to is imported. -/
def Answers (s : Subject) (D d : Draft) (g : GroupHead × Expr) (text : String) : Prop :=
  ∃ y, Stands s D d g.2 y ∧ (∀ e, D.Rests e → D.Rests (e.importExpr s y)) ∧ text = paramText s g.1 y

variable {gs : List (GroupHead × Expr)} {texts : List String}

theorem Answers.mono (hall : List.Forall₂ (Answers s D d) gs texts)
    (h : ∀ g ∈ gs, ∀ y, Stands s D d g.2 y → Stands s D e g.2 y) : List.Forall₂ (Answers s D e) gs texts :=
  ((List.forall₂_and_left _ _).2 ⟨fun _ hg => hg, hall⟩).imp fun g _ ⟨hg, y, hstands, hrest⟩ =>
    ⟨y, h g hg y hstands, hrest⟩

section

variable (hD : D.Undeclared s)

include hD

/-- Groups that are written out come out as their texts from then on. -/
theorem answers_paramTexts (hd : d.Formed s) (h : (paramTexts s d gs).2.Leads s D) :
    List.Forall₂ (Answers s D (paramTexts s d gs).2) gs (paramTexts s d gs).1 := by
  induction gs generalizing d with
  | nil => exact .nil
  | cons g rest ih =>
    obtain ⟨head, bound⟩ := g
    -- What all of it leads to, the steps before lead to.
    have himported : ((d.adapt s bound).2.importExpr s (d.adapt s bound).1).Leads s D :=
      Leads.before ((operations_not_leads hD []).paramTexts rest) h
    have hadapted : (d.adapt s bound).2.Leads s D :=
      Leads.before ((operations_not_leads hD []).importExpr (d.adapt s bound).1) himported
    have hsame : ((d.adapt s bound).2.importExpr s (d.adapt s bound).1).adapted = (d.adapt s bound).2.adapted := by
      rw [importExpr_eq, adapted_importPackages]
    have hstands := (Stands.of_adapt hd hD hadapted).of_adapted_eq hsame
    have hlater : Stands s D (paramTexts s ((d.adapt s bound).2.importExpr s (d.adapt s bound).1) rest).2 bound
        (d.adapt s bound).1 :=
      paramTexts_keeps (P := fun e => Stands s D e bound (d.adapt s bound).1)
        (fun _ _ hgo hd => hd.of_adapted_eq hgo.adapted) (fun g _ _ hd => hd.adapt g.2) hstands
    refine .cons ⟨(d.adapt s bound).1, hlater, fun e he => ?_, rfl⟩ ?_
    · rw [importExpr_eq] at himported ⊢
      exact himported.importPackages he
    · exact ih hstands.formed h

/-- Groups that come out as texts are written so, and nothing new is imported. -/
theorem paramTexts_again (hall : List.Forall₂ (Answers s D e) gs texts) (he : D.Rests e) :
    (paramTexts s e gs).1 = texts ∧ D.Rests (paramTexts s e gs).2 := by
  induction gs generalizing e texts with
  | nil =>
    cases hall
    exact ⟨rfl, he⟩
  | cons g rest ih =>
    obtain ⟨head, bound⟩ := g
    obtain _ | ⟨⟨y, hstands, himport, rfl⟩, hrest⟩ := hall
    obtain ⟨hy, hadapted⟩ := hstands.adapt_eq hD he
    have hsame : ((e.adapt s bound).2.importExpr s y).adapted = (e.adapt s bound).2.adapted := by
      rw [importExpr_eq, adapted_importPackages]
    obtain ⟨htexts, hrests⟩ := ih
      (Answers.mono hrest fun _ _ _ hstands => (hstands.adapt bound).of_adapted_eq hsame) (himport _ hadapted)
    have hseq : paramTexts s e ((head, bound) :: rest) =
        (paramText s head (e.adapt s bound).1 ::
          (paramTexts s ((e.adapt s bound).2.importExpr s (e.adapt s bound).1) rest).1,
          (paramTexts s ((e.adapt s bound).2.importExpr s (e.adapt s bound).1) rest).2) := rfl
    rw [hseq, hy, htexts]
    exact ⟨rfl, hrests⟩

end

/-- The texts of type parameters start with their names. -/
theorem forall₂_paramTexts (s : Subject) (d : Draft) (gs : List (GroupHead × Expr)) :
    List.Forall₂ (fun g text => ∃ bound, text = paramText s g.1 bound) gs (paramTexts s d gs).1 := by
  induction gs generalizing d with
  | nil => exact .nil
  | cons g rest ih => exact .cons ⟨_, rfl⟩ (ih _)

/-- The type parameters of a union come out as they did before, whatever was done to the draft in between, and nothing
is imported for them. The arguments are the names of the type parameters one by one, in the order of the parameters. -/
theorem generics_again (hd : Reached workingDir s d) (u : Union) (ts : List Turn) :
    let first := d.generics s u
    let later := first.2.turns workingDir s ts
    (later.generics s u).1 = first.1 ∧ (later.generics s u).2.imports = later.imports ∧
      (u.isGeneric = false → first.1 = {}) ∧
      (u.isGeneric = true → ∃ texts,
        List.Forall₂ (fun g text => ∃ bound, text = paramText s g.1 bound) u.params texts ∧
        first.1.params = "[" ++ ", ".intercalate texts ++ "]" ∧
        first.1.args = "[" ++ ", ".intercalate (u.params.flatMap fun g => g.1.names.map (·.name)) ++ "]") := by
  intro first later
  cases hgeneric : u.isGeneric with
  | false =>
    have hnone : ∀ d : Draft, d.generics s u = ({}, d) := fun d => by
      simp only [Draft.generics, hgeneric, Bool.false_eq_true, if_false]
    refine ⟨?_, congrArg (fun r => r.2.imports) (hnone later), fun _ => congrArg Prod.fst (hnone d),
      fun h => absurd h Bool.false_ne_true⟩
    exact (congrArg Prod.fst (hnone later)).trans (congrArg Prod.fst (hnone d)).symm
  | true =>
    have heq : ∀ d : Draft, d.generics s u =
        ({ params := "[" ++ ", ".intercalate (paramTexts s d u.params).1 ++ "]"
           args := "[" ++ ", ".intercalate (u.params.flatMap fun g => g.1.names.map (·.name)) ++ "]" },
          (paramTexts s d u.params).2) := fun d => by
      simp only [Draft.generics, hgeneric, if_true]
    have hreached : Reached workingDir s later := (hd.turn (.generics u)).turns ts
    have hundeclared := hreached.undeclared
    have hlead : (paramTexts s d u.params).2.Leads s later := by
      have hfirst : first.2.Leads s later := Leads.of_turns hundeclared (.refl s later)
      rwa [show first.2 = (paramTexts s d u.params).2 from congrArg Prod.snd (heq d)] at hfirst
    -- What stands for its new form after the first time does so after the turns.
    have hanswers : List.Forall₂ (Answers s later later) u.params (paramTexts s d u.params).1 :=
      Answers.mono (answers_paramTexts hundeclared hd.formed hlead) fun g hg _ hstands => by
        rw [← show first.2 = (paramTexts s d u.params).2 from congrArg Prod.snd (heq d)] at hstands
        exact hstands.turns ts
    obtain ⟨htexts, hrests⟩ := paramTexts_again hundeclared hanswers (.refl later)
    refine ⟨?_, ?_, fun h => absurd h.symm Bool.false_ne_true, fun _ =>
      ⟨_, forall₂_paramTexts s d u.params, ?_, ?_⟩⟩
    · rw [heq later, htexts, ← congrArg Prod.fst (heq d)]
    · rw [heq later, hrests.imports]
    · exact congrArg (·.1.params) (heq d)
    · exact congrArg (·.1.args) (heq d)

/-- A package that declares the name of a package it imports. -/
def takenSubject : Subject where
  name := "p"
  path := "p"
  objects := [{ name := "geo", home := "p", pos := 2, kind := .var, type := .basic "int" }]
  imports := ["x/geo"]
  files := {}
  sources := []
  info := ⟨[], []⟩

/-- A name of the package that it imports. -/
def geoName (pos : Pos) (name : String) : Expr :=
  .selector (.ident { pos, name := "g", meaning := some (.package "x/geo") }) { pos := pos + 2, name }

/-- A union with bounds of the package: `[K, L g.Key, V ~[]g.Point]`. -/
def boundedUnion : Union where
  name := "Pair"
  pos := 10
  params := [({ names := [{ pos := 15, name := "K" }, { pos := 18, name := "L" }] }, geoName 20 "Key"),
    ({ names := [{ pos := 27, name := "V" }] }, .unary 29 "~" (.slice 30 (geoName 32 "Point")))]
  tag := ⟨"Kind", "p", false, [], 50⟩
  variants := []

/-- A draft on which nothing was written. -/
def boundedStart : Draft where
  names := ⟨[("x/geo", "geo")]⟩

/-- What is done after the type parameters of the union were written: another package asks for the name that this one has
got, a type of this one is shown, an expression is adapted, and functions of the union are written. -/
def boundedTurns : List Turn :=
  let point : Ty := .named ⟨"x/geo", "Point", 1⟩ [] []
  [.step (.request "x/fmt" "geo2"), .step (.print "%t" [.type point]),
    .step (.adapt (.slice 60 (geoName 62 "Point"))), .functions boundedUnion [⟨"A", .whole 0, point, "a", "b", 70⟩]]

/-- What comes of it. -/
def boundedLater : Draft :=
  (boundedStart.generics takenSubject boundedUnion).2.turns "" takenSubject boundedTurns

/-- The package is imported under another name for the bounds, and is called so itself later. The type parameters are
the same then. -/
theorem boundedUnion_again :
    boundedLater.names.current "x/geo" = "geo2" ∧
      (boundedLater.generics takenSubject boundedUnion).1 =
        { params := "[K, L geo2.Key, V ~[]geo2.Point]", args := "[K, L, V]" } ∧
      (boundedLater.generics takenSubject boundedUnion).2.imports = boundedLater.imports := by
  have hfirst : (boundedStart.generics takenSubject boundedUnion).1 =
      { params := "[K, L geo2.Key, V ~[]geo2.Point]", args := "[K, L, V]" } := by
    decide +kernel
  obtain ⟨hagain, himports, -⟩ :=
    @generics_again "" takenSubject boundedStart (.start _) boundedUnion boundedTurns
  exact ⟨by decide +kernel, hagain.trans hfirst, himports⟩

end Draft

end TaggedUnion
