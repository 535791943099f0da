import TaggedUnion.Proofs.Code.Capture

/-!
# What requalifying comes to

Requalifying an expression enters packages into the table of imports and puts their names in front of the names
that they qualify. So each new name of the table is shown in the new expression (`shows_requalify`). The names that
are put in have no meaning of their own, so requalifying the new expression once more enters nothing and leaves it
as it is, whatever the table has become (`requalify_requalify`).

Both hold part by part. They are proved in one induction on the syntax (`requalifies`), with `Requalifies.bind` for
syntax that has several parts.
-/

namespace TaggedUnion

open Source TaggedUnion.Types Syntax

/-- What a computation comes to that requalifies syntax: it enters packages under names that the result shows, which
shows the given names besides, and to do it again is to do nothing. -/
structure Requalifies {α : Type} (m : StateM Draft α) (before : List String) (shown : α → List String)
    (again : α → StateM Draft α) : Prop where
  enters : ∀ d, ∀ entry ∈ (m d).2.imports, entry ∈ d.imports ∨ entry.1 ∈ shown (m d).1
  keeps : ∀ d, before ⊆ shown (m d).1
  rests : ∀ d, again (m d).1 = pure (m d).1

namespace Requalifies

variable {α β : Type} {before : List String} {f : α → List String} {g : β → List String}
  {again : α → StateM Draft α} {again' : β → StateM Draft β}

theorem pure {a : α} (hshown : before ⊆ f a) (hrests : again a = Pure.pure a) :
    Requalifies (Pure.pure a) before f again where
  enters _ _ h := .inl h
  keeps _ := hshown
  rests _ := hrests

/-- One part after the other: the second one carries on the names that the first shows. -/
theorem bind {m : StateM Draft α} {k : α → StateM Draft β} (hm : Requalifies m [] f again)
    (hk : ∀ a, again a = Pure.pure a → Requalifies (k a) (before ++ f a) g again') :
    Requalifies (m >>= k) before g again' where
  enters d entry hentry := by
    have hrest := hk (m d).1 (hm.rests d)
    refine (hrest.enters (m d).2 entry hentry).elim (fun hmid => ?_) .inr
    exact (hm.enters d entry hmid).imp_right fun hshown => hrest.keeps _ (List.mem_append_right _ hshown)
  keeps d _ hname := (hk (m d).1 (hm.rests d)).keeps _ (List.mem_append_left _ hname)
  rests d := (hk (m d).1 (hm.rests d)).rests _

end Requalifies

/-- Entering a name adds no other one. -/
theorem Draft.mem_imports_enter {d : Draft} {name : String} {i : Import} {entry : String × Import}
    (h : entry ∈ (d.enter name i).imports) : entry ∈ d.imports ∨ entry = (name, i) := by
  cases hl : d.imports.lookup name with
  | some j =>
    rw [enter_of_lookup hl] at h
    exact .inl h
  | none =>
    rw [enter_of_lookup_none hl] at h
    exact (List.mem_append.1 h).imp_right List.mem_singleton.1

section

variable (s : Subject)

/-- A package is entered under the name that is returned. -/
theorem enters_importedName (path : String) (d : Draft) :
    ∀ entry ∈ (importedName s path d).2.imports, entry ∈ d.imports ∨ entry.1 ∈ [(importedName s path d).1] := by
  by_cases hc : d.names.current path = ""
  · rw [Draft.importedName_of_empty s hc]
    exact fun _ => .inl
  · obtain ⟨found, -, heq⟩ := Draft.importedName_of_ne_empty s hc
    rw [heq]
    exact fun entry hentry => (Draft.mem_imports_enter hentry).imp_right fun hnew => by simp [hnew]

theorem requalify_plainSelector (pos selPos : Pos) (qualifier name : String) :
    requalify s (plainSelector pos selPos qualifier name) = pure (plainSelector pos selPos qualifier name) := by
  rw [plainSelector, requalify]
  simp [qualifierPath?, requalify, foreignHome?]

/-- A qualified name shows the name of the package. -/
theorem requalifies_qualified (path : String) (pos : String → Pos × Pos) (name : String) :
    Requalifies (do
        let qualifier ← importedName s path
        return plainSelector (pos qualifier).1 (pos qualifier).2 qualifier name)
      [] Expr.qualifiers (requalify s) where
  enters d := enters_importedName s path d
  keeps _ := List.nil_subset _
  rests _ := requalify_plainSelector s _ _ _ _

/-- What is no name of a package does not become one. -/
theorem qualifierPath?_requalify {x : Expr} (hx : qualifierPath? x = none) (d : Draft) :
    qualifierPath? (requalify s x d).1 = none := by
  cases x with
  | ident id =>
    rw [requalify]
    cases foreignHome? s id with
    | none => exact hx
    | some home => rfl
  | selector x sel =>
    rw [requalify]
    cases qualifierPath? x <;> rfl
  | _ => rw [requalify]; rfl

/-- A part that may be the name of a package where it stands is none, neither before nor after. -/
theorem requalifies_selector {x : Expr} (hx : qualifierPath? x = none) (sel : Ident)
    (h : Requalifies (requalify s x) [] Expr.qualifiers (requalify s)) :
    Requalifies (do return .selector (← requalify s x) sel) [] Expr.qualifiers (requalify s) where
  enters d entry hentry := (h.enters d entry hentry).imp_right (List.mem_append_right _)
  keeps _ := List.nil_subset _
  rests d := by
    change requalify s (.selector (requalify s x d).1 sel) = pure (.selector (requalify s x d).1 sel)
    rw [requalify, qualifierPath?_requalify s hx d]
    simp [h.rests d]

/-! ## The induction -/

mutual

theorem requalifies : ∀ x, Requalifies (requalify s x) [] Expr.qualifiers (requalify s)
  | .ident id => by
    rw [requalify]
    cases hhome : foreignHome? s id with
    | none => exact .pure (List.nil_subset _) (by rw [requalify, hhome])
    | some home =>
      exact requalifies_qualified s home (fun name => (id.pos, id.pos + name.utf8ByteSize + 1)) id.name
  | .missing _ => by rw [requalify]; exact .pure (List.nil_subset _) (by rw [requalify])
  | .literal _ _ _ => by rw [requalify]; exact .pure (List.nil_subset _) (by rw [requalify])
  | .selector x sel => by
    rw [requalify]
    cases hq : qualifierPath? x with
    | none => exact requalifies_selector s hq sel (requalifies x)
    | some q =>
      exact requalifies_qualified s q.2 (fun _ => (q.1.pos, q.1.pos + q.1.name.utf8ByteSize + 1)) sel.name
  | .index x _ args _ => by
    rw [requalify]
    exact (requalifies x).bind fun _ hx => (requalifiesAll args).bind fun _ hargs =>
      .pure (by simp [Expr.qualifiers]) (by simp [requalify, hx, hargs])
  | .slicing x _ bounds _ => by
    rw [requalify]
    exact (requalifies x).bind fun _ hx => (requalifiesAll bounds).bind fun _ hbounds =>
      .pure (by simp [Expr.qualifiers]) (by simp [requalify, hx, hbounds])
  | .assertion x _ type _ => by
    rw [requalify]
    exact (requalifies x).bind fun _ hx => (requalifies type).bind fun _ htype =>
      .pure (by simp [Expr.qualifiers]) (by simp [requalify, hx, htype])
  | .call f _ args _ _ => by
    rw [requalify]
    exact (requalifies f).bind fun _ hf => (requalifiesAll args).bind fun _ hargs =>
      .pure (by simp [Expr.qualifiers]) (by simp [requalify, hf, hargs])
  | .composite type _ elems _ => by
    rw [requalify]
    exact (requalifies type).bind fun _ htype => (requalifiesAll elems).bind fun _ helems =>
      .pure (by simp [Expr.qualifiers]) (by simp [requalify, htype, helems])
  | .keyed key _ value => by
    rw [requalify]
    exact (requalifies key).bind fun _ hkey => (requalifies value).bind fun _ hvalue =>
      .pure (by simp [Expr.qualifiers]) (by simp [requalify, hkey, hvalue])
  | .closure type _ body _ => by
    rw [requalify]
    exact (requalifies type).bind fun _ htype => (requalifiesBody body).bind fun _ hbody =>
      .pure (by simp [Expr.qualifiers]) (by simp [requalify, htype, hbody])
  | .star _ x => by
    rw [requalify]
    exact (requalifies x).bind fun _ hx => .pure (by simp [Expr.qualifiers]) (by simp [requalify, hx])
  | .paren _ x _ => by
    rw [requalify]
    exact (requalifies x).bind fun _ hx => .pure (by simp [Expr.qualifiers]) (by simp [requalify, hx])
  | .unary _ _ x => by
    rw [requalify]
    exact (requalifies x).bind fun _ hx => .pure (by simp [Expr.qualifiers]) (by simp [requalify, hx])
  | .binary x _ _ y => by
    rw [requalify]
    exact (requalifies x).bind fun _ hx => (requalifies y).bind fun _ hy =>
      .pure (by simp [Expr.qualifiers]) (by simp [requalify, hx, hy])
  | .ellipsis _ elem => by
    rw [requalify]
    exact (requalifies elem).bind fun _ helem =>
      .pure (by simp [Expr.qualifiers]) (by simp [requalify, helem])
  | .slice _ elem => by
    rw [requalify]
    exact (requalifies elem).bind fun _ helem =>
      .pure (by simp [Expr.qualifiers]) (by simp [requalify, helem])
  | .array _ length elem => by
    rw [requalify]
    exact (requalifies length).bind fun _ hlength => (requalifies elem).bind fun _ helem =>
      .pure (by simp [Expr.qualifiers]) (by simp [requalify, hlength, helem])
  | .map _ key elem => by
    rw [requalify]
    exact (requalifies key).bind fun _ hkey => (requalifies elem).bind fun _ helem =>
      .pure (by simp [Expr.qualifiers]) (by simp [requalify, hkey, helem])
  | .chan _ _ _ elem => by
    rw [requalify]
    exact (requalifies elem).bind fun _ helem =>
      .pure (by simp [Expr.qualifiers]) (by simp [requalify, helem])
  | .func _ params _ _ results _ _ => by
    rw [requalify]
    exact (requalifiesGroups params).bind fun _ hparams => (requalifiesGroups results).bind fun _ hresults =>
      .pure (by simp [Expr.qualifiers]) (by simp [requalify, hparams, hresults])
  | .struct _ _ fields _ => by
    rw [requalify]
    exact (requalifiesGroups fields).bind fun _ hfields =>
      .pure (by simp [Expr.qualifiers]) (by simp [requalify, hfields])
  | .interface _ _ elems _ => by
    rw [requalify]
    exact (requalifiesGroups elems).bind fun _ helems =>
      .pure (by simp [Expr.qualifiers]) (by simp [requalify, helems])

theorem requalifiesStatement : ∀ t,
    Requalifies (requalifyStatement s t) [] Statement.qualifiers (requalifyStatement s)
  | .empty _ => by rw [requalifyStatement]; exact .pure (List.nil_subset _) (by rw [requalifyStatement])
  | .expr x => by
    rw [requalifyStatement]
    exact (requalifies x).bind fun _ hx =>
      .pure (by simp [Statement.qualifiers]) (by simp [requalifyStatement, hx])
  | .send channel _ value => by
    rw [requalifyStatement]
    exact (requalifies channel).bind fun _ hchannel => (requalifies value).bind fun _ hvalue =>
      .pure (by simp [Statement.qualifiers]) (by simp [requalifyStatement, hchannel, hvalue])
  | .step x _ _ => by
    rw [requalifyStatement]
    exact (requalifies x).bind fun _ hx =>
      .pure (by simp [Statement.qualifiers]) (by simp [requalifyStatement, hx])
  | .assign targets _ _ values => by
    rw [requalifyStatement]
    exact (requalifiesAll targets).bind fun _ htargets => (requalifiesAll values).bind fun _ hvalues =>
      .pure (by simp [Statement.qualifiers]) (by simp [requalifyStatement, htargets, hvalues])
  | .start _ _ call => by
    rw [requalifyStatement]
    exact (requalifies call).bind fun _ hcall =>
      .pure (by simp [Statement.qualifiers]) (by simp [requalifyStatement, hcall])
  | .ret _ results => by
    rw [requalifyStatement]
    exact (requalifiesAll results).bind fun _ hresults =>
      .pure (by simp [Statement.qualifiers]) (by simp [requalifyStatement, hresults])
  | .jump _ _ _ => by rw [requalifyStatement]; exact .pure (List.nil_subset _) (by rw [requalifyStatement])
  | .block _ body _ => by
    rw [requalifyStatement]
    exact (requalifiesBody body).bind fun _ hbody =>
      .pure (by simp [Statement.qualifiers]) (by simp [requalifyStatement, hbody])
  | .labelled _ _ target => by
    rw [requalifyStatement]
    exact (requalifiesStatement target).bind fun _ htarget =>
      .pure (by simp [Statement.qualifiers]) (by simp [requalifyStatement, htarget])
  | .cond _ first test body otherwise => by
    rw [requalifyStatement]
    exact (requalifiesStatement first).bind fun _ hfirst => (requalifiesStatement test).bind fun _ htest =>
      (requalifiesStatement body).bind fun _ hbody => (requalifiesStatement otherwise).bind fun _ hother =>
      .pure (by simp [Statement.qualifiers]) (by simp [requalifyStatement, hfirst, htest, hbody, hother])
  | .loop _ first test after body => by
    rw [requalifyStatement]
    exact (requalifiesStatement first).bind fun _ hfirst => (requalifiesStatement test).bind fun _ htest =>
      (requalifiesStatement after).bind fun _ hafter => (requalifiesStatement body).bind fun _ hbody =>
      .pure (by simp [Statement.qualifiers]) (by simp [requalifyStatement, hfirst, htest, hafter, hbody])
  | .range _ targets _ _ x body => by
    rw [requalifyStatement]
    exact (requalifiesAll targets).bind fun _ htargets => (requalifies x).bind fun _ hx =>
      (requalifiesStatement body).bind fun _ hbody =>
      .pure (by simp [Statement.qualifiers]) (by simp [requalifyStatement, htargets, hx, hbody])
  | .choose _ _ first on _ clauses _ => by
    rw [requalifyStatement]
    exact (requalifiesStatement first).bind fun _ hfirst => (requalifiesStatement on).bind fun _ hon =>
      (requalifiesBody clauses).bind fun _ hclauses =>
      .pure (by simp [Statement.qualifiers]) (by simp [requalifyStatement, hfirst, hon, hclauses])
  | .clause _ values exchange _ body => by
    rw [requalifyStatement]
    exact (requalifiesAll values).bind fun _ hvalues =>
      (requalifiesStatement exchange).bind fun _ hexchange => (requalifiesBody body).bind fun _ hbody =>
      .pure (by simp [Statement.qualifiers]) (by simp [requalifyStatement, hvalues, hexchange, hbody])
  | .declare _ _ _ _ specs _ => by
    rw [requalifyStatement]
    exact (requalifiesBody specs).bind fun _ hspecs =>
      .pure (by simp [Statement.qualifiers]) (by simp [requalifyStatement, hspecs])
  | .spec _ params type values => by
    rw [requalifyStatement]
    exact (requalifiesGroups params).bind fun _ hparams => (requalifies type).bind fun _ htype =>
      (requalifiesAll values).bind fun _ hvalues =>
      .pure (by simp [Statement.qualifiers]) (by simp [requalifyStatement, hparams, htype, hvalues])

theorem requalifiesAll : ∀ xs, Requalifies (requalifyAll s xs) [] allQualifiers (requalifyAll s)
  | [] => by rw [requalifyAll]; exact .pure (List.nil_subset _) (by rw [requalifyAll])
  | x :: rest => by
    rw [requalifyAll]
    exact (requalifies x).bind fun _ hx => (requalifiesAll rest).bind fun _ hrest =>
      .pure (by simp [allQualifiers]) (by simp [requalifyAll, hx, hrest])

theorem requalifiesGroups : ∀ gs, Requalifies (requalifyGroups s gs) [] groupQualifiers (requalifyGroups s)
  | [] => by rw [requalifyGroups]; exact .pure (List.nil_subset _) (by rw [requalifyGroups])
  | (_, x) :: rest => by
    rw [requalifyGroups]
    exact (requalifies x).bind fun _ hx => (requalifiesGroups rest).bind fun _ hrest =>
      .pure (by simp [groupQualifiers]) (by simp [requalifyGroups, hx, hrest])

theorem requalifiesBody : ∀ ts, Requalifies (requalifyBody s ts) [] bodyQualifiers (requalifyBody s)
  | [] => by rw [requalifyBody]; exact .pure (List.nil_subset _) (by rw [requalifyBody])
  | t :: rest => by
    rw [requalifyBody]
    exact (requalifiesStatement t).bind fun _ ht => (requalifiesBody rest).bind fun _ hrest =>
      .pure (by simp [bodyQualifiers]) (by simp [requalifyBody, ht, hrest])

end

end

section

variable (s : Subject) (x : Expr) (d : Draft)

/-- Each new name of the table is shown in the new expression. -/
theorem shows_requalify :
    ∀ entry ∈ (requalify s x d).2.imports, entry ∈ d.imports ∨ entry.1 ∈ (requalify s x d).1.qualifiers :=
  (requalifies s x).enters d

/-- Requalifying again does nothing, whatever was done in between. -/
theorem requalify_requalify (e : Draft) : requalify s (requalify s x d).1 e = ((requalify s x d).1, e) :=
  congrFun ((requalifies s x).rests d) e

/-- Adapting an expression of the source is to requalify it as it is by now, and perhaps to remember the result. -/
theorem Draft.exists_adapt_eq : ∃ adapted, d.adapt s x =
    ((requalify s (d.currentExpr x) d).1, { (requalify s (d.currentExpr x) d).2 with adapted }) := by
  rw [Draft.adapt]
  cases isName (d.currentExpr x) <;> exact ⟨_, rfl⟩

/-- Requalifying makes the table grow, and gives no package another name. -/
theorem imports_prefix_requalify :
    d.imports <+: (requalify s x d).2.imports ∧ (requalify s x d).2.names = d.names := by
  refine requalify_keeps (P := fun e => d.imports <+: e.imports ∧ e.names = d.names) (fun path e he => ?_) x
    ⟨List.prefix_rfl, rfl⟩
  obtain ⟨himports, hnames⟩ := Draft.imports_prefix_of_eq_enter (Draft.importedName_eq s e path)
  exact ⟨he.1.trans himports, hnames.trans he.2⟩

end

end TaggedUnion
