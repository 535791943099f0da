import TaggedUnion.Proofs.Code.Reference
import TaggedUnion.Code.Requalify

/-!
# Runs in lockstep

Two runs of one computation, from drafts that are alike, give one result and leave drafts that are
alike, or they come apart and stay so whatever follows. A computation for which this holds runs in
*lockstep* (`Lockstep`). Requalifying an expression does if every single import does
(`lockstep_requalify`), by induction on the syntax. The induction is on two computations that go
*abreast*, such as requalifying for two packages (`abreast_requalify`).

With the two runs the same and coming apart ruled out, this is the principle by which what every
single import keeps is kept by the whole of it (`requalify_keeps`).
-/

namespace TaggedUnion

open Source TaggedUnion.Types Syntax

/-- The computation runs in lockstep: from drafts that are alike it gives one result and leaves
drafts that are alike, and the runs agree on what they should, unless they come apart; and what came
apart stays apart while either run goes on. -/
structure Lockstep {α : Type} (alike apart : Draft → Draft → Prop) (agree : Prop) (m : StateM Draft α) :
    Prop where
  step : ∀ d e, alike d e →
    ((m d).1 = (m e).1 ∧ alike (m d).2 (m e).2 ∧ agree) ∨ apart (m d).2 (m e).2
  left : ∀ d e, apart d e → apart (m d).2 e
  right : ∀ d e, apart d e → apart d (m e).2

namespace Lockstep

variable {alike apart : Draft → Draft → Prop} {agree other : Prop}

theorem pure {α : Type} (a : α) : Lockstep alike apart True (Pure.pure a : StateM Draft α) where
  step _ _ h := .inl ⟨rfl, h, trivial⟩
  left _ _ h := h
  right _ _ h := h

theorem bind {α β : Type} {m : StateM Draft α} {k : α → StateM Draft β}
    (hm : Lockstep alike apart True m) (hk : ∀ a, Lockstep alike apart agree (k a)) :
    Lockstep alike apart agree (m >>= k) where
  step d e h := by
    change ((k (m d).1 (m d).2).1 = (k (m e).1 (m e).2).1 ∧
      alike (k (m d).1 (m d).2).2 (k (m e).1 (m e).2).2 ∧ agree) ∨
      apart (k (m d).1 (m d).2).2 (k (m e).1 (m e).2).2
    rcases hm.step d e h with ⟨hres, hrel, -⟩ | hapart
    · rw [hres]
      exact (hk _).step _ _ hrel
    · exact .inr ((hk _).left _ _ ((hk _).right _ _ hapart))
  left d e h := (hk _).left _ _ (hm.left d e h)
  right d e h := (hk _).right _ _ (hm.right d e h)

/-- One change of a draft after the other: the runs agree on what they should in both. -/
theorem comp {f g : Draft → Draft} (hf : Lockstep alike apart agree (modify f))
    (hg : Lockstep alike apart other (modify g)) :
    Lockstep alike apart (agree ∧ other) (modify fun d => g (f d)) where
  step d e h := by
    rcases hf.step d e h with ⟨-, hrel, hagree⟩ | hapart
    · rcases hg.step _ _ hrel with ⟨-, hrel', hother⟩ | hapart
      · exact .inl ⟨rfl, hrel', hagree, hother⟩
      · exact .inr hapart
    · exact .inr (hg.left _ _ (hg.right _ _ hapart))
  left d e h := hg.left _ _ (hf.left d e h)
  right d e h := hg.right _ _ (hf.right d e h)

theorem imp {α : Type} {m : StateM Draft α} (hm : Lockstep alike apart agree m) (h : agree → other) :
    Lockstep alike apart other m where
  step d e hrel := (hm.step d e hrel).imp_left fun ⟨hres, hrel', hagree⟩ => ⟨hres, hrel', h hagree⟩
  left := hm.left
  right := hm.right

/-- A change for each element of a list: the runs agree on what they should for all of them. -/
theorem foldl {β : Type} {f : Draft → β → Draft} {agree : β → Prop} (l : List β)
    (h : ∀ b ∈ l, Lockstep alike apart (agree b) (modify fun d => f d b)) :
    Lockstep alike apart (∀ b ∈ l, agree b) (modify fun d => l.foldl f d) := by
  induction l with
  | nil =>
    exact (pure ()).imp fun _ b hb => absurd hb List.not_mem_nil
  | cons b rest ih =>
    have hrest := ih fun c hc => h c (List.mem_cons_of_mem _ hc)
    refine ((h b List.mem_cons_self).comp hrest).imp fun ⟨hb, hall⟩ c hc => ?_
    rcases List.mem_cons.1 hc with rfl | hc
    · exact hb
    · exact hall c hc

/-- What a computation keeps, it keeps in two runs that are one. -/
theorem of_keeps {α : Type} {P : Draft → Prop} {m : StateM Draft α} (h : ∀ d, P d → P (m d).2) :
    Lockstep (fun d e => d = e ∧ P d) (fun _ _ => False) True m where
  step := by
    rintro d _ ⟨rfl, hd⟩
    exact .inl ⟨rfl, ⟨rfl, h d hd⟩, trivial⟩
  left := fun _ _ => False.elim
  right := fun _ _ => False.elim

/-- What two runs that are one keep in lockstep, the computation keeps. -/
theorem keeps {α : Type} {P : Draft → Prop} {m : StateM Draft α}
    (h : Lockstep (fun d e => d = e ∧ P d) (fun _ _ => False) agree m) {d : Draft} (hd : P d) :
    P (m d).2 := by
  rcases h.step d d ⟨rfl, hd⟩ with ⟨-, ⟨-, hP⟩, -⟩ | hfalse
  · exact hP
  · exact hfalse.elim

end Lockstep

/-! ## Two computations -/

/-- Two computations go abreast: from drafts that are alike both give one result and leave drafts that
are alike, unless they come apart; and what came apart stays apart while either goes on. -/
structure Abreast {α : Type} (alike apart : Draft → Draft → Prop) (m m' : StateM Draft α) : Prop where
  step : ∀ d e, alike d e →
    ((m d).1 = (m' e).1 ∧ alike (m d).2 (m' e).2) ∨ apart (m d).2 (m' e).2
  left : ∀ d e, apart d e → apart (m d).2 e
  right : ∀ d e, apart d e → apart d (m' e).2

namespace Abreast

variable {alike apart : Draft → Draft → Prop}

theorem pure {α : Type} (a : α) : Abreast alike apart (Pure.pure a : StateM Draft α) (Pure.pure a) where
  step _ _ h := .inl ⟨rfl, h⟩
  left _ _ h := h
  right _ _ h := h

theorem bind {α β : Type} {m m' : StateM Draft α} {k k' : α → StateM Draft β}
    (hm : Abreast alike apart m m') (hk : ∀ a, Abreast alike apart (k a) (k' a)) :
    Abreast alike apart (m >>= k) (m' >>= k') where
  step d e h := by
    change ((k (m d).1 (m d).2).1 = (k' (m' e).1 (m' e).2).1 ∧
      alike (k (m d).1 (m d).2).2 (k' (m' e).1 (m' e).2).2) ∨
      apart (k (m d).1 (m d).2).2 (k' (m' e).1 (m' e).2).2
    rcases hm.step d e h with ⟨hres, hrel⟩ | hapart
    · rw [hres]
      exact (hk _).step _ _ hrel
    · exact .inr ((hk _).left _ _ ((hk _).right _ _ hapart))
  left d e h := (hk _).left _ _ (hm.left d e h)
  right d e h := (hk _).right _ _ (hm.right d e h)

end Abreast

/-- To run in lockstep is to go abreast with itself. -/
theorem lockstep_iff_abreast {α : Type} {alike apart : Draft → Draft → Prop} {m : StateM Draft α} :
    Lockstep alike apart True m ↔ Abreast alike apart m m := by
  constructor
  · rintro ⟨hstep, hleft, hright⟩
    exact ⟨fun d e h => (hstep d e h).imp_left fun ⟨hres, hrel, _⟩ => ⟨hres, hrel⟩, hleft, hright⟩
  · rintro ⟨hstep, hleft, hright⟩
    exact ⟨fun d e h => (hstep d e h).imp_left fun ⟨hres, hrel⟩ => ⟨hres, hrel, trivial⟩, hleft, hright⟩

/-! ## Requalified expressions -/

section Requalify

variable {alike apart : Draft → Draft → Prop} {s s' : Subject}

/-- Single imports for two packages at one path go abreast. -/
structure ImportsAbreast (alike apart : Draft → Draft → Prop) (s s' : Subject) : Prop where
  path : s'.path = s.path
  imported : ∀ path, Abreast alike apart (importedName s path) (importedName s' path)

mutual

theorem abreast_requalify (h : ImportsAbreast alike apart s s') : ∀ x,
    Abreast alike apart (requalify s x) (requalify s' x)
  | .ident id => by
    have hhome : foreignHome? s' id = foreignHome? s id := by rw [foreignHome?, h.path, foreignHome?]
    rw [requalify, requalify, hhome]
    cases foreignHome? s id with
    | none => exact .pure _
    | some home => exact (h.imported home).bind fun _ => .pure _
  | .missing _ => by rw [requalify, requalify]; exact .pure _
  | .literal _ _ _ => by rw [requalify, requalify]; exact .pure _
  | .selector x _ => by
    rw [requalify, requalify]
    cases qualifierPath? x with
    | none => exact (abreast_requalify h x).bind fun _ => .pure _
    | some q => exact (h.imported q.2).bind fun _ => .pure _
  | .index x _ args _ => by
    rw [requalify, requalify]
    exact (abreast_requalify h x).bind fun _ => (abreast_requalifyAll h args).bind fun _ => .pure _
  | .slicing x _ bounds _ => by
    rw [requalify, requalify]
    exact (abreast_requalify h x).bind fun _ => (abreast_requalifyAll h bounds).bind fun _ => .pure _
  | .assertion x _ type _ => by
    rw [requalify, requalify]
    exact (abreast_requalify h x).bind fun _ => (abreast_requalify h type).bind fun _ => .pure _
  | .call f _ args _ _ => by
    rw [requalify, requalify]
    exact (abreast_requalify h f).bind fun _ => (abreast_requalifyAll h args).bind fun _ => .pure _
  | .composite type _ elems _ => by
    rw [requalify, requalify]
    exact (abreast_requalify h type).bind fun _ => (abreast_requalifyAll h elems).bind fun _ => .pure _
  | .keyed key _ value => by
    rw [requalify, requalify]
    exact (abreast_requalify h key).bind fun _ => (abreast_requalify h value).bind fun _ => .pure _
  | .closure type _ body _ => by
    rw [requalify, requalify]
    exact (abreast_requalify h type).bind fun _ => (abreast_requalifyBody h body).bind fun _ => .pure _
  | .star _ x => by rw [requalify, requalify]; exact (abreast_requalify h x).bind fun _ => .pure _
  | .paren _ x _ => by rw [requalify, requalify]; exact (abreast_requalify h x).bind fun _ => .pure _
  | .unary _ _ x => by rw [requalify, requalify]; exact (abreast_requalify h x).bind fun _ => .pure _
  | .binary x _ _ y => by
    rw [requalify, requalify]
    exact (abreast_requalify h x).bind fun _ => (abreast_requalify h y).bind fun _ => .pure _
  | .ellipsis _ elem => by
    rw [requalify, requalify]
    exact (abreast_requalify h elem).bind fun _ => .pure _
  | .slice _ elem => by
    rw [requalify, requalify]
    exact (abreast_requalify h elem).bind fun _ => .pure _
  | .array _ length elem => by
    rw [requalify, requalify]
    exact (abreast_requalify h length).bind fun _ => (abreast_requalify h elem).bind fun _ => .pure _
  | .map _ key elem => by
    rw [requalify, requalify]
    exact (abreast_requalify h key).bind fun _ => (abreast_requalify h elem).bind fun _ => .pure _
  | .chan _ _ _ elem => by
    rw [requalify, requalify]
    exact (abreast_requalify h elem).bind fun _ => .pure _
  | .func _ params _ _ results _ _ => by
    rw [requalify, requalify]
    exact (abreast_requalifyGroups h params).bind fun _ =>
      (abreast_requalifyGroups h results).bind fun _ => .pure _
  | .struct _ _ fields _ => by
    rw [requalify, requalify]; exact (abreast_requalifyGroups h fields).bind fun _ => .pure _
  | .interface _ _ elems _ => by
    rw [requalify, requalify]; exact (abreast_requalifyGroups h elems).bind fun _ => .pure _

theorem abreast_requalifyStatement (h : ImportsAbreast alike apart s s') : ∀ t,
    Abreast alike apart (requalifyStatement s t) (requalifyStatement s' t)
  | .empty _ => by rw [requalifyStatement, requalifyStatement]; exact .pure _
  | .expr x => by
    rw [requalifyStatement, requalifyStatement]
    exact (abreast_requalify h x).bind fun _ => .pure _
  | .send channel _ value => by
    rw [requalifyStatement, requalifyStatement]
    exact (abreast_requalify h channel).bind fun _ => (abreast_requalify h value).bind fun _ => .pure _
  | .step x _ _ => by
    rw [requalifyStatement, requalifyStatement]
    exact (abreast_requalify h x).bind fun _ => .pure _
  | .assign targets _ _ values => by
    rw [requalifyStatement, requalifyStatement]
    exact (abreast_requalifyAll h targets).bind fun _ =>
      (abreast_requalifyAll h values).bind fun _ => .pure _
  | .start _ _ call => by
    rw [requalifyStatement, requalifyStatement]
    exact (abreast_requalify h call).bind fun _ => .pure _
  | .ret _ results => by
    rw [requalifyStatement, requalifyStatement]
    exact (abreast_requalifyAll h results).bind fun _ => .pure _
  | .jump _ _ _ => by rw [requalifyStatement, requalifyStatement]; exact .pure _
  | .block _ body _ => by
    rw [requalifyStatement, requalifyStatement]
    exact (abreast_requalifyBody h body).bind fun _ => .pure _
  | .labelled _ _ target => by
    rw [requalifyStatement, requalifyStatement]
    exact (abreast_requalifyStatement h target).bind fun _ => .pure _
  | .cond _ first test body otherwise => by
    rw [requalifyStatement, requalifyStatement]
    exact (abreast_requalifyStatement h first).bind fun _ =>
      (abreast_requalifyStatement h test).bind fun _ =>
      (abreast_requalifyStatement h body).bind fun _ =>
      (abreast_requalifyStatement h otherwise).bind fun _ => .pure _
  | .loop _ first test after body => by
    rw [requalifyStatement, requalifyStatement]
    exact (abreast_requalifyStatement h first).bind fun _ =>
      (abreast_requalifyStatement h test).bind fun _ =>
      (abreast_requalifyStatement h after).bind fun _ =>
      (abreast_requalifyStatement h body).bind fun _ => .pure _
  | .range _ targets _ _ x body => by
    rw [requalifyStatement, requalifyStatement]
    exact (abreast_requalifyAll h targets).bind fun _ => (abreast_requalify h x).bind fun _ =>
      (abreast_requalifyStatement h body).bind fun _ => .pure _
  | .choose _ _ first on _ clauses _ => by
    rw [requalifyStatement, requalifyStatement]
    exact (abreast_requalifyStatement h first).bind fun _ =>
      (abreast_requalifyStatement h on).bind fun _ =>
      (abreast_requalifyBody h clauses).bind fun _ => .pure _
  | .clause _ values exchange _ body => by
    rw [requalifyStatement, requalifyStatement]
    exact (abreast_requalifyAll h values).bind fun _ =>
      (abreast_requalifyStatement h exchange).bind fun _ =>
      (abreast_requalifyBody h body).bind fun _ => .pure _
  | .declare _ _ _ _ specs _ => by
    rw [requalifyStatement, requalifyStatement]
    exact (abreast_requalifyBody h specs).bind fun _ => .pure _
  | .spec _ params type values => by
    rw [requalifyStatement, requalifyStatement]
    exact (abreast_requalifyGroups h params).bind fun _ => (abreast_requalify h type).bind fun _ =>
      (abreast_requalifyAll h values).bind fun _ => .pure _

theorem abreast_requalifyAll (h : ImportsAbreast alike apart s s') : ∀ xs,
    Abreast alike apart (requalifyAll s xs) (requalifyAll s' xs)
  | [] => by rw [requalifyAll, requalifyAll]; exact .pure _
  | x :: rest => by
    rw [requalifyAll, requalifyAll]
    exact (abreast_requalify h x).bind fun _ => (abreast_requalifyAll h rest).bind fun _ => .pure _

theorem abreast_requalifyGroups (h : ImportsAbreast alike apart s s') : ∀ gs,
    Abreast alike apart (requalifyGroups s gs) (requalifyGroups s' gs)
  | [] => by rw [requalifyGroups, requalifyGroups]; exact .pure _
  | (_, x) :: rest => by
    rw [requalifyGroups, requalifyGroups]
    exact (abreast_requalify h x).bind fun _ => (abreast_requalifyGroups h rest).bind fun _ => .pure _

theorem abreast_requalifyBody (h : ImportsAbreast alike apart s s') : ∀ ts,
    Abreast alike apart (requalifyBody s ts) (requalifyBody s' ts)
  | [] => by rw [requalifyBody, requalifyBody]; exact .pure _
  | t :: rest => by
    rw [requalifyBody, requalifyBody]
    exact (abreast_requalifyStatement h t).bind fun _ =>
      (abreast_requalifyBody h rest).bind fun _ => .pure _

end

end Requalify

theorem lockstep_requalify {alike apart : Draft → Draft → Prop} {s : Subject}
    (h : ∀ path, Lockstep alike apart True (importedName s path)) (x : Expr) :
    Lockstep alike apart True (requalify s x) :=
  lockstep_iff_abreast.2 (abreast_requalify ⟨rfl, fun path => lockstep_iff_abreast.1 (h path)⟩ x)

/-- What every import of a package keeps is kept by requalifying an expression. -/
theorem requalify_keeps {P : Draft → Prop} {s : Subject}
    (h : ∀ path d, P d → P (importedName s path d).2) (x : Expr) {d : Draft} (hd : P d) :
    P (requalify s x d).2 :=
  (lockstep_requalify (fun path => .of_keeps (h path)) x).keeps hd

end TaggedUnion
