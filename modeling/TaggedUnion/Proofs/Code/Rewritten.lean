import TaggedUnion.Proofs.Code.Requalified
import TaggedUnion.Proofs.Syntax.Occurrences

/-!
# What requalifying does to names

Requalifying an expression rewrites the names that stand for something of another package, and leaves all others where
they are and as they are. A name that is rewritten comes out behind a name of the table of imports that stands for the
package (`Rewritten`); the names of the new expression are those of the old one, one by one (`rewritten_requalify`).

As for what the table comes to, this is one induction on the syntax (`rewrites`), with `Rewrites.bind` for syntax that
has several parts.
-/

namespace TaggedUnion

open Source TaggedUnion.Types Syntax

variable {s : Subject}

/-- The package that a name is given the qualifier of. -/
def Syntax.Occurrence.package? (s : Subject) : Occurrence → Option String
  | .qualified id _ =>
    match id.meaning with
    | some (.package path) => some path
    | _ => none
  | .plain id | .embedded id => foreignHome? s id
  | .member _ => none

/-- How a name comes out with a table of imports. -/
inductive Rewritten (s : Subject) (table : List (String × Import)) : Occurrence → Occurrence → Prop
  | same {o : Occurrence} : o.package? s = none → Rewritten s table o o
  | qualified {o : Occurrence} {id name : Ident} {i : Import} :
    o.package? s = some i.path → table.lookup id.name = some i → name.name = o.name →
    Rewritten s table o (.qualified id name)

/-- A table that goes on has all names that came out with it. -/
theorem Rewritten.mono {table table' : List (String × Import)} {o o' : Occurrence} (h : Rewritten s table o o')
    (hgrow : table <+: table') : Rewritten s table' o o' := by
  cases h with
  | same hnone => exact .same hnone
  | qualified hsome hlookup hname => exact .qualified hsome (hgrow.lookup_eq_some hlookup) hname

theorem Rewritten.all_mono {table table' : List (String × Import)} {os os' : List Occurrence}
    (h : List.Forall₂ (Rewritten s table) os os') (hgrow : table <+: table') :
    List.Forall₂ (Rewritten s table') os os' :=
  h.imp fun _ _ hrewritten => hrewritten.mono hgrow

/-- Names that stand for nothing of other packages come out as they are. -/
theorem Rewritten.all_same (table : List (String × Import)) {os : List Occurrence}
    (h : ∀ o ∈ os, o.package? s = none) : List.Forall₂ (Rewritten s table) os os :=
  List.forall₂_same.2 fun o ho => .same (h o ho)

/-- The packages that names are given the qualifiers of have names. -/
def Named (s : Subject) (d : Draft) (os : List Occurrence) : Prop :=
  ∀ o ∈ os, ∀ path, o.package? s = some path → d.names.current path ≠ ""

/-- What a computation comes to that requalifies syntax with some names: the table grows and no package gets another
name, and after the given names the result has those of the syntax as they come out. -/
structure Rewrites (s : Subject) {α : Type} (m : StateM Draft α) (names : List Occurrence)
    (before : List Occurrence) (shown : α → List Occurrence) : Prop where
  grows : ∀ d, d.imports <+: (m d).2.imports ∧ (m d).2.names = d.names
  rewritten : ∀ d, Named s d names →
    ∃ new, shown (m d).1 = before ++ new ∧ List.Forall₂ (Rewritten s (m d).2.imports) names new

namespace Rewrites

variable {α β : Type} {names more before : List Occurrence} {f : α → List Occurrence} {g : β → List Occurrence}

theorem pure {a : α} (hnames : ∀ o ∈ names, o.package? s = none) (h : f a = before ++ names) :
    Rewrites s (Pure.pure a) names before f where
  grows _ := ⟨List.prefix_rfl, rfl⟩
  rewritten d _ := ⟨names, h, Rewritten.all_same d.imports hnames⟩

/-- One part after the other: the second one carries on the names of the first. -/
theorem bind {m : StateM Draft α} {k : α → StateM Draft β} (hm : Rewrites s m names [] f)
    (hk : ∀ a, Rewrites s (k a) more (before ++ f a) g) : Rewrites s (m >>= k) (names ++ more) before g where
  grows d := by
    obtain ⟨hfirst, hsame⟩ := hm.grows d
    obtain ⟨hrest, hsame'⟩ := (hk (m d).1).grows (m d).2
    exact ⟨hfirst.trans hrest, hsame'.trans hsame⟩
  rewritten d hnamed := by
    obtain ⟨hnames, hmore⟩ := List.forall_mem_append.1 hnamed
    have hmore : Named s (m d).2 more := by rwa [Named, (hm.grows d).2]
    obtain ⟨new, hnew, hfirst⟩ := hm.rewritten d hnames
    obtain ⟨new', hnew', hrest⟩ := (hk (m d).1).rewritten (m d).2 hmore
    refine ⟨new ++ new', ?_, List.rel_append (Rewritten.all_mono hfirst ((hk (m d).1).grows (m d).2).1) hrest⟩
    rw [List.nil_append] at hnew
    rw [← List.append_assoc, ← hnew]
    exact hnew'

/-- The last part. -/
theorem map {m : StateM Draft α} {r : α → β} (hm : Rewrites s m names [] f) (h : ∀ a, g (r a) = before ++ f a) :
    Rewrites s (m >>= fun a => Pure.pure (r a)) names before g where
  grows := hm.grows
  rewritten d hnamed := by
    obtain ⟨new, hnew, hall⟩ := hm.rewritten d hnamed
    rw [List.nil_append] at hnew
    exact ⟨new, hnew ▸ h (m d).1, hall⟩

/-- Names that come before and stay as they are. -/
theorem after {m : StateM Draft α} {same : List Occurrence} (hsame : ∀ o ∈ same, o.package? s = none)
    (hm : Rewrites s m names (before ++ same) f) : Rewrites s m (same ++ names) before f where
  grows := hm.grows
  rewritten d hnamed := by
    obtain ⟨new, hnew, hall⟩ := hm.rewritten d (List.forall_mem_append.1 hnamed).2
    exact ⟨same ++ new, by rw [hnew, List.append_assoc], List.rel_append (Rewritten.all_same _ hsame) hall⟩

/-- A part whose names are not looked at. -/
theorem hidden {m : StateM Draft α} (hm : Rewrites s m names before f) : Rewrites s m [] [] fun _ => [] where
  grows := hm.grows
  rewritten _ _ := ⟨[], rfl, .nil⟩

end Rewrites

/-! ## Single names -/

section

variable (s)

/-- A package that has a name gets a name of the table. -/
theorem rewrites_qualified {o : Occurrence} {path : String} (ho : o.package? s = some path)
    (pos : String → Pos × Pos) (e : Bool) :
    Rewrites s (do
        let qualifier ← importedName s path
        return plainSelector (pos qualifier).1 (pos qualifier).2 qualifier o.name)
      [o] [] (Expr.occurrences e) where
  grows d := Draft.imports_prefix_of_eq_enter (Draft.importedName_eq s d path)
  rewritten d hnamed := by
    obtain ⟨found, hfound, heq⟩ := Draft.importedName_of_ne_empty s (hnamed o List.mem_cons_self path ho)
    have hlookup := @Draft.lookup_enter s d path found ⟨path, found != d.names.current path⟩
      (Draft.admits_of_importName? hfound) rfl
    obtain ⟨i, hi, hpath⟩ := hlookup
    have hrun : ∀ r, importedName s path d = r → (do
        let qualifier ← importedName s path
        return plainSelector (pos qualifier).1 (pos qualifier).2 qualifier o.name : StateM Draft Expr) d =
          (plainSelector (pos r.1).1 (pos r.1).2 r.1 o.name, r.2) := by
      rintro _ rfl
      rfl
    rw [hrun _ heq]
    exact ⟨_, rfl, .cons (.qualified (hpath ▸ ho) hi rfl) .nil⟩

theorem package?_members (head : GroupHead) : ∀ o ∈ head.members, o.package? s = none :=
  List.forall_mem_map.2 fun _ _ => rfl

theorem package?_of_qualifierPath? {x : Expr} {id : Ident} {path : String} (sel : Ident)
    (h : qualifierPath? x = some (id, path)) :
    qualifier? x = some id ∧ (Occurrence.qualified id sel).package? s = some path := by
  cases x with
  | ident id' =>
    obtain ⟨pos, name, meaning⟩ := id'
    cases meaning with
    | none => cases h
    | some meaning =>
      cases meaning with
      | package path' => cases h; exact ⟨rfl, rfl⟩
      | _ => cases h
  | _ => cases h

theorem package?_of_qualifier? {x : Expr} {id : Ident} (sel : Ident) (h : qualifier? x = some id)
    (hpath : qualifierPath? x = none) :
    x = .ident id ∧ id.meaning = none ∧ (Occurrence.qualified id sel).package? s = none := by
  cases x with
  | ident id' =>
    obtain ⟨pos, name, meaning⟩ := id'
    cases meaning with
    | none => cases h; exact ⟨rfl, rfl, rfl⟩
    | some meaning =>
      cases meaning with
      | package path' => cases hpath
      | _ => cases h
  | _ => cases h

/-- What stands in front of a dot and is no qualifier does not become one. -/
theorem qualifier?_requalify {x : Expr} (hx : qualifier? x = none) (d : Draft) :
    qualifier? (requalify s x d).1 = none := by
  cases x with
  | ident id =>
    rw [requalify]
    cases foreignHome? s id with
    | none => exact hx
    | some home => rfl
  | selector x sel =>
    rw [requalify]
    cases qualifierPath? x <;> rfl
  | _ => rw [requalify]; rfl

theorem rewrites_ident (id : Ident) (e : Bool) :
    Rewrites s (requalify s (.ident id)) (Expr.occurrences e (.ident id)) [] (Expr.occurrences e) := by
  have hpackage : (if e then Occurrence.embedded id else .plain id).package? s = foreignHome? s id := by
    cases e <;> rfl
  have hname : (if e then Occurrence.embedded id else .plain id).name = id.name := by cases e <;> rfl
  rw [requalify]
  cases hhome : foreignHome? s id with
  | none => exact .pure (List.forall_mem_singleton.2 (hpackage.trans hhome)) rfl
  | some home =>
    have hqualified := rewrites_qualified s (hpackage.trans hhome)
      (fun name => (id.pos, id.pos + name.utf8ByteSize + 1)) e
    rw [hname] at hqualified
    exact hqualified

theorem rewrites_selector {x : Expr} (sel : Ident) (e : Bool)
    (h : Rewrites s (requalify s x) (x.occurrences false) [] (Expr.occurrences false)) :
    Rewrites s (requalify s (.selector x sel)) (Expr.occurrences e (.selector x sel)) [] (Expr.occurrences e) := by
  rw [requalify]
  cases hpath : qualifierPath? x with
  | some q =>
    obtain ⟨id, path⟩ := q
    obtain ⟨hqualifier, hpackage⟩ := package?_of_qualifierPath? s sel hpath
    rw [Expr.occurrences, hqualifier]
    exact rewrites_qualified s hpackage (fun _ => (id.pos, id.pos + id.name.utf8ByteSize + 1)) e
  | none =>
    cases hqualifier : qualifier? x with
    | some id =>
      -- a name without a meaning stays, and is still in front of the dot
      obtain ⟨rfl, hmeaning, hnone⟩ := package?_of_qualifier? s sel hqualifier hpath
      have hkeep : requalify s (.ident id) = pure (.ident id) := by
        rw [requalify, foreignHome?, hmeaning]
      have hnames : Expr.occurrences e (.selector (.ident id) sel) = [.qualified id sel] := by
        rw [Expr.occurrences, hqualifier]
      rw [hkeep, hnames]
      exact .pure (List.forall_mem_singleton.2 hnone) hnames
    | none =>
      have hnames : ∀ y, qualifier? y = none →
          Expr.occurrences e (.selector y sel) = y.occurrences false ++ [.member sel] := fun y hy => by
        rw [Expr.occurrences, hy]
      rw [hnames x hqualifier]
      refine ⟨h.grows, fun d hnamed => ?_⟩
      obtain ⟨new, hnew, hall⟩ := h.rewritten d (List.forall_mem_append.1 hnamed).1
      refine ⟨new ++ [.member sel], ?_, List.rel_append hall (.cons (.same rfl) .nil)⟩
      exact (hnames _ (qualifier?_requalify s hqualifier d)).trans (by rw [hnew]; rfl)

/-- What `:=` declares is not looked at. -/
theorem Rewrites.targets {xs : List Expr} (h : Rewrites s (requalifyAll s xs) (allOccurrences xs) [] allOccurrences)
    (op : String) : Rewrites s (requalifyAll s xs) (if op = ":=" then [] else allOccurrences xs) []
      fun ys => if op = ":=" then [] else allOccurrences ys := by
  by_cases hop : op = ":="
  · simpa only [hop, if_true] using h.hidden
  · simpa only [hop, if_false] using h

/-! ## The induction -/

mutual

theorem rewrites (e : Bool) : ∀ x, Rewrites s (requalify s x) (x.occurrences e) [] (Expr.occurrences e)
  | .ident id => rewrites_ident s id e
  | .missing _ => by
    rw [requalify, Expr.occurrences]
    exact .pure (List.forall_mem_nil _) (by simp [Expr.occurrences])
  | .literal _ _ _ => by
    rw [requalify, Expr.occurrences]
    exact .pure (List.forall_mem_nil _) (by simp [Expr.occurrences])
  | .selector x sel => rewrites_selector s sel e (rewrites false x)
  | .index x _ args _ => by
    rw [requalify, Expr.occurrences]
    exact (rewrites e x).bind fun _ => (rewritesAll args).map fun _ => by simp [Expr.occurrences]
  | .slicing x _ bounds _ => by
    rw [requalify, Expr.occurrences]
    exact (rewrites false x).bind fun _ => (rewritesAll bounds).map fun _ => by simp [Expr.occurrences]
  | .assertion x _ type _ => by
    rw [requalify, Expr.occurrences]
    exact (rewrites false x).bind fun _ => (rewrites false type).map fun _ => by simp [Expr.occurrences]
  | .call f _ args _ _ => by
    rw [requalify, Expr.occurrences]
    exact (rewrites false f).bind fun _ => (rewritesAll args).map fun _ => by simp [Expr.occurrences]
  | .composite type _ elems _ => by
    rw [requalify, Expr.occurrences]
    exact (rewrites false type).bind fun _ => (rewritesAll elems).map fun _ => by simp [Expr.occurrences]
  | .keyed key _ value => by
    rw [requalify, Expr.occurrences]
    exact (rewrites false key).bind fun _ => (rewrites false value).map fun _ => by simp [Expr.occurrences]
  | .closure type _ body _ => by
    rw [requalify, Expr.occurrences]
    exact (rewrites false type).bind fun _ => (rewritesBody body).map fun _ => by simp [Expr.occurrences]
  | .star _ x => by
    rw [requalify, Expr.occurrences]
    exact (rewrites e x).map fun _ => by simp [Expr.occurrences]
  | .paren _ x _ => by
    rw [requalify, Expr.occurrences]
    exact (rewrites e x).map fun _ => by simp [Expr.occurrences]
  | .unary _ _ x => by
    rw [requalify, Expr.occurrences]
    exact (rewrites false x).map fun _ => by simp [Expr.occurrences]
  | .binary x _ _ y => by
    rw [requalify, Expr.occurrences]
    exact (rewrites false x).bind fun _ => (rewrites false y).map fun _ => by simp [Expr.occurrences]
  | .ellipsis _ elem => by
    rw [requalify, Expr.occurrences]
    exact (rewrites false elem).map fun _ => by simp [Expr.occurrences]
  | .slice _ elem => by
    rw [requalify, Expr.occurrences]
    exact (rewrites false elem).map fun _ => by simp [Expr.occurrences]
  | .array _ length elem => by
    rw [requalify, Expr.occurrences]
    exact (rewrites false length).bind fun _ => (rewrites false elem).map fun _ => by simp [Expr.occurrences]
  | .map _ key elem => by
    rw [requalify, Expr.occurrences]
    exact (rewrites false key).bind fun _ => (rewrites false elem).map fun _ => by simp [Expr.occurrences]
  | .chan _ _ _ elem => by
    rw [requalify, Expr.occurrences]
    exact (rewrites false elem).map fun _ => by simp [Expr.occurrences]
  | .func _ params _ _ results _ _ => by
    rw [requalify, Expr.occurrences]
    exact (rewritesGroups params).bind fun _ => (rewritesGroups results).map fun _ => by simp [Expr.occurrences]
  | .struct _ _ fields _ => by
    rw [requalify, Expr.occurrences]
    exact (rewritesFields fields).map fun _ => by simp [Expr.occurrences]
  | .interface _ _ elems _ => by
    rw [requalify, Expr.occurrences]
    exact (rewritesGroups elems).map fun _ => by simp [Expr.occurrences]

theorem rewritesStatement : ∀ t,
    Rewrites s (requalifyStatement s t) t.occurrences [] Syntax.Statement.occurrences
  | .empty _ => by
    rw [requalifyStatement, Statement.occurrences]
    exact .pure (List.forall_mem_nil _) (by simp [Statement.occurrences])
  | .expr x => by
    rw [requalifyStatement, Statement.occurrences]
    exact (rewrites false x).map fun _ => by simp [Statement.occurrences]
  | .send channel _ value => by
    rw [requalifyStatement, Statement.occurrences]
    exact (rewrites false channel).bind fun _ => (rewrites false value).map fun _ => by simp [Statement.occurrences]
  | .step x _ _ => by
    rw [requalifyStatement, Statement.occurrences]
    exact (rewrites false x).map fun _ => by simp [Statement.occurrences]
  | .assign targets _ op values => by
    rw [requalifyStatement, Statement.occurrences]
    exact ((rewritesAll targets).targets s op).bind fun _ =>
      (rewritesAll values).map fun _ => by simp [Statement.occurrences]
  | .start _ _ call => by
    rw [requalifyStatement, Statement.occurrences]
    exact (rewrites false call).map fun _ => by simp [Statement.occurrences]
  | .ret _ results => by
    rw [requalifyStatement, Statement.occurrences]
    exact (rewritesAll results).map fun _ => by simp [Statement.occurrences]
  | .jump _ _ _ => by
    rw [requalifyStatement, Statement.occurrences]
    exact .pure (List.forall_mem_nil _) (by simp [Statement.occurrences])
  | .block _ body _ => by
    rw [requalifyStatement, Statement.occurrences]
    exact (rewritesBody body).map fun _ => by simp [Statement.occurrences]
  | .labelled _ _ target => by
    rw [requalifyStatement, Statement.occurrences]
    exact (rewritesStatement target).map fun _ => by simp [Statement.occurrences]
  | .cond _ first test body otherwise => by
    rw [requalifyStatement, Statement.occurrences]
    exact (rewritesStatement first).bind fun _ => (rewritesStatement test).bind fun _ =>
      (rewritesStatement body).bind fun _ => (rewritesStatement otherwise).map fun _ => by
        simp [Statement.occurrences]
  | .loop _ first test after body => by
    rw [requalifyStatement, Statement.occurrences]
    exact (rewritesStatement first).bind fun _ => (rewritesStatement test).bind fun _ =>
      (rewritesStatement after).bind fun _ => (rewritesStatement body).map fun _ => by
        simp [Statement.occurrences]
  | .range _ targets _ op x body => by
    rw [requalifyStatement, Statement.occurrences]
    exact ((rewritesAll targets).targets s op).bind fun _ => (rewrites false x).bind fun _ =>
      (rewritesStatement body).map fun _ => by simp [Statement.occurrences]
  | .choose _ _ first on _ clauses _ => by
    rw [requalifyStatement, Statement.occurrences]
    exact (rewritesStatement first).bind fun _ => (rewritesStatement on).bind fun _ =>
      (rewritesBody clauses).map fun _ => by simp [Statement.occurrences]
  | .clause _ values exchange _ body => by
    rw [requalifyStatement, Statement.occurrences]
    exact (rewritesAll values).bind fun _ => (rewritesStatement exchange).bind fun _ =>
      (rewritesBody body).map fun _ => by simp [Statement.occurrences]
  | .declare _ _ _ _ specs _ => by
    rw [requalifyStatement, Statement.occurrences]
    exact (rewritesBody specs).map fun _ => by simp [Statement.occurrences]
  | .spec _ params type values => by
    rw [requalifyStatement, Statement.occurrences]
    exact (rewritesGroups params).hidden.bind fun _ => (rewrites false type).bind fun _ =>
      (rewritesAll values).map fun _ => by simp [Statement.occurrences]

theorem rewritesAll : ∀ xs, Rewrites s (requalifyAll s xs) (allOccurrences xs) [] allOccurrences
  | [] => by
    rw [requalifyAll, allOccurrences]
    exact .pure (List.forall_mem_nil _) (by simp [allOccurrences])
  | x :: rest => by
    rw [requalifyAll, allOccurrences]
    exact (rewrites false x).bind fun _ => (rewritesAll rest).map fun _ => by simp [allOccurrences]

theorem rewritesGroups : ∀ gs, Rewrites s (requalifyGroups s gs) (groupOccurrences gs) [] groupOccurrences
  | [] => by
    rw [requalifyGroups, groupOccurrences]
    exact .pure (List.forall_mem_nil _) (by simp [groupOccurrences])
  | (head, x) :: rest => by
    rw [requalifyGroups, groupOccurrences]
    exact .after (package?_members s head) <| (rewrites false x).bind fun _ => (rewritesGroups rest).map fun _ => by
      simp [groupOccurrences]

theorem rewritesFields : ∀ gs, Rewrites s (requalifyGroups s gs) (fieldOccurrences gs) [] fieldOccurrences
  | [] => by
    rw [requalifyGroups, fieldOccurrences]
    exact .pure (List.forall_mem_nil _) (by simp [fieldOccurrences])
  | (head, x) :: rest => by
    rw [requalifyGroups, fieldOccurrences]
    exact .after (package?_members s head) <| (rewrites head.names.isEmpty x).bind fun _ =>
      (rewritesFields rest).map fun _ => by simp [fieldOccurrences]

theorem rewritesBody : ∀ ts, Rewrites s (requalifyBody s ts) (bodyOccurrences ts) [] bodyOccurrences
  | [] => by
    rw [requalifyBody, bodyOccurrences]
    exact .pure (List.forall_mem_nil _) (by simp [bodyOccurrences])
  | t :: rest => by
    rw [requalifyBody, bodyOccurrences]
    exact (rewritesStatement t).bind fun _ => (rewritesBody rest).map fun _ => by simp [bodyOccurrences]

end

/-- The names of an expression come out one by one, each behind the name of its package or as it is. -/
theorem rewritten_requalify {x : Expr} {d : Draft} (hnamed : Named s d (x.occurrences false)) :
    List.Forall₂ (Rewritten s (requalify s x d).2.imports) (x.occurrences false)
      ((requalify s x d).1.occurrences false) := by
  obtain ⟨new, hnew, hall⟩ := (rewrites s false x).rewritten d hnamed
  rw [hnew]
  exact hall

end

end TaggedUnion
