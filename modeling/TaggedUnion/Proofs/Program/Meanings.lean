import TaggedUnion.Proofs.Program.Fields
import TaggedUnion.Proofs.Syntax.Occurrences

/-!
# What the names of a package mean

When the names of a package are resolved, each name in a type expression is given the meaning that it has in its file:
a package that the file imports, a declaration of the package or of one that it imports, or something predeclared that
the package does not declare itself (`Ident.Faithful`). The induction follows the annotation of expressions and
statements (`faithfully_annotate`). Only the imports and the declarations count for it, which are the same at all places
of a file (`InFile`).
-/

namespace TaggedUnion

open Source TaggedUnion.Types Syntax Program

/-- The meaning of a name is one that it has in a package with the given path, imports and declared names. -/
def Syntax.Ident.Faithful (home : String) (imports : List String) (declares : String → Bool) (id : Ident) : Prop :=
  match id.meaning with
  | some (.package path) => path ∈ imports
  | some (.topLevel path _) => path = home ∧ declares id.name = true ∨ path ∈ imports
  | some (.predeclared _) => declares id.name = false ∧ id.name ∈ predeclaredNames
  | some (.inner _ _) | none => True

/-- What a name means where it occurs. An embedded type means the field. -/
def Syntax.Occurrence.Faithful (home : String) (imports : List String) (declares : String → Bool) : Occurrence → Prop
  | .qualified id _ | .plain id => id.Faithful home imports declares
  | .embedded id => ∃ path type, id.meaning = some (.inner path type)
  | .member _ => True

namespace Program

/-! ## Places in a file -/

/-- What a name refers to at a place: a package by that name, something that a package declares whose names need no
qualifier, a declaration, or something predeclared that is not declared. -/
def Referent.Found (s : Site) (name : String) : Referent → Prop
  | .inner _ | .param _ => True
  | .package path => (name, path) ∈ s.scope.names
  | .foreign o => ∃ path ∈ s.scope.dots, ∃ q, s.env.imported.package? path = some q ∧ o ∈ q.objects
  | .own d => s.env.find? name = some d
  | .predeclared n => n = name ∧ s.env.find? name = none ∧ name ∈ predeclaredNames

/-- The objects of each package are at home in it. -/
def AtHome (p : Program) : Prop :=
  ∀ path q, p.package? path = some q → ∀ o ∈ q.objects, o.home = path

/-- A place in a file of the package at hand, which imports the given packages. -/
structure InFile (env : Env) (imports : List String) (s : Site) : Prop where
  same : s.env = env
  home : AtHome env.imported
  names : ∀ entry ∈ s.scope.names, entry.2 ∈ imports
  dots : s.scope.dots ⊆ imports

/-- All names mean what they do in the package at hand. -/
def Faithfully (env : Env) (imports : List String) (os : List Occurrence) : Prop :=
  ∀ o ∈ os, o.Faithful env.self imports fun name => (env.find? name).isSome

section

variable {env : Env} {imports : List String} {s : Site} {os os' : List Occurrence}

@[simp] theorem faithfully_nil : Faithfully env imports [] :=
  List.forall_mem_nil _

@[simp] theorem faithfully_append :
    Faithfully env imports (os ++ os') ↔ Faithfully env imports os ∧ Faithfully env imports os' :=
  List.forall_mem_append

@[simp] theorem faithfully_members (head : GroupHead) : Faithfully env imports head.members :=
  List.forall_mem_map.2 fun _ _ => trivial

namespace InFile

/-- Places with the same declarations and imports are in the same file. -/
theorem move {s' : Site} (h : InFile env imports s) (henv : s'.env = s.env) (hscope : s'.scope = s.scope) :
    InFile env imports s' :=
  ⟨henv.trans h.same, h.home, hscope ▸ h.names, hscope ▸ h.dots⟩

theorem inBlock (h : InFile env imports s) (decls : List LocalDecl) : InFile env imports (s.inBlock decls) :=
  h.move rfl rfl

theorem after (h : InFile env imports s) (decls : List LocalDecl) : InFile env imports (s.after decls) := by
  rw [Site.after]
  split
  · exact h.inBlock decls
  · exact h.move rfl rfl

end InFile

/-- What a name is found to refer to, it refers to. -/
theorem found_of_lookup {name : String} {found : Referent} (h : s.lookup name = some found) : found.Found s name := by
  rw [Site.lookup] at h
  split at h
  · cases h; trivial
  split at h
  · cases h; trivial
  split at h
  next path hpath =>
    cases h
    obtain ⟨before, rest, heq, -⟩ := List.lookup_eq_some_iff.1 hpath
    rw [Referent.Found, heq]
    exact List.mem_append_right _ List.mem_cons_self
  split at h
  next o ho =>
    cases h
    obtain ⟨path, hpath, hfound⟩ := List.exists_of_findSome?_eq_some ho
    split at hfound
    · obtain ⟨q, hq, hfind⟩ := Option.bind_eq_some_iff.1 hfound
      exact ⟨path, hpath, q, hq, List.mem_of_find?_eq_some hfind⟩
    · cases hfound
  split at h
  next d hd =>
    cases h
    exact hd
  next hnone =>
    split at h
    next hpredeclared =>
      cases h
      exact ⟨rfl, hnone, by simpa using hpredeclared⟩
    · cases h

end

/-! ## Annotation -/

section

variable {env : Env} {imports : List String} (ask : Ask)

theorem ensures_usedMeaning {s : Site} (hs : InFile env imports s) (id : Ident) :
    Ensures anyStore (fun meaning => Ident.Faithful env.self imports (fun name => (env.find? name).isSome)
      { id with meaning }) (usedMeaning s ask id.name) := by
  rw [usedMeaning]
  cases hfound : s.lookup id.name with
  | none => exact .pure trivial
  | some found =>
    have hmeans := found_of_lookup hfound
    cases found with
    | inner d => exact .pure trivial
    | param p => exact .pure trivial
    | package path => exact .pure (hs.names _ hmeans)
    | foreign o =>
      obtain ⟨path, hpath, q, hq, ho⟩ := hmeans
      exact .pure (.inr (hs.home path q (hs.same ▸ hq) o ho ▸ hs.dots hpath))
    | own d =>
      exact .skip fun _ => .pure (.inl ⟨congrArg Env.self hs.same, Option.isSome_iff_exists.2 ⟨d, hs.same ▸ hmeans⟩⟩)
    | predeclared n =>
      obtain ⟨-, hnone, hname⟩ := hmeans
      exact .pure ⟨Option.isSome_eq_false_iff.2 (Option.isNone_iff_eq_none.2 (hs.same ▸ hnone)), hname⟩

theorem ensures_annotateUse_faithful {s : Site} (hs : InFile env imports s) (id : Ident) :
    Ensures anyStore (fun id' => Faithfully env imports [.plain id']) (annotateUse s ask id) :=
  (ensures_usedMeaning ask hs id).bind fun _ h => .pure (List.forall_mem_singleton.2 h)

/-- The name of a field or method means that. -/
theorem ensures_memberMeaning (s : Site) (t : Ty) (id : Ident) :
    Ensures anyStore (fun meaning => Ident.Faithful env.self imports (fun name => (env.find? name).isSome)
      { id with meaning }) (memberMeaning s ask t id.name) := by
  rw [memberMeaning]
  refine .skip fun m => ?_
  split <;> exact .pure trivial

/-- A selected name means what its qualifier does. -/
theorem faithfully_selector {x : Expr} (hx : Faithfully env imports (x.occurrences false)) (sel : Ident) (e : Bool) :
    Faithfully env imports (Expr.occurrences e (.selector x sel)) := by
  rw [Expr.occurrences]
  split
  next id hid =>
    cases x with
    | ident id' =>
      obtain rfl : id' = id := by
        rw [qualifier?] at hid
        split at hid <;> cases hid <;> rfl
      exact List.forall_mem_singleton.2 (hx (.plain id') (by simp [Expr.occurrences]))
    | _ => cases hid
  next => exact faithfully_append.2 ⟨hx, List.forall_mem_singleton.2 trivial⟩

/-- An embedded type means the field, and what it is applied to means what it did. -/
theorem faithfully_annotateEmbedded (home : String) (t : Ty) (x : Expr)
    (hx : Faithfully env imports (x.occurrences false)) :
    Faithfully env imports ((annotateEmbedded home t x).occurrences true) := by
  fun_induction annotateEmbedded home t x with
  | case1 id => exact List.forall_mem_singleton.2 ⟨_, _, rfl⟩
  | case2 x sel =>
    rw [Expr.occurrences] at hx ⊢
    split at hx
    next id _ => exact List.forall_mem_singleton.2 (hx (.qualified id sel) List.mem_cons_self)
    next => exact faithfully_append.2 ⟨(faithfully_append.1 hx).1, List.forall_mem_singleton.2 trivial⟩
  | case3 pos x ih => exact ih hx
  | case4 x lbrack args rbrack ih =>
    rw [Expr.occurrences, faithfully_append] at hx ⊢
    exact ⟨ih hx.1, hx.2⟩
  | case5 lparen x rparen ih => exact ih hx
  | case6 x hident hselector hstar hindex hparen =>
    have hsame : x.occurrences true = x.occurrences false := by
      cases x with
      | ident id => exact (hident id rfl).elim
      | star pos x => exact (hstar pos x rfl).elim
      | index x lbrack args rbrack => exact (hindex x lbrack args rbrack rfl).elim
      | paren lparen x rparen => exact (hparen lparen x rparen rfl).elim
      | _ => simp [Expr.occurrences]
    rwa [hsame]

theorem ensures_inClause {s : Site} (hs : InFile env imports s) (values : List Expr) :
    Ensures anyStore (InFile env imports) (inClause s ask values) := by
  rw [inClause]
  split
  · exact .pure (hs.inBlock [])
  · -- the type of the value does not matter
    simp only [pure_bind]
    split
    · refine .skip fun x => ?_
      split <;> exact .pure (hs.move rfl rfl)
    · exact .pure (hs.move rfl rfl)

/-- A key that is a name is a field, or means what it does where it stands. -/
theorem ensures_annotateElems_keyed {s : Site} (hs : InFile env imports s) (t : Ty) {id : Ident} {colon : Pos}
    {value : Expr} {rest : List Expr}
    (hvalue : Ensures anyStore (fun y => Faithfully env imports (y.occurrences false)) (annotate s ask value))
    (hrest : Ensures anyStore (fun ys => Faithfully env imports (allOccurrences ys)) (annotateElems s ask t rest)) :
    Ensures anyStore (fun ys => Faithfully env imports (allOccurrences ys))
      (annotateElems s ask t (.keyed (.ident id) colon value :: rest)) := by
  have hkey : ∀ id', Faithfully env imports [.plain id'] →
      Ensures anyStore (fun ys => Faithfully env imports (allOccurrences ys)) (do
        return .keyed (.ident id') colon (← annotate s ask value) :: (← annotateElems s ask t rest)) := by
    refine fun id' hid => hvalue.bind fun _ hvalue => hrest.bind fun _ hrest => .pure ?_
    rw [allOccurrences, Expr.occurrences, faithfully_append, faithfully_append]
    exact ⟨⟨by simpa [Expr.occurrences] using hid, hvalue⟩, hrest⟩
  rw [annotateElems]
  simp only [pure_bind]
  refine .skip fun u => ?_
  split
  · exact (ensures_memberMeaning ask s t id).bind fun _ h => hkey _ (List.forall_mem_singleton.2 h)
  · exact (ensures_annotateUse_faithful ask hs id).bind hkey

mutual

/-- The names of an expression are given the meanings that they have in its file. -/
theorem faithfully_annotate : ∀ x s, InFile env imports s →
    Ensures anyStore (fun y => Faithfully env imports (y.occurrences false)) (annotate s ask x)
  | .missing _, s, _ => by
    rw [annotate]
    exact .pure (by simp [Expr.occurrences])
  | .ident id, s, hs => by
    rw [annotate]
    exact (ensures_annotateUse_faithful ask hs id).bind fun _ h => .pure (by simpa [Expr.occurrences] using h)
  | .literal _ _ _, s, _ => by
    rw [annotate]
    exact .pure (by simp [Expr.occurrences])
  | .selector x sel, s, hs => by
    rw [annotate]
    exact .skip fun _ => (faithfully_annotate x s hs).bind fun _ h => .pure (faithfully_selector h _ false)
  | .index x _ args _, s, hs => by
    rw [annotate]
    exact (faithfully_annotate x s hs).bind fun _ hx => (faithfully_annotateAll args s hs).bind fun _ hargs =>
      .pure (by simp [Expr.occurrences, hx, hargs])
  | .slicing x _ bounds _, s, hs => by
    rw [annotate]
    exact (faithfully_annotate x s hs).bind fun _ hx => (faithfully_annotateAll bounds s hs).bind fun _ hbounds =>
      .pure (by simp [Expr.occurrences, hx, hbounds])
  | .assertion x _ type _, s, hs => by
    rw [annotate]
    exact (faithfully_annotate x s hs).bind fun _ hx => (faithfully_annotate type s hs).bind fun _ htype =>
      .pure (by simp [Expr.occurrences, hx, htype])
  | .call f _ args _ _, s, hs => by
    rw [annotate]
    exact (faithfully_annotate f s hs).bind fun _ hf => (faithfully_annotateAll args s hs).bind fun _ hargs =>
      .pure (by simp [Expr.occurrences, hf, hargs])
  | .composite type _ elems _, s, hs => by
    rw [annotate]
    exact .skip fun t => (faithfully_annotate type s hs).bind fun _ htype =>
      (faithfully_annotateElems elems s t hs).bind fun _ helems => .pure (by simp [Expr.occurrences, htype, helems])
  | .keyed key _ value, s, hs => by
    rw [annotate]
    exact (faithfully_annotate key s hs).bind fun _ hkey => (faithfully_annotate value s hs).bind fun _ hvalue =>
      .pure (by simp [Expr.occurrences, hkey, hvalue])
  | .closure type _ body _, s, hs => by
    rw [annotate]
    refine (faithfully_annotate type s hs).bind fun _ htype => .skip fun decls => ?_
    refine (faithfully_annotateBody body { s.inBlock decls with chosen := none } (hs.move rfl rfl)).bind ?_
    rintro ⟨_, _⟩ ⟨hbody, -⟩
    exact .pure (by simp [Expr.occurrences, htype, hbody])
  | .star _ x, s, hs => by
    rw [annotate]
    exact (faithfully_annotate x s hs).bind fun _ hx => .pure (by simp [Expr.occurrences, hx])
  | .paren _ x _, s, hs => by
    rw [annotate]
    exact (faithfully_annotate x s hs).bind fun _ hx => .pure (by simp [Expr.occurrences, hx])
  | .unary _ _ x, s, hs => by
    rw [annotate]
    exact (faithfully_annotate x s hs).bind fun _ hx => .pure (by simp [Expr.occurrences, hx])
  | .binary x _ _ y, s, hs => by
    rw [annotate]
    exact (faithfully_annotate x s hs).bind fun _ hx => (faithfully_annotate y s hs).bind fun _ hy =>
      .pure (by simp [Expr.occurrences, hx, hy])
  | .ellipsis _ elem, s, hs => by
    rw [annotate]
    exact (faithfully_annotate elem s hs).bind fun _ helem => .pure (by simp [Expr.occurrences, helem])
  | .slice _ elem, s, hs => by
    rw [annotate]
    exact (faithfully_annotate elem s hs).bind fun _ helem => .pure (by simp [Expr.occurrences, helem])
  | .array _ length elem, s, hs => by
    rw [annotate]
    exact (faithfully_annotate length s hs).bind fun _ hlength => (faithfully_annotate elem s hs).bind fun _ helem =>
      .pure (by simp [Expr.occurrences, hlength, helem])
  | .map _ key elem, s, hs => by
    rw [annotate]
    exact (faithfully_annotate key s hs).bind fun _ hkey => (faithfully_annotate elem s hs).bind fun _ helem =>
      .pure (by simp [Expr.occurrences, hkey, helem])
  | .chan _ _ _ elem, s, hs => by
    rw [annotate]
    exact (faithfully_annotate elem s hs).bind fun _ helem => .pure (by simp [Expr.occurrences, helem])
  | .func _ params _ _ results _ _, s, hs => by
    rw [annotate]
    exact (faithfully_annotateGroups params s hs).bind fun _ hparams =>
      (faithfully_annotateGroups results s hs).bind fun _ hresults =>
        .pure (by simp [Expr.occurrences, hparams, hresults])
  | .struct _ _ fields _, s, hs => by
    rw [annotate]
    exact (faithfully_annotateFields fields s hs).bind fun _ hfields => .pure (by simp [Expr.occurrences, hfields])
  | .interface _ _ elems _, s, hs => by
    rw [annotate]
    exact (faithfully_annotateGroups elems s hs).bind fun _ helems => .pure (by simp [Expr.occurrences, helems])

/-- The names of a statement are given the meanings that they have in its file, and the place after it is in the
file. -/
theorem faithfully_annotateStatement : ∀ t s, InFile env imports s →
    Ensures anyStore (fun r => Faithfully env imports r.1.occurrences ∧ InFile env imports r.2)
      (annotateStatement s ask t)
  | .empty _, s, hs => by
    rw [annotateStatement]
    exact .pure ⟨by simp [Statement.occurrences], hs⟩
  | .expr x, s, hs => by
    rw [annotateStatement]
    exact (faithfully_annotate x s hs).bind fun _ hx => .pure ⟨by simp [Statement.occurrences, hx], hs⟩
  | .send channel _ value, s, hs => by
    rw [annotateStatement]
    exact (faithfully_annotate channel s hs).bind fun _ hchannel =>
      (faithfully_annotate value s hs).bind fun _ hvalue =>
      .pure ⟨by simp [Statement.occurrences, hchannel, hvalue], hs⟩
  | .step x _ _, s, hs => by
    rw [annotateStatement]
    exact (faithfully_annotate x s hs).bind fun _ hx => .pure ⟨by simp [Statement.occurrences, hx], hs⟩
  | .assign targets _ op values, s, hs => by
    rw [annotateStatement]
    refine (faithfully_annotateAll values s hs).bind fun _ hvalues => ?_
    split
    next hop =>
      exact .skip fun types => .pure ⟨by simp [Statement.occurrences, beq_iff_eq.1 hop, hvalues], hs.after _⟩
    next hop =>
      refine (faithfully_annotateAll targets s hs).bind fun _ htargets => .pure ⟨?_, hs⟩
      rw [Statement.occurrences, if_neg fun heq => hop (beq_iff_eq.2 heq)]
      exact faithfully_append.2 ⟨htargets, hvalues⟩
  | .start _ _ call, s, hs => by
    rw [annotateStatement]
    exact (faithfully_annotate call s hs).bind fun _ hcall => .pure ⟨by simp [Statement.occurrences, hcall], hs⟩
  | .ret _ results, s, hs => by
    rw [annotateStatement]
    exact (faithfully_annotateAll results s hs).bind fun _ hresults =>
      .pure ⟨by simp [Statement.occurrences, hresults], hs⟩
  | .jump _ _ _, s, hs => by
    rw [annotateStatement]
    exact .pure ⟨by simp [Statement.occurrences], hs⟩
  | .block _ body _, s, hs => by
    rw [annotateStatement]
    refine (faithfully_annotateBody body _ (hs.inBlock [])).bind ?_
    rintro ⟨_, _⟩ ⟨hbody, -⟩
    exact .pure ⟨by simp [Statement.occurrences, hbody], hs⟩
  | .labelled _ _ target, s, hs => by
    rw [annotateStatement]
    refine (faithfully_annotateStatement target s hs).bind ?_
    rintro ⟨_, _⟩ ⟨htarget, hs'⟩
    exact .pure ⟨by simp [Statement.occurrences, htarget], hs'⟩
  | .cond _ first test body otherwise, s, hs => by
    rw [annotateStatement]
    refine (faithfully_annotateStatement first _ (hs.inBlock [])).bind ?_
    rintro ⟨_, inside⟩ ⟨hfirst, hinside⟩
    refine (faithfully_annotateStatement test inside hinside).bind ?_
    rintro ⟨_, _⟩ ⟨htest, -⟩
    refine (faithfully_annotateStatement body inside hinside).bind ?_
    rintro ⟨_, _⟩ ⟨hbody, -⟩
    refine (faithfully_annotateStatement otherwise inside hinside).bind ?_
    rintro ⟨_, _⟩ ⟨hother, -⟩
    exact .pure ⟨by simp [Statement.occurrences, hfirst, htest, hbody, hother], hs⟩
  | .loop _ first test after body, s, hs => by
    rw [annotateStatement]
    refine (faithfully_annotateStatement first _ (hs.inBlock [])).bind ?_
    rintro ⟨_, inside⟩ ⟨hfirst, hinside⟩
    refine (faithfully_annotateStatement test inside hinside).bind ?_
    rintro ⟨_, _⟩ ⟨htest, -⟩
    refine (faithfully_annotateStatement after inside hinside).bind ?_
    rintro ⟨_, _⟩ ⟨hafter, -⟩
    refine (faithfully_annotateStatement body inside hinside).bind ?_
    rintro ⟨_, _⟩ ⟨hbody, -⟩
    exact .pure ⟨by simp [Statement.occurrences, hfirst, htest, hafter, hbody], hs⟩
  | .range _ targets _ op x body, s, hs => by
    rw [annotateStatement]
    refine (faithfully_annotate x s hs).bind fun _ hx => ?_
    simp only [pure_bind]
    split
    next hop =>
      refine .skip fun types => (faithfully_annotateStatement body _ ((hs.inBlock []).after _)).bind ?_
      rintro ⟨_, _⟩ ⟨hbody, -⟩
      exact .pure ⟨by simp [Statement.occurrences, beq_iff_eq.1 hop, hx, hbody], hs⟩
    next hop =>
      refine (faithfully_annotateAll targets s hs).bind fun _ htargets =>
        (faithfully_annotateStatement body _ ((hs.inBlock []).after _)).bind ?_
      rintro ⟨_, _⟩ ⟨hbody, -⟩
      refine .pure ⟨?_, hs⟩
      rw [Statement.occurrences, if_neg fun heq => hop (beq_iff_eq.2 heq)]
      exact faithfully_append.2 ⟨htargets, faithfully_append.2 ⟨hx, hbody⟩⟩
  | .choose _ _ first on _ clauses _, s, hs => by
    rw [annotateStatement]
    refine (faithfully_annotateStatement first _ (hs.inBlock [])).bind ?_
    rintro ⟨_, inside⟩ ⟨hfirst, hinside⟩
    refine .skip fun chosen => (faithfully_annotateStatement on inside hinside).bind ?_
    rintro ⟨_, _⟩ ⟨hon, -⟩
    refine (faithfully_annotateBody clauses { inside with chosen } (hinside.move rfl rfl)).bind ?_
    rintro ⟨_, _⟩ ⟨hclauses, -⟩
    exact .pure ⟨by simp [Statement.occurrences, hfirst, hon, hclauses], hs⟩
  | .clause _ values exchange _ body, s, hs => by
    rw [annotateStatement]
    refine (faithfully_annotateAll values s hs).bind fun _ hvalues =>
      (ensures_inClause ask hs values).bind fun s' hs' => ?_
    refine (faithfully_annotateStatement exchange s' hs').bind ?_
    rintro ⟨_, inside⟩ ⟨hexchange, hinside⟩
    refine (faithfully_annotateBody body inside hinside).bind ?_
    rintro ⟨_, _⟩ ⟨hbody, -⟩
    exact .pure ⟨by simp [Statement.occurrences, hvalues, hexchange, hbody], hs⟩
  | .declare _ _ _ _ specs _, s, hs => by
    rw [annotateStatement]
    refine (faithfully_annotateBody specs s hs).bind ?_
    rintro ⟨_, _⟩ ⟨hspecs, hs'⟩
    exact .pure ⟨by simp [Statement.occurrences, hspecs], hs'⟩
  | .spec head params type values, s, hs => by
    rw [annotateStatement]
    split
    · refine .skip fun t => (faithfully_annotate type _ (hs.after _)).bind fun _ htype => .pure ⟨?_, hs.after _⟩
      simp [Statement.occurrences, htype, allOccurrences]
    · have hvalue : ∀ t, Ensures anyStore (fun r => Faithfully env imports r.1.occurrences ∧ InFile env imports r.2)
          (do
            let decls ← valueDecls s ask head t values
            let names := head.names.zipWith (fun id d => annotateDef s.env.self d.type id) decls
            return (Statement.spec { head with names } params (← annotate s ask type) (← annotateAll s ask values),
              s.after (decls.filter (·.name != "_")))) := fun t => by
        refine .skip fun decls => (faithfully_annotate type s hs).bind fun _ htype => ?_
        exact (faithfully_annotateAll values s hs).bind fun _ hvalues =>
          .pure ⟨by simp [Statement.occurrences, htype, hvalues], hs.after _⟩
      split
      · exact hvalue none
      · exact .skip fun t => hvalue t

theorem faithfully_annotateAll : ∀ xs s, InFile env imports s →
    Ensures anyStore (fun ys => Faithfully env imports (allOccurrences ys)) (annotateAll s ask xs)
  | [], s, _ => by
    rw [annotateAll]
    exact .pure (by simp [allOccurrences])
  | x :: rest, s, hs => by
    rw [annotateAll]
    exact (faithfully_annotate x s hs).bind fun _ hx => (faithfully_annotateAll rest s hs).bind fun _ hrest =>
      .pure (by simp [allOccurrences, hx, hrest])

theorem faithfully_annotateElems : ∀ xs s t, InFile env imports s →
    Ensures anyStore (fun ys => Faithfully env imports (allOccurrences ys)) (annotateElems s ask t xs)
  | [], s, t, _ => by
    rw [annotateElems]
    exact .pure (by simp [allOccurrences])
  | x :: rest, s, t, hs => by
    have hx := faithfully_annotate x s hs
    have hrest := faithfully_annotateElems rest s t hs
    have hplain : (∀ id colon value, x ≠ .keyed (.ident id) colon value) →
        Ensures anyStore (fun ys => Faithfully env imports (allOccurrences ys)) (annotateElems s ask t (x :: rest)) := by
      intro hne
      rw [annotateElems.eq_3 s ask t x rest fun id colon value h => hne id colon value h]
      exact hx.bind fun _ hx => hrest.bind fun _ hrest => .pure (by simp [allOccurrences, hx, hrest])
    cases x with
    | keyed key colon value =>
      cases key with
      | ident id => exact ensures_annotateElems_keyed ask hs t (faithfully_annotate value s hs) hrest
      | _ => exact hplain nofun
    | _ => exact hplain nofun

theorem faithfully_annotateGroups : ∀ gs s, InFile env imports s →
    Ensures anyStore (fun ks => Faithfully env imports (groupOccurrences ks)) (annotateGroups s ask gs)
  | [], s, _ => by
    rw [annotateGroups]
    exact .pure (by simp [groupOccurrences])
  | (head, x) :: rest, s, hs => by
    rw [annotateGroups]
    exact .skip fun t => (faithfully_annotate x s hs).bind fun _ hx =>
      (faithfully_annotateGroups rest s hs).bind fun _ hrest => .pure (by simp [groupOccurrences, hx, hrest])

theorem faithfully_annotateFields : ∀ gs s, InFile env imports s →
    Ensures anyStore (fun ks => Faithfully env imports (fieldOccurrences ks)) (annotateFields s ask gs)
  | [], s, _ => by
    rw [annotateFields]
    exact .pure (by simp [fieldOccurrences])
  | (head, x) :: rest, s, hs => by
    rw [annotateFields]
    refine .skip fun t => (faithfully_annotate x s hs).bind fun y hy =>
      (faithfully_annotateFields rest s hs).bind fun _ hrest => .pure ?_
    rw [fieldOccurrences, faithfully_append, faithfully_append]
    refine ⟨faithfully_members _, ?_, hrest⟩
    cases hnames : head.names with
    | nil => exact faithfully_annotateEmbedded _ _ _ hy
    | cons _ _ => exact hy

theorem faithfully_annotateBody : ∀ ts s, InFile env imports s →
    Ensures anyStore (fun r => Faithfully env imports (bodyOccurrences r.1) ∧ InFile env imports r.2)
      (annotateBody s ask ts)
  | [], s, hs => by
    rw [annotateBody]
    exact .pure ⟨by simp [bodyOccurrences], hs⟩
  | t :: rest, s, hs => by
    rw [annotateBody]
    refine (faithfully_annotateStatement t s hs).bind ?_
    rintro ⟨_, s'⟩ ⟨ht, hs'⟩
    refine (faithfully_annotateBody rest s' hs').bind ?_
    rintro ⟨_, _⟩ ⟨hrest, hs''⟩
    exact .pure ⟨by simp [bodyOccurrences, ht, hrest], hs''⟩

end

/-! ## Files -/

/-- The names of the types that are written in a declaration mean what they do in the package at hand. -/
def FaithfulDecl (env : Env) (imports : List String) (d : Decl) : Prop :=
  ∀ x ∈ d.typeExprs, Faithfully env imports (x.occurrences false)

theorem ensures_annotateDecl_faithful {s : Site} (hs : InFile env imports s) (d : Decl) :
    Ensures anyStore (FaithfulDecl env imports) (annotateDecl s ask d) := by
  have hvalues : ∀ specs : List ValueSpec, Ensures anyStore
      (fun specs' => ∀ x ∈ specs'.filterMap (·.type), Faithfully env imports (x.occurrences false))
      (specs.mapM (annotateDecl.valueSpec s ask)) := by
    refine fun specs => (Ensures.mapM_all (Q := fun spec : ValueSpec => ∀ x, spec.type = some x →
      Faithfully env imports (x.occurrences false)) fun spec _ => ?_).imp fun specs' hall => ?_
    · rw [annotateDecl.valueSpec]
      cases htype : spec.type with
      | none => exact .pure nofun
      | some x =>
        simp only [Option.mapM_some, bind_map_left]
        refine (faithfully_annotate ask x s hs).bind fun y hy => .pure ?_
        rintro _ ⟨⟩
        exact hy
    · intro x hx
      obtain ⟨spec, hspec, htype⟩ := List.mem_filterMap.1 hx
      exact hall spec hspec x htype
  cases d with
  | types doc specs =>
    rw [annotateDecl]
    refine (Ensures.mapM_all (Q := fun spec : TypeSpec => ∀ x ∈ spec.params.map (·.2) ++ [spec.type],
      Faithfully env imports (x.occurrences false)) fun spec _ => ?_).bind fun specs' hall =>
        .pure (List.forall_mem_flatMap.2 hall)
    have hs' : InFile env imports { s with params := paramDecls spec.params } := hs.move rfl rfl
    refine (Ensures.mapM_all (Q := fun g : GroupHead × Expr => Faithfully env imports (g.2.occurrences false))
      fun g _ => ?_).bind fun params hparams => ?_
    · exact (faithfully_annotate ask g.2 _ hs').bind fun _ hx => .pure hx
    · refine (faithfully_annotate ask spec.type _ hs').bind fun type htype => .pure ?_
      exact List.forall_mem_append.2 ⟨List.forall_mem_map.2 hparams, List.forall_mem_singleton.2 htype⟩
  | vars specs => exact (hvalues specs).bind fun _ h => .pure h
  | consts specs => exact (hvalues specs).bind fun _ h => .pure h
  | func spec => exact .pure (List.forall_mem_nil _)

/-- The files of a package mean what they do in it, if its scopes come from what it imports. -/
theorem ensures_resolveDecls_faithful (hhome : AtHome env.imported)
    (hscopes : ∀ scope ∈ env.scopes, (∀ entry ∈ scope.names, entry.2 ∈ imports) ∧ scope.dots ⊆ imports)
    (files : List File) (all : List OwnDecl) :
    Ensures anyStore (fun r => ∀ f ∈ r.files, ∀ d ∈ f.decls, FaithfulDecl env imports d)
      (resolveDecls env files all) := by
  have hsite : ∀ i, InFile env imports (env.site i) := by
    intro i
    have hscope : (∀ entry ∈ (env.site i).scope.names, entry.2 ∈ imports) ∧ (env.site i).scope.dots ⊆ imports := by
      rw [Env.site]
      cases hscope : env.scopes[i]? with
      | none => exact ⟨List.forall_mem_nil _, List.nil_subset _⟩
      | some scope => exact hscopes scope (List.mem_of_getElem? hscope)
    exact ⟨rfl, hhome, hscope.1, hscope.2⟩
  refine .skip fun _ => .skip fun _ => .skip fun objects => .skip fun claims => .skip fun fresh => ?_
  refine (Ensures.mapM_all (Q := fun f : File => ∀ d ∈ f.decls, FaithfulDecl env imports d) fun g _ => ?_).bind
    fun files h => .pure h
  exact (Ensures.mapM_all fun d _ => ensures_annotateDecl_faithful env.ask (hsite g.1) d).bind fun decls h => .pure h

end

/-! ## Packages -/

theorem forall₂_of_mapM {α β : Type} {g : α → Option β} {as : List α} {bs : List β} (h : as.mapM g = some bs) :
    List.Forall₂ (fun a b => g a = some b) as bs := by
  induction as generalizing bs with
  | nil =>
    cases h
    exact .nil
  | cons a as ih =>
    rw [List.mapM_cons] at h
    obtain ⟨b, hb, h⟩ := Option.bind_eq_some_iff.1 h
    obtain ⟨rest, hrest, h⟩ := Option.bind_eq_some_iff.1 h
    cases h
    exact .cons hb (ih hrest)

/-- What the imports of a file bring into scope comes from what the file imports. -/
theorem subset_of_fileScope? {p : Program} {f : File} {scope : FileScope} (h : fileScope? p f = some scope) :
    (∀ entry ∈ scope.names, entry.2 ∈ f.imports.map (·.path)) ∧ scope.dots ⊆ f.imports.map (·.path) := by
  rw [fileScope?] at h
  simp only [Option.bind_eq_bind, Option.bind_eq_some_iff] at h
  obtain ⟨entries, hentries, -, -, -, -, -, -, -, -, h⟩ := h
  cases h
  have hpath : ∀ e ∈ entries, e.1.path ∈ f.imports.map (·.path) := by
    intro e he
    obtain ⟨i, hi, hfound⟩ := exists_related (forall₂_of_mapM hentries) e he
    obtain ⟨q, -, hq⟩ := Option.bind_eq_some_iff.1 hfound
    cases hq
    exact List.mem_map_of_mem hi
  constructor
  · exact List.forall_mem_map.2 fun e he => hpath e (List.mem_of_mem_filter he)
  · exact List.forall_mem_map.2 fun e he => hpath e (List.mem_of_mem_filter he)

/-- The names of the types that are written in a package mean what they do in it. -/
def FaithfulPackage (q : Package) : Prop :=
  ∀ f ∈ q.files, ∀ d ∈ f.decls, ∀ x ∈ d.typeExprs, ∀ o ∈ x.occurrences false,
    o.Faithful q.path q.imports fun name => q.objects.any (·.name == name)

/-- Objects are at home in their packages, and the names of each package mean what they do in it. -/
structure Meant (p : Program) : Prop where
  home : ∀ q ∈ p.packages, ∀ o ∈ q.objects, o.home = q.path
  faithful : ∀ q ∈ p.packages, FaithfulPackage q

theorem Meant.atHome {p : Program} (h : Meant p) : AtHome p := by
  intro path q hq o ho
  rw [Program.package?] at hq
  split at hq
  next hpath =>
    cases hq
    have hall : ∀ o ∈ sourcelessPackage.objects, o.home = sourcelessPath := by decide
    exact (hall o ho).trans (beq_iff_eq.1 hpath).symm
  next =>
    have hmem := List.mem_reverse.1 (List.mem_of_find?_eq_some hq)
    exact (h.home q hmem o ho).trans (beq_iff_eq.1 (List.find?_some (p := fun q : Package => q.path == path) hq))

/-- Loading a package gives its names the meanings that they have in it. -/
theorem Meant.load {p p' : Program} {path : String} {sources : List (String × String)} (hp : Meant p)
    (h : p.load? path sources = some p') : Meant p' := by
  obtain ⟨⟨files, parsed⟩, -, hresolve⟩ := Option.bind_eq_some_iff.1 h
  obtain ⟨env, r, package, hpackage, rfl⟩ := resolvePackage?_eq_some hresolve
  have hhome : AtHome env.imported := by
    rw [hpackage.imported]
    exact hp.atHome
  have himports : ∀ f ∈ parsed, f.imports.map (·.path) ⊆ package.imports := by
    intro f hf path hpath
    rw [hpackage.imports, List.mem_eraseDups]
    exact List.mem_flatMap.2 ⟨f, hf, hpath⟩
  have hscopes : ∀ scope ∈ env.scopes,
      (∀ entry ∈ scope.names, entry.2 ∈ package.imports) ∧ scope.dots ⊆ package.imports := by
    intro scope hscope
    obtain ⟨f, hf, hfound⟩ := exists_related (forall₂_of_mapM hpackage.scopes) scope hscope
    obtain ⟨hnames, hdots⟩ := subset_of_fileScope? hfound
    exact ⟨fun entry hentry => himports f hf (hnames entry hentry), List.Subset.trans hdots (himports f hf)⟩
  have hmeant := ((ensures_resolveDecls_faithful hhome hscopes parsed _) {} trivial).2 r hpackage.run
  refine ⟨List.forall_mem_append.2 ⟨hp.home, List.forall_mem_singleton.2 fun o ho => ?_⟩,
    List.forall_mem_append.2 ⟨hp.faithful, List.forall_mem_singleton.2 ?_⟩⟩
  · obtain ⟨d, -, -, hobject⟩ := hpackage.exists_objectOf ho
    rw [hobject.home, hpackage.self, hpackage.home]
  · intro f hf d hd x hx o ho
    rw [hpackage.home, ← hpackage.self, funext hpackage.declares_iff]
    exact hmeant f (hpackage.files ▸ hf) d hd x hx o ho

/-- In a loaded program the names of each package mean what they do in it. -/
theorem meant_of_loadAll? {p : Program} {sources : List (String × List (String × String))}
    (h : ({} : Program).loadAll? sources = some p) : Meant p :=
  loadAll?_induct (fun _ _ _ _ hp => hp.load) ⟨List.forall_mem_nil _, List.forall_mem_nil _⟩ h

end Program

end TaggedUnion
