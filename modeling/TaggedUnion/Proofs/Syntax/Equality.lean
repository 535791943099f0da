import TaggedUnion.Proofs.Types.Equality
import TaggedUnion.Syntax.Equality

/-!
# Equality of syntax

The test for equality of expressions as trees is equality (`Expr.beq_iff`), by recursion on both of them, together with
that of statements.
-/

namespace TaggedUnion.Syntax

open Source TaggedUnion.Types

deriving instance ReflBEq, LawfulBEq for Meaning, Ident, GroupHead, SpecHead

mutual

theorem Expr.beq_iff : ∀ x y : Expr, x.beq y = true ↔ x = y
  | .missing _, y => by cases y <;> simp [Expr.beq]
  | .ident _, y => by cases y <;> simp [Expr.beq]
  | .literal _ _ _, y => by cases y <;> simp [Expr.beq, and_assoc]
  | .selector x _, y => by cases y <;> simp [Expr.beq, x.beq_iff]
  | .index x _ args _, y => by cases y <;> simp [Expr.beq, x.beq_iff, beqAll_iff args, and_assoc]
  | .slicing x _ bounds _, y => by cases y <;> simp [Expr.beq, x.beq_iff, beqAll_iff bounds, and_assoc]
  | .assertion x _ type _, y => by cases y <;> simp [Expr.beq, x.beq_iff, type.beq_iff, and_assoc]
  | .call f _ args _ _, y => by cases y <;> simp [Expr.beq, f.beq_iff, beqAll_iff args, and_assoc]
  | .composite type _ elems _, y => by cases y <;> simp [Expr.beq, type.beq_iff, beqAll_iff elems, and_assoc]
  | .keyed key _ value, y => by cases y <;> simp [Expr.beq, key.beq_iff, value.beq_iff, and_assoc]
  | .closure type _ body _, y => by cases y <;> simp [Expr.beq, type.beq_iff, beqBody_iff body, and_assoc]
  | .star _ x, y => by cases y <;> simp [Expr.beq, x.beq_iff]
  | .paren _ x _, y => by cases y <;> simp [Expr.beq, x.beq_iff, and_assoc]
  | .unary _ _ x, y => by cases y <;> simp [Expr.beq, x.beq_iff, and_assoc]
  | .binary x _ _ z, y => by cases y <;> simp [Expr.beq, x.beq_iff, z.beq_iff, and_assoc]
  | .ellipsis _ elem, y => by cases y <;> simp [Expr.beq, elem.beq_iff]
  | .slice _ elem, y => by cases y <;> simp [Expr.beq, elem.beq_iff]
  | .array _ length elem, y => by cases y <;> simp [Expr.beq, length.beq_iff, elem.beq_iff, and_assoc]
  | .map _ key elem, y => by cases y <;> simp [Expr.beq, key.beq_iff, elem.beq_iff, and_assoc]
  | .chan _ _ _ elem, y => by cases y <;> simp [Expr.beq, elem.beq_iff, and_assoc]
  | .func _ params _ _ results _ _, y => by
    cases y <;> simp [Expr.beq, beqGroups_iff params, beqGroups_iff results, and_assoc]
  | .struct _ _ fields _, y => by cases y <;> simp [Expr.beq, beqGroups_iff fields, and_assoc]
  | .interface _ _ elems _, y => by cases y <;> simp [Expr.beq, beqGroups_iff elems, and_assoc]
termination_by structural x => x

theorem Statement.beq_iff : ∀ t u : Statement, t.beq u = true ↔ t = u
  | .empty _, u => by cases u <;> simp [Statement.beq]
  | .expr x, u => by cases u <;> simp [Statement.beq, x.beq_iff]
  | .send channel _ value, u => by cases u <;> simp [Statement.beq, channel.beq_iff, value.beq_iff, and_assoc]
  | .step x _ _, u => by cases u <;> simp [Statement.beq, x.beq_iff, and_assoc]
  | .assign targets _ _ values, u => by
    cases u <;> simp [Statement.beq, beqAll_iff targets, beqAll_iff values, and_assoc]
  | .start _ _ call, u => by cases u <;> simp [Statement.beq, call.beq_iff, and_assoc]
  | .ret _ results, u => by cases u <;> simp [Statement.beq, beqAll_iff results]
  | .jump _ _ _, u => by cases u <;> simp [Statement.beq, and_assoc]
  | .block _ body _, u => by cases u <;> simp [Statement.beq, beqBody_iff body, and_assoc]
  | .labelled _ _ target, u => by cases u <;> simp [Statement.beq, target.beq_iff, and_assoc]
  | .cond _ first test body otherwise, u => by
    cases u <;> simp [Statement.beq, first.beq_iff, test.beq_iff, body.beq_iff, otherwise.beq_iff, and_assoc]
  | .loop _ first test after body, u => by
    cases u <;> simp [Statement.beq, first.beq_iff, test.beq_iff, after.beq_iff, body.beq_iff, and_assoc]
  | .range _ targets _ _ x body, u => by
    cases u <;> simp [Statement.beq, beqAll_iff targets, x.beq_iff, body.beq_iff, and_assoc]
  | .choose _ _ first on _ clauses _, u => by
    cases u <;> simp [Statement.beq, first.beq_iff, on.beq_iff, beqBody_iff clauses, and_assoc]
  | .clause _ values exchange _ body, u => by
    cases u <;> simp [Statement.beq, beqAll_iff values, exchange.beq_iff, beqBody_iff body, and_assoc]
  | .declare _ _ _ _ specs _, u => by cases u <;> simp [Statement.beq, beqBody_iff specs, and_assoc]
  | .spec _ params type values, u => by
    cases u <;> simp [Statement.beq, beqGroups_iff params, type.beq_iff, beqAll_iff values, and_assoc]
termination_by structural t => t

theorem beqAll_iff : ∀ xs ys : List Expr, beqAll xs ys = true ↔ xs = ys
  | [], ys => by cases ys <;> simp [beqAll]
  | x :: xs, ys => by cases ys <;> simp [beqAll, x.beq_iff, beqAll_iff xs]
termination_by structural xs => xs

theorem beqGroups_iff : ∀ gs gs' : List (GroupHead × Expr), beqGroups gs gs' = true ↔ gs = gs'
  | [], gs' => by cases gs' <;> simp [beqGroups]
  | (_, x) :: gs, gs' => by cases gs' <;> simp [beqGroups, x.beq_iff, beqGroups_iff gs, Prod.ext_iff, and_assoc]
termination_by structural gs => gs

theorem beqBody_iff : ∀ ts us : List Statement, beqBody ts us = true ↔ ts = us
  | [], us => by cases us <;> simp [beqBody]
  | t :: ts, us => by cases us <;> simp [beqBody, t.beq_iff, beqBody_iff ts]
termination_by structural ts => ts

end

instance : LawfulBEq Expr where
  eq_of_beq h := (Expr.beq_iff _ _).1 h
  rfl := (Expr.beq_iff _ _).2 rfl

instance : DecidableEq Expr := instDecidableEqOfLawfulBEq

end TaggedUnion.Syntax
