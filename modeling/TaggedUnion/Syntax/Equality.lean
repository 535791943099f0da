import TaggedUnion.Syntax.Expr

/-!
# Equality of syntax

Expressions and statements are compared as trees, with all their places. So two expressions of a source are told apart
even if they are written in the same words, and an expression is told apart from its parts.
-/

namespace TaggedUnion.Syntax

open Source TaggedUnion.Types

deriving instance BEq for Meaning, Ident, GroupHead, SpecHead

mutual

/-- Equality of two expressions as trees. -/
def Expr.beq : Expr → Expr → Bool
  | .missing p, y => match y with
    | .missing p' => p == p'
    | _ => false
  | .ident id, y => match y with
    | .ident id' => id == id'
    | _ => false
  | .literal p k t, y => match y with
    | .literal p' k' t' => p == p' && k == k' && t == t'
    | _ => false
  | .selector x sel, y => match y with
    | .selector x' sel' => x.beq x' && sel == sel'
    | _ => false
  | .index x l args r, y => match y with
    | .index x' l' args' r' => x.beq x' && l == l' && beqAll args args' && r == r'
    | _ => false
  | .slicing x l bounds r, y => match y with
    | .slicing x' l' bounds' r' => x.beq x' && l == l' && beqAll bounds bounds' && r == r'
    | _ => false
  | .assertion x l type r, y => match y with
    | .assertion x' l' type' r' => x.beq x' && l == l' && type.beq type' && r == r'
    | _ => false
  | .call f l args dots r, y => match y with
    | .call f' l' args' dots' r' => f.beq f' && l == l' && beqAll args args' && dots == dots' && r == r'
    | _ => false
  | .composite type l elems r, y => match y with
    | .composite type' l' elems' r' => type.beq type' && l == l' && beqAll elems elems' && r == r'
    | _ => false
  | .keyed key p value, y => match y with
    | .keyed key' p' value' => key.beq key' && p == p' && value.beq value'
    | _ => false
  | .closure type l body r, y => match y with
    | .closure type' l' body' r' => type.beq type' && l == l' && beqBody body body' && r == r'
    | _ => false
  | .star p x, y => match y with
    | .star p' x' => p == p' && x.beq x'
    | _ => false
  | .paren l x r, y => match y with
    | .paren l' x' r' => l == l' && x.beq x' && r == r'
    | _ => false
  | .unary p op x, y => match y with
    | .unary p' op' x' => p == p' && op == op' && x.beq x'
    | _ => false
  | .binary x p op z, y => match y with
    | .binary x' p' op' z' => x.beq x' && p == p' && op == op' && z.beq z'
    | _ => false
  | .ellipsis p elem, y => match y with
    | .ellipsis p' elem' => p == p' && elem.beq elem'
    | _ => false
  | .slice p elem, y => match y with
    | .slice p' elem' => p == p' && elem.beq elem'
    | _ => false
  | .array p length elem, y => match y with
    | .array p' length' elem' => p == p' && length.beq length' && elem.beq elem'
    | _ => false
  | .map p key elem, y => match y with
    | .map p' key' elem' => p == p' && key.beq key' && elem.beq elem'
    | _ => false
  | .chan p arrow d elem, y => match y with
    | .chan p' arrow' d' elem' => p == p' && arrow == arrow' && d == d' && elem.beq elem'
    | _ => false
  | .func p params l r results m n, y => match y with
    | .func p' params' l' r' results' m' n' =>
      p == p' && beqGroups params params' && l == l' && r == r' && beqGroups results results' && m == m' && n == n'
    | _ => false
  | .struct p l fields r, y => match y with
    | .struct p' l' fields' r' => p == p' && l == l' && beqGroups fields fields' && r == r'
    | _ => false
  | .interface p l elems r, y => match y with
    | .interface p' l' elems' r' => p == p' && l == l' && beqGroups elems elems' && r == r'
    | _ => false
termination_by structural x => x

/-- Equality of two statements as trees. -/
def Statement.beq : Statement → Statement → Bool
  | .empty p, u => match u with
    | .empty p' => p == p'
    | _ => false
  | .expr x, u => match u with
    | .expr x' => x.beq x'
    | _ => false
  | .send channel p value, u => match u with
    | .send channel' p' value' => channel.beq channel' && p == p' && value.beq value'
    | _ => false
  | .step x p op, u => match u with
    | .step x' p' op' => x.beq x' && p == p' && op == op'
    | _ => false
  | .assign targets p op values, u => match u with
    | .assign targets' p' op' values' =>
      beqAll targets targets' && p == p' && op == op' && beqAll values values'
    | _ => false
  | .start p keyword call, u => match u with
    | .start p' keyword' call' => p == p' && keyword == keyword' && call.beq call'
    | _ => false
  | .ret p results, u => match u with
    | .ret p' results' => p == p' && beqAll results results'
    | _ => false
  | .jump p keyword label, u => match u with
    | .jump p' keyword' label' => p == p' && keyword == keyword' && label == label'
    | _ => false
  | .block l body r, u => match u with
    | .block l' body' r' => l == l' && beqBody body body' && r == r'
    | _ => false
  | .labelled label p target, u => match u with
    | .labelled label' p' target' => label == label' && p == p' && target.beq target'
    | _ => false
  | .cond p first test body otherwise, u => match u with
    | .cond p' first' test' body' otherwise' =>
      p == p' && first.beq first' && test.beq test' && body.beq body' && otherwise.beq otherwise'
    | _ => false
  | .loop p first test after body, u => match u with
    | .loop p' first' test' after' body' =>
      p == p' && first.beq first' && test.beq test' && after.beq after' && body.beq body'
    | _ => false
  | .range p targets q op x body, u => match u with
    | .range p' targets' q' op' x' body' =>
      p == p' && beqAll targets targets' && q == q' && op == op' && x.beq x' && body.beq body'
    | _ => false
  | .choose p keyword first on l clauses r, u => match u with
    | .choose p' keyword' first' on' l' clauses' r' =>
      p == p' && keyword == keyword' && first.beq first' && on.beq on' && l == l' && beqBody clauses clauses' &&
        r == r'
    | _ => false
  | .clause p values exchange q body, u => match u with
    | .clause p' values' exchange' q' body' =>
      p == p' && beqAll values values' && exchange.beq exchange' && q == q' && beqBody body body'
    | _ => false
  | .declare p keyword doc l specs r, u => match u with
    | .declare p' keyword' doc' l' specs' r' =>
      p == p' && keyword == keyword' && doc == doc' && l == l' && beqBody specs specs' && r == r'
    | _ => false
  | .spec head params type values, u => match u with
    | .spec head' params' type' values' =>
      head == head' && beqGroups params params' && type.beq type' && beqAll values values'
    | _ => false
termination_by structural t => t

/-- Equality of expressions one by one. -/
def beqAll : List Expr → List Expr → Bool
  | [], [] => true
  | x :: xs, y :: ys => x.beq y && beqAll xs ys
  | _, _ => false
termination_by structural xs => xs

/-- Equality of groups one by one. -/
def beqGroups : List (GroupHead × Expr) → List (GroupHead × Expr) → Bool
  | [], [] => true
  | (head, x) :: gs, (head', y) :: gs' => head == head' && x.beq y && beqGroups gs gs'
  | _, _ => false
termination_by structural gs => gs

/-- Equality of statements one by one. -/
def beqBody : List Statement → List Statement → Bool
  | [], [] => true
  | t :: ts, u :: us => t.beq u && beqBody ts us
  | _, _ => false
termination_by structural ts => ts

end

instance : BEq Expr := ⟨Expr.beq⟩

end TaggedUnion.Syntax
