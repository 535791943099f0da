import TaggedUnion.Decimal.Shortest
import TaggedUnion.Mismatch

/-!
# Example: shapes and results

Two tagged unions with the conversions that are derived for them: `Shape`, which holds a circle, a
rectangle or a square, and `Result`, which holds a value or an error. A wrap function fills in the tag
and the payload of one variant and leaves every other field at its zero value; an unwrap function
succeeds exactly when the tag names its variant.
-/

namespace TaggedUnion.Example

/-- A shape: the name of the active variant, and the fields of all variants. -/
structure Shape where
  kind : String := ""
  /-- The radius of the circle. -/
  radius : Float := 0
  /-- Width and height of the rectangle. -/
  width : Float := 0
  height : Float := 0
  /-- The side of the square. -/
  side : Float := 0

/-- Equality of shapes, field by field. -/
def Shape.same (a b : Shape) : Bool :=
  a.kind == b.kind && a.radius == b.radius && a.width == b.width && a.height == b.height &&
    a.side == b.side

/-- A result: either a value or an error, which may be missing. -/
structure Result (α : Type) where
  state : String := ""
  value : α
  error : Option String := none

/-- The unions an error of this example can carry. -/
inductive Carried
  | shape (s : Shape)
  | result (state : String)
  | int (n : Int)
  | text (s : String)

/-- Errors of this example. -/
abbrev ExampleFailure := Failure Carried

/-- The failed unwrap of a shape. -/
def Shape.mismatch (s : Shape) (want : String) : ExampleFailure :=
  .mismatch { type := "shapes.Shape", value := .shape s, tag := s.kind, want }

namespace Shape

def ofCircle (radius : Float) : Shape := { kind := "Circle", radius }

def ofRect (width height : Float) : Shape := { kind := "Rect", width, height }

def ofSquare (side : Float) : Shape := { kind := "Square", side }

def toCircle (s : Shape) : Except ExampleFailure Float :=
  if s.kind == "Circle" then .ok s.radius else .error (s.mismatch "Circle")

def toRect (s : Shape) : Except ExampleFailure (Float × Float) :=
  if s.kind == "Rect" then .ok (s.width, s.height) else .error (s.mismatch "Rect")

def toSquare (s : Shape) : Except ExampleFailure Float :=
  if s.kind == "Square" then .ok s.side else .error (s.mismatch "Square")

/-- The ratio of a circle's circumference to its diameter. -/
def pi : Float := 3.141592653589793

/-- The area of a shape; a shape that holds no variant with an area has none. -/
def area (s : Shape) : Float :=
  match s.toCircle with
  | .ok r => pi * r * r
  | .error _ =>
    match s.toRect with
    | .ok (w, h) => w * h
    | .error _ =>
      match s.toSquare with
      | .ok a => a * a
      | .error _ => 0

end Shape

namespace Result

variable {α : Type} [Inhabited α]

def ofOk (value : α) : Result α := { state := "Ok", value }

def ofErr (error : Option String) : Result α := { state := "Err", value := default, error }

/-- The failed unwrap of a result, whose type prints as `typeName`. -/
def mismatch (typeName : String) (r : Result α) (want : String) : ExampleFailure :=
  .mismatch { type := typeName, value := .result r.state, tag := r.state, want }

def toOk (typeName : String) (r : Result α) : Except ExampleFailure α :=
  if r.state == "Ok" then .ok r.value else .error (r.mismatch typeName "Ok")

def toErr (typeName : String) (r : Result α) : Except ExampleFailure (Option String) :=
  if r.state == "Err" then .ok r.error else .error (r.mismatch typeName "Err")

/-- The value or the held error; a result holding neither fails with a mismatch. -/
def get (typeName : String) (r : Result α) : Except ExampleFailure α :=
  match r.toErr typeName with
  | .ok (some e) => .error (.plain e)
  | .ok none => .ok default
  | .error _ => r.toOk typeName

end Result

/-! ## Sessions -/

/-- A shape and a result that steps work on. -/
structure Board where
  shape : Shape := {}
  result : Result String := { value := "" }

/-- What a step asks for. -/
inductive Step
  | fromCircle (r : Float)
  | fromRect (w h : Float)
  | fromSquare (side : Float)
  | setKind (kind : String)
  | toCircle
  | toRect
  | toSquare
  | area
  | ok (value : String)
  | err (text : String)
  | setState (state : String)
  | get
  | toOk
  | toErr

/-- What a step answers. -/
inductive Outcome
  | none
  | text (s : String)
  | failed (e : ExampleFailure)

/-- Numbers are positional from 0.0001 up to a million, with exponents of two digits elsewhere. -/
def numbers : Decimal.NumberStyle := { least := -4, limit := 6, exponentWidth := 2 }

/-- The text of a number. -/
def number (x : Float) : String := numbers.writeFloat x

/-- How the results of this example's sessions are typed. -/
def resultType : String := "shapes.Result[string]"

/-- An answer or a failure as an outcome. -/
def Outcome.of {α : Type} (show' : α → Outcome) : Except ExampleFailure α → Outcome
  | .ok a => show' a
  | .error e => .failed e

/-- Runs one step. -/
def Board.step (b : Board) : Step → Board × Outcome
  | .fromCircle r => ({ b with shape := .ofCircle r }, .none)
  | .fromRect w h => ({ b with shape := .ofRect w h }, .none)
  | .fromSquare side => ({ b with shape := .ofSquare side }, .none)
  | .setKind kind => ({ b with shape := { b.shape with kind } }, .none)
  | .toCircle => (b, .of (.text ∘ number) b.shape.toCircle)
  | .toRect => (b, .of (fun (w, h) => .text (number w ++ "x" ++ number h)) b.shape.toRect)
  | .toSquare => (b, .of (.text ∘ number) b.shape.toSquare)
  | .area => (b, .text (number b.shape.area))
  | .ok value => ({ b with result := .ofOk value }, .none)
  | .err text => ({ b with result := .ofErr (some text) }, .none)
  | .setState state => ({ b with result := { b.result with state } }, .none)
  | .get => (b, .of .text (b.result.get resultType))
  | .toOk => (b, .of .text (b.result.toOk resultType))
  | .toErr => (b, .of (fun e => (e.map Outcome.text).getD .none) (b.result.toErr resultType))

end TaggedUnion.Example
