import TaggedUnion.Text.Verb

/-!
# Templates

A template is a text with *verbs*, which stand for arguments: a percent sign, flags, a width, a precision
and a letter. A verb takes the next argument, or the one whose number stands in square brackets, and
the verbs after it go on from there. A star takes the width or the precision from an argument.

What is wrong with a template shows in the result: a verb without an argument, a number that no argument
has, arguments that are left over, a verb that does not fit its argument.
-/

namespace TaggedUnion.Text.Template

/-- How arguments are written. -/
structure Writer (α : Type) where
  /-- The text of an argument by a verb, which has taken the flags as it needs them. -/
  write : Flags → Char → α → String
  /-- What sort of argument it is; nothing at all is of no sort. -/
  typeName? : α → Option String
  /-- The number that an argument is, if it is one. -/
  number? : α → Option Int

variable {α : Type}

/-- Where the expansion of a template is among the arguments. -/
structure Cursor where
  /-- The number of the next argument, counted from 0. -/
  next : Nat := 0
  /-- Whether an argument was asked for by its number. -/
  reordered : Bool := false
  /-- Whether the current verb asks for an argument that exists. -/
  good : Bool := true
  /-- Whether a number in brackets was read just now. -/
  indexed : Bool := false

/-- The largest width or precision that an argument can give. A number in the template may have one digit
more than it. -/
def largest : Nat := 1000000

/-- A number that is written in a template. -/
def number? (digits : List Char) : Option Nat :=
  if digits.isEmpty then none else (ofDigits? 10 digits).filter fun n => n / 10 ≤ largest

/-- Reads a number of an argument in square brackets, if there is one. -/
def readIndex (count : Nat) (c : Cursor) : List Char → Cursor × List Char
  | '[' :: rest =>
    let c := { c with reordered := true, indexed := false }
    let bad := { c with good := false }
    let inner := rest.takeWhile (· != ']')
    match inner, rest.dropWhile (· != ']') with
    | _, [] => (bad, rest)
    | [], [_] => (bad, rest)
    | [], _ :: after => (bad, after)
    | inner, _ :: after =>
      match number? inner with
      | none => (bad, after)
      | some n =>
        if n == 0 || count < n then ({ bad with indexed := true }, after)
        else ({ c with next := n - 1, indexed := true }, after)
  | cs => ({ c with indexed := false }, cs)

/-- Reads a number. One that is too large takes up the rest of the template. -/
def readNumber (cs : List Char) : Option Nat × List Char :=
  match cs.takeWhile Char.isDigit with
  | [] => (none, cs)
  | digits =>
    match number? digits with
    | some n => (some n, cs.dropWhile Char.isDigit)
    | none => (none, [])

/-- Takes a width or a precision from the next argument. -/
def takeNumber (w : Writer α) (args : List α) (c : Cursor) : Option Int × Cursor :=
  match args[c.next]? with
  | none => (none, c)
  | some x =>
    ((w.number? x).filter fun n => decide (n.natAbs ≤ largest), { c with next := c.next + 1 })

/-- Reads the width of a verb. Returns what is wrong with it, and the flags. -/
def readWidth (w : Writer α) (args : List α) (f : Flags) (c : Cursor) :
    List Char → String × Flags × Cursor × List Char
  | '*' :: rest =>
    let (n, c) := takeNumber w args c
    let c := { c with indexed := false }
    match n with
    | none => ("%!(BADWIDTH)", f, c, rest)
    | some n =>
      let f := if n < 0 then { f with minus := true, zero := false } else f
      ("", { f with width := some n.natAbs }, c, rest)
  | cs =>
    let (width, rest) := readNumber cs
    ("", { f with width }, if c.indexed && width.isSome then { c with good := false } else c, rest)

/-- Reads the precision of a verb. -/
def readPrecision (w : Writer α) (args : List α) (f : Flags) (c : Cursor) :
    List Char → String × Flags × Cursor × List Char
  | '.' :: rest =>
    let c := if c.indexed then { c with good := false } else c
    let (c, rest) := readIndex args.length c rest
    match rest with
    | '*' :: rest =>
      let (n, c) := takeNumber w args c
      let c := { c with indexed := false }
      match n with
      | none => ("%!(BADPREC)", f, c, rest)
      | some n =>
        if n < 0 then ("%!(BADPREC)", f, c, rest)
        else ("", { f with precision := some n.natAbs }, c, rest)
    | rest =>
      let (p, rest) := readNumber rest
      ("", { f with precision := some (p.getD 0) }, c, rest)
  | cs => ("", f, c, cs)

/-- Reads the flags of a verb. -/
def readFlags (f : Flags) : List Char → Flags × List Char
  | [] => (f, [])
  | c :: rest =>
    match f.set c with
    | some f' => readFlags f' rest
    | none => (f, c :: rest)

/-- Expands the verb after a percent sign. -/
def expandVerb (w : Writer α) (args : List α) (c : Cursor) (cs : List Char) :
    String × Cursor × List Char :=
  let (f, cs) := readFlags {} cs
  let (c, cs) := readIndex args.length { c with good := true } cs
  let (wrongWidth, f, c, cs) := readWidth w args f c cs
  let (wrongPrecision, f, c, cs) := readPrecision w args f c cs
  let (c, cs) := if c.indexed then (c, cs) else readIndex args.length c cs
  let wrong := wrongWidth ++ wrongPrecision
  match cs with
  | [] => (wrong ++ "%!(NOVERB)", c, [])
  | '%' :: rest => (wrong ++ "%", c, rest)
  | verb :: rest =>
    if !c.good then (wrong ++ "%!" ++ String.singleton verb ++ "(BADINDEX)", c, rest)
    else match args[c.next]? with
      | none => (wrong ++ "%!" ++ String.singleton verb ++ "(MISSING)", c, rest)
      | some x => (wrong ++ w.write (f.forVerb verb) verb x, { c with next := c.next + 1 }, rest)

/-- The arguments that no verb took. -/
def leftOver (w : Writer α) (args : List α) (c : Cursor) : String :=
  let rest := args.drop c.next
  if c.reordered || rest.isEmpty then ""
  else
    "%!(EXTRA " ++
      ", ".intercalate (rest.map fun x =>
        ((w.typeName? x).map (· ++ "=")).getD "" ++ w.write {} 'v' x) ++ ")"

/-- Expands a template with at most `fuel` verbs. -/
def expandFrom (w : Writer α) (args : List α) : Nat → Cursor → List Char → String
  | 0, _, _ => ""
  | fuel + 1, c, cs =>
    let literal := String.ofList (cs.takeWhile (· != '%'))
    match cs.dropWhile (· != '%') with
    | [] => literal ++ leftOver w args c
    | _ :: rest =>
      let (text, c, rest) := expandVerb w args c rest
      literal ++ text ++ expandFrom w args fuel c rest

/-- Expands a template. Every verb takes up a character, so there are fewer verbs than characters. -/
def expand (w : Writer α) (template : String) (args : List α) : String :=
  expandFrom w args (template.length + 1) {} template.toList

end TaggedUnion.Text.Template
