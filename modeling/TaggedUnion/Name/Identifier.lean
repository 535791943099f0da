import TaggedUnion.Text.Title
import TaggedUnion.Text.Quoted

/-!
# Joined identifiers

The name of a conversion is put together from chunks: the union, a preposition and the variant. Every
chunk is split at the characters an identifier cannot have, the pieces are title-cased without
touching letters that are already upper case, and the first character of the result is upper case
exactly when the name is to be exported.
-/

namespace TaggedUnion.Name

open Text

/-- Splits a text into its maximal runs of identifier characters. -/
def pieces (chunk : List Char) : List (List Char) :=
  (go chunk).filter fun p => !p.isEmpty
where
  /-- The runs of identifier characters, empty ones included. -/
  go : List Char → List (List Char)
    | [] => [[]]
    | c :: rest =>
      if isIdentPart c then
        match go rest with
        | [] => [[c]]
        | p :: ps => (c :: p) :: ps
      else [] :: go rest

/-- The title-cased pieces of all chunks, one after the other. -/
def titled (chunks : List String) : List Char :=
  chunks.flatMap fun chunk => (pieces chunk.toList).flatMap title

/-- Joins chunks into an identifier, upper case at the front iff `exported`. There is none when the
chunks have no identifier character. -/
def join? (exported : Bool) (chunks : List String) : Option String :=
  match titled chunks with
  | [] => none
  | c :: rest => some (String.ofList ((if exported then toUpper c else toLower c) :: rest))

/-- What is said of chunks that cannot be joined. -/
def noIdentifierMessage (chunks : List String) : String :=
  "no identifier in " ++ quoteList chunks

end TaggedUnion.Name
