import SqlCompose.Schema

/-!
# Pieces of statements

A statement is put together from pieces: words of the statement itself, text written by the caller,
identifiers, table aliases and placeholders. A fragment is a row of pieces. Nothing is written yet,
so that an identifier can be told from a word and a placeholder from a question mark; a dialect says
later how each piece is written.
-/

namespace SqlCompose

/-- A piece of a statement. -/
inductive Piece where
  /-- Text that the statement has of itself. -/
  | word (text : String)
  /-- Text that the caller wrote. -/
  | verbatim (text : String)
  /-- An identifier, which the dialect quotes. -/
  | name (identifier : String)
  /-- A table alias with the given number. -/
  | tableAlias (number : Nat)
  /-- The placeholder with the given number. -/
  | mark (number : Nat)
  deriving DecidableEq, Repr

/-- A row of pieces. -/
abbrev Fragment := List Piece

namespace Fragment

/-- Fragments with a word between neighbours. -/
def joinWith (separator : String) : List Fragment → Fragment
  | [] => []
  | f :: rest => f ++ rest.flatMap fun g => .word separator :: g

/-- The fragments that are there, with a space between neighbours. -/
def spaced (parts : List (Option Fragment)) : Fragment := joinWith " " (parts.filterMap id)

/-- A table: the segments of its name with points between them. -/
def table (identifier : List String) : Fragment :=
  joinWith "." (identifier.map fun segment => [.name segment])

end Fragment

end SqlCompose
