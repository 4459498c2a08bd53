import SqlCompose.Statement.Row
import SqlCompose.Value.Members

/-!
# Parts of statements from loose values

A dialect can be asked for a single part of a statement, with values of any kind in the places of
names, texts and bounds. A value that is only shown can be any; one that is quoted, joined or
searched has to be a text, and a `Misfit` says what it is instead.
-/

namespace SqlCompose

/-- The value, unless it is NULL. -/
def Value.given? : Value → Option Value
  | .null => none
  | v => some v

/-- The texts that values are, if all of them are texts. -/
def textsOf (vs : List Value) : Except Error (List String) :=
  vs.zipIdx.mapM fun (v, position) =>
    match v with
    | .text s => .ok s
    | v => .error (.misfit (.notText position v.fullTypeName))

/-- Texts with a space between neighbours; values that count as false are left out. -/
def joinParts (parts : Value) : Except Error String := do
  return String.intercalate " " (← textsOf ((← parts.members).filter Value.truth))

namespace Dialect

/-- The quoted form of a value: a text is quoted as a name is. -/
def quoteValue (d : Dialect) : Value → Except Error String
  | .text s => .ok (d.quote s)
  | v => d.quoting.quoteOther v

/-- The quoted segments of a name with points between them. -/
def tableOfValue (d : Dialect) (v : Value) : Except Error String := do
  return String.intercalate "." (← (← v.members).mapM d.quoteValue)

/-- A quoted column behind a qualifier. -/
def columnOfValues (d : Dialect) (qualifier column : Value) : Except Error String := do
  return qualifier.display ++ "." ++ (← d.quoteValue column)

/-- The word for a comparison; what is no text is its own word. -/
def operatorOfValue (d : Dialect) : Value → Value
  | .text s => .text (d.operator s)
  | v => v

/-- The number of placeholders of the dialect in a text. -/
def countIn (d : Dialect) (v : Value) : Except Error Nat :=
  match v with
  | .text s => d.countPlaceholders s
  | v => do
    let _ ← d.countPlaceholders ""
    match v with
    | .bytes _ => .error (.misfit .bytesSearched)
    | v => .error (.misfit (.notSearchable v.fullTypeName))

/-- A column to order by and its direction. -/
def orderOfValues (d : Dialect) (qualifier column direction : Value) : Except Error Fragment := do
  let name ←
    match qualifier with
    | .null => d.quoteValue column
    | q => d.columnOfValues q column
  return [.verbatim name, .word " ", .verbatim direction.display]

/-- The end of a query: columns to order by, each with its direction, and a window. -/
def tailOfValues (d : Dialect) (qualifier : Value) (order : List (Value × Value))
    (limit offset : Value) : Except Error (Option String) := do
  let items ← order.mapM fun (column, direction) => d.orderOfValues qualifier column direction
  return (tail d items limit.given? offset.given?).map (Fragment.text d)

/-- An insert of the cells, each a pair of a column and its placeholder. -/
def insertionOfValues (d : Dialect) (table cells : Value) (columns : List Column) :
    Except Error String := do
  if d.rowReturn?.isNone then
    throw (.unsupported d.name .rowReturn)
  let cells ← (← cells.members).mapM Value.pair
  let names ← textsOf (cells.map Prod.fst)
  let marks ← textsOf (cells.map Prod.snd)
  let cells := names.zip marks |>.map fun (n, m) => ([Piece.verbatim n], [Piece.verbatim m])
  return (← d.insertion [.verbatim table.display] cells columns).text d

end Dialect

end SqlCompose
