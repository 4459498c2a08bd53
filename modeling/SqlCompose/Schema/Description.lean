import SqlCompose.Schema

/-!
# Describing a table

A schema is made from a description, a dictionary with the fields `identifier`, `columns` and
`primary_keys`. All problems of a description are found together, those of the known fields in the
order of the fields and then those of the others in the order of the description; only where there
are none are the primary keys checked.
-/

namespace SqlCompose

/-- A part of a description: what it stands for, or its problems. -/
abbrev Described (α : Type) := Except (List Problem) α

namespace Described

/-- The problems of a part. -/
def problems {α : Type} : Described α → List Problem
  | .ok _ => []
  | .error ps => ps

/-- A part one step further in. -/
def under {α : Type} (step : PathStep) : Described α → Described α
  | .ok a => .ok a
  | .error ps => .error (ps.map (Problem.under step))

/-- A single problem here. -/
def problem {α : Type} (kind : ProblemKind) : Described α := .error [⟨[], kind⟩]

/-- The value, once it is known that there are no problems at all. -/
def gather {α : Type} (found : List Problem) (value : Described α) : Described α :=
  if found.isEmpty then value else .error found

end Described

namespace Description

open Described

/-- The entries of a description. -/
abbrev Entries := List (Value × Value)

/-- The value of a field. -/
def field? (entries : Entries) (name : String) : Option Value :=
  (entries.find? fun e => e.1.same (.text name)).map Prod.snd

/-- A field that has to be there. -/
def required {α : Type} (entries : Entries) (name : String) (read : Value → Described α) :
    Described α :=
  under (.field name) <|
    match field? entries name with
    | some v => read v
    | none => problem .missing

/-- A field that may be left out. -/
def optional {α : Type} (entries : Entries) (name : String) (default : α)
    (read : Value → Described α) : Described α :=
  under (.field name) <|
    match field? entries name with
    | some v => read v
    | none => .ok default

/-- The step to the value of a key that is no text: a number of 64 bits is a position. -/
def stepOfKey : Value → PathStep
  | .bool b => .index (if b then 1 else 0)
  | .int i =>
    if -(Coerce.int64Bound : Int) ≤ i ∧ i < Coerce.int64Bound then .index i else .field (toString i)
  | k => .field k.literal

/-- The problems of the fields that are not known. -/
def strangers (entries : Entries) (known : List String) : List Problem :=
  entries.filterMap fun e =>
    match e.1 with
    | .text k => if known.contains k then none else some ⟨[.field k], .extra⟩
    | k => some ⟨[stepOfKey k], .keyNotText⟩

/-- A text, or the text that bytes hold. -/
def textOf : Value → Described String
  | .text s => .ok s
  | .bytes bs => ((Coerce.textOf? (.bytes bs)).map .ok).getD (problem .notUtf8)
  | _ => problem .notText

/-- A truth value in any of its forms. -/
def truthOf (v : Value) : Described Bool :=
  match Coerce.truthOf v with
  | .ok b => .ok b
  | .error .notOne => problem .notTruth
  | .error .wrongKind => problem .notTruthKind

/-- Every item read, with all their problems. -/
def itemsOf {α : Type} (read : Value → Described α) (items : List Value) : Described (List α) :=
  let parts := items.zipIdx.map fun (v, i) => under (.index i) (read v)
  gather (parts.flatMap problems) (parts.mapM id)

/-- A list or a tuple, with every item read. -/
def tupleOf {α : Type} (read : Value → Described α) : Value → Described (List α)
  | .list items => itemsOf read items
  | .tuple items => itemsOf read items
  | _ => problem .notTuple

/-- The column with the given description. -/
def columnOf (entries : Entries) : Described Column :=
  let name := required entries "name" textOf
  let type := required entries "type" textOf
  let nullable := optional entries "nullable" true truthOf
  let field := optional entries "field" none fun
    | .null => .ok none
    | v => (textOf v).map some
  gather
    (name.problems ++ type.problems ++ nullable.problems ++ field.problems ++
      strangers entries ["name", "type", "nullable", "field"])
    (do return { name := ← name, type := ← type, nullable := ← nullable, field := ← field })

/-- A column given as a dictionary. -/
def columnOfValue : Value → Described Column
  | .dict entries => columnOf entries
  | _ => problem .notColumn

/-- The segments of a table's name; a text has points between them. -/
def identifierOf : Value → Described (List String)
  | .text s => .ok ((s.toList.splitOn '.').map String.ofList)
  | v => tupleOf textOf v

/-- The table with the given parts, if its primary keys are names of its columns. -/
def schemaOfParts (identifier : List String) (columns : List Column) (primaryKeys : List String) :
    Described Schema :=
  if h : ∀ k ∈ primaryKeys, k ∈ columns.map Column.name then
    .ok ⟨identifier, columns, primaryKeys, h⟩
  else
    let unknown := primaryKeys.filter fun k => !(columns.map Column.name).contains k
    problem (.undeclaredKeys (Text.quotedList unknown) (String.intercalate "." identifier))

/-- The table with the given description. -/
def schemaOf (entries : Entries) : Described Schema :=
  let identifier := required entries "identifier" identifierOf
  let columns := required entries "columns" (tupleOf columnOfValue)
  let primaryKeys := optional entries "primary_keys" [] (tupleOf textOf)
  gather
    (identifier.problems ++ columns.problems ++ primaryKeys.problems ++
      strangers entries ["identifier", "columns", "primary_keys"])
    (do schemaOfParts (← identifier) (← columns) (← primaryKeys))

end Description

/-- The schema with the given description. -/
def Schema.ofDescription (entries : List (Value × Value)) : Except Error Schema :=
  (Description.schemaOf entries).mapError .invalid

/-- The column with the given description. -/
def Column.ofDescription (entries : List (Value × Value)) : Except Error Column :=
  (Description.columnOf entries).mapError .invalid

namespace Column

/--
How a column compares with a column or with a plain value: whether they are equal, and whether they
have the same hash. A column equals the columns of its name, and it has the hash of its name.
-/
def compareWith (c : Column) : Column ⊕ Value → Except Error (Bool × Bool)
  | .inl d => .ok (c.name == d.name, c.name == d.name)
  | .inr v =>
    match v.keyFault? with
    | some fault => .error (.key fault)
    | none => .ok (false, v.sharesHash c.name)

end Column

end SqlCompose
