import SqlCompose.Query.Source

/-!
# Building queries and updates

A query grows by one condition, one order or one bound at a time, and an update by one assignment.
What is to be added is found first, which can fail, and adding it cannot. It goes to the end; a limit
or an offset takes the place of an earlier one.
-/

namespace SqlCompose

namespace Selection

variable {ρ : Type}

/-- All rows of a table. -/
def ofSchema (s : Schema) : Selection ρ := { schema := s }

/-- The query with one more condition. -/
def withCondition (s : Selection ρ) (c : Clause ρ) : Selection ρ :=
  { s with conditions := s.conditions ++ [c] }

/-- The query with one more condition on rows of another table. -/
def withRelated (s : Selection ρ) (c : Clause ρ) : Selection ρ :=
  { s with related := s.related ++ [c] }

/-- The query with one more column to order by. -/
def withOrder (s : Selection ρ) (item : OrderItem) : Selection ρ :=
  { s with order := s.order ++ [item] }

/-- The query with a limit. -/
def withLimit (s : Selection ρ) (n : Nat) : Selection ρ := { s with limit := some n }

/-- The query with an offset. -/
def withOffset (s : Selection ρ) (n : Nat) : Selection ρ := { s with offset := some n }

/-- A bound of a window, which has to be a natural number. -/
def boundOf (part : Part) : Value → Except Error Nat
  | .int (.ofNat n) => .ok n
  | v => .error (.compilation (.notNatural part v))

end Selection

namespace Schema

variable {ρ : Type}

/-- The handle of the column that the caller names. -/
def handleOf (s : Schema) (column : ColumnSource) : Except Error Handle := do
  let c ← s.resolveColumn column
  let c ← s.column c.name
  return ⟨c, some s.tableName⟩

/-- An assignment of a value to a column. -/
def assignment (s : Schema) (column : ColumnSource) (v : Value) : Except Error (Clause ρ) := do
  (← s.handleOf column).assign v

/-- An assignment of NULL to a column. -/
def nullAssignment (s : Schema) (column : ColumnSource) : Except Error (Clause ρ) := do
  (← s.handleOf column).assignNull

/-- Accepts an assignment of NULL only to a nullable column. -/
def checkNullable (s : Schema) : Clause ρ → Except Error Unit
  | .assignNull column _ => do
    let c ← s.column column
    if c.nullable then .ok () else .error (.valueMismatch c.name c.type .null)
  | _ => .ok ()

/-- The clause that the caller gives as an assignment; an equality counts as one. -/
def assignmentOf (s : Schema) (source : ClauseSource ρ) : Except Error (Clause ρ) := do
  let given ← s.resolveClause source
  let c ← if given.isComparison then given.asAssignment else .ok given
  if !c.isAssignment then
    throw (.compilation (.notAssignment c.kindName))
  s.checkNullable c
  return c

end Schema

end SqlCompose
