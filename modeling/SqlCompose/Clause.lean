import SqlCompose.Clause.Template
import SqlCompose.Schema

/-!
# Clauses

A clause is a condition on the rows of a table or an assignment to one of its columns. The clauses
with a sub-query refer to a query; `Clause ρ` leaves open what such a reference is, so that the same
clauses serve builders that can still change and queries that are settled.

Two clauses are equal (`Clause.equal?`) when their own columns, operators, values and texts are; the
table they were built for and the query they refer to do not count.
-/

namespace SqlCompose

/-- A comparison of a column with a value. -/
inductive Operator where
  | eq
  | ne
  | gt
  | gte
  | lt
  | lte
  | like
  | ilike
  | notLike
  | notIlike
  deriving DecidableEq, Repr

namespace Operator

/-- All comparisons. -/
def all : List Operator := [eq, ne, gt, gte, lt, lte, like, ilike, notLike, notIlike]

/-- The text of a comparison, before the dialect has its say. -/
def symbol : Operator → String
  | eq => "="
  | ne => "!="
  | gt => ">"
  | gte => ">="
  | lt => "<"
  | lte => "<="
  | like => "like"
  | ilike => "ilike"
  | notLike => "not like"
  | notIlike => "not ilike"

/-- The comparison that is written like this. -/
def ofSymbol (text : String) : Except Error Operator :=
  match all.find? fun op => op.symbol == text with
  | some op => .ok op
  | none => .error (.unknownOperator (.text text))

/-- The comparison that a value gives by its text. -/
def ofValue : Value → Except Error Operator
  | .text s => ofSymbol s
  | v => .error (.unknownOperator v)

/-- Whether the comparison asks that something does not hold. -/
def isNegated : Operator → Bool
  | ne => true
  | notLike => true
  | notIlike => true
  | _ => false

/-- A comparison is found by its text. -/
theorem ofSymbol_symbol (op : Operator) : ofSymbol op.symbol = .ok op := by
  cases op <;> rfl

end Operator

/-- A condition or an assignment, with references of type `ρ` to other queries. -/
inductive Clause (ρ : Type) where
  /-- Compares a column with a value; with NULL it asks whether the column is NULL, or is not. -/
  | compare (column : String) (op : Operator) (value : Value) (negated : Bool)
      (table : Option String)
  /-- Assigns a value to a column. -/
  | assign (column : String) (value : Value) (table : Option String)
  /-- Assigns NULL to a column. -/
  | assignNull (column : String) (table : Option String)
  /-- A column with a manual fragment behind it. -/
  | manual (column : String) (template : Template) (table : Option String)
  /-- Asks for a row of another query whose inner column equals the column, or for none. -/
  | related (column : String) (inner : ρ) (innerColumn : String) (negated : Bool)
  /-- Asks for the row to be among those that a query picks. -/
  | among (query : ρ) (column : Option String)

namespace Clause

variable {ρ : Type}

/-- The name of the clause's kind. -/
def kindName : Clause ρ → String
  | compare .. => "ColumnValueClause"
  | assign .. => "SetColumnValue"
  | assignNull .. => "SetColumnNull"
  | manual .. => "ManualClause"
  | related .. => "ExistsClause"
  | among .. => "WhereIn"

/-- The column that the clause is about, if it is about one. -/
def column? : Clause ρ → Option String
  | compare c .. => some c
  | assign c .. => some c
  | assignNull c _ => some c
  | manual c .. => some c
  | related c .. => some c
  | among _ c => c

/-- The table that the clause was built for, if that is known. -/
def table? : Clause ρ → Option String
  | compare _ _ _ _ t => t
  | assign _ _ t => t
  | assignNull _ t => t
  | manual _ _ t => t
  | related .. => none
  | among .. => none

/-- Whether the clause is a comparison. -/
def isComparison : Clause ρ → Bool
  | compare .. => true
  | _ => false

/-- A comparison for equality as an assignment; no other kind of clause becomes one. -/
def asAssignment : Clause ρ → Except Error (Clause ρ)
  | compare column op value _ table =>
    if op = .eq then
      .ok (if value.isNull then assignNull column table else assign column value table)
    else .error (.compilation (.notEquality op.symbol))
  | c => .error (.missingAttribute (.object c.kindName) "as_assignment")

/-- Whether the clause can stand in the list of assignments of an update. -/
def isAssignment : Clause ρ → Bool
  | assign .. => true
  | assignNull .. => true
  | manual .. => true
  | _ => false

/--
Whether two clauses are equal, if their values can be compared. What stands before a value is
compared first; tables and queries do not count.
-/
def equal? : Clause ρ → Clause ρ → Option Bool
  | compare c op v n _, compare c' op' v' n' _ =>
    if c = c' ∧ op = op' then (v.equal? v').map (· && n == n') else some false
  | assign c v _, assign c' v' _ => if c = c' then v.equal? v' else some false
  | assignNull c _, assignNull c' _ => some (c == c')
  | manual c t _, manual c' t' _ =>
    if c = c' ∧ t.text = t'.text then Value.equalAll? t.values t'.values else some false
  | related c _ i n, related c' _ i' n' => some (c == c' && i == i' && n == n')
  | among _ c, among _ c' => some (c == c')
  | _, _ => some false

/-- Whether two clauses are known to be equal. -/
def same (a b : Clause ρ) : Bool := equal? a b == some true

end Clause

end SqlCompose
