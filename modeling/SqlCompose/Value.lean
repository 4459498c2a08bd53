import SqlCompose.Calendar.DateTime
import SqlCompose.Number.Decimal
import SqlCompose.Uuid

/-!
# Values

The values that are compared with columns, stored in them and bound to placeholders. Two of them
stand for no value: `null` is SQL's NULL, given on purpose, and `unset` says that nothing was given.
Comparisons take both for NULL, an insert leaves `unset` columns out, and a driver is handed NULL
for either (`toBind_unset`).

Equality (`Value.equal?`) is equality of what a value stands for: numbers of any kind are equal when
they are the same number, and a truth value counts as zero or one. A signaling NaN cannot be
compared with a number.
-/

namespace SqlCompose

/-- A value of a model object, a clause or a row. -/
inductive Value where
  | null
  | unset
  | bool (b : Bool)
  | int (n : Int)
  | float (x : Float)
  | decimal (d : Number.Decimal)
  | text (s : String)
  | bytes (bs : List UInt8)
  | date (d : Calendar.Date)
  | datetime (d : Calendar.DateTime)
  | time (t : Calendar.Time)
  | uuid (u : Uuid)
  | list (items : List Value)
  | tuple (items : List Value)
  | dict (entries : List (Value × Value))
  deriving Inhabited

namespace Value

/-- Whether the value stands for NULL in a comparison. -/
def isNull : Value → Bool
  | null => true
  | unset => true
  | _ => false

/-- The value that a driver is handed. -/
def toBind : Value → Value
  | unset => null
  | v => v

/-- Whether the value counts as true. -/
def truth : Value → Bool
  | null => false
  | unset => false
  | bool b => b
  | int n => n != 0
  | float x => !(x == 0)
  | decimal (.finite _ c _) => c != 0
  | decimal _ => true
  | text s => !s.isEmpty
  | bytes bs => !bs.isEmpty
  | list items => !items.isEmpty
  | tuple items => !items.isEmpty
  | dict entries => !entries.isEmpty
  | _ => true

/-- The name of the value's type, as messages give it. -/
def typeName : Value → String
  | null => "NoneType"
  | unset => "_Unset"
  | bool _ => "bool"
  | int _ => "int"
  | float _ => "float"
  | decimal _ => "Decimal"
  | text _ => "str"
  | bytes _ => "bytes"
  | date _ => "date"
  | datetime _ => "datetime"
  | time _ => "time"
  | uuid _ => "UUID"
  | list _ => "list"
  | tuple _ => "tuple"
  | dict _ => "dict"

/-- The name of the value's type with the module that it is from, where messages give that too. -/
def fullTypeName (v : Value) : String :=
  match v with
  | date _ => "datetime." ++ v.typeName
  | datetime _ => "datetime." ++ v.typeName
  | time _ => "datetime." ++ v.typeName
  | decimal _ => "decimal." ++ v.typeName
  | _ => v.typeName

/-- The exact number that the value is, if it is one. -/
def number? : Value → Option Number.Decimal
  | bool b => some (Number.Decimal.ofInt (if b then 1 else 0))
  | int n => some (Number.Decimal.ofInt n)
  | float x =>
    match Number.Decimal.exactOfFloat? x with
    | some d => some d
    | none => some (if x.isNaN then .nan false false 0 else .infinity (x < 0))
  | decimal d => some d
  | _ => none

mutual
/-- Whether two values stand for the same; nobody can say where a signaling NaN meets a number. -/
def equal? : Value → Value → Option Bool
  | null, null => some true
  | unset, unset => some true
  | text a, text b => some (a == b)
  | bytes a, bytes b => some (a == b)
  | date a, date b => some (a == b)
  | datetime a, datetime b => some (a.sameMoment b)
  | time a, time b => some (a.sameTime b)
  | uuid a, uuid b => some (a == b)
  | list as, list bs => if as.length = bs.length then equalAll? as bs else some false
  | tuple as, tuple bs => equalAll? as bs
  | dict as, dict bs => if as.length = bs.length then equalEntries? as bs else some false
  | a, b =>
    match a.number?, b.number? with
    | some m, some n =>
      if m.isSignaling || n.isSignaling then none else some (m.sameNumber n)
    | _, _ => some false

/-- Whether two rows of values stand for the same, one by one up to the first difference. -/
def equalAll? : List Value → List Value → Option Bool
  | [], [] => some true
  | a :: as, b :: bs =>
    match equal? a b with
    | some true => equalAll? as bs
    | other => other
  | _, _ => some false

/-- Whether each entry has one with the same key and the same value among the others. -/
def equalEntries? : List (Value × Value) → List (Value × Value) → Option Bool
  | [], _ => some true
  | (k, v) :: rest, others =>
    match others.find? fun e => equal? k e.1 == some true with
    | none => some false
    | some e =>
      match equal? v e.2 with
      | some true => equalEntries? rest others
      | other => other
end

/-- Whether two values are known to stand for the same. -/
def same (a b : Value) : Bool := equal? a b == some true

/-- A driver never sees that a value was left open. -/
@[simp] theorem toBind_unset : toBind unset = null := rfl

/-- What a driver is handed is NULL exactly when the value stands for NULL. -/
@[simp] theorem isNull_toBind (v : Value) : v.toBind.isNull = v.isNull := by
  cases v <;> rfl

/-- A value that does not stand for NULL is handed over as it is. -/
theorem toBind_eq_self {v : Value} (h : v.isNull = false) : v.toBind = v := by
  cases v <;> simp_all [isNull, toBind]

theorem toBind_eq_null_iff (v : Value) : v.toBind = null ↔ v.isNull = true := by
  cases v <;> simp [isNull, toBind]

end Value

end SqlCompose
