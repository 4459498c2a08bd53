import SqlCompose.Value

/-!
# Values in messages

Messages show a value as a literal: texts and bytes between quotes, numbers by their digits, dates
and times by their parts, and collections by their members in order. Times leave out seconds and
microseconds that are zero at the end, and a collection of one member that cannot be mistaken for it
has a comma behind it.
-/

namespace SqlCompose.Value

/-- Texts with commas between them. -/
def commaSeparated (parts : List String) : String := String.intercalate ", " parts

/-- A span of seconds, with whole days set apart so that the rest is not negative. -/
def spanLiteral (seconds : Int) : String :=
  let days := seconds / 86400
  let rest := seconds % 86400
  let parts :=
    (if days = 0 then [] else ["days=" ++ toString days]) ++
      (if rest = 0 then [] else ["seconds=" ++ toString rest])
  "datetime.timedelta(" ++ (if parts.isEmpty then "0" else commaSeparated parts) ++ ")"

/-- An offset from universal time, as the last part of a time. -/
def offsetParts : Option Int → List String
  | none => []
  | some 0 => ["tzinfo=datetime.timezone.utc"]
  | some seconds => ["tzinfo=datetime.timezone(" ++ spanLiteral seconds ++ ")"]

/-- The parts of a date. -/
def dateParts (d : Calendar.Date) : List String :=
  [toString d.year, toString d.month, toString d.day]

/-- The parts of a time: hour and minute always, the others as far as they are needed. -/
def timeParts (t : Calendar.Time) : List String :=
  [toString t.hour, toString t.minute] ++
    (if t.second = 0 ∧ t.micro = 0 then [] else [toString t.second]) ++
    (if t.micro = 0 then [] else [toString t.micro]) ++ offsetParts t.offset

/-- The end of a tuple: a lone member has a comma behind it. -/
def tupleEnd : List Value → String
  | [_] => ",)"
  | _ => ")"

mutual
/-- The literal of a value. -/
def literal : Value → String
  | null => "None"
  | unset => "UNSET"
  | bool b => if b then "True" else "False"
  | int n => toString n
  | float x => Number.Shortest.text x
  | decimal d => "Decimal('" ++ d.text ++ "')"
  | text s => Text.quoted s
  | bytes bs => Text.quotedBytes bs
  | date d => "datetime.date(" ++ commaSeparated (dateParts d) ++ ")"
  | datetime d =>
    "datetime.datetime(" ++ commaSeparated (dateParts d.date ++ timeParts d.time) ++ ")"
  | time t => "datetime.time(" ++ commaSeparated (timeParts t) ++ ")"
  | uuid u => "UUID('" ++ u.text ++ "')"
  | list items => "[" ++ commaSeparated (literals items) ++ "]"
  | tuple items => "(" ++ commaSeparated (literals items) ++ tupleEnd items
  | dict entries => "\x7b" ++ commaSeparated (entryLiterals entries) ++ "\x7d"

/-- The literals of some values. -/
def literals : List Value → List String
  | [] => []
  | v :: rest => literal v :: literals rest

/-- The entries of a dictionary, each key before its value. -/
def entryLiterals : List (Value × Value) → List String
  | [] => []
  | (k, v) :: rest => (literal k ++ ": " ++ literal v) :: entryLiterals rest
end

/-- The text of a value on its own: texts and identifiers bare, and moments as they are written. -/
def display : Value → String
  | text s => s
  | decimal d => d.text
  | uuid u => u.text
  | date d => d.text
  | datetime d => d.date.text ++ " " ++ d.time.text
  | time t => t.text
  | v => v.literal

end SqlCompose.Value
