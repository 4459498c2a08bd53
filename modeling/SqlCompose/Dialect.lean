import SqlCompose.Statement.Piece
import SqlCompose.Text.Digit

/-!
# Dialects

A dialect says how a statement is written for one kind of database: the placeholders of bound
values, the quoting of identifiers, the words for comparisons, the paging of results, and how an
insert hands the stored row back. Each of these is a function. Four dialects come with the library;
any other record of this type is a dialect as good as they are.

The library's own dialects quote identifiers by doubling the closing quote inside them
(`Quoting.doubling`), and have two forms of inserts between them (`InsertForm.returning`,
`InsertForm.output`).
-/

namespace SqlCompose

/-- The dialects that come with the library. -/
inductive BuiltIn where
  | postgres
  | mysql
  | mssql
  | sqlite
  deriving DecidableEq, Repr

namespace BuiltIn

/-- All of them. -/
def all : List BuiltIn := [postgres, mysql, mssql, sqlite]

/-- The name that a dialect is registered under. -/
def tag : BuiltIn → String
  | postgres => "postgres"
  | mysql => "mysql"
  | mssql => "mssql"
  | sqlite => "sqlite"

/-- The dialect with the name. -/
def ofTag? (tag : String) : Option BuiltIn := all.find? fun b => b.tag == tag

/-- A dialect is found by its name. -/
theorem ofTag?_tag (b : BuiltIn) : ofTag? b.tag = some b := by
  cases b <;> rfl

end BuiltIn

/--
An insert that hands the stored row back, put together from the table, the cells, each a column with
its placeholder, and all columns of the table.
-/
abbrev InsertForm := Fragment → List (Fragment × Fragment) → List Column → Fragment

namespace InsertForm

/-- The table and the columns of an insert. -/
def head (table : Fragment) (cells : List (Fragment × Fragment)) : Fragment :=
  .word "INSERT INTO " :: table ++ .word " (" :: Fragment.joinWith ", " (cells.map Prod.fst)

/-- The placeholders of an insert. -/
def marks (cells : List (Fragment × Fragment)) : Fragment :=
  Fragment.joinWith ", " (cells.map Prod.snd)

/-- The row is handed back by `RETURNING *` at the end. -/
def returning : InsertForm := fun table cells _ =>
  head table cells ++ .word ") VALUES (" :: marks cells ++ [.word ") RETURNING *"]

/-- The row is handed back by a list of all columns before the values. -/
def output : InsertForm := fun table cells columns =>
  let stored := columns.map fun c => [Piece.word "Inserted.", .name c.name]
  head table cells ++ .word ") OUTPUT " :: Fragment.joinWith ", " stored ++
    .word " VALUES (" :: marks cells ++ [.word ")"]

end InsertForm

/-- What the placeholders of a dialect look like in finished text. -/
inductive MarkStyle where
  /-- A dollar sign and a number. -/
  | dollar
  /-- An at sign, a `p` and a number. -/
  | atSign
  /-- A question mark. -/
  | question
  deriving DecidableEq, Repr

/-- How the identifiers of a dialect are quoted. -/
structure Quoting where
  /-- The quoted form of an identifier. -/
  quote : String → String
  /-- What comes of a value that is no text in the place of an identifier. -/
  quoteOther : Value → Except Error String

namespace Quoting

/-- The text with every closing quote written twice. -/
def doubled (closing : Char) : List Char → List Char
  | [] => []
  | c :: rest => if c = closing then c :: c :: doubled closing rest else c :: doubled closing rest

/-- Nothing but a text has quotes inside it to be doubled. -/
def refuse : Value → Except Error String
  | .bytes _ => .error (.misfit .bytesForName)
  | .date _ => .error (.misfit .momentForName)
  | .datetime _ => .error (.misfit .momentForName)
  | .time _ => .error (.misfit .momentForName)
  | v => .error (.missingAttribute (.object v.fullTypeName) "replace")

/-- Between two quotes, with every closing quote inside written twice. -/
def doubling (opening closing : Char) : Quoting where
  quote name := String.ofList (opening :: doubled closing name.toList ++ [closing])
  quoteOther := refuse

@[simp] theorem toList_quote_doubling (opening closing : Char) (name : String) :
    ((doubling opening closing).quote name).toList =
      opening :: (doubled closing name.toList ++ [closing]) :=
  String.toList_ofList

/-- Between two texts, with nothing inside changed. -/
def between (opening closing : String) : Quoting where
  quote name := opening ++ name ++ closing
  quoteOther v := .ok (opening ++ v.display ++ closing)

end Quoting

/-- How statements are written for one kind of database. -/
structure Dialect where
  name : String
  /-- The greatest number of values that one statement can bind. -/
  limit : Int
  /-- The placeholder of the value whose number, counted from one, has the given text. -/
  placeholder : String → String
  quoting : Quoting
  /-- The word for a comparison. -/
  operator : String → String
  /-- The paging for a limit and an offset; there is none where neither is given. -/
  paging : Option Value → Option Value → Option String
  /-- How an insert hands the stored row back, if it can. -/
  rowReturn? : Option InsertForm
  /-- Whether a sub-query that picks rows may have a limit. -/
  limitInSubquery : Bool
  /-- Whether paging needs an order before it. -/
  orderForPaging : Bool
  /-- What placeholders look like, if that is known. -/
  marks? : Option MarkStyle
  /-- Which of the library's own dialects this is, if it is one. -/
  builtIn? : Option BuiltIn
  /-- The parts that were never set, without which the dialect is of no use. -/
  unset : List DialectPart := []

namespace Dialect

/-- The quoted form of an identifier. -/
def quote (d : Dialect) (name : String) : String := d.quoting.quote name

/-- Paging by `LIMIT` and `OFFSET`, either of which may be left out. -/
def limitOffset (limit offset : Option Value) : Option String :=
  match limit, offset with
  | none, none => none
  | some n, none => some ("LIMIT " ++ n.display)
  | none, some m => some ("OFFSET " ++ m.display)
  | some n, some m => some ("LIMIT " ++ n.display ++ " OFFSET " ++ m.display)

/-- Paging by `LIMIT` and `OFFSET`, where an offset alone has a limit that sets none. -/
def limitOffsetWith (noLimit : String) (limit offset : Option Value) : Option String :=
  match limit, offset with
  | none, some m => some ("LIMIT " ++ noLimit ++ " OFFSET " ++ m.display)
  | _, _ => limitOffset limit offset

/-- The offset that is always written: zero in the place of one that counts as false. -/
def writtenOffset : Option Value → String
  | some m => if m.truth then m.display else "0"
  | none => "0"

/-- Paging by `OFFSET … ROWS FETCH NEXT … ROWS ONLY`, where the offset is always written. -/
def offsetFetch (limit offset : Option Value) : Option String :=
  match limit, offset with
  | none, none => none
  | none, m => some ("OFFSET " ++ writtenOffset m ++ " ROWS")
  | some n, m =>
    some ("OFFSET " ++ writtenOffset m ++ " ROWS FETCH NEXT " ++ n.display ++ " ROWS ONLY")

/-- The dialect of PostgreSQL: numbered placeholders and double quotes. -/
def postgres : Dialect where
  name := "postgres"
  limit := 65535
  placeholder i := "$" ++ i
  quoting := .doubling '"' '"'
  operator := id
  paging := limitOffset
  rowReturn? := some .returning
  limitInSubquery := true
  orderForPaging := false
  marks? := some .dollar
  builtIn? := some .postgres

/-- The dialect of MySQL: backquotes, no limit in sub-queries, and no row from an insert. -/
def mysql : Dialect where
  name := "mysql"
  limit := 64000
  placeholder _ := "?"
  quoting := .doubling '\x60' '\x60'
  operator := id
  paging := limitOffsetWith "18446744073709551615"
  rowReturn? := none
  limitInSubquery := false
  orderForPaging := false
  marks? := some .question
  builtIn? := some .mysql

/-- The dialect of SQL Server: brackets, and paging that needs an order. -/
def mssql : Dialect where
  name := "mssql"
  limit := 2100
  placeholder i := "@p" ++ i
  quoting := .doubling '[' ']'
  operator := id
  paging := offsetFetch
  rowReturn? := some .output
  limitInSubquery := true
  orderForPaging := true
  marks? := some .atSign
  builtIn? := some .mssql

/-- The dialect of SQLite: question marks and double quotes. -/
def sqlite : Dialect where
  name := "sqlite"
  limit := 999
  placeholder _ := "?"
  quoting := .doubling '"' '"'
  operator := id
  paging := limitOffsetWith "-1"
  rowReturn? := some .returning
  limitInSubquery := true
  orderForPaging := false
  marks? := some .question
  builtIn? := some .sqlite

/-- A dialect that comes with the library. -/
def ofBuiltIn : BuiltIn → Dialect
  | .postgres => postgres
  | .mysql => mysql
  | .mssql => mssql
  | .sqlite => sqlite

/-- Of the library's own dialects those that hand a stored row back share two forms. -/
theorem rowReturn?_ofBuiltIn {b : BuiltIn} {form : InsertForm}
    (h : (ofBuiltIn b).rowReturn? = some form) :
    (b ≠ .mssql ∧ form = .returning) ∨ (b = .mssql ∧ form = .output) := by
  cases b <;> cases h
  case mssql => exact .inr ⟨rfl, rfl⟩
  all_goals exact .inl ⟨by decide, rfl⟩

/-! ## Counting placeholders -/

/-- Whether the text starts with a digit of any script. -/
def startsWithDigit (cs : List Char) : Bool :=
  (cs.head?.map Text.isDigit).getD false

/-- Adds the number of placeholders in a text to a number. -/
def countOnto (found : Nat) : MarkStyle → List Char → Nat
  | _, [] => found
  | .dollar, '$' :: rest =>
    countOnto (if startsWithDigit rest then found + 1 else found) .dollar rest
  | .atSign, '@' :: 'p' :: rest =>
    countOnto (if startsWithDigit rest then found + 1 else found) .atSign rest
  | .question, '?' :: rest => countOnto (found + 1) .question rest
  | style, _ :: rest => countOnto found style rest

/-- The number of placeholders of the dialect in a text. -/
def countPlaceholders (d : Dialect) (sql : String) : Except Error Nat :=
  match d.marks? with
  | some style => .ok (countOnto 0 style sql.toList)
  | none => .error .noMarkStyle

/-! ## Variations -/

/-- The parts of a dialect that a variation of it sets anew. -/
structure Variation where
  name : Option String := none
  limit : Option Int := none
  placeholder : Option (String → String) := none
  quoting : Option Quoting := none
  /-- The words for some comparisons. -/
  operators : List (String × String) := []
  limitInSubquery : Option Bool := none
  orderForPaging : Option Bool := none

/-- Whether the variation sets a part that every dialect needs. -/
def Variation.sets (v : Variation) : DialectPart → Bool
  | .name => v.name.isSome
  | .limit => v.limit.isSome
  | .placeholder => v.placeholder.isSome
  | .quoting => v.quoting.isSome

/-- What a dialect made from nothing starts with: the portable forms, and no row return. -/
def plain : Dialect where
  name := ""
  limit := 0
  placeholder _ := "?"
  quoting := .between "" ""
  operator := id
  paging := limitOffset
  rowReturn? := none
  limitInSubquery := true
  orderForPaging := false
  marks? := none
  builtIn? := none
  unset := DialectPart.all

/-- The dialect with some parts set anew; it is none of the library's own any more. -/
def vary (d : Dialect) (v : Variation) : Dialect :=
  { d with
    name := v.name.getD d.name
    limit := v.limit.getD d.limit
    placeholder := v.placeholder.getD d.placeholder
    quoting := v.quoting.getD d.quoting
    operator := fun op => (v.operators.lookup op).getD (d.operator op)
    limitInSubquery := v.limitInSubquery.getD d.limitInSubquery
    orderForPaging := v.orderForPaging.getD d.orderForPaging
    builtIn? := none
    unset := d.unset.filter fun p => !v.sets p }

/-- The dialect, if all parts that every dialect needs were set. -/
def checked (d : Dialect) : Except Error Dialect :=
  if d.unset.isEmpty then .ok d else .error (.incompleteDialect d.unset)

/-- A check changes nothing. -/
theorem eq_of_checked {d e : Dialect} (h : d.checked = .ok e) : e = d := by
  unfold checked at h
  split at h
  · cases h
    rfl
  · cases h

/-- The library's own dialects are complete. -/
theorem checked_ofBuiltIn (b : BuiltIn) : (ofBuiltIn b).checked = .ok (ofBuiltIn b) := by
  cases b <;> rfl

end Dialect

end SqlCompose
