import SqlCompose.Session

/-!
# Commands

A `Command` is anything that an executor is used for: it is compiled for a dialect, or compiled for
the dialect of an executor and run there.
-/

namespace SqlCompose

open SqlCompose.Action

/-- What an executor is used for. -/
inductive Command where
  /-- The rows of a query. -/
  | fetch (query : QueryRef)
  /-- The number of rows of a query. -/
  | count (query : QueryRef)
  /-- An update of the rows of a query. -/
  | update (update : UpdateRef)
  /-- An update of the row of an object. -/
  | updateRow (object : Record) (schema? : Option Schema)
  /-- A deletion of the row of an object. -/
  | deleteRow (object : Record) (schema? : Option Schema)
  /-- An insert of an object as a row. -/
  | insertRow (object : Record) (schema? : Option Schema)

/-- What comes of a command. -/
inductive Answer where
  | rows (rows : List Value)
  | number (n : Int)
  | value (v : Value)
  | nothing

namespace Command

/-- The statement of a command, if there is anything to be done. -/
def compile (choice : DialectChoice) : Command → Action (Option Statement)
  | fetch r => some <$> compileFetch r choice
  | count r => some <$> compileCount r choice
  | update r => some <$> compileUpdate r choice
  | updateRow r schema? => compileUpdateRow r choice schema?
  | deleteRow r schema? => some <$> compileDeleteRow r choice schema?
  | insertRow r schema? => some <$> compileInsertRow r choice schema?

/-- Compiles a command for the executor and runs it there. -/
def run (e : Executor) : Command → Action Answer
  | fetch r => .rows <$> runFetch r e
  | count r => .number <$> runCount r e
  | update r => .value <$> runUpdate r e
  | updateRow r schema? => (fun _ => .nothing) <$> runUpdateRow r e schema?
  | deleteRow r schema? => .value <$> runDeleteRow r e schema?
  | insertRow r schema? => .value <$> runInsertRow r e schema?

end Command

end SqlCompose
