import SqlCompose.Dialect

/-!
# Events

What happens on the way to a statement and to its execution is reported as events. Every event is a
message for developers but one: a statement that binds more values than its dialect takes, where
that is allowed, is a warning.
-/

namespace SqlCompose

/-- What is executed, with what it is known by. -/
inductive Execution where
  | fetch (table : String)
  | count (table : String)
  | update (table : String)
  | updateRow (dialect : String)
  | deleteRow (dialect : String)
  | insertRow (dialect : String)
  deriving DecidableEq, Repr

/-- The name of a kind of execution. -/
def Execution.kindName : Execution → String
  | fetch _ => "select"
  | count _ => "count"
  | update _ => "update"
  | updateRow _ => "update_one"
  | deleteRow _ => "delete_one"
  | insertRow _ => "insert_one"

/-- What an execution is known by: the table of a query, or the dialect of a statement on a row. -/
def Execution.subject : Execution → String × Value
  | fetch table => ("table", .text table)
  | count table => ("table", .text table)
  | update table => ("table", .text table)
  | updateRow dialect => ("dialect", .text dialect)
  | deleteRow dialect => ("dialect", .text dialect)
  | insertRow dialect => ("dialect", .text dialect)

/-- What is reported. -/
inductive Event where
  /-- A statement binds more values than its dialect takes. -/
  | limitExceeded (dialect : String) (count : Nat) (limit : Int)
  /-- A statement is finished. -/
  | compiled (dialect sql : String) (count : Nat)
  /-- A statement is about to be handed to the executor. -/
  | executing (execution : Execution)
  /-- A row has no columns but its key, so that there is nothing to update. -/
  | updateSkipped
  deriving DecidableEq, Repr

namespace Event

/-- The name of an event. -/
def name : Event → String
  | limitExceeded .. => "param_limit_exceeded"
  | compiled .. => "statement_compiled"
  | executing _ => "statement_executing"
  | updateSkipped => "update_skipped"

/-- What the record of an event says besides its name. -/
def entries : Event → List (String × Value)
  | limitExceeded dialect count limit =>
    [("dialect", .text dialect), ("count", .int count), ("max_params", .int limit)]
  | compiled dialect sql count =>
    [("dialect", .text dialect), ("sql", .text sql), ("arg_count", .int count)]
  | executing execution => [("kind", .text execution.kindName), execution.subject]
  | updateSkipped => [("reason", .text "no non-key columns")]

/-- Whether the event is a warning. -/
def isWarning : Event → Bool
  | limitExceeded .. => true
  | _ => false

end Event

end SqlCompose
