import SqlCompose.Executor
import SqlCompose.Query.Store
import SqlCompose.Statement.Row
import SqlCompose.Statement.Select
import SqlCompose.Statement.Update

/-!
# Sessions

What outlives a statement: the environment with the settings that were read from it, the registered
dialects, the store of builders, and a record of the events and of the calls to executors. An action
changes the session and answers with a value or an error; the record of what happened before an
error stays.

An action reads the settings only where they matter: to choose the default dialect, and to finish a
statement.
-/

namespace SqlCompose

/-- What outlives a statement. -/
structure Session where
  environment : Environment := {}
  registry : Registry := .initial
  store : Store := {}
  /-- What was reported, the latest last. -/
  events : Array Event := #[]
  /-- What executors were asked, the latest last. -/
  calls : Array Call := #[]

/-- A step in a session. -/
abbrev Action (α : Type) := ExceptT Error (StateM Session) α

namespace Action

/-- What depends on no session. -/
def ofExcept {α : Type} : Except Error α → Action α
  | .ok a => pure a
  | .error e => throw e

/-- Reads the settings. -/
def settings : Action Settings := do
  let session ← get
  set { session with environment := session.environment.afterReading }
  ofExcept session.environment.settings

/-- Reports events. -/
def report (events : List Event) : Action Unit :=
  modify fun session => { session with events := session.events ++ events.toArray }

/-- The instance registered under a name. -/
def instanceOf (tag : String) : Action Instance := do
  let session ← get
  let (i, registry) ← ofExcept (session.registry.create tag)
  set { session with registry }
  return i

/-- The dialect that the caller names. -/
def dialect : DialectChoice → Action Dialect
  | .given d => ofExcept d.checked
  | .named tag => return (← instanceOf tag).dialect
  | .standard => do
    let s ← settings
    return (← instanceOf s.defaultDialect.tag).dialect

/-- The statement with the text and with the values of a draft. -/
def finish (d : Dialect) (draft : Draft) (sql : String) : Action Statement := do
  let s ← settings
  let (statement, events) ← ofExcept (draft.settle s d sql)
  report events
  return statement

/-- Writes a blueprint in the dialect that the caller names. -/
def compile (choice : DialectChoice) (b : Blueprint) : Action Statement := do
  let d ← dialect choice
  let (written, draft) := (b d).outcome {}
  let f ← ofExcept written
  finish d draft (f.text d)

/-! ## Compiling -/

/-- The query that a reference leads to, with all references followed. -/
def settled (r : QueryRef) : Action (Selection Query) := do
  let q ← ofExcept ((← get).store.settle r)
  return q.selection

/-- The statement that fetches the rows of a query. -/
def compileFetch (r : QueryRef) (choice : DialectChoice) : Action Statement := do
  compile choice (← settled r).fetch

/-- The statement that counts the rows of a query. -/
def compileCount (r : QueryRef) (choice : DialectChoice) : Action Statement := do
  compile choice (← settled r).count

/-- What an update says; one of the rows of another update cannot say which rows these are. -/
def blueprintOf (st : Store) (r : UpdateRef) : Except Error Blueprint := do
  let b ← (← st.settleUpdate r).blueprint
  let draft ← st.update r
  return if draft.query.isUpdate then fun _ => throw (UpdateDraft.lacks "limit_value") else b

/-- The statement of an update. -/
def compileUpdate (r : UpdateRef) (choice : DialectChoice) : Action Statement := do
  compile choice (← ofExcept (blueprintOf (← get).store r))

/-- The schema that is given, or else the one that the object's model carries. -/
def schemaFor (r : Record) (schema? : Option Schema) : Action Schema :=
  match schema? with
  | some s => return s
  | none => ofExcept r.model.schema

/-- The statement that updates the row of an object, if there is anything to update. -/
def compileUpdateRow (r : Record) (choice : DialectChoice) (schema? : Option Schema) :
    Action (Option Statement) := do
  let s ← schemaFor r schema?
  match ← ofExcept (r.update s) with
  | none => return none
  | some b => return some (← compile choice b)

/-- The statement that deletes the row of an object. -/
def compileDeleteRow (r : Record) (choice : DialectChoice) (schema? : Option Schema) :
    Action Statement := do
  let s ← schemaFor r schema?
  compile choice (← ofExcept (r.delete s))

/-- The statement that inserts an object as a row. -/
def compileInsertRow (r : Record) (choice : DialectChoice) (schema? : Option Schema) :
    Action Statement := do
  let s ← schemaFor r schema?
  compile choice (r.insert s)

/-! ## Running -/

/-- Records what an executor is asked. -/
def record (kind : CallKind) (statement : Statement) : Action Call := do
  let call : Call := ⟨kind, statement.sql, statement.args⟩
  modify fun session => { session with calls := session.calls.push call }
  return call

/-- Asks an executor for the rows of a statement. -/
def rows (e : Executor) (statement : Statement) : Action Value := do
  let call ← record .rows statement
  ofExcept (e.rows call)

/-- Asks an executor to execute a statement. -/
def execute (e : Executor) (statement : Statement) : Action Value := do
  let call ← record .execution statement
  ofExcept (e.execute call)

/-- The rows of a query. -/
def runFetch (r : QueryRef) (e : Executor) : Action (List Value) := do
  let statement ← compileFetch r e.dialect
  report [.executing (.fetch (← settled r).schema.tableName)]
  ofExcept (← rows e statement).members

/-- The number of rows of a query. -/
def runCount (r : QueryRef) (e : Executor) : Action Int := do
  let statement ← compileCount r e.dialect
  report [.executing (.count (← settled r).schema.tableName)]
  ofExcept (Rows.count (← rows e statement))

/-- Executes an update and answers with what the executor says of the rows that it changed. -/
def runUpdate (r : UpdateRef) (e : Executor) : Action Value := do
  let statement ← compileUpdate r e.dialect
  let u ← ofExcept ((← get).store.settleUpdate r)
  report [.executing (.update u.query.schema.tableName)]
  execute e statement

/-- Updates the row of an object; an executor is asked only if there is anything to update. -/
def runUpdateRow (r : Record) (e : Executor) (schema? : Option Schema) : Action Unit := do
  match ← compileUpdateRow r e.dialect schema? with
  | none => report [.updateSkipped]
  | some statement =>
    report [.executing (.updateRow statement.dialect)]
    let _ ← execute e statement

/-- Deletes the row of an object and answers with what the executor says of the rows that went. -/
def runDeleteRow (r : Record) (e : Executor) (schema? : Option Schema) : Action Value := do
  let statement ← compileDeleteRow r e.dialect schema?
  report [.executing (.deleteRow statement.dialect)]
  execute e statement

/-- Inserts an object and answers with the stored row, or with NULL if none comes back. -/
def runInsertRow (r : Record) (e : Executor) (schema? : Option Schema) : Action Value := do
  let statement ← compileInsertRow r e.dialect schema?
  report [.executing (.insertRow statement.dialect)]
  ofExcept (Rows.first (← rows e statement))

end Action

end SqlCompose
