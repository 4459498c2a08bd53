import SqlCompose.Proofs.Session.Limit

/-!
# The values of a statement in different dialects

A dialect has its say in many places while a statement is written: in the
words for comparisons, in the paging and the order that it may need, in how an
inserted row comes back.  In none of them a value is added, left out or moved.
The values are those that the request binds (`Request.bound`), where no
dialect occurs; a statement for another dialect differs in its text alone.

## Main results

* `Command.args_of_compile` — the values of a compiled command, from its
  request alone.
* `Command.args_eq_of_compile` — they are the same in every two sessions that
  hold the same builders, whatever dialects they choose.
-/

namespace SqlCompose

open SqlCompose.Action

/-- The values of the statement of a request, if there is anything to be written. -/
def Request.args (request : Request) : Except Error (Option (List Value)) := do
  match ← request.blueprint with
  | none => return none
  | some _ => return some ((← request.bound).map Value.toBind)

/-- The values of the statement of a command, if there is anything to be done. -/
def Command.args (st : Store) (c : Command) : Except Error (Option (List Value)) := do
  (← c.request st).args

/-- A blueprint that only says why it cannot be written is not compiled. -/
theorem Action.outcome_compile_throw (choice : DialectChoice) (e : Error) (session : Session)
    (statement : Statement) (after : Session) :
    outcome (Action.compile choice fun _ => throw e) session ≠ (.ok statement, after) := by
  intro h
  obtain ⟨d, chosen, events, -, hcompile, -⟩ := exists_compile_of_ok h
  obtain ⟨f, draft, hwritten, -⟩ := Blueprint.exists_of_compile hcompile
  cases hwritten

/-- What a request is compiled to in a session is what it is compiled to in the dialect chosen. -/
theorem Request.exists_compile_of_compileAs {request : Request} {choice : DialectChoice}
    {session after : Session} {statement : Statement}
    (h : outcome (request.compileAs choice) session = (.ok (some statement), after)) :
    ∃ d settings events, (outcome (dialect choice) session).1 = .ok d ∧
      request.compile settings d = .ok (some (statement, events)) := by
  obtain ⟨blueprint, next, hblueprint, h⟩ := exists_of_andThen h
  rw [outcome_ofExcept] at hblueprint
  obtain ⟨hb, rfl⟩ := Prod.mk.inj hblueprint
  cases blueprint with
  | none => cases h
  | some b =>
      obtain ⟨finished, last, hfinished, h⟩ := exists_of_andThen h
      cases h
      obtain ⟨d, chosen, events, hd, hcompile, -⟩ := exists_compile_of_ok hfinished
      refine ⟨d, chosen.environment.settings, events, by rw [hd], ?_⟩
      rw [compile_of_blueprint hb, hcompile]
      rfl

/-- What a request is compiled to has the values of the request. -/
theorem Request.args_of_compileAs {request : Request} {choice : DialectChoice}
    {session after : Session} {written : Option Statement}
    (h : outcome (request.compileAs choice) session = (.ok written, after)) :
    request.args = .ok (written.map Statement.args) := by
  cases written with
  | none =>
      obtain ⟨blueprint, next, hblueprint, h⟩ := exists_of_andThen h
      rw [outcome_ofExcept] at hblueprint
      have hb : request.blueprint = .ok blueprint := (Prod.mk.inj hblueprint).1
      cases blueprint with
      | none =>
          rw [args, hb]
          rfl
      | some b =>
          obtain ⟨statement, last, -, h⟩ := exists_of_andThen h
          cases h
  | some statement =>
      obtain ⟨d, settings, events, -, hcompile⟩ := exists_compile_of_compileAs h
      obtain ⟨b, hb, -⟩ := exists_blueprint_of_compile hcompile
      obtain ⟨f, values, -, hbound, -, hargs, -⟩ := exists_of_compile hcompile
      rw [args, hb]
      simp only [Bind.bind, Except.bind, hbound, Option.map_some, hargs]
      rfl

namespace Command

variable {c : Command} {choice : DialectChoice} {session after : Session}

/-- A command that is compiled asks for something. -/
theorem exists_request_of_compile {written : Option Statement}
    (h : outcome (c.compile choice) session = (.ok written, after)) :
    ∃ request, c.request session.store = .ok request := by
  cases c with
  | fetch r =>
      obtain ⟨statement, h, -⟩ := exists_of_map h
      obtain ⟨q, hq⟩ := exists_settle_of_andThen h
      exact ⟨.fetch q.selection, by rw [request, hq]; rfl⟩
  | count r =>
      obtain ⟨statement, h, -⟩ := exists_of_map h
      obtain ⟨q, hq⟩ := exists_settle_of_andThen h
      exact ⟨.count q.selection, by rw [request, hq]; rfl⟩
  | update r =>
      obtain ⟨statement, h, -⟩ := exists_of_map h
      obtain ⟨_, _, hget, h⟩ := exists_of_andThen h
      cases hget
      obtain ⟨b, next, hb, h⟩ := exists_of_andThen h
      rw [outcome_ofExcept] at hb
      obtain ⟨u, hu, hrest⟩ := exists_of_bind (Prod.mk.inj hb).1
      obtain ⟨written, -, hrest⟩ := exists_of_bind hrest
      obtain ⟨draft, hdraft, hrest⟩ := exists_of_bind hrest
      cases hquery : draft.query.isUpdate with
      | true =>
          rw [hquery] at hrest
          cases hrest
          exact absurd h (outcome_compile_throw _ _ _ _ _)
      | false => exact ⟨_, request_update hu hdraft hquery⟩
  | updateRow r schema? =>
      obtain ⟨s, next, hs, -⟩ := exists_of_andThen h
      rw [schemaFor_eq, outcome_ofExcept] at hs
      exact ⟨_, request_updateRow (Prod.mk.inj hs).1⟩
  | deleteRow r schema? =>
      obtain ⟨statement, h, -⟩ := exists_of_map h
      obtain ⟨s, next, hs, -⟩ := exists_of_andThen h
      rw [schemaFor_eq, outcome_ofExcept] at hs
      exact ⟨_, request_deleteRow (Prod.mk.inj hs).1⟩
  | insertRow r schema? =>
      obtain ⟨statement, h, -⟩ := exists_of_map h
      obtain ⟨s, next, hs, -⟩ := exists_of_andThen h
      rw [schemaFor_eq, outcome_ofExcept] at hs
      exact ⟨_, request_insertRow (Prod.mk.inj hs).1⟩

/-- The statement of a command is that of its request in the dialect chosen. -/
theorem exists_compile_of_outcome {statement : Statement} {d : Dialect}
    (hd : (outcome (dialect choice) session).1 = .ok d)
    (h : (outcome (c.compile choice) session).1 = .ok (some statement)) :
    ∃ request settings events, c.request session.store = .ok request ∧
      request.compile settings d = .ok (some (statement, events)) := by
  have hout : outcome (c.compile choice) session =
      (.ok (some statement), (outcome (c.compile choice) session).2) := Prod.ext h rfl
  obtain ⟨request, hrequest⟩ := exists_request_of_compile hout
  rw [outcome_compile hrequest] at hout
  obtain ⟨chosen, settings, events, hchosen, hcompile⟩ := Request.exists_compile_of_compileAs hout
  obtain rfl : d = chosen := Except.ok.inj (hd.symm.trans hchosen)
  exact ⟨request, settings, events, hrequest, hcompile⟩

/-- What a command is compiled to has the values of the command. -/
theorem args_of_compile {written : Option Statement}
    (h : outcome (c.compile choice) session = (.ok written, after)) :
    c.args session.store = .ok (written.map Statement.args) := by
  obtain ⟨request, hrequest⟩ := exists_request_of_compile h
  rw [outcome_compile hrequest] at h
  rw [args, hrequest]
  exact Request.args_of_compileAs h

/--
The values of a command are the same, one by one, in every two sessions that
hold the same builders and compile it, whatever dialects and settings they
have; and there is nothing to be done in the one if there is not in the other.
-/
theorem args_eq_of_compile {c : Command} {session session' : Session}
    (hstore : session'.store = session.store) {choice choice' : DialectChoice}
    {written written' : Option Statement}
    (h : (outcome (c.compile choice) session).1 = .ok written)
    (h' : (outcome (c.compile choice') session').1 = .ok written') :
    written'.map Statement.args = written.map Statement.args := by
  have hargs := args_of_compile (Prod.ext h rfl)
  have hargs' := args_of_compile (Prod.ext h' rfl)
  rw [hstore] at hargs'
  exact Except.ok.inj (hargs'.symm.trans hargs)

/-- Visits to a museum, by day. -/
def visits : Schema where
  identifier := ["visits"]
  columns := [{ name := "visit_id", type := "int" }, { name := "day", type := "int" }]
  primaryKeys := ["visit_id"]

/-- A session with a window of the visits on a day that have another one on a later day. -/
def museum : Session where
  store := { queries := #[
    { schema := visits
      conditions := [.compare "day" .ilike (.int 3) false none]
      related := [.related "visit_id" ⟨1, false⟩ "visit_id" false]
      limit := some 5 },
    { schema := visits, conditions := [.compare "day" .gt (.int 3) false none] }] }

/-- A dialect with placeholders of its own, and with another word for a comparison. -/
def plainDialect : Dialect := (Dialect.ofBuiltIn .mysql).vary {
  placeholder := some fun i => ":" ++ i, operators := [("ilike", "~*")], orderForPaging := some true }

/-- The statements differ, and the values do not. -/
theorem args_eq_of_compile_museum :
    ∃ statement statement' : Statement, statement.sql ≠ statement'.sql ∧
      (outcome ((Command.count ⟨0, false⟩).compile (.named "mssql")) museum).1 =
        .ok (some statement) ∧
      (outcome ((Command.count ⟨0, false⟩).compile (.given plainDialect)) museum).1 =
        .ok (some statement') ∧
      statement'.args = statement.args := by
  have hargs {statement statement' : Statement}
      (h : (outcome ((Command.count ⟨0, false⟩).compile (.named "mssql")) museum).1 =
        .ok (some statement))
      (h' : (outcome ((Command.count ⟨0, false⟩).compile (.given plainDialect)) museum).1 =
        .ok (some statement')) : statement'.args = statement.args :=
    Option.some.inj (args_eq_of_compile rfl h h')
  exact ⟨_, _, by decide, rfl, rfl, hargs rfl rfl⟩

end Command

end SqlCompose
