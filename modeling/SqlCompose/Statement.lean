import SqlCompose.Event
import SqlCompose.Settings
import SqlCompose.Statement.Draft

/-!
# Statements

A statement is SQL text with placeholders and the values that belong to them, in their order. What a
statement will say is a blueprint until a dialect is chosen; compiling it writes it in that dialect
and checks the number of values against the dialect's limit.
-/

namespace SqlCompose

/-- A finished statement. -/
structure Statement where
  sql : String
  /-- The values, in the order of their placeholders. -/
  args : List Value
  /-- The name of the dialect that it is written in. -/
  dialect : String

/-- The number of values. -/
def Statement.argCount (s : Statement) : Nat := s.args.length

namespace Draft

/-- Whether more values are bound than the dialect takes. -/
def isOverLimit (d : Dialect) (draft : Draft) : Bool := d.limit < draft.args.size

/-- The events of a statement that is finished. -/
def events (settings : Settings) (d : Dialect) (draft : Draft) (sql : String) : List Event :=
  (if draft.isOverLimit d then [.limitExceeded d.name draft.args.size d.limit] else []) ++
    (if settings.logStatements then [.compiled d.name sql draft.args.size] else [])

/-- The statement with the text and with the values of the draft, if they are not too many. -/
def settle (settings : Settings) (d : Dialect) (draft : Draft) (sql : String) :
    Except Error (Statement × List Event) :=
  if settings.enforceLimit && draft.isOverLimit d then
    .error (.tooManyParameters draft.args.size d.limit d.name)
  else .ok (⟨sql, draft.args.toList, d.name⟩, draft.events settings d sql)

end Draft

/-- What a statement says, to be written in any dialect. -/
abbrev Blueprint := Dialect → Writing Fragment

/-- The statement of a blueprint in a dialect, with the events on the way to it. -/
def Blueprint.compile (b : Blueprint) (settings : Except Error Settings) (d : Dialect) :
    Except Error (Statement × List Event) :=
  match (b d).outcome {} with
  | (.error e, _) => .error e
  | (.ok f, draft) =>
    match settings with
    | .error e => .error e
    | .ok s => draft.settle s d (f.text d)

end SqlCompose
