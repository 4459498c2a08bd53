import SqlCompose.Schema
import SqlCompose.Statement.Fragment

/-!
# Drafts

While a statement is written, its draft holds the values bound so far, the number of placeholders
given out, and the number of table aliases taken. Writing changes the draft and may fail; what was
bound before the failure stays in it.

Binding a value gives out one placeholder and adds one value (`outcome_bind`), which is the NULL of
the driver for a value that was left open.
-/

namespace SqlCompose

/-- What a statement has used up while it is written. -/
structure Draft where
  /-- The bound values, in the order of their placeholders. -/
  args : Array Value := #[]
  /-- The number of placeholders given out. -/
  issued : Nat := 0
  /-- The number of aliases taken. -/
  aliases : Nat := 0

/-- A step of writing a statement. -/
abbrev Writing (α : Type) := ExceptT Error (StateM Draft) α

namespace Writing

/-- The outcome of a step from a given draft, and the draft it leaves. -/
def outcome {α : Type} (w : Writing α) (start : Draft) : Except Error α × Draft :=
  StateT.run (ExceptT.run w) start

/-- Gives out the next placeholder. -/
def nextMark : Writing Piece := do
  let draft ← get
  set { draft with issued := draft.issued + 1 }
  return .mark (draft.issued + 1)

/-- Binds a value and gives out its placeholder. -/
def bind (v : Value) : Writing Piece := do
  modify fun draft => { draft with args := draft.args.push v.toBind }
  nextMark

/-- Binds values in order and gives out their placeholders. -/
def bindAll (vs : List Value) : Writing (List Piece) := do
  let draft ← get
  set { draft with
    args := draft.args ++ (vs.map Value.toBind).toArray
    issued := draft.issued + vs.length }
  return (List.range' (draft.issued + 1) vs.length).map .mark

/-- Takes the next alias. -/
def nextAlias : Writing Nat := do
  let draft ← get
  set { draft with aliases := draft.aliases + 1 }
  return draft.aliases + 1

/-- What depends on no draft. -/
def ofExcept {α : Type} (e : Except Error α) : Writing α := liftExcept e
where
  liftExcept : Except Error α → Writing α
    | .ok a => pure a
    | .error e => throw e

/-- Binding gives out one placeholder and adds one value. -/
theorem outcome_bind (v : Value) (draft : Draft) :
    outcome (bind v) draft =
      (.ok (.mark (draft.issued + 1)),
        { draft with args := draft.args.push v.toBind, issued := draft.issued + 1 }) := rfl

/-- Binding several values gives out as many placeholders and adds them in order. -/
theorem outcome_bindAll (vs : List Value) (draft : Draft) :
    outcome (bindAll vs) draft =
      (.ok ((List.range' (draft.issued + 1) vs.length).map .mark),
        { draft with
          args := draft.args ++ (vs.map Value.toBind).toArray
          issued := draft.issued + vs.length }) := rfl

/-- An alias is numbered one more than those taken before it. -/
theorem outcome_nextAlias (draft : Draft) :
    outcome nextAlias draft =
      (.ok (draft.aliases + 1), { draft with aliases := draft.aliases + 1 }) := rfl

end Writing

namespace Draft

/-- The number of placeholders that the dialect has left. -/
def remaining (d : Dialect) (draft : Draft) : Int := d.limit - draft.issued

end Draft

end SqlCompose
