import SqlCompose.Proofs.Query.Interleaving
import SqlCompose.Proofs.Session.Frame

/-!
# Calls in another order, compiled

A query and an update of its rows are built by calls of several kinds, some of
them on the query after the update was made.  How the kinds are mixed cannot
be told from any statement (`Command.outcome_compile_of_sameCalls`).
-/

namespace SqlCompose

open SqlCompose.Action

namespace Command

/--
Two runs of accepted calls on a query and on an update of its rows, from the
same store, that give the same conditions, relations, orders and assignments,
each kind in its order, and the same limit and offset at last.  The rows of
the query, their number and the update are compiled to the same, in every
dialect and in every session.
-/
theorem outcome_compile_of_sameCalls {r : QueryRef} {u : UpdateRef} {start st st' : Store}
    {calls calls' : List Edit} (hr : r.IsIn start)
    (hu : ∀ draft, start.update u = .ok draft → draft.query = r)
    (h : start.Runs r u calls st) (h' : start.Runs r u calls' st')
    (hsame : SameCalls calls calls') (hthere : u.IsIn st ↔ u.IsIn st') :
    ∀ c ∈ (Builder.query r).commands ++ (Builder.update u).commands,
      ∀ (choice : DialectChoice) (session : Session),
        outcome (c.compile choice) { session with store := st } =
          outcome (c.compile choice) { session with store := st' } := by
  intro c _ choice session
  rw [h.eq h' hr hu hsame hthere]

/-- The trees of a park. -/
def trees : Schema where
  identifier := ["trees"]
  columns := [{ name := "tree_id", type := "int" }, { name := "height", type := "int" }]
  primaryKeys := ["tree_id"]

/-- The birds that nest in them. -/
def nests : Schema where
  identifier := ["nests"]
  columns := [{ name := "tree_id", type := "int" }]
  primaryKeys := []

/-- A store with a query over all trees. -/
def park : Store := { queries := #[{ schema := trees }] }

/-- The name of a column, the same in every table. -/
def columnCalled (name : String) : ColumnSource := fun _ => .ok (.named (.text name))

/-- The trees that are tall. -/
def tall : Edit :=
  .condition ⟨0, false⟩ fun _ => .ok (.compare "height" .gt (.int 20) false none)

/-- The trees with a nest. -/
def nested : Edit :=
  .related ⟨0, false⟩ (.model ⟨"Nest", some nests⟩) (columnCalled "tree_id")
    (columnCalled "tree_id") false

/-- The height that a tree is cut to. -/
def cut : AssignmentForm := .value (columnCalled "height") (.int 15)

/-- The trees are picked, then cut, and only then limited. -/
def pickThenCut : List Edit :=
  [tall, nested, .limit ⟨0, false⟩ (.int 9), .assign (.query ⟨0, false⟩) cut,
    .limit ⟨0, false⟩ (.int 3)]

/-- The update is there from the beginning. -/
def cutWhilePicking : List Edit :=
  [.update ⟨0, false⟩, .limit ⟨0, false⟩ (.int 3), nested, .assign (.update ⟨0⟩) cut, tall]

/-- The trees are cut by the same statement, whichever way it is built. -/
theorem outcome_compile_of_sameCalls_trees :
    ∃ st st', park.Runs ⟨0, false⟩ ⟨0⟩ pickThenCut st ∧
      park.Runs ⟨0, false⟩ ⟨0⟩ cutWhilePicking st' ∧
      (outcome ((update ⟨0⟩).compile (.named "sqlite")) { store := st }).1 =
        (outcome ((update ⟨0⟩).compile (.named "sqlite")) { store := st' }).1 ∧
      (outcome ((count ⟨0, false⟩).compile (.named "mysql")) { store := st }).1 =
        (outcome ((count ⟨0, false⟩).compile (.named "mysql")) { store := st' }).1 := by
  have hthere : QueryRef.IsIn ⟨0, false⟩ park := ⟨rfl, by decide⟩
  have hnone : ∀ draft, park.update ⟨0⟩ = .ok draft → draft.query = ⟨0, false⟩ := nofun
  have hfirst : park.Runs ⟨0, false⟩ ⟨0⟩ [] park := .nil
  obtain ⟨st, hst, hin⟩ : ∃ st, park.Runs ⟨0, false⟩ ⟨0⟩ pickThenCut st ∧
      UpdateRef.IsIn ⟨0⟩ st := by
    have h := hfirst.call (e := tall) rfl rfl (.inl rfl)
    have h := h.call (e := nested) rfl rfl (.inl rfl)
    have h := h.call (e := .limit ⟨0, false⟩ (.int 9)) rfl rfl (.inl rfl)
    have h := h.call (e := .assign (.query ⟨0, false⟩) cut) rfl rfl (.inr rfl)
    have h := h.call (e := .limit ⟨0, false⟩ (.int 3)) rfl rfl (.inl rfl)
    exact ⟨_, h, Nat.zero_lt_one⟩
  obtain ⟨st', hst', hin'⟩ : ∃ st', park.Runs ⟨0, false⟩ ⟨0⟩ cutWhilePicking st' ∧
      UpdateRef.IsIn ⟨0⟩ st' := by
    have h := hfirst.call (e := .update ⟨0, false⟩) rfl rfl (.inr rfl)
    have h := h.call (e := .limit ⟨0, false⟩ (.int 3)) rfl rfl (.inl rfl)
    have h := h.call (e := nested) rfl rfl (.inl rfl)
    have h := h.call (e := .assign (.update ⟨0⟩) cut) rfl rfl (.inr rfl)
    have h := h.call (e := tall) rfl rfl (.inl rfl)
    exact ⟨_, h, Nat.zero_lt_one⟩
  have hsame : SameCalls pickThenCut cutWhilePicking := ⟨rfl, rfl, rfl, rfl, rfl, rfl⟩
  have hcompile := outcome_compile_of_sameCalls hthere hnone hst hst' hsame
    ⟨fun _ => hin', fun _ => hin⟩
  refine ⟨st, st', hst, hst', ?_, ?_⟩
  · exact congrArg Prod.fst (hcompile (update ⟨0⟩) (by simp [Builder.commands]) _ {})
  · exact congrArg Prod.fst (hcompile (count ⟨0, false⟩) (by simp [Builder.commands]) _ {})

end Command

end SqlCompose
