import SqlCompose.Proofs.Query.History
import SqlCompose.Proofs.Query.Reach
import SqlCompose.Proofs.Session.Argument
import SqlCompose.Proofs.Statement.Entry
import SqlCompose.Proofs.Statement.Nullable

/-!
# What the updates of a session set

The assignments of an update are given to it by calls, and the statement of the
update has an entry for each of the calls that were accepted, in their order.
An entry says NULL of a column that takes none just where the call gave a
clause that the caller made with NULL for its value, and not with the kind that
says so.  Such a clause goes by the check that all others meet.

## Main results

* `Command.entries_of_compile` — the entries of an update from the calls on it,
  and which of them clear a column that takes no NULL.
* `Command.clears_receiver` — there is an update with such an entry.
-/

namespace SqlCompose

open SqlCompose.Action

namespace SetEntry

/-- Whether an entry sets a column to NULL that takes none, in a statement with the arguments. -/
def Clears (s : Schema) (args : List Value) : SetEntry → Prop
  | null column => s.Requires column
  | bound column place => s.Requires column ∧ args[place]? = some .null
  | manual .. => False

/-- An entry clears a column just if its assignment does. -/
theorem Writes.clears_iff {ρ : Type} {s : Schema} {args : List Value} {c : Clause ρ}
    {e : SetEntry} (h : e.Writes args c) : e.Clears s args ↔ c.Clears s := by
  cases h with
  | null => exact Iff.rfl
  | bound harg =>
      rw [Clears, harg, Option.some_inj, Value.toBind_eq_null_iff]
      exact Iff.rfl
  | manual => exact Iff.rfl

end SetEntry

namespace Store

/-- The table of a builder. -/
def tableOf (st : Store) : Builder → Except Error Schema
  | .query r => do return (← st.query r).schema
  | .update r => do st.updateSchema (← st.update r)

theorem updateSchema_of_tableOf {st : Store} {r : UpdateRef} {draft : UpdateDraft} {s : Schema}
    (hs : st.tableOf (.update r) = .ok s) (hdraft : st.update r = .ok draft) :
    st.updateSchema draft = .ok s := by
  rw [tableOf, hdraft] at hs
  exact hs

/-- An assignment that cannot be made is refused by each builder of its table. -/
theorem apply_assign_of_error {st : Store} {b : Builder} {s : Schema} (hs : st.tableOf b = .ok s)
    {form : AssignmentForm} {e : Error} (h : form.source s = .error e) :
    (Edit.assign b form).apply st = .error e := by
  cases b with
  | query r =>
      obtain ⟨q, hq, hs⟩ := exists_of_bind hs
      cases hs
      simp only [Edit.apply, startUpdate, hq, Bind.bind, Except.bind, h]
  | update r =>
      obtain ⟨u, hu, hs⟩ := exists_of_bind hs
      simp only [Edit.apply, addAssignment, hu, Bind.bind, Except.bind, hs, h]

/-- A settled update has the table of the update. -/
theorem schema_of_settleUpdate {st : Store} {r : UpdateRef} {draft : UpdateDraft} {s : Schema}
    {u : Update} (hs : st.tableOf (.update r) = .ok s) (hdraft : st.update r = .ok draft)
    (hquery : draft.query.isUpdate = false) (hu : st.settleUpdate r = .ok u) :
    u.query.schema = s := by
  obtain ⟨picked, hpicked, hs⟩ := exists_of_bind (updateSchema_of_tableOf hs hdraft)
  cases hs
  exact (eq_of_settle hpicked hquery (settle_of_settleUpdate hdraft hquery hu).1).1

end Store

namespace Command

/--
In a session whose builders were made by the given calls, an update that is
compiled has an entry for each assignment that was given to it, in the order of
the calls, and nothing else before its condition.  An entry sets a column to
NULL that takes none just if it was given as a clause with NULL for its value.
Whatever else asks for NULL in such a column is refused by each builder of its
table.
-/
theorem entries_of_compile {calls : History} {session : Session}
    (hmade : session.store.IsMadeBy calls) {r : UpdateRef} {s : Schema}
    (hs : session.store.tableOf (.update r) = .ok s) {choice : DialectChoice} {d : Dialect}
    (hd : (outcome (dialect choice) session).1 = .ok d) {statement : Statement}
    (h : (outcome ((Command.update r).compile choice) session).1 = .ok (some statement)) :
    (∃ entries rest,
      statement.sql = "UPDATE " ++ (Fragment.table s.identifier).text d ++ " SET " ++
        ", ".intercalate (SetEntry.written d entries) ++ rest ∧
      (rest = "" ∨ ∃ condition, rest = " WHERE ( " ++ condition ++ " )") ∧
      List.Forall₂ (fun form e => ∃ c, form.source s = .ok c ∧ e.Writes statement.args c ∧
          (e.Clears s statement.args ↔ form.IsBareNull s))
        (calls.given Edit.form? (.update r)) entries) ∧
    ∀ (st : Store) (b : Builder) (form : AssignmentForm) (c : Column) (v : Value),
      st.tableOf b = .ok s → form.Asks s c v → c.nullable = false →
        (Edit.assign b form).apply st = .error (.valueMismatch c.name c.type v) := by
  refine ⟨?_, fun st b form c v hb hasks hnullable =>
    Store.apply_assign_of_error hb (hasks.refused hnullable)⟩
  obtain ⟨request, settings, events, hrequest, hstatement⟩ := exists_compile_of_outcome hd h
  obtain ⟨draft, u, hdraft, hquery, hu, rfl⟩ := exists_settleUpdate_of_request hrequest
  obtain rfl := Store.schema_of_settleUpdate hs hdraft hquery hu
  obtain ⟨-, hsettled⟩ := Store.settle_of_settleUpdate hdraft hquery hu
  have hassign := hmade.isMade.isClosed.assignsOnly.settleUpdate hu
  obtain ⟨entries, rest, hentries, hsql, hrest⟩ :=
    Request.exists_entries_of_update hassign hstatement
  refine ⟨entries, rest, hsql, hrest, ?_⟩
  -- What was given has become the assignments of the update, which have been settled.
  have hgiven := hmade.records.assignments r draft u.query.schema hdraft
    (Store.updateSchema_of_tableOf hs hdraft)
  have hwritten := forall₂_of_mapM_left hgiven (forall₂_of_mapM_left hsettled hentries)
  refine hwritten.imp fun form e => ?_
  rintro ⟨c, hc, settled, hfollowed, hwrites⟩
  have hown : e.Writes statement.args c := hwrites.of_follow hfollowed
  exact ⟨c, hc, hown, hown.clears_iff.trans (AssignmentForm.clears_iff hc)⟩

/-- The parcels in a depot, of which every one has a receiver. -/
def parcels : Schema where
  identifier := ["parcels"]
  columns := [
    { name := "parcel_id", type := "int", nullable := false },
    { name := "receiver", type := "text", nullable := false }, { name := "note", type := "text" }]
  primaryKeys := ["parcel_id"]

/-- A note for all parcels. -/
def fragile : AssignmentForm :=
  .value (fun _ => .ok (.named (.text "note"))) (.text "fragile")

/-- No receiver for any parcel, by a clause that says so with its value. -/
def unclaimed : AssignmentForm := .clause fun _ => .ok (.assign "receiver" .unset none)

/-- An update that all parcels get the note by, and lose their receiver. -/
def depotCalls : History :=
  [(.select ⟨"Parcel", some parcels⟩, .query ⟨0, false⟩),
    (.assign (.query ⟨0, false⟩) fragile, .update ⟨0⟩),
    (.assign (.update ⟨0⟩) unclaimed, .update ⟨0⟩)]

/-- A session in which the calls were made. -/
def depot : Session where
  environment := { kept := some {} }
  store := {
    queries := #[{ schema := parcels }]
    updates := #[⟨⟨0, false⟩, [.assign "note" (.text "fragile") (some "parcels"),
      .assign "receiver" .unset none]⟩] }

private theorem isMadeBy_depot : depot.store.IsMadeBy depotCalls := by
  have hselect := Store.IsMadeBy.empty.edit (e := depotCalls[0].1) trivial rfl
  have hnote := hselect.edit (e := depotCalls[1].1) ⟨rfl, by decide⟩ rfl
  exact hnote.edit (e := depotCalls[2].1) Nat.zero_lt_one rfl

/-- The entry for the receiver clears it, where NULL by its kind is refused by the same update. -/
theorem entries_of_compile_depot :
    ∃ statement, (outcome ((Command.update ⟨0⟩).compile (.named "postgres")) depot).1 =
        .ok (some statement) ∧
      (∃ note receiver rest,
        statement.sql = "UPDATE \"parcels\" SET " ++
          ", ".intercalate (SetEntry.written (.ofBuiltIn .postgres) [note, receiver]) ++ rest ∧
        ¬ note.Clears parcels statement.args ∧ receiver.Clears parcels statement.args) ∧
      (Edit.assign (.update ⟨0⟩) (.clause fun _ => .ok (.assignNull "receiver" none))).apply
        depot.store = .error (.valueMismatch "receiver" "text" .null) := by
  obtain ⟨statement, hstatement⟩ : ∃ statement,
      (outcome ((Command.update ⟨0⟩).compile (.named "postgres")) depot).1 =
        .ok (some statement) := ⟨_, rfl⟩
  obtain ⟨⟨entries, rest, hsql, -, hentries⟩, hrefused⟩ := entries_of_compile
    (s := parcels) isMadeBy_depot rfl rfl hstatement
  have hreceiver : parcels.find? "receiver" =
      some { name := "receiver", type := "text", nullable := false } := rfl
  refine ⟨statement, hstatement, ?_, hrefused depot.store (.update ⟨0⟩) _ _ .null rfl
    (.cleared rfl hreceiver) rfl⟩
  have hgiven : depotCalls.given Edit.form? (.update ⟨0⟩) = [fragile, unclaimed] := rfl
  rw [hgiven] at hentries
  cases hentries with
  | cons hnote hentries =>
      cases hentries with
      | cons hlost hentries =>
          cases hentries
          obtain ⟨-, -, -, hnote⟩ := hnote
          obtain ⟨-, -, -, hlost⟩ := hlost
          exact ⟨_, _, rest, hsql, hnote.1, hlost.2 ⟨_, rfl, ⟨_, hreceiver, rfl⟩, rfl⟩⟩

/-- A column that takes no NULL is set to an argument that is NULL. -/
theorem clears_receiver :
    depot.store.IsMadeBy depotCalls ∧ parcels.Requires "receiver" ∧
      ∃ statement, (outcome ((Command.update ⟨0⟩).compile (.named "postgres")) depot).1 =
          .ok (some statement) ∧
        statement.sql = "UPDATE \"parcels\" SET \"note\"=$1, \"receiver\"=$2" ∧
        statement.args = [.text "fragile", .null] :=
  ⟨isMadeBy_depot, ⟨_, rfl, rfl⟩, _, rfl, rfl, rfl⟩

end Command

end SqlCompose
