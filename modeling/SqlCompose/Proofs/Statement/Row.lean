import SqlCompose.Proofs.Statement.Writing
import SqlCompose.Statement.Row

/-!
# Layouts of statements on one row

The statements on one model object walk over columns: each value is read,
checked and bound before the next column is looked at.  What such a walk
binds is the list of checked values (`Record.checkedValues`), an `Except`
that fails with the first value that does not pass; what it writes depends
on the columns alone, one placeholder after the other
(`Column.numbered`).  An insert walks over the columns that were given a
value (`Record.given`).

## Main results

* `Record.specOf_walk` — a walk over columns binds their checked values and
  writes every column with the placeholder that is next.
* `Record.specOf_writeUpdate`, `Record.specOf_writeDelete`,
  `Record.outcome_insert_of_ok` — what the three statements bind and write.
-/

namespace SqlCompose

open Writing

/-! ## Steps that check -/

namespace Writing

variable {α β : Type}

/-- The faults of what may have failed. -/
def faultsOf : Except Error α → List Error
  | .ok _ => []
  | .error e => [e]

/-- The values of what may have failed; there are none if it did. -/
def valuesOf : Except Error (List Value) → List Value
  | .ok vs => vs
  | .error _ => []

/-- The description of a step that binds values, or fails where they do not pass a check. -/
def SpecOf (w : Writing α) (bound : Except Error (List Value)) (taken : Nat)
    (answer : Nat → Nat → α) : Prop :=
  Spec w (faultsOf bound) (valuesOf bound) taken answer

/-- One value is checked and bound. -/
theorem specOf_bind (checked : Except Error Value) (write : Piece → α) :
    SpecOf (do return write (← bind (← ofExcept checked))) (checked.map fun v => [v]) 0
      fun issued _ => write (.mark (issued + 1)) := by
  cases checked with
  | error e =>
      have h := (spec_throw e fun _ _ => write (.mark 0)).of_fault [] [] 0
        fun issued _ => write (.mark (issued + 1))
      simpa [SpecOf, faultsOf, valuesOf, Except.map] using h
  | ok v =>
      have h := (spec_bind v).andThen fun mark => spec_pure (write mark)
      simpa [SpecOf, faultsOf, valuesOf, Except.map] using h

/-- Checks in a row are one check. -/
theorem ofExcept_andThen (e : Except Error α) (f : α → Except Error β) :
    (do ofExcept (f (← ofExcept e))) = ofExcept (e >>= f) := by
  cases e <;> rfl

/-- A change of the answer alone. -/
theorem SpecOf.map {w : Writing α} {bound : Except Error (List Value)} {taken : Nat}
    {answer : Nat → Nat → α} (hw : SpecOf w bound taken answer) (g : α → β) :
    SpecOf (do return g (← w)) bound taken fun issued aliases => g (answer issued aliases) := by
  have h := Spec.andThen hw fun a => spec_pure (g a)
  simpa [SpecOf] using h

/-- Two checked steps in a row, of which the first binds a known number of values. -/
theorem SpecOf.andThen {w : Writing α} {k : α → Writing β}
    {bound bound' : Except Error (List Value)} {taken taken' count : Nat}
    {answer : Nat → Nat → α} {answer' : α → Nat → Nat → β}
    (hw : SpecOf w bound taken answer) (hcount : ∀ vs, bound = .ok vs → vs.length = count)
    (hk : ∀ a, SpecOf (k a) bound' taken' (answer' a)) :
    SpecOf (w >>= k) (do return (← bound) ++ (← bound')) (taken + taken')
      fun issued aliases => answer' (answer issued aliases) (issued + count) (aliases + taken) := by
  have h := Spec.andThen hw hk
  cases bound with
  | error e => exact h.of_fault [] [] _ _
  | ok vs =>
      rw [show valuesOf (.ok vs) = vs from rfl, hcount vs rfl] at h
      cases bound' with
      | error e => exact h.of_fault [] [] _ _
      | ok ws => exact h

end Writing

/-! ## Walks over columns -/

/-- The equality of a column with a placeholder. -/
def Column.equality (c : Column) (mark : Piece) : Fragment := [.name c.name, .word "=", mark]

/-- A column with a placeholder for its value. -/
def Column.cell (c : Column) (mark : Piece) : Fragment × Fragment := ([.name c.name], [mark])

/-- What is written for columns, with placeholders numbered from the given one. -/
def Column.numbered {α : Type} (write : Column → Piece → α) (columns : List Column)
    (first : Nat) : List α :=
  (columns.zipIdx first).map fun (c, n) => write c (.mark n)

namespace Record

variable {α : Type}

/-- The value of a column in an object, if it passes the check. -/
def checkedValue (r : Record) (s : Schema) (check : Column → Value → Except Error Value)
    (c : Column) : Except Error Value := do
  check c (← s.valueOf r c.name)

/-- The values of columns in an object, if all of them pass the check. -/
def checkedValues (r : Record) (s : Schema) (check : Column → Value → Except Error Value)
    (columns : List Column) : Except Error (List Value) :=
  columns.mapM (r.checkedValue s check)

/-- Checks the value of a column, binds it, and writes the column with its placeholder. -/
def writeChecked (r : Record) (s : Schema) (check : Column → Value → Except Error Value)
    (write : Column → Piece → α) (c : Column) : Writing α := do
  let value ← Writing.ofExcept (s.valueOf r c.name)
  let value ← Writing.ofExcept (check c value)
  let mark ← Writing.bind value
  return write c mark

/-- The step for one column: reading and checking its value may fail, and then it is bound. -/
theorem specOf_writeChecked (r : Record) (s : Schema)
    (check : Column → Value → Except Error Value) (write : Column → Piece → α) (c : Column) :
    SpecOf (r.writeChecked s check write c) ((r.checkedValue s check c).map fun v => [v]) 0
      fun issued _ => write c (.mark (issued + 1)) := by
  have h := specOf_bind (r.checkedValue s check c) (write c)
  unfold checkedValue at h ⊢
  rw [← ofExcept_andThen] at h
  simpa [writeChecked] using h

/--
A walk over columns binds their checked values, one for each column, and
writes every column with the placeholder that is next.
-/
theorem specOf_walk (r : Record) (s : Schema) (check : Column → Value → Except Error Value)
    (write : Column → Piece → α) (columns : List Column) :
    SpecOf (columns.mapM (r.writeChecked s check write)) (r.checkedValues s check columns) 0
      fun issued _ => Column.numbered write columns (issued + 1) := by
  induction columns with
  | nil => exact spec_pure []
  | cons c rest ih =>
      have hone : ∀ vs, (r.checkedValue s check c).map (fun v => [v]) = .ok vs →
          vs.length = 1 := by
        intro vs h
        cases hc : r.checkedValue s check c with
        | error e => simp [hc, Except.map] at h
        | ok v =>
            rw [hc] at h
            cases h
            rfl
      have hwalk := (r.specOf_writeChecked s check write c).andThen hone
        fun f => ih.map (f :: ·)
      have hbound : r.checkedValues s check (c :: rest) =
          (do return (← (r.checkedValue s check c).map fun v => [v]) ++
            (← r.checkedValues s check rest)) := by
        unfold checkedValues
        rw [List.mapM_cons]
        cases r.checkedValue s check c <;> rfl
      rw [List.mapM_cons, hbound]
      exact hwalk

/-- There is one value for each column. -/
theorem length_of_checkedValues {r : Record} {s : Schema}
    {check : Column → Value → Except Error Value} {columns : List Column} {vs : List Value}
    (h : r.checkedValues s check columns = .ok vs) : vs.length = columns.length := by
  induction columns generalizing vs with
  | nil =>
      cases h
      rfl
  | cons c rest ih =>
      unfold checkedValues at h ih
      rw [List.mapM_cons] at h
      cases hc : r.checkedValue s check c with
      | error e => simp [hc, Bind.bind, Except.bind] at h
      | ok v =>
          cases hrest : rest.mapM (r.checkedValue s check) with
          | error e => simp [hc, hrest, Bind.bind, Except.bind] at h
          | ok ws =>
              rw [hc, hrest] at h
              cases h
              simp [ih hrest]

/-! ## Updates and deletions -/

/-- The checked values of the key. -/
def keyValues (r : Record) (s : Schema) : Except Error (List Value) :=
  r.checkedValues s Column.validateKey s.keyColumns

/-- The checked values of the columns that are no key. -/
def plainValues (r : Record) (s : Schema) : Except Error (List Value) :=
  r.checkedValues s Column.validate s.plainColumns

/-- The condition that finds the row, with placeholders numbered from the given one. -/
def keyLayout (s : Schema) (first : Nat) : Fragment :=
  Fragment.joinWith " AND " (Column.numbered Column.equality s.keyColumns first)

theorem specOf_writeKey (r : Record) (s : Schema) :
    SpecOf (s.writeKey r) (r.keyValues s) 0 fun issued _ => keyLayout s (issued + 1) :=
  (r.specOf_walk s Column.validateKey Column.equality s.keyColumns).map
    (Fragment.joinWith " AND ")

/-- An update of the row. -/
def updateLayout (s : Schema) (first : Nat) : Fragment :=
  .word "UPDATE " :: Fragment.table s.identifier ++ .word " SET " ::
    Fragment.joinWith ", " (Column.numbered Column.equality s.plainColumns first) ++
    .word " where " :: keyLayout s (first + s.plainColumns.length)

theorem specOf_writeUpdate (r : Record) (s : Schema) (d : Dialect) :
    SpecOf (r.writeUpdate s d) (do return (← r.plainValues s) ++ (← r.keyValues s)) 0
      fun issued _ => updateLayout s (issued + 1) := by
  have h := (r.specOf_walk s Column.validate Column.equality s.plainColumns).andThen
    (fun _ hvs => length_of_checkedValues hvs) fun assignments =>
      (r.specOf_writeKey s).map fun key =>
        .word "UPDATE " :: Fragment.table s.identifier ++ .word " SET " ::
          Fragment.joinWith ", " assignments ++ .word " where " :: key
  have hnumber : ∀ issued : Nat, issued + 1 + s.plainColumns.length =
      issued + s.plainColumns.length + 1 := fun issued => by omega
  simp only [updateLayout, hnumber]
  exact h

/-- A deletion of the row. -/
def deleteLayout (s : Schema) (first : Nat) : Fragment :=
  .word "DELETE FROM " :: Fragment.table s.identifier ++ .word " where " :: keyLayout s first

theorem specOf_writeDelete (r : Record) (s : Schema) (d : Dialect) :
    SpecOf (r.writeDelete s d) (r.keyValues s) 0 fun issued _ => deleteLayout s (issued + 1) :=
  (r.specOf_writeKey s).map fun key =>
    .word "DELETE FROM " :: Fragment.table s.identifier ++ .word " where " :: key

/-! ## Inserts -/

/-- Whether the object leaves the value of a column open. -/
def leavesOpen (r : Record) (s : Schema) (c : Column) : Bool :=
  match s.valueOf r c.name with
  | .ok .unset => true
  | _ => false

/-- The columns that the object has values for. -/
def given (r : Record) (s : Schema) : List Column := s.columns.filter fun c => !r.leavesOpen s c

/-- The checked values of the columns that the object has values for. -/
def givenValues (r : Record) (s : Schema) : Except Error (List Value) :=
  r.checkedValues s Column.validate (r.given s)

/-- A column that is left open is passed over, and any other one is checked and bound. -/
private theorem writeCell_eq (r : Record) (s : Schema) (c : Column) :
    r.writeCell s c =
      if r.leavesOpen s c then pure none
      else some <$> r.writeChecked s Column.validate Column.cell c := by
  unfold writeCell leavesOpen writeChecked
  cases s.valueOf r c.name with
  | error e => simp
  | ok v => cases v <;> simp [Column.cell]

/-- Passing over the columns that are left open is walking over the others. -/
private theorem filterMap_writeCell (r : Record) (s : Schema) (columns : List Column) :
    (do return (← columns.mapM (r.writeCell s)).filterMap id) =
      (columns.filter fun c => !r.leavesOpen s c).mapM
        (r.writeChecked s Column.validate Column.cell) := by
  induction columns with
  | nil => rfl
  | cons c rest ih =>
      rw [List.mapM_cons, writeCell_eq, List.filter_cons]
      cases hopen : r.leavesOpen s c with
      | true =>
          simpa using ih
      | false =>
          simp only [Bool.not_false, if_true, List.mapM_cons, ← ih]
          simp

/-- An insert of the columns that the object has values for, if it has any. -/
def insertLayout (r : Record) (s : Schema) (d : Dialect) (first : Nat) :
    Except Error Fragment :=
  if (r.given s).isEmpty then .error (.compilation (.nothingInserted s.tableName))
  else d.insertion (Fragment.table s.identifier)
    (Column.numbered Column.cell (r.given s) first) s.columns

/-- An insert that is written has a form of the dialect's, over the columns with a value. -/
theorem exists_of_insertLayout {r : Record} {s : Schema} {d : Dialect} {first : Nat} {f : Fragment}
    (h : r.insertLayout s d first = .ok f) : r.given s ≠ [] ∧
      ∃ form, d.rowReturn? = some form ∧ f = form (Fragment.table s.identifier)
        (Column.numbered Column.cell (r.given s) first) s.columns := by
  unfold insertLayout at h
  split at h
  · cases h
  · rename_i hgiven
    refine ⟨mt List.isEmpty_iff.2 hgiven, ?_⟩
    unfold Dialect.insertion at h
    cases hform : d.rowReturn? with
    | none =>
        rw [hform] at h
        cases h
    | some form =>
        rw [hform] at h
        cases h
        exact ⟨form, rfl, rfl⟩

private theorem insert_eq (r : Record) (s : Schema) (d : Dialect) :
    r.insert s d = (r.given s).mapM (r.writeChecked s Column.validate Column.cell) >>=
      fun cells => if cells.isEmpty then throw (.compilation (.nothingInserted s.tableName))
        else Writing.ofExcept (d.insertion (Fragment.table s.identifier) cells s.columns) := by
  unfold insert given
  rw [← filterMap_writeCell]
  simp

private theorem isEmpty_numbered {α : Type} (write : Column → Piece → α)
    (columns : List Column) (first : Nat) :
    (Column.numbered write columns first).isEmpty = columns.isEmpty := by
  cases columns <;> rfl

/-- Where a value does not pass its check, nothing is inserted. -/
theorem outcome_insert_of_error {r : Record} {s : Schema} {e : Error}
    (h : r.givenValues s = .error e) (d : Dialect) (draft : Draft) :
    (outcome (r.insert s d) draft).1 = .error e := by
  have hwalk := r.specOf_walk s Column.validate Column.cell (r.given s)
  rw [show r.checkedValues s Column.validate (r.given s) = .error e from h] at hwalk
  have hfail := hwalk.fails e rfl draft
  rw [insert_eq, outcome_andThen]
  rcases hout : outcome ((r.given s).mapM (r.writeChecked s Column.validate Column.cell)) draft
    with ⟨_ | cells, next⟩
  · rw [hout] at hfail
    cases hfail
    rfl
  · rw [hout] at hfail
    cases hfail

/-- Where all values pass their checks, they are bound, and the rest is up to the dialect. -/
theorem outcome_insert_of_ok {r : Record} {s : Schema} {vs : List Value}
    (h : r.givenValues s = .ok vs) (d : Dialect) (draft : Draft) :
    outcome (r.insert s d) draft =
      (r.insertLayout s d (draft.issued + 1), draft.advance vs 0) := by
  have hwalk := r.specOf_walk s Column.validate Column.cell (r.given s)
  rw [show r.checkedValues s Column.validate (r.given s) = .ok vs from h] at hwalk
  rw [insert_eq, outcome_andThen, hwalk.writes rfl draft]
  simp only [isEmpty_numbered, insertLayout]
  split
  · rfl
  · cases d.insertion (Fragment.table s.identifier)
      (Column.numbered Column.cell (r.given s) (draft.issued + 1)) s.columns <;> rfl

end Record

end SqlCompose
