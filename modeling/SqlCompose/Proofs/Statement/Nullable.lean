import SqlCompose.Proofs.Query.Edit
import SqlCompose.Proofs.Statement.Check

/-!
# Columns that take no NULL

An update may not assign NULL to a column that takes none.  Where an
assignment is given as a value for a column, or as NULL for it, this is
checked when the clause is made.  A clause that the caller made is looked at
once it is an assignment, and only if it is one that says NULL by its kind;
an assignment with NULL for its value passes as any other value would
(`Clause.IsBareNull`).  This is the one way by which NULL gets to such a
column; all others are refused with the same error.

## Main results

* `AssignmentForm.clears_iff` — what is accepted assigns NULL to a column that
  takes none just if it is given as such an assignment.
* `AssignmentForm.Asks.refused` — what asks for NULL in any other way is
  refused.
-/

namespace SqlCompose

/-- Whether a column of a table takes no NULL. -/
def Schema.Requires (s : Schema) (name : String) : Prop :=
  ∃ c, s.find? name = some c ∧ c.nullable = false

namespace Clause

variable {ρ : Type}

/-- Whether a clause assigns NULL to a column that takes none. -/
def Clears (s : Schema) : Clause ρ → Prop
  | assign column v _ => s.Requires column ∧ v.isNull = true
  | assignNull column _ => s.Requires column
  | _ => False

/-- Whether a clause assigns a value to a column that takes no NULL, and the value is NULL. -/
def IsBareNull (s : Schema) : Clause ρ → Prop
  | assign column v _ => s.Requires column ∧ v.isNull = true
  | _ => False

end Clause

namespace AssignmentForm

/-- Whether an assignment is given as a clause with NULL for its value. -/
def IsBareNull (s : Schema) : AssignmentForm → Prop
  | clause source => ∃ c, source s = .ok c ∧ c.IsBareNull s
  | _ => False

/--
Whether an assignment asks for NULL in a column, other than by a clause that
was made with NULL for its value: by the value or the kind of the assignment,
by a clause of this kind or an equality with NULL, or by a clause that is to be
made by a handle of the column.
-/
inductive Asks (s : Schema) (c : Column) : AssignmentForm → Value → Prop
  | value {column v table} :
      s.handleOf column = .ok ⟨c, table⟩ → v.isNull = true → Asks s c (.value column v) v
  | null {column table} : s.handleOf column = .ok ⟨c, table⟩ → Asks s c (.null column) .null
  | cleared {source column table} :
      s.resolveClause source = .ok (.assignNull column table) → s.find? column = some c →
        Asks s c (.clause source) .null
  | equal {source column v negated table} :
      s.resolveClause source = .ok (.compare column .eq v negated table) → v.isNull = true →
        s.find? column = some c → Asks s c (.clause source) .null
  | assigned {v table} :
      v.isNull = true → Asks s c (.clause fun _ => Handle.assign ⟨c, table⟩ v) v
  | assignedNull {table} : Asks s c (.clause fun _ => Handle.assignNull ⟨c, table⟩) .null

end AssignmentForm

/-! ## What is accepted -/

namespace Schema

variable {s : Schema} {column : ColumnSource} {h : Handle}

theorem column_eq_ok_iff {name : String} {c : Column} :
    s.column name = .ok c ↔ s.find? name = some c := by
  unfold Schema.column
  cases s.find? name <;> simp

/-- The handle of a column that the caller names has the column of its name. -/
theorem find?_of_handleOf (hh : s.handleOf column = .ok h) :
    s.find? h.column.name = some h.column := by
  obtain ⟨named, -, hh⟩ := exists_of_bind hh
  obtain ⟨c, hc, hh⟩ := exists_of_bind hh
  cases hh
  have hfound := column_eq_ok_iff.1 hc
  rw [name_of_find? hfound]
  exact hfound

theorem requires_iff {name : String} {c : Column} (hc : s.find? name = some c) :
    s.Requires name ↔ c.nullable = false := by
  constructor
  · rintro ⟨found, hfound, hnullable⟩
    obtain rfl : c = found := Option.some.inj (hc.symm.trans hfound)
    exact hnullable
  · exact fun hnullable => ⟨c, hc, hnullable⟩

theorem checkNullable_assignNull {ρ : Type} {name : String} (table : Option String) {c : Column}
    (hc : s.find? name = some c) (hnullable : c.nullable = false) :
    s.checkNullable (.assignNull name table : Clause ρ) =
      .error (.valueMismatch c.name c.type .null) := by
  rw [checkNullable, column_eq_ok_iff.2 hc]
  simp only [Bind.bind, Except.bind, hnullable, Bool.false_eq_true, if_false]

/-- An assignment of NULL by its kind is accepted only for a column that takes NULL. -/
theorem not_requires_of_checkNullable {ρ : Type} {name : String} {table : Option String}
    (hc : s.checkNullable (.assignNull name table : Clause ρ) = .ok ()) : ¬ s.Requires name := by
  obtain ⟨c, hfound, hc⟩ := exists_of_bind hc
  rw [requires_iff (column_eq_ok_iff.1 hfound)]
  intro hnullable
  rw [hnullable] at hc
  cases hc

end Schema

namespace Handle

variable {ρ : Type} {h : Handle} {v : Value} {c : Clause ρ}

/-- A handle assigns NULL only if its column takes NULL. -/
theorem exists_of_assign (hc : h.assign v = .ok c) :
    ∃ w, c = .assign h.column.name w h.table ∧ (w.isNull = true → h.column.nullable = true) := by
  unfold assign at hc
  split at hc
  · cases hc
  · rename_i hnull
    obtain ⟨w, hw, hc⟩ := exists_of_bind hc
    cases hc
    refine ⟨w, rfl, fun hwnull => ?_⟩
    rw [Column.isNull_eq_of_validate hw] at hwnull
    simpa [hwnull] using hnull

theorem assign_of_isNull (hv : v.isNull = true) (hnullable : h.column.nullable = false) :
    (h.assign v : Except Error (Clause ρ)) =
      .error (.valueMismatch h.column.name h.column.type v) := by
  rw [assign, if_pos ⟨hv, by simp [hnullable]⟩]

theorem assignNull_of_not_nullable (hnullable : h.column.nullable = false) :
    (h.assignNull : Except Error (Clause ρ)) =
      .error (.valueMismatch h.column.name h.column.type .null) := by
  rw [assignNull, if_neg (by simp [hnullable])]

end Handle

namespace Schema

variable {s : Schema} {source : ClauseSource QueryRef} {c : Clause QueryRef}

/-- A clause is taken as it is given. -/
theorem eq_of_resolveClause (h : s.resolveClause source = .ok c) : source s = .ok c := by
  obtain ⟨given, hgiven, h⟩ := exists_of_bind h
  obtain ⟨rfl, -⟩ := admits_of_accept h
  exact hgiven

/--
A clause that becomes an assignment is an equality, which says by the kind of
the assignment that it is with NULL, or it is an assignment as it is given.
Either is looked at for NULL.
-/
theorem exists_of_assignmentOf (h : s.assignmentOf source = .ok c) :
    ∃ given, source s = .ok given ∧ s.checkNullable c = .ok () ∧
      ((given.isComparison = true ∧ given.asAssignment = .ok c) ∨
        (given.isComparison = false ∧ c = given)) := by
  obtain ⟨given, hgiven, h⟩ := exists_of_bind h
  have hchecked : ∀ made : Clause QueryRef, (do
      if !made.isAssignment then throw (.compilation (.notAssignment made.kindName))
      s.checkNullable made
      return made : Except Error (Clause QueryRef)) = .ok c →
        s.checkNullable c = .ok () ∧ c = made := by
    intro made hmade
    cases hassign : made.isAssignment with
    | true =>
        rw [hassign] at hmade
        obtain ⟨_, hnullable, hmade⟩ := exists_of_bind hmade
        cases hmade
        exact ⟨hnullable, rfl⟩
    | false =>
        rw [hassign] at hmade
        cases hmade
  refine ⟨given, eq_of_resolveClause hgiven, ?_⟩
  split at h
  · rename_i hcomparison
    obtain ⟨made, hmade, h⟩ := exists_of_bind h
    obtain ⟨hnullable, rfl⟩ := hchecked made h
    exact ⟨hnullable, .inl ⟨hcomparison, hmade⟩⟩
  · rename_i hcomparison
    obtain ⟨made, hmade, h⟩ := exists_of_bind h
    cases hmade
    obtain ⟨hnullable, rfl⟩ := hchecked given h
    exact ⟨hnullable, .inr ⟨Bool.eq_false_iff.2 hcomparison, rfl⟩⟩

end Schema

namespace AssignmentForm

variable {s : Schema} {form : AssignmentForm} {c : Clause QueryRef}

/-- An equality never becomes an assignment of NULL to a column that takes none. -/
theorem not_clears_of_asAssignment {given : Clause QueryRef} (hc : given.asAssignment = .ok c)
    (hnullable : s.checkNullable c = .ok ()) : ¬ c.Clears s := by
  cases given with
  | compare column op v negated table =>
      rw [Clause.asAssignment] at hc
      split at hc
      · cases hc
        cases hv : v.isNull with
        | true =>
            rw [hv, if_pos rfl] at hnullable
            exact Schema.not_requires_of_checkNullable hnullable
        | false =>
            rintro ⟨-, hnull⟩
            rw [hv] at hnull
            cases hnull
      · cases hc
  | _ => cases hc

/--
An assignment that is accepted assigns NULL to a column that takes none just
if it is given as a clause with NULL for its value.
-/
theorem clears_iff (h : form.source s = .ok c) : c.Clears s ↔ form.IsBareNull s := by
  cases form with
  | value column v =>
      obtain ⟨handle, hhandle, h⟩ := exists_of_bind h
      obtain ⟨w, rfl, hw⟩ := Handle.exists_of_assign h
      refine iff_of_false (fun hclears => ?_) id
      have hrequired := (Schema.requires_iff (Schema.find?_of_handleOf hhandle)).1 hclears.1
      rw [hw hclears.2] at hrequired
      cases hrequired
  | null column =>
      obtain ⟨handle, hhandle, h⟩ := exists_of_bind h
      refine iff_of_false (fun hclears => ?_) id
      unfold Handle.assignNull at h
      split at h
      · rename_i hnullable
        cases h
        have hrequired := (Schema.requires_iff (Schema.find?_of_handleOf hhandle)).1 hclears
        rw [hnullable] at hrequired
        cases hrequired
      · cases h
  | clause source =>
      obtain ⟨given, hgiven, hnullable, hmade⟩ := Schema.exists_of_assignmentOf h
      have hbare : (AssignmentForm.clause source).IsBareNull s ↔ given.IsBareNull s := by
        refine ⟨fun hform => ?_, fun hclause => ⟨given, hgiven, hclause⟩⟩
        obtain ⟨found, hfound, hclause⟩ := hform
        obtain rfl : given = found := Except.ok.inj (hgiven.symm.trans hfound)
        exact hclause
      rw [hbare]
      obtain ⟨hcomparison, hmade⟩ | ⟨-, rfl⟩ := hmade
      · refine iff_of_false (not_clears_of_asAssignment hmade hnullable) ?_
        cases given with
        | compare => exact id
        | _ => cases hcomparison
      · cases c with
        | assign => exact Iff.rfl
        | assignNull =>
            exact iff_of_false (Schema.not_requires_of_checkNullable hnullable) id
        | _ => exact Iff.rfl

/-! ## What is refused -/

/-- NULL in a column that takes none is refused, where it is not hidden in a clause. -/
theorem Asks.refused {column : Column} {v : Value} (h : form.Asks s column v)
    (hnullable : column.nullable = false) :
    form.source s = .error (.valueMismatch column.name column.type v) := by
  cases h with
  | value hhandle hv =>
      show s.assignment _ _ = _
      rw [Schema.assignment, hhandle]
      exact Handle.assign_of_isNull hv hnullable
  | null hhandle =>
      show s.nullAssignment _ = _
      rw [Schema.nullAssignment, hhandle]
      exact Handle.assignNull_of_not_nullable hnullable
  | @cleared _ name table hgiven hfound =>
      have hcheck := Schema.checkNullable_assignNull (ρ := QueryRef) table hfound hnullable
      show s.assignmentOf _ = _
      rw [Schema.assignmentOf, hgiven]
      simp only [Bind.bind, Except.bind, Clause.isComparison, Clause.isAssignment, hcheck]
      rfl
  | @equal _ name v negated table hgiven hv hfound =>
      have hcheck := Schema.checkNullable_assignNull (ρ := QueryRef) table hfound hnullable
      show s.assignmentOf _ = _
      rw [Schema.assignmentOf, hgiven]
      simp only [Bind.bind, Except.bind, Clause.isComparison, Clause.asAssignment, hv, if_true,
        Clause.isAssignment, hcheck]
      rfl
  | assigned hv =>
      show s.assignmentOf _ = _
      rw [Schema.assignmentOf, Schema.resolveClause, Handle.assign_of_isNull hv hnullable]
      rfl
  | assignedNull =>
      show s.assignmentOf _ = _
      rw [Schema.assignmentOf, Schema.resolveClause,
        Handle.assignNull_of_not_nullable hnullable]
      rfl

end AssignmentForm

end SqlCompose
