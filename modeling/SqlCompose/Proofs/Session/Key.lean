import SqlCompose.Proofs.Session.Verdict
import SqlCompose.Proofs.Statement.Check

/-!
# Statements by the key of a row

The row of an object is updated and deleted by the values of its whole key.
A part of the key that is left open, or that is NULL, would find other rows or
none, so it is refused before there is a statement (`Record.Fits`).  The
values are checked in the order in which they are written: those of the other
columns first, where there are any, and then those of the key.

What compiling such a statement comes to is said for both kinds at once
(`RowVerdict`), from the columns that it walks over in this order.

## Main results

* `Record.fits_iff`, `Record.eq_of_check_error` — what a value is refused for,
  and with what.
* `RowVerdict.of_request` — a statement that walks over columns is there just
  if all of their values fit.
* `Command.rowVerdict_of_keys` — deletions and updates by the whole key.
-/

namespace SqlCompose

open SqlCompose.Action
open Writing (faultsOf)

/-! ## Text -/

/-- Equalities of names with placeholders, which are numbered from the given one. -/
def Dialect.equalities (d : Dialect) (names : List String) (first : Nat) : List String :=
  (names.zipIdx first).map fun (name, n) => d.quote name ++ "=" ++ d.placeholder (toString n)

theorem Column.text_equalities (d : Dialect) (separator : String) (columns : List Column)
    (first : Nat) :
    (Fragment.joinWith separator (numbered equality columns first)).text d =
      separator.intercalate (d.equalities (columns.map name) first) := by
  rw [Fragment.text_joinWith, numbered, Dialect.equalities, List.zipIdx_map, List.map_map,
    List.map_map]
  congr 2

/-! ## Values for columns -/

namespace Schema

variable {s : Schema} {c : Column} {v : Value}

/-- The check of a value in a row of the table, where a column of the key takes no NULL. -/
def check (s : Schema) (c : Column) (v : Value) : Except Error Value :=
  if c.name ∈ s.primaryKeys then c.validateKey v else c.validate v

/-- The columns of the key are named as the keys are, in their order. -/
theorem map_name_keyColumns (s : Schema) : s.keyColumns.map Column.name = s.primaryKeys := by
  have h : ∀ ks : List String, (∀ k ∈ ks, k ∈ s.columnNames) →
      (ks.filterMap s.find?).map Column.name = ks := by
    intro ks hks
    induction ks with
    | nil => rfl
    | cons k rest ih =>
        obtain ⟨c, hc⟩ := Option.isSome_iff_exists.1 (find?_isSome (hks k List.mem_cons_self))
        rw [List.filterMap_cons_some hc, List.map_cons, name_of_find? hc,
          ih fun k' hk' => hks k' (List.mem_cons_of_mem _ hk')]
  exact h s.primaryKeys s.keys_declared

/-- The other columns are in the order of the table. -/
theorem map_name_plainColumns (s : Schema) :
    s.plainColumns.map Column.name = s.columnNames.filter fun n => n ∉ s.primaryKeys := by
  rw [columnNames, List.filter_map, plainColumns]
  simp [Function.comp_def, List.contains_eq_mem]

theorem name_mem_of_keyColumns (h : c ∈ s.keyColumns) : c.name ∈ s.primaryKeys := by
  rw [← s.map_name_keyColumns]
  exact List.mem_map_of_mem h

theorem name_not_mem_of_plainColumns (h : c ∈ s.plainColumns) : c.name ∉ s.primaryKeys := by
  simpa using (List.mem_filter.1 h).2

end Schema

namespace Record

variable {r : Record} {s : Schema} {c : Column} {columns : List Column}

/--
Whether the value that an object has for a column can stand in a row: it is
one that the column takes, and in the key it is not missing.
-/
structure Fits (r : Record) (s : Schema) (c : Column) : Prop where
  present : c.name ∈ s.primaryKeys → (c.valueIn r).isNull = false
  taken : ∃ w, c.validate (c.valueIn r) = .ok w

/-- Whether a driver is handed for a column what the check of the object's value gives. -/
structure Hands (r : Record) (s : Schema) (c : Column) (argument : Value) : Prop where
  checked : ∃ w, c.validate (c.valueIn r) = .ok w ∧ argument = w.toBind
  null_iff : argument = .null ↔ (c.valueIn r).isNull = true
  key : c.name ∈ s.primaryKeys → argument ≠ .null

theorem fits_iff : r.Fits s c ↔ ∃ w, s.check c (c.valueIn r) = .ok w := by
  unfold Schema.check
  by_cases hkey : c.name ∈ s.primaryKeys
  · rw [if_pos hkey]
    cases hnull : (c.valueIn r).isNull with
    | true =>
        simp only [Column.validateKey, hnull, if_true]
        refine ⟨fun h => absurd (h.present hkey) (by simp [hnull]), fun h => ?_⟩
        obtain ⟨w, hw⟩ := h
        cases hw
    | false =>
        rw [Column.validateKey_eq hnull]
        exact ⟨Fits.taken, fun h => ⟨fun _ => hnull, h⟩⟩
  · rw [if_neg hkey]
    exact ⟨Fits.taken, fun h => ⟨fun hmem => absurd hmem hkey, h⟩⟩

/-- The error names the value, which is NULL if it is missing. -/
theorem eq_of_check_error {v : Value} {e : Error} (h : s.check c v = .error e) :
    e = .valueMismatch c.name c.type v.toBind := by
  cases hnull : v.isNull with
  | false =>
      have herror : c.validate v = .error e := by
        rw [Schema.check, Column.validateKey_eq hnull, ite_self] at h
        exact h
      rw [Value.toBind_eq_self hnull]
      exact Column.eq_of_validate_error herror
  | true =>
      have htoBind := (Value.toBind_eq_null_iff v).2 hnull
      rw [Schema.check, Column.validateKey, hnull, Column.validate_of_isNull hnull] at h
      split at h
      · cases h
        rw [htoBind]
      · cases h

/-- What the check gives is handed over. -/
theorem Hands.of_check {w : Value} (h : s.check c (c.valueIn r) = .ok w) :
    r.Hands s c w.toBind := by
  have hfits := fits_iff.2 ⟨w, h⟩
  have hchecked : c.validate (c.valueIn r) = .ok w := by
    rw [Schema.check] at h
    split at h
    · rename_i hkey
      rwa [Column.validateKey_eq (hfits.present hkey)] at h
    · exact h
  have hnull : w.toBind = .null ↔ (c.valueIn r).isNull = true := by
    rw [Value.toBind_eq_null_iff, Column.isNull_eq_of_validate hchecked]
  refine ⟨⟨w, hchecked, rfl⟩, hnull, fun hkey hsame => ?_⟩
  have hpresent := hfits.present hkey
  rw [hnull.1 hsame] at hpresent
  cases hpresent

/-- Two checks that agree on the values of an object make the same of them. -/
theorem checkedValues_congr {check check' : Column → Value → Except Error Value}
    (h : ∀ c ∈ columns, check c = check' c) :
    r.checkedValues s check columns = r.checkedValues s check' columns := by
  induction columns with
  | nil => rfl
  | cons c rest ih =>
      have hrest := ih fun c' hc' => h c' (List.mem_cons_of_mem _ hc')
      unfold checkedValues at hrest ⊢
      rw [List.mapM_cons, List.mapM_cons, hrest, checkedValue, checkedValue,
        h c List.mem_cons_self]

theorem keyValues_eq (r : Record) (s : Schema) :
    r.keyValues s = r.checkedValues s s.check s.keyColumns := by
  refine checkedValues_congr fun c hc => ?_
  funext v
  rw [Schema.check, if_pos (Schema.name_mem_of_keyColumns hc)]

theorem plainValues_eq (r : Record) (s : Schema) :
    r.plainValues s = r.checkedValues s s.check s.plainColumns := by
  refine checkedValues_congr fun c hc => ?_
  funext v
  rw [Schema.check, if_neg (Schema.name_not_mem_of_plainColumns hc)]

end Record

/-! ## Statements -/

/--
What compiling a statement on the row of an object comes to, which names the
given columns in their order and has the given text: a statement just if all
values fit, with the checked values and no others, and else the error for the
first column whose value does not.
-/
structure RowVerdict (r : Record) (s : Schema) (columns : List Column) (sql : String)
    (result : Except Error (Option Statement)) : Prop where
  ok_iff : (∃ written, result = .ok written) ↔ ∀ c ∈ columns, r.Fits s c
  of_ok : ∀ written, result = .ok written → ∃ statement, written = some statement ∧
    statement.sql = sql ∧ List.Forall₂ (r.Hands s) columns statement.args
  of_error : ∀ e, result = .error e → ∃ before c after, columns = before ++ c :: after ∧
    (∀ b ∈ before, r.Fits s b) ∧ ¬ r.Fits s c ∧
    e = .valueMismatch c.name c.type (c.valueIn r).toBind

namespace RowVerdict

variable {r : Record} {s : Schema} {columns : List Column} {sql : String} {e : Error}

/-- Where a value does not pass its check, there is no statement. -/
theorem of_checkedValues_error (hnames : s.columnNames.Nodup) (hsub : columns ⊆ s.columns)
    (h : r.checkedValues s s.check columns = .error e) :
    RowVerdict r s columns sql (.error e) := by
  obtain ⟨before, c, after, hsplit, hbefore, hc⟩ := exists_of_mapM_error h
  have hmem : c ∈ columns := by simp [hsplit]
  rw [Record.checkedValue_eq hnames (hsub hmem)] at hc
  have hrefused : ¬ r.Fits s c := by
    rw [Record.fits_iff, hc]
    nofun
  refine ⟨⟨nofun, fun hall => absurd (hall c hmem) hrefused⟩, nofun, ?_⟩
  rintro _ ⟨⟩
  refine ⟨before, c, after, hsplit, fun b hb => ?_, hrefused, Record.eq_of_check_error hc⟩
  have hbmem : b ∈ columns := by simp [hsplit, hb]
  have hchecked := hbefore b hb
  rw [Record.checkedValue_eq hnames (hsub hbmem)] at hchecked
  exact Record.fits_iff.2 hchecked

/-- Where all values pass their checks, the statement has them. -/
theorem of_checkedValues_ok (hnames : s.columnNames.Nodup) (hsub : columns ⊆ s.columns)
    {values : List Value} (h : r.checkedValues s s.check columns = .ok values)
    {statement : Statement} (hsql : statement.sql = sql)
    (hargs : statement.args = values.map Value.toBind) :
    RowVerdict r s columns sql (.ok (some statement)) := by
  have hlength : columns.length = values.length := (Record.length_of_checkedValues h).symm
  have hchecked : ∀ c w, (c, w) ∈ columns.zip values → s.check c (c.valueIn r) = .ok w :=
    fun c w hmem => Record.eq_of_mem_zip_checkedValues hnames hsub h hmem
  have hhanded : List.Forall₂ (r.Hands s) columns statement.args := by
    rw [hargs, List.forall₂_map_right_iff]
    exact List.forall₂_iff_zip.2 ⟨hlength, fun hmem => Record.Hands.of_check (hchecked _ _ hmem)⟩
  refine ⟨⟨fun _ c hc => ?_, fun _ => ⟨_, rfl⟩⟩, ?_, nofun⟩
  · have htaken := exists_of_mapM h c hc
    rw [Record.checkedValue_eq hnames (hsub hc)] at htaken
    exact Record.fits_iff.2 htaken
  · rintro _ ⟨⟩
    exact ⟨statement, rfl, hsql, hhanded⟩

/-- Whatever is asked for walks over the columns, and is not over the limit of the dialect. -/
theorem of_request {command : Command} {choice : DialectChoice} {session : Session}
    {request : Request} {d : Dialect} {settings : Settings} {f : Fragment}
    (hrequest : command.request session.store = .ok request)
    (hd : (outcome (dialect choice) session).1 = .ok d)
    (hsettings : session.environment.settings = .ok settings)
    (hceiling : settings.enforceLimit = true → (columns.length : Int) ≤ d.limit)
    (hbound : request.bound = r.checkedValues s s.check columns)
    (hrefusals : request.refusals d = faultsOf request.bound)
    (hlayout : request.layout d = .ok f) (hwrites : ¬ request.IsIdle)
    (hnames : s.columnNames.Nodup) (hsub : columns ⊆ s.columns) :
    RowVerdict r s columns (f.text d) (outcome (command.compile choice) session).1 := by
  rw [hbound] at hrefusals
  cases hvalues : r.checkedValues s s.check columns with
  | error e =>
      have hverdict : Verdict (some e) [] (outcome (command.compile choice) session).1 :=
        Command.verdict_of_refusal hrequest hd (by rw [hrefusals, hvalues]; rfl)
      rw [(hverdict.error_iff e).2 rfl]
      exact of_checkedValues_error hnames hsub hvalues
  | ok values =>
      have hvalid : request.refusals d = [] := by rw [hrefusals, hvalues]; rfl
      have hlength := Record.length_of_checkedValues hvalues
      obtain ⟨statement, hresult, hsql, hargs⟩ :=
        Command.exists_statement_of_valid hrequest hd hsettings hvalid hwrites hlayout
          (hbound.trans hvalues) (hlength ▸ hceiling)
      rw [hresult]
      exact of_checkedValues_ok hnames hsub hvalues hsql hargs

end RowVerdict

/-! ## Deletions and updates -/

namespace Record

variable {r : Record} {s : Schema}

/-- The values of a row that is updated are those of the other columns before those of the key. -/
theorem bound_updateRow (r : Record) (s : Schema) :
    (Request.updateRow r s).bound =
      r.checkedValues s s.check (s.plainColumns ++ s.keyColumns) := by
  rw [Request.bound, plainValues_eq, keyValues_eq]
  simp only [checkedValues, List.mapM_append]

theorem text_keyLayout (s : Schema) (d : Dialect) (first : Nat) :
    (keyLayout s first).text d = " AND ".intercalate (d.equalities s.primaryKeys first) := by
  rw [keyLayout, Column.text_equalities, Schema.map_name_keyColumns]

theorem text_deleteLayout (s : Schema) (d : Dialect) :
    (deleteLayout s 1).text d = "DELETE FROM " ++ (Fragment.table s.identifier).text d ++
      " where " ++ " AND ".intercalate (d.equalities s.primaryKeys 1) := by
  simp only [deleteLayout, Fragment.text_append, Fragment.text_cons, text_keyLayout, Piece.text,
    String.append_assoc]

theorem text_updateLayout (s : Schema) (d : Dialect) :
    (updateLayout s 1).text d = "UPDATE " ++ (Fragment.table s.identifier).text d ++ " SET " ++
      ", ".intercalate (d.equalities (s.plainColumns.map Column.name) 1) ++ " where " ++
      " AND ".intercalate (d.equalities s.primaryKeys (s.plainColumns.length + 1)) := by
  simp only [updateLayout, Fragment.text_append, Fragment.text_cons, text_keyLayout,
    Column.text_equalities, Piece.text, String.append_assoc, Nat.add_comm 1]

end Record

namespace Command

variable {r : Record} {schema? : Option Schema} {s : Schema} {choice : DialectChoice}
  {session : Session} {d : Dialect} {settings : Settings}

/--
The row of an object in a table with a key, whose columns have names of their
own, in whatever dialect and where the values are not over its limit.  A
deletion names every column of the key, in the order of the keys.  Where there
are other columns an update assigns every one of them once, in the order of
the table, and then names every column of the key.  Either is a statement just
if all values of these columns fit, and those of the key are handed over with
none of them NULL; else it fails of the first one that does not.
-/
theorem rowVerdict_of_keys (hs : schemaFor r schema? = .ok s) (hnames : s.columnNames.Nodup)
    (hkeys : s.primaryKeys ≠ []) (hd : (outcome (dialect choice) session).1 = .ok d)
    (hsettings : session.environment.settings = .ok settings) :
    s.keyColumns.map Column.name = s.primaryKeys ∧
      s.plainColumns.map Column.name = (s.columnNames.filter fun n => n ∉ s.primaryKeys) ∧
      ((settings.enforceLimit = true → (s.keyColumns.length : Int) ≤ d.limit) →
        RowVerdict r s s.keyColumns
          ("DELETE FROM " ++ (Fragment.table s.identifier).text d ++ " where " ++
            " AND ".intercalate (d.equalities s.primaryKeys 1))
          (outcome ((Command.deleteRow r schema?).compile choice) session).1) ∧
      (s.plainColumns ≠ [] →
        (settings.enforceLimit = true →
          ((s.plainColumns ++ s.keyColumns).length : Int) ≤ d.limit) →
        RowVerdict r s (s.plainColumns ++ s.keyColumns)
          ("UPDATE " ++ (Fragment.table s.identifier).text d ++ " SET " ++
            ", ".intercalate (d.equalities (s.plainColumns.map Column.name) 1) ++ " where " ++
            " AND ".intercalate (d.equalities s.primaryKeys (s.plainColumns.length + 1)))
          (outcome ((Command.updateRow r schema?).compile choice) session).1) := by
  have hsome : ¬ s.primaryKeys.isEmpty = true := mt List.isEmpty_iff.1 hkeys
  refine ⟨s.map_name_keyColumns, s.map_name_plainColumns, fun hceiling => ?_,
    fun hcolumns hceiling => ?_⟩
  · rw [← Record.text_deleteLayout]
    exact .of_request (request_deleteRow hs) hd hsettings hceiling (r.keyValues_eq s)
      (by rw [Request.refusals, if_neg hsome]) rfl id hnames s.keyColumns_subset
  · have hwrites : ¬ s.plainColumns.isEmpty = true := mt List.isEmpty_iff.1 hcolumns
    rw [← Record.text_updateLayout]
    exact .of_request (request_updateRow hs) hd hsettings hceiling (r.bound_updateRow s)
      (by rw [Request.refusals, if_neg hsome, if_neg hwrites]) rfl hcolumns hnames
      (List.append_subset.2 ⟨s.plainColumns_subset, s.keyColumns_subset⟩)

/-- Seats, which are told apart by their row and their number in it. -/
def seats : Schema where
  identifier := ["hall", "seats"]
  columns := [
    { name := "price", type := "int" },
    { name := "seat_number", type := "int", field := some "number" },
    { name := "seat_row", type := "text", field := some "row" }]
  primaryKeys := ["seat_row", "seat_number"]

/-- A seat with its row and, where there is one, its number; it has no price. -/
def seat (number? : Option Int) : Record where
  model := ⟨"Seat", some seats⟩
  fields := ("row", .text "G") :: (number?.map fun n => ("number", Value.int n)).toList

/-- A session with the settings that hold where none are given. -/
def theatre : Session := { environment := { kept := some {} } }

/--
A seat is deleted, and stored without a price, by both parts of its key.
Without its number it would find all seats of its row, and it is refused.
-/
theorem rowVerdict_of_keys_seats :
    (∃ statement, (outcome ((deleteRow (seat (some 7)) none).compile (.named "postgres"))
        theatre).1 = .ok (some statement) ∧
      statement.sql =
        "DELETE FROM \"hall\".\"seats\" where \"seat_row\"=$1 AND \"seat_number\"=$2" ∧
      List.Forall₂ ((seat (some 7)).Hands seats) seats.keyColumns statement.args) ∧
    (∃ statement, (outcome ((updateRow (seat (some 7)) none).compile (.named "mssql"))
        theatre).1 = .ok (some statement) ∧
      statement.sql = "UPDATE [hall].[seats] SET [price]=@p1 where [seat_row]=@p2 AND " ++
        "[seat_number]=@p3") ∧
    ∀ written, (outcome ((deleteRow (seat none) none).compile (.named "postgres")) theatre).1 ≠
      .ok written := by
  have hnames : seats.columnNames.Nodup := by decide
  have hkeys : seats.primaryKeys ≠ [] := by decide
  have hnumbered : ∀ c ∈ seats.plainColumns ++ seats.keyColumns, (seat (some 7)).Fits seats c := by
    simp only [show seats.plainColumns ++ seats.keyColumns = [seats.columns[0], seats.columns[2],
      seats.columns[1]] from rfl, List.forall_mem_cons]
    exact ⟨⟨fun hkey => absurd hkey (by decide), _, rfl⟩, ⟨fun _ => rfl, _, rfl⟩,
      ⟨fun _ => rfl, _, rfl⟩, nofun⟩
  have hopen : ¬ ∀ c ∈ seats.keyColumns, (seat none).Fits seats c := by
    intro hall
    have hpresent := (hall seats.columns[1] (List.mem_cons_of_mem _ List.mem_cons_self)).present
    exact absurd (hpresent (by decide)) (by decide)
  have hsettings : theatre.environment.settings = .ok {} := rfl
  have hpostgres : (outcome (dialect (.named "postgres")) theatre).1 =
      .ok (.ofBuiltIn .postgres) := rfl
  have hmssql : (outcome (dialect (.named "mssql")) theatre).1 = .ok (.ofBuiltIn .mssql) := rfl
  have hdelete (number? : Option Int) := (rowVerdict_of_keys
    (show schemaFor (seat number?) none = .ok seats from rfl) hnames hkeys hpostgres
    hsettings).2.2.1 (by decide)
  have hupdate := (rowVerdict_of_keys
    (show schemaFor (seat (some 7)) none = .ok seats from rfl) hnames hkeys hmssql
    hsettings).2.2.2 (by decide) (by decide)
  refine ⟨?_, ?_, fun written hwritten => hopen ((hdelete none).ok_iff.1 ⟨written, hwritten⟩)⟩
  · have hverdict := hdelete (some 7)
    obtain ⟨written, hwritten⟩ :=
      hverdict.ok_iff.2 fun c hc => hnumbered c (List.mem_append_right _ hc)
    obtain ⟨statement, rfl, hsql, hargs⟩ := hverdict.of_ok written hwritten
    exact ⟨statement, hwritten, hsql, hargs⟩
  · obtain ⟨written, hwritten⟩ := hupdate.ok_iff.2 hnumbered
    obtain ⟨statement, rfl, hsql, -⟩ := hupdate.of_ok written hwritten
    exact ⟨statement, hwritten, hsql⟩

end Command

end SqlCompose
