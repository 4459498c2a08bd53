import SqlCompose.Proofs.Session.Verdict
import SqlCompose.Proofs.Statement.Check

/-!
# Insertion of rows

An insert lists the columns of an object's table that were given a value, a
placeholder for each of them, and where the dialect wants it the columns that
come back; the driver is handed the values.  These are four lists that are
made in different places.  They are said here as one thing: the names and the
placeholders are a text over the columns that are written
(`Dialect.insertText`), and the values stand beside the same columns, one for
each (`Record.Stores`).

Three things can be wrong, and are found in this order: a value that its
column does not take, an object with no value at all, and a dialect that does
not hand a stored row back.

## Main results

* `Record.eq_of_givenValues_error` — the error for a row is that of the first
  column of the table whose value does not fit.
* `Record.exists_insertLayout` — what is written for the columns with a value.
* `Command.insertVerdict_of_row` — what compiling an insert comes to.
-/

namespace SqlCompose

open SqlCompose.Action
open Writing (faultsOf)

/-! ## Text -/

/-- Placeholders for the given number of values, numbered from one. -/
def Dialect.marks (d : Dialect) (count : Nat) : List String :=
  (List.range' 1 count).map fun n => d.placeholder (toString n)

/--
An insert of values for the given columns of a table, each with the next
placeholder, in the form in which the dialect hands the stored row back.
-/
def Dialect.insertText (d : Dialect) (s : Schema) (written : List Column) : String :=
  match d.rowReturn? with
  | some form =>
    (form (Fragment.table s.identifier) (Column.numbered Column.cell written 1) s.columns).text d
  | none => ""

/-- An insert that hands the row back by `RETURNING *` behind the values. -/
def Dialect.returningText (d : Dialect) (s : Schema) (written : List Column) : String :=
  "INSERT INTO " ++ (Fragment.table s.identifier).text d ++ " (" ++
    ", ".intercalate (written.map fun c => d.quote c.name) ++ ") VALUES (" ++
    ", ".intercalate (d.marks written.length) ++ ") RETURNING *"

/-- An insert that hands the row back by a list of all columns before the values. -/
def Dialect.outputText (d : Dialect) (s : Schema) (written : List Column) : String :=
  "INSERT INTO " ++ (Fragment.table s.identifier).text d ++ " (" ++
    ", ".intercalate (written.map fun c => d.quote c.name) ++ ") OUTPUT " ++
    ", ".intercalate (s.columns.map fun c => "Inserted." ++ d.quote c.name) ++ " VALUES (" ++
    ", ".intercalate (d.marks written.length) ++ ")"

namespace Column

variable {columns : List Column} {d : Dialect}

/-- The names of cells are those of their columns. -/
theorem map_text_fst_cells (d : Dialect) (columns : List Column) (first : Nat) :
    ((numbered cell columns first).map Prod.fst).map (Fragment.text d) =
      columns.map fun c => d.quote c.name := by
  have hnames : (numbered cell columns first).map Prod.fst =
      columns.map fun c => [Piece.name c.name] := by
    conv_rhs => rw [← List.zipIdx_map_fst first columns]
    rw [numbered, List.map_map, List.map_map]
    rfl
  rw [hnames, List.map_map]
  refine List.map_congr_left fun c _ => ?_
  simp [Fragment.text, Piece.text]

/-- The placeholders of cells are numbered in a row. -/
theorem map_text_snd_cells (d : Dialect) (columns : List Column) :
    ((numbered cell columns 1).map Prod.snd).map (Fragment.text d) = d.marks columns.length := by
  have hmarks : (numbered cell columns 1).map Prod.snd =
      (List.range' 1 columns.length).map fun n => [Piece.mark n] := by
    rw [← List.zipIdx_map_snd 1 columns, numbered, List.map_map, List.map_map]
    rfl
  rw [hmarks, List.map_map, Dialect.marks]
  refine List.map_congr_left fun n _ => ?_
  simp [Fragment.text, Piece.text]

/-- The columns that come back are named as the stored ones. -/
theorem map_text_stored (d : Dialect) (columns : List Column) :
    (columns.map fun c => [Piece.word "Inserted.", .name c.name]).map (Fragment.text d) =
      columns.map fun c => "Inserted." ++ d.quote c.name := by
  rw [List.map_map]
  refine List.map_congr_left fun c _ => ?_
  simp [Fragment.text, Piece.text]

end Column

namespace Dialect

variable {d : Dialect} (s : Schema)

theorem insertText_of_returning (h : d.rowReturn? = some .returning) (written : List Column) :
    d.insertText s written = d.returningText s written := by
  rw [insertText, h]
  unfold returningText
  simp only [InsertForm.returning, InsertForm.head, InsertForm.marks, Fragment.text_append,
    Fragment.text_cons, Fragment.text_joinWith, Fragment.text_nil, Column.map_text_fst_cells,
    Column.map_text_snd_cells, Piece.text, String.append_assoc, String.append_empty]

theorem insertText_of_output (h : d.rowReturn? = some .output) (written : List Column) :
    d.insertText s written = d.outputText s written := by
  rw [insertText, h]
  unfold outputText
  simp only [InsertForm.output, InsertForm.head, InsertForm.marks, Fragment.text_append,
    Fragment.text_cons, Fragment.text_joinWith, Fragment.text_nil, Column.map_text_fst_cells,
    Column.map_text_snd_cells, Column.map_text_stored, Piece.text, String.append_assoc,
    String.append_empty]

/-- How each of the library's own dialects hands a stored row back. -/
theorem rowReturn?_ofBuiltIn_iff (b : BuiltIn) :
    ((ofBuiltIn b).rowReturn? = none ↔ b = .mysql) ∧
      ((ofBuiltIn b).rowReturn? = some .output ↔ b = .mssql) ∧
      ((ofBuiltIn b).rowReturn? = some .returning ↔ b = .postgres ∨ b = .sqlite) := by
  have hdiffers : InsertForm.returning [] [] [] ≠ InsertForm.output [] [] [] := by decide
  have hne : InsertForm.returning ≠ InsertForm.output := fun h => hdiffers (by rw [h])
  cases b <;> simp [ofBuiltIn, postgres, mysql, mssql, sqlite, hne, hne.symm]

end Dialect

/-! ## Values for the columns of a row -/

namespace Record

variable {r : Record} {s : Schema} {c : Column} {e : Error}

/-- Whether the value that an object has for a column is one that it takes, if there is one. -/
def Storable (r : Record) (c : Column) : Prop :=
  (c.valueIn r).isNull = false → ∃ w, c.validate (c.valueIn r) = .ok w

/-- Whether a driver is handed for a column what the check of the object's value gives. -/
structure Stores (r : Record) (c : Column) (argument : Value) : Prop where
  checked : c.validate (c.valueIn r) = .ok argument
  null_iff : argument = .null ↔ c.valueIn r = .null

theorem storable_iff : r.Storable c ↔ ∃ w, c.validate (c.valueIn r) = .ok w := by
  refine ⟨fun h => ?_, fun h _ => h⟩
  cases hnull : (c.valueIn r).isNull with
  | true => exact ⟨_, Column.validate_of_isNull hnull⟩
  | false => exact h hnull

/-- What was left open can be stored, as it need not be. -/
theorem storable_of_unset (h : c.valueIn r = .unset) : r.Storable c := by
  intro hvalue
  rw [h] at hvalue
  cases hvalue

/-- Where a value was not left open, what its check gives is handed over. -/
theorem Stores.of_check {w : Value} (hgiven : c.valueIn r ≠ .unset)
    (h : c.validate (c.valueIn r) = .ok w) : r.Stores c w.toBind := by
  cases hnull : (c.valueIn r).isNull with
  | true =>
      have hvalue : c.valueIn r = .null := by
        generalize c.valueIn r = v at hgiven hnull
        cases v <;> first | rfl | contradiction
      rw [Column.validate_of_isNull hnull, hvalue] at h
      obtain rfl := Except.ok.inj h
      exact ⟨by rw [hvalue, Column.validate_of_isNull rfl]; rfl, ⟨fun _ => hvalue, fun _ => rfl⟩⟩
  | false =>
      have hw := Column.isNull_of_validate hnull h
      rw [Value.toBind_eq_self hw]
      refine ⟨h, fun hsame => ?_, fun hsame => ?_⟩
      · rw [hsame] at hw
        cases hw
      · rw [hsame] at hnull
        cases hnull

/-- A column with a value is behind columns of the table with a value, and others left open. -/
theorem exists_split_of_given {before after : List Column} (h : r.given s = before ++ c :: after) :
    ∃ before' after', s.columns = before' ++ c :: after' ∧
      ∀ b ∈ before', b ∉ r.given s ∨ b ∈ before := by
  obtain ⟨front, rest, hcolumns, rfl, hrest⟩ := List.filter_eq_append_iff.1 h
  obtain ⟨skipped, after', rfl, hskipped, -, -⟩ := List.filter_eq_cons_iff.1 hrest
  refine ⟨front ++ skipped, after', by rw [hcolumns, List.append_assoc], fun b hb => ?_⟩
  by_cases hopen : r.leavesOpen s b = true
  · exact .inl fun hgiven => by simp [given, hopen] at hgiven
  · have hwritten : (!r.leavesOpen s b) = true := by simpa using hopen
    have hfront : b ∈ front :=
      (List.mem_append.1 hb).resolve_right fun hmem => hskipped b hmem hwritten
    exact .inr (List.mem_filter.2 ⟨hfront, hwritten⟩)

section Names

variable (hnames : s.columnNames.Nodup)
include hnames

/-- The values of a row are there just if all of them can be stored. -/
theorem exists_givenValues_iff :
    (∃ values, r.givenValues s = .ok values) ↔ ∀ c ∈ s.columns, r.Storable c := by
  constructor
  · rintro ⟨values, h⟩ c hc
    by_cases hopen : c.valueIn r = .unset
    · exact storable_of_unset hopen
    · obtain ⟨w, hw⟩ := exists_of_mapM h c ((mem_given_iff hnames hc).2 hopen)
      rw [checkedValue_eq hnames hc] at hw
      exact fun _ => ⟨w, hw⟩
  · intro h
    refine exists_mapM_of_forall fun c hc => ?_
    have hmem := r.given_subset s hc
    rw [checkedValue_eq hnames hmem]
    exact storable_iff.1 (h c hmem)

/-- The error for a row is that of the first column of the table whose value does not fit. -/
theorem eq_of_givenValues_error (h : r.givenValues s = .error e) :
    ∃ before c after, s.columns = before ++ c :: after ∧ (∀ b ∈ before, r.Storable b) ∧
      ¬ r.Storable c ∧ e = .valueMismatch c.name c.type (c.valueIn r) := by
  obtain ⟨before, c, after, hgiven, hbefore, hc⟩ := exists_of_mapM_error h
  obtain ⟨before', after', hcolumns, hfront⟩ := exists_split_of_given hgiven
  rw [checkedValue_eq hnames (by simp [hcolumns])] at hc
  refine ⟨before', c, after', hcolumns, fun b hb => ?_, ?_, Column.eq_of_validate_error hc⟩
  · have hmem : b ∈ s.columns := by simp [hcolumns, hb]
    rcases hfront b hb with hopen | hchecked
    · exact storable_of_unset (by simpa [mem_given_iff hnames hmem] using hopen)
    · have htaken := hbefore b hchecked
      rw [checkedValue_eq hnames hmem] at htaken
      exact storable_iff.2 htaken
  · rw [storable_iff, hc]
    nofun

/-- The values of a row stand beside the columns that they are for. -/
theorem forall₂_stores {values : List Value} (h : r.givenValues s = .ok values) :
    List.Forall₂ r.Stores (r.given s) (values.map Value.toBind) := by
  rw [List.forall₂_map_right_iff]
  refine List.forall₂_iff_zip.2 ⟨(length_of_checkedValues h).symm, fun {c w} hmem => ?_⟩
  have hc := (List.of_mem_zip hmem).1
  exact .of_check ((mem_given_iff hnames (r.given_subset s hc)).1 hc)
    (eq_of_mem_zip_checkedValues hnames (r.given_subset s) h hmem)

/-- There is something to write just if a value was not left open. -/
theorem given_ne_nil_iff : r.given s ≠ [] ↔ ∃ c ∈ s.columns, c.valueIn r ≠ .unset := by
  constructor
  · intro h
    obtain ⟨c, hc⟩ := List.exists_mem_of_ne_nil _ h
    have hmem := r.given_subset s hc
    exact ⟨c, hmem, (mem_given_iff hnames hmem).1 hc⟩
  · rintro ⟨c, hc, hvalue⟩
    exact List.ne_nil_of_mem ((mem_given_iff hnames hc).2 hvalue)

end Names

/-! ## What is written -/

/-- The columns with a value are written, where the dialect hands a stored row back. -/
theorem exists_insertLayout {d : Dialect} (hgiven : r.given s ≠ [])
    (hreturn : d.rowReturn? ≠ none) :
    ∃ f, r.insertLayout s d 1 = .ok f ∧ f.text d = d.insertText s (r.given s) := by
  have hsome : ¬ (r.given s).isEmpty = true := mt List.isEmpty_iff.1 hgiven
  obtain ⟨form, hform⟩ := Option.ne_none_iff_exists'.1 hreturn
  rw [insertLayout, if_neg hsome, Dialect.insertion, Dialect.insertText, hform]
  exact ⟨_, rfl, rfl⟩

end Record

/-! ## Compiling -/

/--
What compiling the insert of an object comes to for what is wrong with it.  A
value that its column does not take is found first, whatever the dialect, and
the error is for the first such column of the table; then an object with no
value; and only then a dialect that does not hand the row back.
-/
structure InsertVerdict (r : Record) (s : Schema) (d : Dialect)
    (result : Except Error (Option Statement)) : Prop where
  of_not_storable : (∃ c ∈ s.columns, ¬ r.Storable c) → ∃ before c after,
    s.columns = before ++ c :: after ∧ (∀ b ∈ before, r.Storable b) ∧ ¬ r.Storable c ∧
    result = .error (.valueMismatch c.name c.type (c.valueIn r))
  of_open : (∀ c ∈ s.columns, c.valueIn r = .unset) →
    result = .error (.compilation (.nothingInserted s.tableName))
  of_unreturned : d.rowReturn? = none → (∃ c ∈ s.columns, c.valueIn r ≠ .unset) →
    (∀ c ∈ s.columns, r.Storable c) → result = .error (.unsupported d.name .rowReturn)

namespace Command

variable {r : Record} {schema? : Option Schema} {s : Schema} {choice : DialectChoice}
  {session : Session} {d : Dialect}

/-- An insert fails of a value, or else of having none, or else of the dialect. -/
theorem insertVerdict_of_request (hs : schemaFor r schema? = .ok s)
    (hnames : s.columnNames.Nodup) (hd : (outcome (dialect choice) session).1 = .ok d) :
    InsertVerdict r s d (outcome ((insertRow r schema?).compile choice) session).1 := by
  have hfails : ∀ e : Error, ((Request.insertRow r s).refusals d).head? = some e →
      (outcome ((insertRow r schema?).compile choice) session).1 = .error e := by
    intro e he
    have hverdict : Verdict (some e) [] _ := verdict_of_refusal (request_insertRow hs) hd he
    exact (hverdict.error_iff e).2 rfl
  have hlayout {e : Error} (hvalid : ∀ c ∈ s.columns, r.Storable c)
      (he : r.insertLayout s d 1 = .error e) :
      (outcome ((insertRow r schema?).compile choice) session).1 = .error e := by
    obtain ⟨values, hvalues⟩ := (Record.exists_givenValues_iff hnames).2 hvalid
    apply hfails
    rw [Request.refusals, Request.bound, hvalues, he]
    rfl
  constructor
  · rintro ⟨c, hc, hrefused⟩
    cases hvalues : r.givenValues s with
    | ok values =>
        exact absurd ((Record.exists_givenValues_iff hnames).1 ⟨values, hvalues⟩ c hc) hrefused
    | error e =>
        obtain ⟨before, c, after, hcolumns, hbefore, hc, rfl⟩ :=
          Record.eq_of_givenValues_error hnames hvalues
        refine ⟨before, c, after, hcolumns, hbefore, hc, hfails _ ?_⟩
        rw [Request.refusals, Request.bound, hvalues]
        rfl
  · intro hopen
    have hnone : r.given s = [] := by
      by_contra hsome
      obtain ⟨c, hc, hvalue⟩ := (Record.given_ne_nil_iff hnames).1 hsome
      exact hvalue (hopen c hc)
    apply hlayout fun c hc => Record.storable_of_unset (hopen c hc)
    rw [Record.insertLayout, hnone]
    rfl
  · intro hreturn hgiven hvalid
    have hsome : ¬ (r.given s).isEmpty = true :=
      mt List.isEmpty_iff.1 ((Record.given_ne_nil_iff hnames).2 hgiven)
    apply hlayout hvalid
    rw [Record.insertLayout, if_neg hsome, Dialect.insertion, hreturn]

/-- Where the dialect hands a stored row back, an object with values that fit is inserted. -/
theorem exists_insert_of_storable (hs : schemaFor r schema? = .ok s)
    (hnames : s.columnNames.Nodup) (hd : (outcome (dialect choice) session).1 = .ok d)
    {settings : Settings} (hsettings : session.environment.settings = .ok settings)
    (hreturn : d.rowReturn? ≠ none)
    (hroom : settings.enforceLimit = true → ((r.given s).length : Int) ≤ d.limit)
    (hgiven : ∃ c ∈ s.columns, c.valueIn r ≠ .unset) (hvalid : ∀ c ∈ s.columns, r.Storable c) :
    ∃ statement, (outcome ((insertRow r schema?).compile choice) session).1 =
        .ok (some statement) ∧ statement.sql = d.insertText s (r.given s) ∧
      List.Forall₂ r.Stores (r.given s) statement.args := by
  obtain ⟨values, hvalues⟩ := (Record.exists_givenValues_iff hnames).2 hvalid
  obtain ⟨f, hlayout, htext⟩ :=
    Record.exists_insertLayout ((Record.given_ne_nil_iff hnames).2 hgiven) hreturn
  have hlength := Record.length_of_checkedValues hvalues
  obtain ⟨statement, hresult, hsql, hargs⟩ :=
    exists_statement_of_valid (request_insertRow hs) hd hsettings
      (by rw [Request.refusals, Request.bound, hvalues, hlayout]; rfl) id hlayout hvalues
      (hlength ▸ hroom)
  exact ⟨statement, hresult, hsql.trans htext, hargs ▸ Record.forall₂_stores hnames hvalues⟩

/--
The insert of an object in a table whose columns have names of their own.
What is wrong with it is found in one order in all dialects.  Where the
dialect hands a stored row back and has room for the values, there is a
statement just if some value was not left open and every one fits its column;
it names the columns whose values were not left open, in the order of the
table, with placeholders numbered from one, and the driver is handed for each
of them the value that its check gives.  Of the library's own dialects MySQL
alone does not hand a row back, SQL Server alone does it by a list of all
columns, and the others by `RETURNING *`.
-/
theorem insertVerdict_of_row (hs : schemaFor r schema? = .ok s) (hnames : s.columnNames.Nodup)
    (hd : (outcome (dialect choice) session).1 = .ok d) :
    ((r.given s).Sublist s.columns ∧
      ∀ c ∈ s.columns, c ∈ r.given s ↔ c.valueIn r ≠ .unset) ∧
    InsertVerdict r s d (outcome ((insertRow r schema?).compile choice) session).1 ∧
    (∀ settings, session.environment.settings = .ok settings → d.rowReturn? ≠ none →
      (settings.enforceLimit = true → ((r.given s).length : Int) ≤ d.limit) →
      ((∃ written, (outcome ((insertRow r schema?).compile choice) session).1 = .ok written) ↔
        (∃ c ∈ s.columns, c.valueIn r ≠ .unset) ∧ ∀ c ∈ s.columns, r.Storable c) ∧
      ∀ written, (outcome ((insertRow r schema?).compile choice) session).1 = .ok written →
        ∃ statement, written = some statement ∧ statement.sql = d.insertText s (r.given s) ∧
          List.Forall₂ r.Stores (r.given s) statement.args) ∧
    (∀ columns, (d.rowReturn? = some .returning →
        d.insertText s columns = d.returningText s columns) ∧
      (d.rowReturn? = some .output → d.insertText s columns = d.outputText s columns)) ∧
    ∀ b, ((Dialect.ofBuiltIn b).rowReturn? = none ↔ b = .mysql) ∧
      ((Dialect.ofBuiltIn b).rowReturn? = some .output ↔ b = .mssql) ∧
      ((Dialect.ofBuiltIn b).rowReturn? = some .returning ↔ b = .postgres ∨ b = .sqlite) := by
  have hverdict := insertVerdict_of_request hs hnames hd
  refine ⟨⟨List.filter_sublist, fun c hc => Record.mem_given_iff hnames hc⟩, hverdict,
    fun settings hsettings hreturn hroom => ?_,
    fun columns => ⟨fun h => Dialect.insertText_of_returning s h columns,
      fun h => Dialect.insertText_of_output s h columns⟩, Dialect.rowReturn?_ofBuiltIn_iff⟩
  have hinserted := exists_insert_of_storable hs hnames hd hsettings hreturn hroom
  have hgood : ∀ written,
      (outcome ((insertRow r schema?).compile choice) session).1 = .ok written →
      (∃ c ∈ s.columns, c.valueIn r ≠ .unset) ∧ ∀ c ∈ s.columns, r.Storable c := by
    intro written hwritten
    constructor
    · by_contra hopen
      have herror := hverdict.of_open (by simpa using hopen)
      cases herror.symm.trans hwritten
    · by_contra hrefused
      obtain ⟨_, _, _, -, -, -, herror⟩ := hverdict.of_not_storable (by simpa using hrefused)
      cases herror.symm.trans hwritten
  constructor
  · constructor
    · rintro ⟨written, hwritten⟩
      exact hgood written hwritten
    · rintro ⟨hgiven, hvalid⟩
      obtain ⟨statement, hresult, -⟩ := hinserted hgiven hvalid
      exact ⟨_, hresult⟩
  · intro written hwritten
    obtain ⟨hgiven, hvalid⟩ := hgood written hwritten
    obtain ⟨statement, hresult, hsql, hargs⟩ := hinserted hgiven hvalid
    exact ⟨statement, Except.ok.inj (hwritten.symm.trans hresult), hsql, hargs⟩

/-- Letters; the database numbers them. -/
def letters : Schema where
  identifier := ["post", "letters"]
  columns := [
    { name := "letter_id", type := "int" },
    { name := "weight", type := "int" },
    { name := "sender", type := "text", field := some "from" }]
  primaryKeys := ["letter_id"]

/-- A letter without a number, and from nobody. -/
def letter (weight : Value) : Record where
  model := ⟨"Letter", some letters⟩
  fields := [("weight", weight), ("from", .null)]

/-- A session with the settings that hold where none are given. -/
def postOffice : Session := { environment := { kept := some {} } }

/--
A letter is stored without its number, which comes back with the other
columns.  MySQL would not hand it back; but that is not said of a letter whose
weight is no number.
-/
theorem insertVerdict_of_row_letters :
    (∃ statement, (outcome ((insertRow (letter (.int 3)) none).compile (.named "mssql"))
        postOffice).1 = .ok (some statement) ∧
      statement.sql = "INSERT INTO [post].[letters] ([weight], [sender]) OUTPUT " ++
        "Inserted.[letter_id], Inserted.[weight], Inserted.[sender] VALUES (@p1, @p2)" ∧
      statement.args = [.int 3, .null]) ∧
    (outcome ((insertRow (letter (.int 3)) none).compile (.named "mysql")) postOffice).1 =
      .error (.unsupported "mysql" .rowReturn) ∧
    (outcome ((insertRow (letter (.text "heavy")) none).compile (.named "mysql"))
      postOffice).1 = .error (.valueMismatch "weight" "int" (.text "heavy")) := by
  have hnames : letters.columnNames.Nodup := by decide
  have hsome : ∃ c ∈ letters.columns, c.valueIn (letter (.int 3)) ≠ .unset :=
    ⟨letters.columns[1], List.getElem_mem _, nofun⟩
  have hstorable : ∀ c ∈ letters.columns, (letter (.int 3)).Storable c := by
    simp only [letters, List.forall_mem_cons]
    exact ⟨nofun, fun _ => ⟨_, rfl⟩, nofun, nofun⟩
  have hmssql : (outcome (dialect (.named "mssql")) postOffice).1 = .ok (.ofBuiltIn .mssql) := rfl
  have hmysql : (outcome (dialect (.named "mysql")) postOffice).1 = .ok (.ofBuiltIn .mysql) := rfl
  have hschema (weight : Value) : schemaFor (letter weight) none = .ok letters := rfl
  refine ⟨?_, ?_, ?_⟩
  · obtain ⟨hiff, hstatement⟩ := (insertVerdict_of_row (hschema (.int 3)) hnames hmssql).2.2.1
      {} rfl nofun (by decide)
    obtain ⟨written, hwritten⟩ := hiff.2 ⟨hsome, hstorable⟩
    obtain ⟨⟨sql, args, name⟩, rfl, hsql, hargs⟩ := hstatement written hwritten
    refine ⟨_, hwritten, hsql, ?_⟩
    obtain _ | ⟨hweight, _ | ⟨hsender, _ | _⟩⟩ := hargs
    obtain rfl := Except.ok.inj hweight.checked
    obtain rfl := Except.ok.inj hsender.checked
    rfl
  · exact (insertVerdict_of_row (hschema (.int 3)) hnames hmysql).2.1.of_unreturned rfl hsome
      hstorable
  · have hheavy : ¬ (letter (.text "heavy")).Storable letters.columns[1] := by
      intro h
      obtain ⟨w, hw⟩ := h rfl
      cases hw
    obtain ⟨before, c, after, hcolumns, hbefore, hc, hresult⟩ :=
      (insertVerdict_of_row (hschema (.text "heavy")) hnames hmysql).2.1.of_not_storable
        ⟨_, List.getElem_mem _, hheavy⟩
    -- The number can be left open, so the first column that is refused is the weight.
    obtain _ | ⟨first, _ | ⟨second, rest⟩⟩ := before
    · obtain ⟨rfl, -⟩ := List.cons.inj hcolumns
      exact absurd nofun hc
    · obtain ⟨-, hrest⟩ := List.cons.inj hcolumns
      obtain ⟨rfl, -⟩ := List.cons.inj hrest
      exact hresult
    · obtain ⟨-, hrest⟩ := List.cons.inj hcolumns
      obtain ⟨rfl, -⟩ := List.cons.inj hrest
      exact absurd (hbefore _ (List.mem_cons_of_mem _ List.mem_cons_self)) hheavy

end Command

end SqlCompose
