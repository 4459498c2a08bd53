import Mathlib.Data.List.Forall2
import SqlCompose.Proofs.Query.Assignment
import SqlCompose.Proofs.Statement.Listing

/-!
# What an update sets

An update has one entry for each of its assignments, in their order: a column
with NULL, with a placeholder, or with a manual fragment behind it.  The
placeholder is that of the value which the assignment gives, by its place in
the arguments of the statement.  An entry without a text is left out, as can
be with a manual fragment where a dialect writes no name.

## Main results

* `Clause.exists_entry` — one assignment is written as its entry.
* `Request.exists_entries_of_update` — the text of an update from its entries.
-/

namespace SqlCompose

open Fragment

/-- What an update says of one column. -/
inductive SetEntry where
  /-- The column is set to NULL. -/
  | null (column : String)
  /-- The column is set to the argument in a place, the first of which is place 0. -/
  | bound (column : String) (place : Nat)
  /-- A manual fragment stands behind the column, its first argument in a place. -/
  | manual (column : String) (template : Template) (place : Nat)

namespace SetEntry

/-- The text of an entry. -/
def text (d : Dialect) : SetEntry → String
  | null column => d.quote column ++ "=NULL"
  | bound column place => d.quote column ++ "=" ++ d.placeholder (toString (place + 1))
  | manual column template place =>
    d.quote column ++ Fragment.text d (Template.weave template.literals
      ((List.range' (place + 1) template.values.length).map .mark))

/-- The entries of a list as an update writes them. -/
def written (d : Dialect) (entries : List SetEntry) : List String :=
  (entries.map (text d)).filter fun t => t ≠ ""

/-- Whether an entry is that of an assignment, where a statement has the arguments. -/
inductive Writes {ρ : Type} (args : List Value) : Clause ρ → SetEntry → Prop
  | null {column table} : Writes args (.assignNull column table) (null column)
  | bound {column v table place} :
      args[place]? = some v.toBind → Writes args (.assign column v table) (bound column place)
  | manual {column template table place} :
      Writes args (.manual column template table) (manual column template place)

/-- Following references leaves the entry of an assignment as it is. -/
theorem Writes.of_follow {ρ σ : Type} {f : ρ → Except Error σ} {c : Clause ρ} {c' : Clause σ}
    {args : List Value} {e : SetEntry} (hc : c.follow f = .ok c') (h : Writes args c' e) :
    Writes args c e := by
  cases c with
  | assign =>
      cases hc
      cases h with
      | bound harg => exact .bound harg
  | assignNull =>
      cases hc
      cases h with
      | null => exact .null
  | manual =>
      cases hc
      cases h with
      | manual => exact .manual
  | compare =>
      cases hc
      cases h
  | related =>
      obtain ⟨inner, -, hc⟩ := exists_of_bind hc
      cases hc
      cases h
  | among =>
      obtain ⟨query, -, hc⟩ := exists_of_bind hc
      cases hc
      cases h

end SetEntry

/-! ## The text of an update -/

theorem Fragment.isBlank_iff (d : Dialect) (f : Fragment) : f.isBlank d = true ↔ f.text d = "" := by
  induction f with
  | nil => simp [isBlank]
  | cons p rest ih =>
      rw [text_cons, String.append_eq_empty_iff, ← ih, isBlank, List.all_cons, Bool.and_eq_true,
        String.isEmpty_iff]
      rfl

namespace Clause

variable {d : Dialect} {args before after : List Value}

/-- The layout of an assignment has the text of its entry. -/
theorem exists_entry {c : Clause Query} (hc : c.isAssignment = true) (d : Dialect)
    (hargs : args = (before ++ c.values ++ after).map Value.toBind) (aliases : Nat) :
    ∃ e : SetEntry, e.Writes args c ∧
      (c.layout d .none before.length aliases).text d = e.text d := by
  cases c with
  | assign column v table =>
      refine ⟨.bound column before.length, .bound ?_, ?_⟩
      · rw [hargs]
        simp [Clause.values, Clause.gather, Clause.ownValues]
      · simp [Clause.layout, Qualifier.column, SetEntry.text, text_cons, Piece.text,
          String.append_assoc]
  | assignNull column table =>
      refine ⟨.null column, .null, ?_⟩
      simp [Clause.layout, Qualifier.column, SetEntry.text, text_cons, Piece.text]
  | manual column template table =>
      refine ⟨.manual column template before.length, .manual, ?_⟩
      rw [Clause.layout, text_append]
      simp [Qualifier.column, SetEntry.text, text_cons, Piece.text]
  | _ => cases hc

/-- The layouts of assignments have the texts of their entries, but for those without a text. -/
theorem exists_entries {cs : List (Clause Query)} (hcs : ∀ c ∈ cs, c.isAssignment = true)
    (d : Dialect) (hargs : args = (before ++ valuesAll cs ++ after).map Value.toBind)
    (aliases : Nat) :
    ∃ entries, List.Forall₂ (fun c e => SetEntry.Writes args c e) cs entries ∧
      (layoutAll d .none before.length aliases cs).map (Fragment.text d) =
        SetEntry.written d entries := by
  induction cs generalizing before aliases with
  | nil => exact ⟨[], .nil, rfl⟩
  | cons c rest ih =>
      rw [valuesAll_cons] at hargs
      have hfirst : args = (before ++ c.values ++ (valuesAll rest ++ after)).map Value.toBind := by
        simpa using hargs
      have hrest : args = ((before ++ c.values) ++ valuesAll rest ++ after).map Value.toBind := by
        simpa using hargs
      obtain ⟨e, he, htext⟩ := exists_entry (hcs c List.mem_cons_self) d hfirst aliases
      obtain ⟨entries, hentries, htexts⟩ :=
        ih (fun c' hc' => hcs c' (List.mem_cons_of_mem _ hc')) hrest (aliases + c.subqueries.length)
      refine ⟨e :: entries, .cons he hentries, ?_⟩
      rw [List.length_append] at htexts
      rw [layoutAll, SetEntry.written, List.map_cons, ← htext]
      by_cases hblank : (c.layout d .none before.length aliases).text d = ""
      · rw [if_pos ((isBlank_iff d _).2 hblank), htexts, List.filter_cons_of_neg (by simpa)]
        rfl
      · rw [if_neg (mt (isBlank_iff d _).1 hblank), List.map_cons, htexts,
          List.filter_cons_of_pos (by simpa)]
        rfl

end Clause

/-- A condition of an update is in brackets. -/
theorem Update.text_conditionLayout (d : Dialect) (u : Update) (issued aliases : Nat) :
    (behindSpace (u.conditionLayout d issued aliases)).text d = "" ∨
      ∃ condition, (behindSpace (u.conditionLayout d issued aliases)).text d =
        " WHERE ( " ++ condition ++ " )" := by
  have hwhere : " WHERE ( " = " " ++ "WHERE ( " := by decide
  rw [Update.conditionLayout]
  generalize (if u.query.isPaged then _ else _) = parts
  cases parts with
  | nil => exact .inl rfl
  | cons part rest =>
      refine .inr ⟨(joinWith " AND " (part :: rest)).text d, ?_⟩
      rw [hwhere]
      simp only [conjunction, behindSpace, List.cons_append, text_cons, text_append, text_nil,
        Piece.text, String.append_assoc, String.append_empty]

/--
An update that is compiled has the entries of its assignments with commas
between them, and behind them nothing but a condition.
-/
theorem Request.exists_entries_of_update {u : Update}
    (hassign : ∀ a ∈ u.assignments, a.isAssignment = true) {settings : Except Error Settings}
    {d : Dialect} {statement : Statement} {events : List Event}
    (h : (Request.update u).compile settings d = .ok (some (statement, events))) :
    ∃ entries rest,
      List.Forall₂ (fun c e => SetEntry.Writes statement.args c e) u.assignments entries ∧
      statement.sql = "UPDATE " ++ (table u.query.schema.identifier).text d ++ " SET " ++
        ", ".intercalate (SetEntry.written d entries) ++ rest ∧
      (rest = "" ∨ ∃ condition, rest = " WHERE ( " ++ condition ++ " )") := by
  obtain ⟨f, vs, hlayout, hbound, hsql, hargs, -⟩ := exists_of_compile h
  cases hlayout
  cases hbound
  have hvalues : statement.args =
      ([] ++ Clause.valuesAll u.assignments ++ (Query.mk u.query).values).map Value.toBind := hargs
  obtain ⟨entries, hentries, htexts⟩ := Clause.exists_entries hassign d hvalues 0
  refine ⟨entries, _, hentries, ?_, Update.text_conditionLayout d u
    (0 + (Clause.valuesAll u.assignments).length)
    (0 + (Clause.subqueriesAll u.assignments).length)⟩
  rw [hsql, Update.layout, spaced_some_cons, ← htexts, ← text_joinWith]
  simp only [List.flatMap_cons, List.flatMap_nil, List.append_nil, List.cons_append, text_cons,
    text_append, Piece.text, String.append_assoc, List.length_nil]

end SqlCompose
