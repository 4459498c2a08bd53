import SqlCompose.Proofs.Statement.Fragment
import SqlCompose.Proofs.Statement.Layout

/-!
# Manual fragments as they are meant

What a caller means by a manual fragment is a row of literal texts with a
value between neighbours.  It is written down with every question mark of a
literal text twice and a single one for each value (`Template.escaped`).  That
is read as it is meant where a mark cannot be taken for half of an escape: no
literal text behind a mark starts with a question mark, and none between two
marks is empty.  What stands before a mark does not matter, as the text is
read from the left.

The text is read once where the fragment is made, for the number of its marks,
and once more where it is written.  Both go by the same parts.

## Main results

* `Template.partsOf_escaped` — the literal texts are read back.
* `Template.write_of_escaped` — the fragment is made just with a value for
  each mark, and it is written as it is meant.
-/

namespace SqlCompose

open Quoting (doubled)
open Writing (outcome)

namespace Template

/-! ## Escapes -/

/-- The characters of marks, each with the literal text behind it in escaped form. -/
def escapedTails (tails : List String) : List Char :=
  tails.flatMap fun t => '?' :: doubled '?' t.toList

/--
The text of a fragment that is meant as the head and then, for each of the
tails, a value and the tail.
-/
def escaped (head : String) (tails : List String) : String :=
  String.ofList (doubled '?' head.toList ++ escapedTails tails)

/-- Whether every mark before the tails is read as a mark. -/
structure IsSeparated (tails : List String) : Prop where
  between : ∀ t ∈ tails.dropLast, t ≠ ""
  start : ∀ t ∈ tails, t.toList.head? ≠ some '?'

theorem IsSeparated.of_cons {t : String} {rest : List String} (h : IsSeparated (t :: rest)) :
    IsSeparated rest where
  between u hu := by
    cases rest with
    | nil => cases hu
    | cons v rest => exact h.between u (List.mem_cons_of_mem _ hu)
  start u hu := h.start u (List.mem_cons_of_mem _ hu)

/-- What stands behind a mark does not start with a question mark. -/
theorem IsSeparated.head?_ne {t : String} {rest : List String} (h : IsSeparated (t :: rest)) :
    (doubled '?' t.toList ++ escapedTails rest).head? ≠ some '?' := by
  have hstart := h.start t List.mem_cons_self
  cases hcs : t.toList with
  | nil =>
      -- Only the last text can be empty, and then nothing stands behind the mark.
      have hlast : rest = [] := by
        cases rest with
        | nil => rfl
        | cons u rest =>
            exact absurd (String.toList_eq_nil_iff.1 hcs) (h.between t List.mem_cons_self)
      subst hlast
      simp [doubled, escapedTails]
  | cons c cs =>
      rw [hcs, List.head?_cons, ne_eq, Option.some.injEq] at hstart
      rw [doubled, if_neg hstart]
      simpa using hstart

/-! ## Reading -/

/-- An escaped text goes on the literal part at hand. -/
theorem split_doubled (l rest current : List Char) (parts : List String) :
    split (doubled '?' l ++ rest) current parts = split rest (l.reverse ++ current) parts := by
  induction l generalizing current with
  | nil => rfl
  | cons c cs ih =>
      rw [doubled]
      by_cases hc : c = '?'
      · subst hc
        rw [if_pos rfl, List.cons_append, List.cons_append, split, ih]
        simp
      · rw [if_neg hc, List.cons_append, split, ih]
        · simp
        · exact fun _ h => absurd h hc
        · exact hc

/-- A question mark that another one does not follow ends the literal part at hand. -/
theorem split_mark {rest : List Char} (h : rest.head? ≠ some '?') (current : List Char)
    (parts : List String) :
    split ('?' :: rest) current parts =
      split rest [] (String.ofList current.reverse :: parts) := by
  rw [split]
  rintro rest' rfl
  exact h rfl

theorem split_escapedTails {tails : List String} (h : IsSeparated tails) (current : List Char)
    (parts : List String) :
    split (escapedTails tails) current parts =
      parts.reverse ++ String.ofList current.reverse :: tails := by
  induction tails generalizing current parts with
  | nil => simp [escapedTails, split]
  | cons t rest ih =>
      have hmark := split_mark h.head?_ne current parts
      have hrest := ih h.of_cons t.toList.reverse (String.ofList current.reverse :: parts)
      rw [escapedTails, List.flatMap_cons, List.cons_append, ← escapedTails, hmark, split_doubled,
        List.append_nil, hrest]
      simp

/-- The literal texts are read back from the text of the fragment. -/
theorem partsOf_escaped (head : String) {tails : List String} (h : IsSeparated tails) :
    partsOf (escaped head tails) = head :: tails := by
  rw [partsOf, escaped, String.toList_ofList, split_doubled, split_escapedTails h]
  simp

theorem markCount_escaped (head : String) {tails : List String} (h : IsSeparated tails) :
    markCount (escaped head tails) = tails.length := by
  rw [markCount, partsOf_escaped head h]
  rfl

/-! ## Writing -/

/-- Literal texts with placeholders between them, numbered from the given one. -/
theorem text_weave (d : Dialect) (head : String) (tails : List String) (first : Nat) :
    Fragment.text d (weave (head :: tails) ((List.range' first tails.length).map .mark)) =
      head ++ String.join ((tails.zipIdx first).map fun (t, n) =>
        d.placeholder (toString n) ++ t) := by
  induction tails generalizing head first with
  | nil => simp [Fragment.text_cons, Piece.text]
  | cons t rest ih =>
      rw [List.length_cons, List.range'_succ, List.map_cons, weave_cons_cons, Fragment.text_cons,
        Fragment.text_cons, ih, List.zipIdx_cons, List.map_cons, String.join_cons]
      simp only [Piece.text, String.append_assoc]

/--
A manual fragment whose text is the escaped form of what is meant by it, with
any values.  It is made just if there are as many values as marks, and refused
for their numbers else.  It is written behind its column as it is meant, from
any draft and in any dialect: the literal texts come out as they were before
they were escaped, between them stand the placeholders that are next, and what
is added to the draft is the values, as a driver is handed them, and nothing
else.  Without a mark there is the one literal text, and nothing is bound.
-/
theorem write_of_escaped {tails : List String} (h : IsSeparated tails) (head column : String)
    (values : List Value) :
    (values.length ≠ tails.length →
      ofValue column (.text (escaped head tails)) values =
        .error (.compilation (.markerCount column tails.length values.length))) ∧
    (values.length = tails.length →
      ∃ template, ofValue column (.text (escaped head tails)) values = .ok template ∧
        ∀ (d : Dialect) (q : Qualifier) (table : Option String) (draft : Draft),
          ∃ f, outcome (Clause.write d q (.manual column template table)) draft =
              (.ok f, { draft with
                args := draft.args ++ (values.map Value.toBind).toArray
                issued := draft.issued + tails.length }) ∧
            f.text d = (q.column column).text d ++ head ++
              String.join ((tails.zipIdx (draft.issued + 1)).map fun (t, n) =>
                d.placeholder (toString n) ++ t)) := by
  have hcount := markCount_escaped head h
  constructor
  · intro hlength
    have hmarks : ¬ markCount (escaped head tails) = values.length := by
      rw [hcount]
      exact hlength.symm
    rw [ofValue, make, dif_neg hmarks, hcount]
  · intro hlength
    have hmarks : markCount (escaped head tails) = values.length := hcount.trans hlength.symm
    let template : Template := ⟨escaped head tails, values, hmarks⟩
    refine ⟨template, dif_pos hmarks, fun d q table draft => ?_⟩
    have hwritten := (Clause.spec_write d q (.manual column template table)).writes rfl draft
    refine ⟨(Clause.manual column template table).layout d q draft.issued draft.aliases, ?_, ?_⟩
    · rw [hwritten, ← hlength]
      rfl
    · rw [Clause.layout, Fragment.text_append, literals, partsOf_escaped head h, hlength,
        text_weave, String.append_assoc]

/-- The text of a condition on a document, which has to have two keys. -/
def bothKeys : String := " ??? AND attributes ???"

/-- An operator that is a question mark itself can stand right before a value. -/
theorem write_of_escaped_bothKeys :
    IsSeparated [" AND attributes ?", ""] ∧
      ofValue "attributes" (.text bothKeys) [.text "sku"] =
        .error (.compilation (.markerCount "attributes" 2 1)) ∧
      ∃ template f draft,
        ofValue "attributes" (.text bothKeys) [.text "sku", .unset] = .ok template ∧
          outcome (Clause.write .postgres (.tableAlias 1) (.manual "attributes" template none))
            { args := #[.int 7], issued := 1 } = (.ok f, draft) ∧
          f.text .postgres = "t1.\"attributes\" ?$2 AND attributes ?$3" ∧
          draft.args = #[.int 7, .text "sku", .null] ∧ draft.issued = 3 := by
  have hseparated : IsSeparated [" AND attributes ?", ""] := by
    constructor <;> decide
  have htext : escaped " ?" [" AND attributes ?", ""] = bothKeys := rfl
  obtain ⟨hrefused, -⟩ := write_of_escaped hseparated " ?" "attributes" [.text "sku"]
  obtain ⟨-, hwritten⟩ :=
    write_of_escaped hseparated " ?" "attributes" [.text "sku", .unset]
  obtain ⟨template, hmade, hwrite⟩ := hwritten rfl
  obtain ⟨f, hout, hf⟩ := hwrite .postgres (.tableAlias 1) none { args := #[.int 7], issued := 1 }
  rw [htext] at hrefused hmade
  exact ⟨hseparated, hrefused (by decide), template, f, _, hmade, hout, hf.trans (by rfl), rfl, rfl⟩

end Template

end SqlCompose
