import SqlCompose.Statement.Condition

/-!
# What fragments are made of

The parts of a statement are put together in few ways: with a word between
neighbours, as a condition, as the end of a query, as a list of rows.  What
is asked of the result is mostly which pieces of one kind are in it, the
placeholders or the table aliases, and in which order.  `SkipsText pick` says
that `pick` looks at such a kind, and the lemmas after it take the question
from the whole to the parts.
-/

namespace SqlCompose

namespace Fragment

theorem text_cons (d : Dialect) (p : Piece) (f : Fragment) :
    text d (p :: f) = p.text d ++ text d f := by
  have h := text_append d [p] f
  have hone : text d [p] = p.text d := by simp [text]
  rw [← hone, ← h]
  rfl

/-- A separator between fragments, one pair at a time. -/
theorem joinWith_cons_cons (separator : String) (f g : Fragment) (rest : List Fragment) :
    joinWith separator (f :: g :: rest) =
      f ++ .word separator :: joinWith separator (g :: rest) := by
  simp [joinWith]

/-- The text of fragments with a word between neighbours. -/
theorem text_joinWith (d : Dialect) (separator : String) (fs : List Fragment) :
    text d (joinWith separator fs) = separator.intercalate (fs.map (text d)) := by
  induction fs with
  | nil => rfl
  | cons f rest ih =>
      cases rest with
      | nil => simp [joinWith]
      | cons g rest =>
          rw [joinWith_cons_cons, text_append, text_cons, ih, List.map_cons, List.map_cons,
            List.map_cons, String.intercalate_cons_cons, Piece.text, String.append_assoc]

/-- A part of a statement behind a space, if it is there. -/
def behindSpace (part : Option Fragment) : Fragment :=
  match part with
  | none => []
  | some f => .word " " :: f

/-- The parts that are there stand behind the first one, each behind a space. -/
theorem spaced_some_cons (f : Fragment) (parts : List (Option Fragment)) :
    spaced (some f :: parts) = f ++ parts.flatMap behindSpace := by
  have hrest : (parts.filterMap id).flatMap (fun g => .word " " :: g) =
      parts.flatMap behindSpace := by
    induction parts with
    | nil => rfl
    | cons part rest ih =>
        cases part with
        | none => exact ih
        | some g => simpa [behindSpace] using ih
  rw [← hrest]
  rfl

end Fragment

/-! ## Weaving -/

namespace Template

@[simp] theorem weave_nil (marks : List Piece) : weave [] marks = [] := by
  simp [weave]

@[simp] theorem weave_cons_nil (t : String) (literals : List String) :
    weave (t :: literals) [] = .verbatim t :: weave literals [] := by
  simp [weave]

@[simp] theorem weave_cons_cons (t : String) (literals : List String) (mark : Piece)
    (marks : List Piece) :
    weave (t :: literals) (mark :: marks) = .verbatim t :: mark :: weave literals marks := by
  simp [weave]

end Template

/-! ## The end of a query -/

/-- The order of a query, or the one that its window needs. -/
def ordering (d : Dialect) (order : List Fragment) (paged : Bool) : Option Fragment :=
  match order with
  | [] => if paged && d.orderForPaging then some [.word "ORDER BY (SELECT NULL)"] else none
  | items => some (.word "ORDER BY " :: Fragment.joinWith ", " items)

/-- The window of a query, if it is written as anything. -/
def window (d : Dialect) (limit offset : Option Value) : Option String :=
  (d.paging limit offset).filter fun t => !t.isEmpty

/-- The end of a query is its order and its window. -/
theorem getD_tail (d : Dialect) (order : List Fragment) (limit offset : Option Value) :
    (tail d order limit offset).getD [] =
      Fragment.spaced [ordering d order (window d limit offset).isSome,
        (window d limit offset).map fun t => [.word t]] := by
  unfold tail ordering window
  cases (d.paging limit offset).filter fun t => !t.isEmpty with
  | none => cases order <;> simp [Fragment.spaced, Fragment.joinWith]
  | some t =>
      cases order with
      | nil => cases d.orderForPaging <;> simp
      | cons f rest => simp

/-! ## Windows of the library's own dialects -/

/-- The words that windows are written with. -/
def pagingWords : List String :=
  ["LIMIT", "OFFSET", "ROWS", "FETCH", "NEXT", "ONLY", "-1", "18446744073709551615"]

/-- Words and numbers with spaces between them, as windows are written. -/
inductive IsWindowText : String → Prop
  | word {w} : w ∈ pagingWords → IsWindowText w
  | number (n : Nat) : IsWindowText (boundValue n).display
  | space {t u} : IsWindowText t → IsWindowText u → IsWindowText (t ++ " " ++ u)

namespace IsWindowText

theorem behind {w t : String} (hw : w ∈ pagingWords) (ht : IsWindowText t) :
    IsWindowText (w ++ " " ++ t) := space (word hw) ht

variable {limit offset : Option Nat} {t : String}

private theorem of_limitOffset
    (h : Dialect.limitOffset (limit.map boundValue) (offset.map boundValue) = some t) :
    IsWindowText t := by
  have hlimit : "LIMIT " = "LIMIT" ++ " " := by decide
  have hoffset : "OFFSET " = "OFFSET" ++ " " := by decide
  have hboth : " OFFSET " = " " ++ ("OFFSET" ++ " ") := by decide
  have hfirst : ∀ n : Nat, IsWindowText ("LIMIT" ++ " " ++ (boundValue n).display) :=
    fun n => behind (by decide) (number n)
  have hsecond : ∀ n : Nat, IsWindowText ("OFFSET" ++ " " ++ (boundValue n).display) :=
    fun n => behind (by decide) (number n)
  cases limit with
  | none =>
      cases offset with
      | none => cases h
      | some m =>
          cases h
          rw [hoffset]
          exact hsecond m
  | some n =>
      cases offset with
      | none =>
          cases h
          rw [hlimit]
          exact hfirst n
      | some m =>
          cases h
          rw [hlimit, hboth]
          simpa only [String.append_assoc] using (hfirst n).space (hsecond m)

private theorem of_limitOffsetWith {noLimit : String} (hnoLimit : noLimit ∈ pagingWords)
    (h : Dialect.limitOffsetWith noLimit (limit.map boundValue) (offset.map boundValue) =
      some t) : IsWindowText t := by
  unfold Dialect.limitOffsetWith at h
  split at h
  · rename_i m _ hoffset
    obtain ⟨n, -, rfl⟩ := Option.map_eq_some_iff.1 hoffset
    cases h
    have hlimit : "LIMIT " = "LIMIT" ++ " " := by decide
    have hboth : " OFFSET " = " " ++ ("OFFSET" ++ " ") := by decide
    have hfirst : IsWindowText ("LIMIT" ++ " " ++ noLimit) := behind (by decide) (word hnoLimit)
    have hsecond : IsWindowText ("OFFSET" ++ " " ++ (boundValue n).display) :=
      behind (by decide) (number n)
    rw [hlimit, hboth]
    simpa only [String.append_assoc] using hfirst.space hsecond
  · exact of_limitOffset h

private theorem of_offsetFetch
    (h : Dialect.offsetFetch (limit.map boundValue) (offset.map boundValue) = some t) :
    IsWindowText t := by
  have hwritten : IsWindowText (Dialect.writtenOffset (offset.map boundValue)) := by
    cases offset with
    | none => exact number 0
    | some m =>
        simp only [Option.map_some, Dialect.writtenOffset]
        split
        · exact number m
        · exact number 0
  have hoffset : "OFFSET " = "OFFSET" ++ " " := by decide
  have hrows : " ROWS" = " " ++ "ROWS" := by decide
  have hfetch : " ROWS FETCH NEXT " =
      " " ++ ("ROWS" ++ " " ++ ("FETCH" ++ " " ++ ("NEXT" ++ " "))) := by decide
  have honly : " ROWS ONLY" = " " ++ ("ROWS" ++ " " ++ "ONLY") := by decide
  have hfirst : IsWindowText ("OFFSET" ++ " " ++ Dialect.writtenOffset (offset.map boundValue)) :=
    behind (by decide) hwritten
  cases limit with
  | none =>
      cases offset with
      | none => cases h
      | some m =>
          cases h
          rw [hoffset, hrows]
          simpa only [String.append_assoc] using hfirst.space (word (by decide))
  | some n =>
      cases h
      have hnext : IsWindowText
          ("ROWS" ++ " " ++ ("FETCH" ++ " " ++ ("NEXT" ++ " " ++ (boundValue n).display))) :=
        behind (by decide) (behind (by decide) (behind (by decide) (number n)))
      have hlast : IsWindowText ("ROWS" ++ " " ++ "ONLY") := behind (by decide) (word (by decide))
      rw [hoffset, hfetch, honly]
      simpa only [String.append_assoc] using (hfirst.space hnext).space hlast

/-- The windows of the library's own dialects are words and numbers. -/
theorem of_window {b : BuiltIn}
    (h : window (.ofBuiltIn b) (limit.map boundValue) (offset.map boundValue) = some t) :
    IsWindowText t := by
  have hpaging := (Option.filter_eq_some_iff.1 h).1
  cases b with
  | postgres => exact of_limitOffset hpaging
  | mysql => exact of_limitOffsetWith (by decide) hpaging
  | mssql => exact of_offsetFetch hpaging
  | sqlite => exact of_limitOffsetWith (by decide) hpaging

end IsWindowText

/-! ## Pieces of one kind -/

variable {α : Type} {pick : Piece → Option α}

/-- Whether words and names are passed over. -/
structure SkipsText (pick : Piece → Option α) : Prop where
  word : ∀ t, pick (.word t) = none
  name : ∀ n, pick (.name n) = none

namespace SkipsText

theorem filterMap_joinWith (h : SkipsText pick) (separator : String) (fs : List Fragment) :
    (Fragment.joinWith separator fs).filterMap pick = fs.flatMap (List.filterMap pick) := by
  induction fs with
  | nil => rfl
  | cons f rest ih =>
      cases rest with
      | nil => simp [Fragment.joinWith]
      | cons g rest =>
          rw [Fragment.joinWith_cons_cons, List.filterMap_append,
            List.filterMap_cons_none (h.word _), ih]
          simp

theorem filterMap_spaced (h : SkipsText pick) (parts : List (Option Fragment)) :
    (Fragment.spaced parts).filterMap pick =
      parts.flatMap fun part => (part.getD []).filterMap pick := by
  rw [Fragment.spaced, h.filterMap_joinWith]
  induction parts with
  | nil => rfl
  | cons part rest ih => cases part <;> simpa using ih

theorem filterMap_table (h : SkipsText pick) (identifier : List String) :
    (Fragment.table identifier).filterMap pick = [] := by
  rw [Fragment.table, h.filterMap_joinWith, List.flatMap_eq_nil_iff]
  intro f hf
  obtain ⟨segment, -, rfl⟩ := List.mem_map.1 hf
  exact List.filterMap_cons_none (h.name _)

theorem filterMap_column_alias (h : SkipsText pick) (number : Nat) (name : String) :
    ((Qualifier.tableAlias number).column name).filterMap pick =
      (pick (.tableAlias number)).toList := by
  cases hpick : pick (.tableAlias number) <;>
    simp [Qualifier.column, h.word, h.name, hpick]

theorem filterMap_column_table (h : SkipsText pick) (identifier : List String) (name : String) :
    ((Qualifier.table identifier).column name).filterMap pick = [] := by
  simp [Qualifier.column, h.filterMap_table, h.word, h.name]

theorem filterMap_conjunction (h : SkipsText pick) (parts : List Fragment) :
    ((conjunction parts).getD []).filterMap pick = parts.flatMap (List.filterMap pick) := by
  cases parts with
  | nil => rfl
  | cons f rest => simp [conjunction, h.word, h.filterMap_joinWith]

theorem filterMap_tail (h : SkipsText pick) {ρ : Type} (d : Dialect) (q : Qualifier)
    (s : Selection ρ) :
    ((s.tail d q).getD []).filterMap pick =
      s.order.flatMap fun o => (q.column o.column).filterMap pick := by
  have hwindow : ∀ w : Option String,
      ((w.map fun t => [Piece.word t]).getD []).filterMap pick = [] := by
    intro w
    cases w <;> simp [h.word]
  have hitem : ∀ o : OrderItem, (o.fragment q).filterMap pick =
      (q.column o.column).filterMap pick := by
    intro o
    simp [OrderItem.fragment, h.word]
  have hordering : ∀ paged : Bool,
      ((ordering d (s.order.map (OrderItem.fragment q)) paged).getD []).filterMap pick =
        s.order.flatMap fun o => (q.column o.column).filterMap pick := by
    intro paged
    cases s.order with
    | nil => cases paged <;> cases hd : d.orderForPaging <;> simp [ordering, hd, h.word]
    | cons o rest =>
        simp [ordering, h.word, h.filterMap_joinWith, hitem, List.flatMap_map]
  unfold Selection.tail
  rw [getD_tail, h.filterMap_spaced]
  simp [hordering, hwindow]

theorem filterMap_rowsFrom (h : SkipsText pick) (columns : Fragment) (identifier : List String)
    (number : Nat) (condition ending : Option Fragment) :
    (rowsFrom columns identifier number condition ending).filterMap pick =
      columns.filterMap pick ++ ((pick (.tableAlias number)).toList ++
        ((condition.getD []).filterMap pick ++ (ending.getD []).filterMap pick)) := by
  rw [rowsFrom, h.filterMap_spaced]
  cases hpick : pick (.tableAlias number) <;>
    simp [h.word, h.filterMap_table, hpick]

theorem filterMap_existence (h : SkipsText pick) (keyword : String) (identifier : List String)
    (number : Nat) (innerColumn : String) (outer : Fragment) (parts : List Fragment) :
    (existence keyword identifier number innerColumn outer parts).filterMap pick =
      (pick (.tableAlias number)).toList ++ ((pick (.tableAlias number)).toList ++
        ((pick (.tableAlias number)).toList ++
          (outer.filterMap pick ++ parts.flatMap (List.filterMap pick)))) := by
  cases hpick : pick (.tableAlias number) <;>
    simp [existence, h.word, h.filterMap_table, h.filterMap_column_alias, h.filterMap_joinWith,
      hpick]

theorem filterMap_membership (h : SkipsText pick) (column rows : Fragment) :
    (membership column rows).filterMap pick = column.filterMap pick ++ rows.filterMap pick := by
  simp [membership, h.word]

end SkipsText

end SqlCompose
