import Mathlib.Algebra.Ring.Nat
import SqlCompose.Proofs.Statement.Window

/-!
# What windows mean

The library's own dialects write a window in three ways, and two of them need
a word for no limit where an offset stands alone.  Read as the dialect reads
it (`BuiltIn.readWindow?`), a window means the same in all of them: so many
rows are passed over, and so many at most are kept of the others.

A window is the last thing in a list of rows and stands behind the order of
the rows (`Dialect.orderText`), which is that of the query.  A dialect that
needs an order before a window gets one that says nothing where the query has
none.

## Main results

* `BuiltIn.paging_eq_none_iff`, `BuiltIn.exists_agrees` — a window is there
  just if a bound is, and it means these bounds.
* `Request.exists_text_of_paging` — what stands before and behind a window.
-/

namespace SqlCompose

/-! ## Reading windows -/

/-- How many rows are passed over, and how many at most are kept of the others. -/
structure Window where
  skip : Nat
  keep : Option Nat

/-- The rows of a window. -/
def Window.rows {α : Type} (w : Window) (rows : List α) : List α :=
  match w.keep with
  | some n => (rows.drop w.skip).take n
  | none => rows.drop w.skip

namespace Window

/-- The words of a text, with single spaces between them. -/
def words (t : String) : List String := (t.toList.splitOn ' ').map String.ofList

/-- A number in decimal digits. -/
def readNumber? (word : String) : Option Nat :=
  if word.toList ≠ [] ∧ word.toList.all Char.isDigit then
    some (Nat.ofDigitChars 10 word.toList 0)
  else none

/-- The bound of a limit, where a word may stand for none. -/
def readBound? (noLimit? : Option String) (word : String) : Option (Option Nat) :=
  if noLimit? = some word then some none else (readNumber? word).map some

/--
`LIMIT n`, `LIMIT n OFFSET m` or `OFFSET m`; an offset does not stand alone
where there is a word for no limit.
-/
def readLimitOffset? (noLimit? : Option String) : List String → Option Window
  | ["LIMIT", n] => do return ⟨0, ← readBound? noLimit? n⟩
  | ["LIMIT", n, "OFFSET", m] => do return ⟨← readNumber? m, ← readBound? noLimit? n⟩
  | ["OFFSET", m] => if noLimit?.isSome then none else do return ⟨← readNumber? m, none⟩
  | _ => none

/-- `OFFSET m ROWS` or `OFFSET m ROWS FETCH NEXT n ROWS ONLY`. -/
def readOffsetFetch? : List String → Option Window
  | ["OFFSET", m, "ROWS"] => do return ⟨← readNumber? m, none⟩
  | ["OFFSET", m, "ROWS", "FETCH", "NEXT", n, "ROWS", "ONLY"] => do
    return ⟨← readNumber? m, some (← readNumber? n)⟩
  | _ => none

end Window

open Window

/-- The window that a text is in a dialect of the library's own. -/
def BuiltIn.readWindow? (b : BuiltIn) (t : String) : Option Window :=
  match b with
  | .postgres => readLimitOffset? none (words t)
  | .mysql => readLimitOffset? (some "18446744073709551615") (words t)
  | .mssql => readOffsetFetch? (words t)
  | .sqlite => readLimitOffset? (some "-1") (words t)

namespace Window

/-- Whether two windows have the same rows of every list with fewer than `2 ^ 64` rows. -/
def Agrees (w w' : Window) : Prop :=
  ∀ (α : Type) (rows : List α), rows.length < 2 ^ 64 → w.rows rows = w'.rows rows

/-! ## Words and numbers -/

theorem toList_toString (n : Nat) : (toString n).toList = Nat.toDigits 10 n := Nat.toList_repr

theorem isDigit_of_mem_toDigits {n : Nat} {c : Char} (h : c ∈ Nat.toDigits 10 n) :
    c.isDigit = true := Nat.isDigit_of_mem_toDigits (by decide) (by decide) h

theorem space_not_mem_toDigits (n : Nat) : ' ' ∉ Nat.toDigits 10 n := fun h =>
  absurd (isDigit_of_mem_toDigits h) (by decide)

/-- A number is read back. -/
theorem readNumber_toString (n : Nat) : readNumber? (toString n) = some n := by
  have hall : (Nat.toDigits 10 n).all Char.isDigit = true :=
    List.all_eq_true.2 fun c hc => isDigit_of_mem_toDigits hc
  rw [readNumber?, toList_toString, if_pos ⟨Nat.toDigits_ne_nil, hall⟩,
    Nat.ofDigitChars_ten_toDigits]

/-- Words without spaces in them are what is between the spaces. -/
theorem words_intercalate {ws : List String} (hne : ws ≠ []) (hspaces : ∀ w ∈ ws, ' ' ∉ w.toList) :
    words (" ".intercalate ws) = ws := by
  have hsplit : (" ".intercalate ws).toList.splitOn ' ' = ws.map String.toList := by
    rw [String.toList_intercalate]
    refine List.splitOn_intercalate ' ' (fun l hl => ?_) (by simpa using hne)
    obtain ⟨w, hw, rfl⟩ := List.mem_map.1 hl
    exact hspaces w hw
  rw [words, hsplit, List.map_map]
  simp [Function.comp_def]

/-! ## Windows with a limit first -/

/-- A limit is read as one that has the same rows. -/
theorem exists_readBound {noLimit? : Option String}
    (hnoLimit : ∀ n : Nat, noLimit? = some (toString n) → 2 ^ 64 - 1 ≤ n) (n : Nat) :
    ∃ keep, readBound? noLimit? (toString n) = some keep ∧
      ∀ skip, (⟨skip, keep⟩ : Window).Agrees ⟨skip, some n⟩ := by
  by_cases hword : noLimit? = some (toString n)
  · refine ⟨none, if_pos hword, fun skip α rows hrows => ?_⟩
    have hmany := hnoLimit n hword
    have hfew : (rows.drop skip).length ≤ n := by
      rw [List.length_drop]
      omega
    exact (List.take_of_length_le hfew).symm
  · refine ⟨some n, ?_, fun skip α rows _ => rfl⟩
    rw [readBound?, if_neg hword, readNumber_toString]
    rfl

/-- A window with a limit, or with an offset where this can stand alone, means its bounds. -/
theorem agrees_limitOffset {noLimit? : Option String}
    (hnoLimit : ∀ n : Nat, noLimit? = some (toString n) → 2 ^ 64 - 1 ≤ n)
    {limit offset : Option Nat} (halone : limit = none → noLimit? = none) {t : String}
    (ht : Dialect.limitOffset (limit.map boundValue) (offset.map boundValue) = some t) :
    ∃ w, readLimitOffset? noLimit? (words t) = some w ∧ w.Agrees ⟨offset.getD 0, limit⟩ := by
  cases limit with
  | none =>
      cases offset with
      | none => cases ht
      | some m =>
          cases ht
          have htext : "OFFSET " ++ toString m = " ".intercalate ["OFFSET", toString m] := by
            simp
          refine ⟨⟨m, none⟩, ?_, fun _ _ _ => rfl⟩
          show readLimitOffset? noLimit? (words ("OFFSET " ++ toString m)) = _
          rw [htext, words_intercalate (by simp) (by simp [space_not_mem_toDigits]), halone rfl,
            readLimitOffset?, readNumber_toString]
          rfl
  | some n =>
      obtain ⟨keep, hkeep, hagrees⟩ := exists_readBound hnoLimit n
      cases offset with
      | none =>
          cases ht
          have htext : "LIMIT " ++ toString n = " ".intercalate ["LIMIT", toString n] := by
            simp
          refine ⟨⟨0, keep⟩, ?_, hagrees 0⟩
          show readLimitOffset? noLimit? (words ("LIMIT " ++ toString n)) = _
          rw [htext, words_intercalate (by simp) (by simp [space_not_mem_toDigits]),
            readLimitOffset?, hkeep]
          rfl
      | some m =>
          cases ht
          have htext : "LIMIT " ++ toString n ++ " OFFSET " ++ toString m =
              " ".intercalate ["LIMIT", toString n, "OFFSET", toString m] := by
            simp [← String.toList_inj]
          refine ⟨⟨m, keep⟩, ?_, hagrees m⟩
          show readLimitOffset? noLimit? (words ("LIMIT " ++ toString n ++ " OFFSET " ++
            toString m)) = _
          rw [htext, words_intercalate (by simp) (by simp [space_not_mem_toDigits]),
            readLimitOffset?, readNumber_toString, hkeep]
          rfl

/-- So does one where an offset alone has a word for no limit before it. -/
theorem agrees_limitOffsetWith {noLimit : String} (hword : ' ' ∉ noLimit.toList)
    (hnoLimit : ∀ n : Nat, noLimit = toString n → 2 ^ 64 - 1 ≤ n) {limit offset : Option Nat}
    {t : String}
    (ht : Dialect.limitOffsetWith noLimit (limit.map boundValue) (offset.map boundValue) =
      some t) :
    ∃ w, readLimitOffset? (some noLimit) (words t) = some w ∧
      w.Agrees ⟨offset.getD 0, limit⟩ := by
  have hsome : ∀ n : Nat, some noLimit = some (toString n) → 2 ^ 64 - 1 ≤ n :=
    fun n hn => hnoLimit n (Option.some.inj hn)
  cases limit with
  | some n =>
      have halone : some n = none → some noLimit = none := nofun
      exact agrees_limitOffset hsome halone ht
  | none =>
      cases offset with
      | none => cases ht
      | some m =>
          cases ht
          have htext : "LIMIT " ++ noLimit ++ " OFFSET " ++ toString m =
              " ".intercalate ["LIMIT", noLimit, "OFFSET", toString m] := by
            simp [← String.toList_inj]
          refine ⟨⟨m, none⟩, ?_, fun _ _ _ => rfl⟩
          show readLimitOffset? (some noLimit) (words ("LIMIT " ++ noLimit ++ " OFFSET " ++
            toString m)) = _
          rw [htext, words_intercalate (by simp) (by simp [space_not_mem_toDigits, hword]),
            readLimitOffset?, readNumber_toString, readBound?, if_pos rfl]
          rfl

/-! ## Windows with an offset first -/

theorem writtenOffset_eq (offset : Option Nat) :
    Dialect.writtenOffset (offset.map boundValue) = toString (offset.getD 0) := by
  cases offset with
  | none => rfl
  | some m => cases m <;> rfl

/-- A window with its offset written in any case means its bounds. -/
theorem agrees_offsetFetch {limit offset : Option Nat} {t : String}
    (ht : Dialect.offsetFetch (limit.map boundValue) (offset.map boundValue) = some t) :
    readOffsetFetch? (words t) = some ⟨offset.getD 0, limit⟩ := by
  have hoffset := writtenOffset_eq offset
  cases limit with
  | none =>
      cases offset with
      | none => cases ht
      | some m =>
          cases ht
          have htext : "OFFSET " ++ toString m ++ " ROWS" =
              " ".intercalate ["OFFSET", toString m, "ROWS"] := by
            simp [← String.toList_inj]
          rw [hoffset, Option.getD_some, htext,
            words_intercalate (by simp) (by simp [space_not_mem_toDigits]), readOffsetFetch?,
            readNumber_toString]
          rfl
  | some n =>
      cases ht
      have htext : "OFFSET " ++ toString (offset.getD 0) ++ " ROWS FETCH NEXT " ++ toString n ++
          " ROWS ONLY" = " ".intercalate
            ["OFFSET", toString (offset.getD 0), "ROWS", "FETCH", "NEXT", toString n, "ROWS",
              "ONLY"] := by
        simp [← String.toList_inj]
      rw [hoffset]
      show readOffsetFetch? (words ("OFFSET " ++ toString (offset.getD 0) ++ " ROWS FETCH NEXT " ++
        toString n ++ " ROWS ONLY")) = _
      rw [htext, words_intercalate (by simp) (by simp [space_not_mem_toDigits]),
        readOffsetFetch?, readNumber_toString, readNumber_toString]
      rfl

end Window

namespace BuiltIn

variable {limit offset : Option Nat}

/-- A dialect of the library's own writes a window just where there is a bound. -/
theorem paging_eq_none_iff (b : BuiltIn) :
    (Dialect.ofBuiltIn b).paging (limit.map boundValue) (offset.map boundValue) = none ↔
      limit = none ∧ offset = none := by
  cases b <;> cases limit <;> cases offset <;>
    simp [Dialect.ofBuiltIn, Dialect.postgres, Dialect.mysql, Dialect.mssql, Dialect.sqlite,
      Dialect.limitOffset, Dialect.limitOffsetWith, Dialect.offsetFetch]

/-- The window that it writes means the bounds. -/
theorem exists_agrees {b : BuiltIn} {t : String}
    (ht : (Dialect.ofBuiltIn b).paging (limit.map boundValue) (offset.map boundValue) = some t) :
    ∃ w, b.readWindow? t = some w ∧ w.Agrees ⟨offset.getD 0, limit⟩ := by
  cases b with
  | postgres =>
      have hnoLimit : ∀ n : Nat, (none : Option String) = some (toString n) → 2 ^ 64 - 1 ≤ n :=
        nofun
      exact agrees_limitOffset hnoLimit (fun _ => rfl) ht
  | mysql =>
      refine agrees_limitOffsetWith (by decide) (fun n hn => ?_) ht
      have hread := congrArg readNumber? hn
      have hsentinel : readNumber? "18446744073709551615" = some 18446744073709551615 := by decide
      rw [readNumber_toString, hsentinel] at hread
      exact Nat.le_of_eq (Option.some.inj hread)
  | mssql => exact ⟨_, agrees_offsetFetch ht, fun _ _ _ => rfl⟩
  | sqlite =>
      refine agrees_limitOffsetWith (by decide) (fun n hn => ?_) ht
      have hmem : '-' ∈ Nat.toDigits 10 n := by
        rw [← toList_toString, ← hn]
        decide
      exact absurd (isDigit_of_mem_toDigits hmem) (by decide)

end BuiltIn

/-! ## Orders before windows -/

/-- A column to order by, as it is written. -/
def OrderItem.text (d : Dialect) (number : Nat) (o : OrderItem) : String :=
  aliasText number ++ "." ++ d.quote o.column ++ " " ++ o.direction.keyword

/-- What stands right before a window: the order, or the one that the dialect needs if none is. -/
def Dialect.orderText (d : Dialect) (number : Nat) (order : List OrderItem) : String :=
  if order.isEmpty then if d.orderForPaging then "ORDER BY (SELECT NULL) " else ""
  else "ORDER BY " ++ ", ".intercalate (order.map (OrderItem.text d number)) ++ " "

open Fragment

theorem OrderItem.text_fragment (d : Dialect) (number : Nat) (o : OrderItem) :
    (o.fragment (.tableAlias number)).text d = o.text d number := by
  simp only [OrderItem.fragment, Qualifier.column, text_append, text_cons, text_nil, Piece.text,
    OrderItem.text, String.append_assoc, String.append_empty]

namespace Selection

variable {d : Dialect} {s : Selection Query} {t : String}

/-- A list of rows ends with its order and then its window. -/
theorem text_ending_of_paging (ht : d.paging (s.limit.map boundValue) (s.offset.map boundValue) =
    some t) (hne : t ≠ "") (order : List OrderItem) (aliases : Nat) :
    (s.ending d order aliases).text d = " " ++ d.orderText (aliases + 1) order ++ t := by
  have hwritten : (some t).filter (fun t => !t.isEmpty) = some t := by
    simpa using hne
  unfold ending Selection.tail SqlCompose.tail
  simp only [ht, hwritten]
  cases order with
  | nil =>
      cases horder : d.orderForPaging with
      | false =>
          simp [behindSpace, spaced, joinWith, text_cons, Piece.text, Dialect.orderText, horder]
      | true =>
          have hnone : "ORDER BY (SELECT NULL) " = "ORDER BY (SELECT NULL)" ++ " " := by decide
          simp only [List.map_nil, Option.isSome_some, horder, Bool.and_self, if_true,
            Option.map_some, behindSpace, spaced_some_cons, List.flatMap_cons, List.flatMap_nil,
            List.append_nil, List.cons_append, List.nil_append, text_cons, text_nil, Piece.text,
            Dialect.orderText, List.isEmpty_nil, hnone, String.append_assoc, String.append_empty]
  | cons o rest =>
      have hitems : (o :: rest).map (text d ∘ OrderItem.fragment (.tableAlias (aliases + 1))) =
          (o :: rest).map (OrderItem.text d (aliases + 1)) :=
        List.map_congr_left fun item _ => item.text_fragment d (aliases + 1)
      rw [Dialect.orderText, ← hitems]
      simp [spaced_some_cons, behindSpace, text_cons, text_append, Piece.text, text_joinWith,
        String.append_assoc]

end Selection

namespace Request

/-- What closes the list of rows in a request, where it is inside of something else. -/
def closing (number : Nat) : Request → String
  | count _ => " ) " ++ aliasText number
  | update _ => " ) )"
  | _ => ""

/--
The statement of a request for the rows of a window, for their number or for
an update of them: behind the source of the rows stands their order, and
behind that the window.
-/
theorem exists_text_of_paging {request : Request} {q : Selection Query} {d : Dialect} {t : String}
    (hquery : request.query? = some q) (hpaged : q.isPaged = true)
    (ht : d.paging (q.limit.map boundValue) (q.offset.map boundValue) = some t) (hne : t ≠ "")
    {settings : Except Error Settings} {statement : Statement} {events : List Event}
    (h : request.compile settings d = .ok (some (statement, events))) :
    ∃ head issued aliases last, statement.sql = head ++ (q.source d issued aliases).text d ++
      " " ++ d.orderText (aliases + 1) q.order ++ t ++ request.closing last := by
  obtain ⟨f, -, hlayout, -, hsql, -⟩ := exists_of_compile h
  have hending := Selection.text_ending_of_paging ht hne q.order
  rw [hsql]
  cases request with
  | fetch s =>
      cases hquery
      cases hlayout
      refine ⟨"SELECT " ++ (Selection.allColumns (.tableAlias 1) q.schema).text d ++ " ",
        0, 0, 0, ?_⟩
      rw [Selection.fetchLayout, Selection.text_rowsLayout, text_append, hending]
      simp only [closing, ← String.append_assoc, String.append_empty]
  | count s =>
      cases hquery
      cases hlayout
      refine ⟨"SELECT COUNT(*) FROM ( SELECT " ++ aliasText 1 ++ "." ++
        d.quote (Selection.listingName q.schema) ++ " ",
        0, 0, 0 + (Query.mk q).subqueries.length + 2, ?_⟩
      rw [Selection.text_countLayout_of_paged d hpaged, hending, closing]
      simp only [← String.append_assoc]
  | update u =>
      cases hquery
      cases hlayout
      obtain ⟨head, issued, aliases, htext⟩ := Update.exists_text_of_window d hpaged
      refine ⟨head ++ " WHERE ( " ++ (table u.query.schema.identifier).text d ++ "." ++
        d.quote u.query.schema.firstKey ++ " IN ( SELECT " ++ aliasText (aliases + 1) ++ "." ++
        d.quote u.query.schema.firstKey ++ " ", issued, aliases, 0, ?_⟩
      rw [htext, hending, closing]
      simp only [← String.append_assoc]
  | _ => cases hquery

end Request

end SqlCompose
