import SqlCompose.Proofs.Query.History
import SqlCompose.Proofs.Query.Reach
import SqlCompose.Proofs.Session.Argument
import SqlCompose.Proofs.Statement.Paging

/-!
# Windows of a session

Limits, offsets and orders are given to a query by calls, and the window is
written in whatever statement lists the rows of the query: when they are
fetched, when a window of them is counted, and when it is updated.  In all of
these the window stands behind the columns that the calls gave to order by,
all of them and in the order of the calls.

## Main results

* `Command.paging_of_compile` — what the windows mean in the library's own
  dialects, and what they stand behind in all dialects.
-/

namespace SqlCompose

open SqlCompose.Action

namespace Command

/-- The query whose rows a command is about, if it is about one. -/
def query? (st : Store) : Command → Option QueryRef
  | fetch r => some r
  | count r => some r
  | update r => ((st.update r).toOption).map UpdateDraft.query
  | _ => none

/-- What closes the list of rows in a command, where it is inside of something else. -/
def closing (number : Nat) : Command → String
  | count _ => " ) " ++ aliasText number
  | update _ => " ) )"
  | _ => ""

variable {c : Command} {st : Store} {request : Request} {r : QueryRef}

/-- What a command asks for is about the query that the command is about. -/
theorem exists_settle_of_request (hr : r.isUpdate = false) (hc : c.query? st = some r)
    (h : c.request st = .ok request) :
    ∃ q, st.settle r = .ok (.mk q) ∧ request.query? = some q ∧
      ∀ number, request.closing number = c.closing number := by
  cases c with
  | fetch r' =>
      cases hc
      obtain ⟨settled, hsettled, h⟩ := exists_of_bind h
      obtain ⟨q, rfl⟩ := Store.exists_mk_of_settle hsettled hr
      cases h
      exact ⟨q, hsettled, rfl, fun _ => rfl⟩
  | count r' =>
      cases hc
      obtain ⟨settled, hsettled, h⟩ := exists_of_bind h
      obtain ⟨q, rfl⟩ := Store.exists_mk_of_settle hsettled hr
      cases h
      exact ⟨q, hsettled, rfl, fun _ => rfl⟩
  | update r' =>
      obtain ⟨draft, u, hdraft, hquery, hu, rfl⟩ := exists_settleUpdate_of_request h
      rw [query?, hdraft] at hc
      cases hc
      exact ⟨u.query, (Store.settle_of_settleUpdate hdraft hquery hu).1, rfl, fun _ => rfl⟩
  | _ => cases hc

/--
Windows mean the same in all dialects of the library's own.  A window is there
just if there is a limit or an offset, and as the dialect reads it, it has of
every list with fewer than `2 ^ 64` rows those behind as many as the offset
says, and at most as many of them as the limit says.

In a session whose builders were made by the given calls, whatever the
dialect, a window stands right behind the order: the columns that were given
to order the query by, all of them and in the order of the calls, or what the
dialect needs if there are none.  This stands right behind the source of the
rows, when they are fetched, counted or updated alike.
-/
theorem paging_of_compile :
    (∀ (b : BuiltIn) (limit offset : Option Nat),
      ((Dialect.ofBuiltIn b).paging (limit.map boundValue) (offset.map boundValue) = none ↔
        limit = none ∧ offset = none) ∧
      ∀ t, (Dialect.ofBuiltIn b).paging (limit.map boundValue) (offset.map boundValue) = some t →
        ∃ w, b.readWindow? t = some w ∧ w.Agrees ⟨offset.getD 0, limit⟩) ∧
    ∀ (calls : History) (session : Session) (r : QueryRef) (s : Selection QueryRef)
      (choice : DialectChoice) (d : Dialect) (t : String),
      session.store.IsMadeBy calls → r.IsIn session.store → session.store.query r = .ok s →
      (outcome (dialect choice) session).1 = .ok d → s.isPaged = true →
      d.paging (s.limit.map boundValue) (s.offset.map boundValue) = some t → t ≠ "" →
      ∃ items, (calls.given Edit.order? (.query r)).mapM s.schema.orderItem = .ok items ∧
        ∀ (c : Command) (statement : Statement), c.query? session.store = some r →
          (outcome (c.compile choice) session).1 = .ok (some statement) →
          ∃ q head issued aliases last, session.store.settle r = .ok (.mk q) ∧
            statement.sql = head ++ (q.source d issued aliases).text d ++ " " ++
              d.orderText (aliases + 1) items ++ t ++ c.closing last := by
  refine ⟨fun b limit offset => ⟨b.paging_eq_none_iff, fun t ht => BuiltIn.exists_agrees ht⟩, ?_⟩
  intro calls session r s choice d t hmade hr hs hd hpaged ht hne
  refine ⟨s.order, hmade.records.orders r s hr hs, fun c statement hc hcompile => ?_⟩
  obtain ⟨request, settings, events, hrequest, hstatement⟩ :=
    exists_compile_of_outcome hd hcompile
  obtain ⟨q, hq, hquery, hclosing⟩ := exists_settle_of_request hr.1 hc hrequest
  obtain ⟨-, horder, hlimit, hoffset⟩ := Store.eq_of_settle hs hr.1 hq
  rw [Selection.isPaged, ← hlimit, ← hoffset] at hpaged
  rw [← hlimit, ← hoffset] at ht
  obtain ⟨head, issued, aliases, last, hsql⟩ :=
    Request.exists_text_of_paging hquery hpaged ht hne hstatement
  refine ⟨q, head, issued, aliases, last, hq, ?_⟩
  rw [hsql, horder, hclosing]

/-- The departures on a board, with the gate where it is known. -/
def departures : Schema where
  identifier := ["departures"]
  columns := [{ name := "flight", type := "int" }, { name := "gate", type := "text" }]
  primaryKeys := ["flight"]

/-- The three departures behind the first ones, by gate and then by flight, lose their gate. -/
def boardCalls : History :=
  let named (name : String) : ColumnSource := fun _ => .ok (.named (.text name))
  [(.select ⟨"Departure", some departures⟩, .query ⟨0, false⟩),
    (.order ⟨0, false⟩ (named "gate") .descending, .query ⟨0, false⟩),
    (.limit ⟨0, false⟩ (.int 3), .query ⟨0, false⟩),
    (.assign (.query ⟨0, false⟩) (.null (named "gate")), .update ⟨0⟩),
    (.order ⟨0, false⟩ (named "flight") .ascending, .query ⟨0, false⟩)]

/-- The query that the calls make. -/
def nextDepartures : Selection QueryRef where
  schema := departures
  order := [⟨"gate", .descending⟩, ⟨"flight", .ascending⟩]
  limit := some 3

/-- A session in which the calls were made. -/
def board : Session where
  environment := { kept := some {} }
  store := {
    queries := #[nextDepartures]
    updates := #[⟨⟨0, false⟩, [.assignNull "gate" (some "departures")]⟩] }

private theorem isMadeBy_board : board.store.IsMadeBy boardCalls := by
  have hselect := Store.IsMadeBy.empty.edit (e := boardCalls[0].1) trivial rfl
  have hgate := hselect.edit (e := boardCalls[1].1) ⟨rfl, by decide⟩ rfl
  have hlimit := hgate.edit (e := boardCalls[2].1) ⟨rfl, by decide⟩ rfl
  have hassign := hlimit.edit (e := boardCalls[3].1) ⟨rfl, by decide⟩ rfl
  exact hassign.edit (e := boardCalls[4].1) ⟨rfl, by decide⟩ rfl

/-- The update picks its rows in the whole order, of which a part was given after it was made. -/
theorem paging_of_compile_board :
    (∃ w, BuiltIn.mysql.readWindow? "LIMIT 18446744073709551615 OFFSET 2" = some w ∧
      w.Agrees ⟨2, none⟩) ∧
    ∃ statement, (outcome ((Command.update ⟨0⟩).compile (.named "mssql")) board).1 =
        .ok (some statement) ∧
      ∃ head source number last, statement.sql = head ++ source ++ " " ++
        (Dialect.ofBuiltIn .mssql).orderText number
          [⟨"gate", .descending⟩, ⟨"flight", .ascending⟩] ++
        "OFFSET 0 ROWS FETCH NEXT 3 ROWS ONLY" ++ (Command.update ⟨0⟩).closing last := by
  obtain ⟨hmeans, hstands⟩ := paging_of_compile
  obtain ⟨items, hitems, hwritten⟩ := hstands boardCalls board ⟨0, false⟩ nextDepartures
    (.named "mssql") (.ofBuiltIn .mssql) "OFFSET 0 ROWS FETCH NEXT 3 ROWS ONLY" isMadeBy_board
    ⟨rfl, by decide⟩ rfl rfl rfl rfl (by decide)
  obtain rfl : nextDepartures.order = items := Except.ok.inj hitems
  obtain ⟨statement, hstatement⟩ : ∃ statement,
      (outcome ((Command.update ⟨0⟩).compile (.named "mssql")) board).1 = .ok (some statement) :=
    ⟨_, rfl⟩
  obtain ⟨q, head, issued, aliases, last, -, hsql⟩ :=
    hwritten (.update ⟨0⟩) statement rfl hstatement
  exact ⟨(hmeans .mysql none (some 2)).2 _ rfl, statement, hstatement, head, _, _, last, hsql⟩

end Command

end SqlCompose
