import SqlCompose.Proofs.Session.Edit
import SqlCompose.Proofs.Session.Limit
import SqlCompose.Proofs.Statement.Frame

/-!
# Builders that do not interfere

Builders are shared: a query can be part of several others, and several
updates can change its rows.  What a builder is compiled to depends on those
that it reaches, and on nothing else in the store.

Once a request is at hand, compiling it does not look at the store any more
(`Action.IgnoresStore`).  So it is enough that the request is written alike
before and after an edit, which is what `Store.Undisturbed` comes to.

## Main results

* `Builder.exists_request` — what is not disturbed is asked for as before.
* `Edit.outcome_compile_of_spares` — an edit of another builder leaves what a
  builder is compiled to as it was, in every dialect.
-/

namespace SqlCompose

open SqlCompose.Action

namespace Action

variable {α β : Type}

/-- Whether an action neither looks at the store nor changes it. -/
def IgnoresStore (a : Action α) : Prop := ∀ (session : Session) (store : Store),
  outcome a { session with store } = ((outcome a session).1, { (outcome a session).2 with store })

section Store

variable (store : Store)

theorem ignoresStore_instanceOf (tag : String) :
    Ignores (fun session => { session with store }) (instanceOf tag) := by
  intro session
  rw [outcome_instanceOf, outcome_instanceOf]
  cases session.registry.create tag <;> rfl

/-- Which dialect is chosen does not depend on the store. -/
theorem ignoresStore_dialect (choice : DialectChoice) :
    Ignores (fun session => { session with store }) (dialect choice) := by
  cases choice with
  | given d => exact ignores_ofExcept _
  | named tag => exact (ignoresStore_instanceOf store tag).andThen fun _ => ignores_pure _
  | standard =>
      exact (isAside_store store).settings.andThen fun _ =>
        (ignoresStore_instanceOf store _).andThen fun _ => ignores_pure _

/-- Writing a blueprint does not look at the store. -/
theorem ignoresStore_compile (choice : DialectChoice) (b : Blueprint) :
    Ignores (fun session => { session with store }) (compile choice b) :=
  (ignoresStore_dialect store choice).andThen fun d =>
    (ignores_ofExcept _).andThen fun _ => (isAside_store store).finish d _ _

end Store

end Action

namespace Request

theorem ignoresStore_compileAs (choice : DialectChoice) (request : Request) :
    IgnoresStore (request.compileAs choice) := by
  intro session store
  have h : Ignores (fun session => { session with store }) (request.compileAs choice) := by
    refine (ignores_ofExcept _).andThen fun written => ?_
    cases written with
    | none => exact ignores_pure _
    | some b => exact (ignoresStore_compile store choice b).andThen fun _ => ignores_pure _
  exact h session

/-- Requests with the same blueprint are compiled alike. -/
theorem compileAs_congr {request request' : Request} (h : request.blueprint = request'.blueprint)
    (choice : DialectChoice) : request.compileAs choice = request'.compileAs choice := by
  rw [compileAs, compileAs, h]

end Request

namespace Builder

/-- What a builder can be compiled to: a query to its rows and to their number. -/
def commands : Builder → List Command
  | query r => [.fetch r, .count r]
  | update r => [.update r]

variable {changed : Option Builder} {x : Builder} {st st' : Store} {c : Command}

/-- What is not disturbed is asked for with the same blueprint. -/
theorem exists_request (h : Store.Undisturbed changed x st st') (hx : x.IsIn st)
    (hc : c ∈ x.commands) :
    ∃ request request', c.request st = .ok request ∧ c.request st' = .ok request' ∧
      request.blueprint = request'.blueprint := by
  cases x with
  | query r =>
      obtain ⟨s, s', hs, hs', hrows⟩ := h.exists_settle hx (.refl _) h.apart
      simp only [commands, List.mem_cons, List.not_mem_nil, or_false] at hc
      rcases hc with rfl | rfl
      · refine ⟨_, _, Command.request_fetch hs, Command.request_fetch hs', ?_⟩
        rw [Request.blueprint, Request.blueprint, Selection.fetch_congr hrows]
      · refine ⟨_, _, Command.request_count hs, Command.request_count hs', ?_⟩
        rw [Request.blueprint, Request.blueprint, Selection.count_congr hrows]
  | update r =>
      obtain ⟨u, s, s', assignments, hu, hu', hquery, hs, hs', hrows⟩ := h.exists_settleUpdate hx
      obtain rfl := List.mem_singleton.1 hc
      refine ⟨_, _, Command.request_update hs hu hquery.1, Command.request_update hs' hu' hquery.1,
        ?_⟩
      rw [Request.blueprint, Request.blueprint, Update.blueprint, Update.blueprint,
        Update.write_congr hrows]

/-- What is not disturbed is compiled as before, where nothing else in the session differs. -/
theorem outcome_compile_of_undisturbed {session : Session}
    (h : Store.Undisturbed changed x session.store st') (hx : x.IsIn session.store)
    (hc : c ∈ x.commands) (choice : DialectChoice) :
    outcome (c.compile choice) { session with store := st' } =
      ((outcome (c.compile choice) session).1,
        { (outcome (c.compile choice) session).2 with store := st' }) := by
  obtain ⟨request, request', hrequest, hrequest', hsame⟩ := exists_request h hx hc
  have hafter : c.request { session with store := st' }.store = .ok request' := hrequest'
  rw [Command.outcome_compile hrequest, Command.outcome_compile hafter,
    ← Request.compileAs_congr hsame]
  exact request.ignoresStore_compileAs choice session st'

end Builder

/--
What a builder is compiled to stays what it is when another builder is edited
that is not reached from it; and where every way to the other one ends in a
condition on the rows of a table, it stays so under edits of its order and its
window too.  The errors are the same, and so is everything that is left in the
session.
-/
theorem Edit.outcome_compile_of_spares {session : Session} (hmade : session.store.IsMade)
    {e : Edit} (he : e.IsOf session.store) {x : Builder} (hx : x.IsIn session.store)
    (hspares : e.Spares session.store x) {c : Command} (hc : c ∈ x.commands)
    (choice : DialectChoice) :
    outcome (c.compile choice) (outcome e.perform session).2 =
      ((outcome (c.compile choice) session).1,
        { (outcome (c.compile choice) session).2 with
          store := (outcome e.perform session).2.store }) := by
  rw [e.outcome_perform]
  cases hst : e.apply session.store with
  | error error =>
      have hkept := (c.isQuiet_compile choice session).store
      rw [Session.commit]
      exact Prod.ext rfl (by rw [← hkept])
  | ok made =>
      obtain ⟨b, st'⟩ := made
      have hundisturbed := hspares.undisturbed hmade.isClosed he hst
      exact Builder.outcome_compile_of_undisturbed hundisturbed hx hc choice

namespace Edit

/-- Readers of a library. -/
def readers : Schema where
  identifier := ["readers"]
  columns := [{ name := "reader_id", type := "int" }]
  primaryKeys := ["reader_id"]

/-- The books that they have, with the days that are left. -/
def borrowings : Schema where
  identifier := ["borrowings"]
  columns := [{ name := "reader_id", type := "int" }, { name := "days_left", type := "int" }]
  primaryKeys := []

/-- A session with a query of the readers with a book, and the query of the books inside it. -/
def desk : Session where
  store := {
    queries := #[
      { schema := readers, related := [.related "reader_id" ⟨1, false⟩ "reader_id" false] },
      { schema := borrowings }] }

private theorem isMade_desk : desk.store.IsMade := by
  let named : ColumnSource := fun _ => .ok (.named (.text "reader_id"))
  have hreaders : Store.IsMade { queries := #[{ schema := readers }] } :=
    .edit (e := .select ⟨"Reader", some readers⟩) .empty trivial rfl
  have hboth : Store.IsMade { queries := #[{ schema := readers }, { schema := borrowings }] } :=
    .edit (e := .select ⟨"Borrowing", some borrowings⟩) hreaders trivial rfl
  exact .edit (e := .related ⟨0, false⟩ (.query ⟨1, false⟩) named named false) hboth
    ⟨⟨rfl, by decide⟩, ⟨rfl, by decide⟩⟩ rfl

private theorem spares_desk (v : Value) :
    (Edit.limit ⟨1, false⟩ v).Spares desk.store (.query ⟨0, false⟩) := by
  intro b hb
  have hother : b ≠ .query ⟨0, false⟩ := by
    obtain rfl : Builder.query ⟨1, false⟩ = b := Option.some.inj hb
    decide
  refine .inr ⟨rfl, hother, fun link a _ hlink => ?_⟩
  cases hlink with
  | inner => rfl
  | listed hs hc =>
      have hmem := Array.mem_of_getElem? (Store.getElem?_of_query hs)
      simp only [desk, List.mem_toArray, List.mem_cons, List.not_mem_nil, or_false] at hmem
      rcases hmem with rfl | rfl <;> simp [Selection.clauses] at hc
  | target hu => simp [desk, Store.update] at hu

/-- A reader who has one book has a book: how many are looked at makes no difference. -/
theorem outcome_compile_of_spares_desk :
    desk.store.IsMade ∧ (Edit.limit ⟨1, false⟩ (.int 1)).Spares desk.store (.query ⟨0, false⟩) ∧
      (outcome ((Command.count ⟨0, false⟩).compile (.named "mysql"))
        (outcome (Edit.limit ⟨1, false⟩ (.int 1)).perform desk).2).1 =
      (outcome ((Command.count ⟨0, false⟩).compile (.named "mysql")) desk).1 := by
  have hedit : (Edit.limit ⟨1, false⟩ (.int 1)).IsOf desk.store := ⟨rfl, by decide⟩
  have hthere : (Builder.query ⟨0, false⟩).IsIn desk.store := ⟨rfl, by decide⟩
  have hcommand : Command.count ⟨0, false⟩ ∈ (Builder.query ⟨0, false⟩).commands := by
    simp [Builder.commands]
  have hout :=
    outcome_compile_of_spares isMade_desk hedit hthere (spares_desk _) hcommand (.named "mysql")
  exact ⟨isMade_desk, spares_desk _, by rw [hout]⟩

end Edit

end SqlCompose
