import SqlCompose.Statement.Draft

/-!
# Steps of writing without their drafts

Writing threads one draft through everything: the number of placeholders
given out, the number of aliases taken and the values bound so far change at
every step.  Nothing that is written depends on the values in the draft,
only on the two numbers, so a step has a description without a draft
(`Writing.Spec`): the reasons for which it fails, the values that it binds,
how many aliases it takes, and its answer as a function of the two numbers.

## Main results

* `Spec.andThen` — descriptions compose as steps do: faults and values one
  after the other, and the second answer at the numbers the first step left.
* `Spec.of_ok` — a step that succeeded did what its description says.
-/

namespace SqlCompose

/-! ## Drafts that go on -/

namespace Draft

/-- The draft after some values were bound and some aliases taken. -/
def advance (draft : Draft) (values : List Value) (taken : Nat) : Draft where
  args := draft.args ++ (values.map Value.toBind).toArray
  issued := draft.issued + values.length
  aliases := draft.aliases + taken

@[simp] theorem issued_advance (draft : Draft) (values : List Value) (taken : Nat) :
    (draft.advance values taken).issued = draft.issued + values.length := rfl

@[simp] theorem aliases_advance (draft : Draft) (values : List Value) (taken : Nat) :
    (draft.advance values taken).aliases = draft.aliases + taken := rfl

@[simp] theorem advance_nil (draft : Draft) : draft.advance [] 0 = draft := by
  simp [advance]

/-- Going on twice is going on once with everything. -/
@[simp] theorem advance_advance (draft : Draft) (vs ws : List Value) (n m : Nat) :
    (draft.advance vs n).advance ws m = draft.advance (vs ++ ws) (n + m) := by
  simp [advance, Nat.add_assoc]

end Draft

/-! ## Descriptions of steps -/

namespace Writing

variable {α β : Type}

@[simp] theorem outcome_pure (a : α) (draft : Draft) :
    outcome (pure a) draft = (.ok a, draft) := rfl

@[simp] theorem outcome_throw (e : Error) (draft : Draft) :
    outcome (throw e : Writing α) draft = (.error e, draft) := rfl

/-- A step and what follows it: a failure of the step is the failure of both. -/
theorem outcome_andThen (w : Writing α) (k : α → Writing β) (draft : Draft) :
    outcome (w >>= k) draft =
      match outcome w draft with
      | (.ok a, next) => outcome (k a) next
      | (.error e, next) => (.error e, next) := by
  unfold outcome ExceptT.run StateT.run
  simp only [Bind.bind, ExceptT.bind, ExceptT.mk, StateT.bind, ExceptT.bindCont]
  cases w draft with
  | mk result next => cases result <;> rfl

/--
The description of a step without a draft.  Where the list of faults is
empty the step succeeds from every draft: it binds the values, takes that
many aliases, and its answer depends on the numbers of placeholders and
aliases given out before it and on nothing else.  Otherwise it fails with
the first fault, from every draft.
-/
structure Spec (w : Writing α) (faults : List Error) (values : List Value) (taken : Nat)
    (answer : Nat → Nat → α) : Prop where
  writes : faults = [] → ∀ draft, outcome w draft =
    (.ok (answer draft.issued draft.aliases), draft.advance values taken)
  fails : ∀ e ∈ faults.head?, ∀ draft, (outcome w draft).1 = .error e

theorem spec_pure (a : α) : Spec (pure a) [] [] 0 fun _ _ => a where
  writes _ draft := by simp
  fails _ h := by simp at h

theorem spec_bind (v : Value) : Spec (bind v) [] [v] 0 fun issued _ => .mark (issued + 1) where
  writes _ draft := by simp [outcome_bind, Draft.advance]
  fails _ h := by simp at h

theorem spec_bindAll (vs : List Value) :
    Spec (bindAll vs) [] vs 0
      fun issued _ => (List.range' (issued + 1) vs.length).map .mark where
  writes _ draft := by simp [outcome_bindAll, Draft.advance]
  fails _ h := by simp at h

theorem spec_nextAlias : Spec nextAlias [] [] 1 fun _ aliases => aliases + 1 where
  writes _ draft := by simp [outcome_nextAlias, Draft.advance]
  fails _ h := by simp at h

theorem spec_throw (e : Error) (answer : Nat → Nat → α) :
    Spec (throw e) [e] [] 0 answer where
  writes h := by simp at h
  fails _ h draft := by
    cases h
    simp

@[simp] theorem ofExcept_ok (a : α) : ofExcept (.ok a) = pure a := rfl

@[simp] theorem ofExcept_error (e : Error) : (ofExcept (.error e) : Writing α) = throw e := rfl

@[simp] theorem ofExcept_map_error (f : α → β) (e : Error) :
    ofExcept (f <$> (.error e : Except Error α)) = throw e := rfl

namespace Spec

variable {w : Writing α} {k : α → Writing β} {faults faults' : List Error}
  {values values' : List Value} {taken taken' : Nat} {answer : Nat → Nat → α}
  {answer' : α → Nat → Nat → β}

/-- The description of two steps in a row. -/
theorem andThen (hw : Spec w faults values taken answer)
    (hk : ∀ a, Spec (k a) faults' values' taken' (answer' a)) :
    Spec (w >>= k) (faults ++ faults') (values ++ values') (taken + taken')
      fun issued aliases =>
        answer' (answer issued aliases) (issued + values.length) (aliases + taken) := by
  cases faults with
  | nil =>
      constructor
      · intro hf draft
        rw [outcome_andThen, hw.writes rfl]
        simp [(hk _).writes hf]
      · intro e he draft
        rw [outcome_andThen, hw.writes rfl]
        exact (hk _).fails e he _
  | cons f rest =>
      constructor
      · intro hf
        simp at hf
      · intro e he draft
        have hfail := hw.fails f rfl draft
        rw [outcome_andThen]
        rcases hout : outcome w draft with ⟨_ | a, next⟩
        · rw [hout] at hfail
          cases hfail
          cases he
          rfl
        · rw [hout] at hfail
          cases hfail

/-- Of a step that fails only the first fault counts. -/
theorem of_fault {e : Error} {rest : List Error} (h : Spec w (e :: rest) values taken answer)
    (rest' : List Error) (values' : List Value) (taken' : Nat) (answer' : Nat → Nat → α) :
    Spec w (e :: rest') values' taken' answer' where
  writes hf := by simp at hf
  fails f hf draft := h.fails f hf draft

/-- A step that succeeded had no fault, and did what its description says. -/
theorem of_ok (h : Spec w faults values taken answer) {draft next : Draft} {a : α}
    (hok : outcome w draft = (.ok a, next)) :
    faults = [] ∧ a = answer draft.issued draft.aliases ∧ next = draft.advance values taken := by
  cases faults with
  | nil =>
      rw [h.writes rfl draft] at hok
      cases hok
      exact ⟨rfl, rfl, rfl⟩
  | cons f rest =>
      have hfail := h.fails f rfl draft
      rw [hok] at hfail
      cases hfail

end Spec

end Writing
end SqlCompose
