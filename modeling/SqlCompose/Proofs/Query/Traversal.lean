import Mathlib.Data.List.Forall2
import SqlCompose.Error

/-!
# Steps that can fail

A step answers with what it makes or with an error: one step after the other,
or one step for each member of a list.  A list is made just where something is
made of each member, in their order (`mapM_eq_ok_iff`), and everything else
that is said here of such lists comes from this.  Where something fails, the
first member for which it does decides.

## Main results

* `exists_of_bind` — two steps that succeeded, one after the other.
* `mapM_eq_ok_iff` — what a step makes of a list, member by member.
* `mapM_error_of_others`, `exists_of_mapM_error` — the member at fault.
-/

namespace SqlCompose

variable {α β : Type}

/-- What succeeds in two steps succeeded in each of them. -/
theorem exists_of_bind {x : Except Error α} {k : α → Except Error β} {b : β}
    (h : x >>= k = .ok b) : ∃ a, x = .ok a ∧ k a = .ok b := by
  cases x with
  | error e => cases h
  | ok a => exact ⟨a, rfl, h⟩

/-! ## Lists of which something is made -/

variable {f : α → Except Error β} {x : α} {y : β} {xs : List α} {ys : List β}

/-- A step makes a list of what it makes of each member. -/
theorem mapM_eq_ok_iff :
    xs.mapM f = .ok ys ↔ List.Forall₂ (fun x y => f x = .ok y) xs ys := by
  constructor
  · intro h
    induction xs generalizing ys with
    | nil =>
        cases h
        exact .nil
    | cons x rest ih =>
        rw [List.mapM_cons] at h
        obtain ⟨y, hy, h⟩ := exists_of_bind h
        obtain ⟨others, hothers, h⟩ := exists_of_bind h
        cases h
        exact .cons hy (ih hothers)
  · intro h
    induction h with
    | nil => rfl
    | cons hy _ ih =>
        rw [List.mapM_cons, hy, ih]
        rfl

/-- What is made of a list by a step that may fail is made of something in the list. -/
theorem exists_of_mem_mapM (h : xs.mapM f = .ok ys) : ∀ y ∈ ys, ∃ x ∈ xs, f x = .ok y := by
  rw [mapM_eq_ok_iff] at h
  induction h with
  | nil => exact fun y hy => absurd hy List.not_mem_nil
  | cons hy _ ih =>
      refine List.forall_mem_cons.2 ⟨⟨_, List.mem_cons_self, hy⟩, fun y' hy' => ?_⟩
      obtain ⟨x', hx', hmade⟩ := ih y' hy'
      exact ⟨x', List.mem_cons_of_mem _ hx', hmade⟩

/-- What is made of a member of a list is in what is made of the list. -/
theorem exists_mem_of_mapM (h : xs.mapM f = .ok ys) (hx : x ∈ xs) : ∃ y ∈ ys, f x = .ok y := by
  rw [mapM_eq_ok_iff] at h
  induction h with
  | nil => cases hx
  | cons hy _ ih =>
      rcases List.mem_cons.1 hx with rfl | hx
      · exact ⟨_, List.mem_cons_self, hy⟩
      · exact (ih hx).imp fun y hmade => ⟨List.mem_cons_of_mem _ hmade.1, hmade.2⟩

/-- Where something is made of a list, something is made of each member. -/
theorem exists_of_mapM (h : xs.mapM f = .ok ys) : ∀ x ∈ xs, ∃ y, f x = .ok y :=
  fun _ hx => (exists_mem_of_mapM h hx).imp fun _ hy => hy.2

/-- Each member has what is made of it in its own place. -/
theorem eq_of_mem_zip_mapM (h : xs.mapM f = .ok ys) (hmem : (x, y) ∈ xs.zip ys) : f x = .ok y :=
  List.forall₂_zip (mapM_eq_ok_iff.1 h) hmem

/-- What is related to what is made of a list is related to the list itself. -/
theorem forall₂_of_mapM_left {γ : Type} {R : β → γ → Prop} {zs : List γ}
    (h : xs.mapM f = .ok ys) (hR : List.Forall₂ R ys zs) :
    List.Forall₂ (fun x z => ∃ y, f x = .ok y ∧ R y z) xs zs := by
  rw [mapM_eq_ok_iff] at h
  induction h generalizing zs with
  | nil =>
      cases hR
      exact .nil
  | cons hy _ ih =>
      cases hR with
      | cons hhead htail => exact .cons ⟨_, hy, hhead⟩ (ih htail)

/-- What is made of a list with one more element has one more element at its end. -/
theorem mapM_concat (hxs : xs.mapM f = .ok ys) (hx : f x = .ok y) :
    (xs ++ [x]).mapM f = .ok (ys ++ [y]) := by
  rw [List.mapM_append, hxs, List.mapM_cons, hx]
  rfl

/-- Where a step fails for no member of a list, something is made of the list. -/
theorem exists_mapM_of_forall (h : ∀ x ∈ xs, ∃ y, f x = .ok y) : ∃ ys, xs.mapM f = .ok ys := by
  induction xs with
  | nil => exact ⟨[], rfl⟩
  | cons x rest ih =>
      obtain ⟨y, hy⟩ := h x List.mem_cons_self
      obtain ⟨ys, hys⟩ := ih fun x' hx' => h x' (List.mem_cons_of_mem _ hx')
      exact ⟨y :: ys, mapM_eq_ok_iff.2 (.cons hy (mapM_eq_ok_iff.1 hys))⟩

/-- What a step makes of a list has what the step makes of each member. -/
theorem exists_mapM {P : β → Prop} (h : ∀ x ∈ xs, ∃ y, f x = .ok y ∧ P y) :
    ∃ ys, xs.mapM f = .ok ys ∧ ∀ y ∈ ys, P y := by
  obtain ⟨ys, hys⟩ := exists_mapM_of_forall fun x hx => (h x hx).imp fun _ hy => hy.1
  refine ⟨ys, hys, fun y hy => ?_⟩
  obtain ⟨x, hx, hmade⟩ := exists_of_mem_mapM hys y hy
  obtain ⟨y', hy', hP⟩ := h x hx
  obtain rfl : y = y' := Except.ok.inj (hmade.symm.trans hy')
  exact hP

/-- What two steps make of a list is related one by one if what they make of each member is. -/
theorem forall₂_of_mapM {R : β → β → Prop} {g : α → Except Error β}
    (h : ∀ x ∈ xs, ∃ y y', f x = .ok y ∧ g x = .ok y' ∧ R y y') :
    ∃ ys ys', xs.mapM f = .ok ys ∧ xs.mapM g = .ok ys' ∧ List.Forall₂ R ys ys' := by
  induction xs with
  | nil => exact ⟨[], [], rfl, rfl, .nil⟩
  | cons x rest ih =>
      obtain ⟨y, y', hy, hy', hR⟩ := h x List.mem_cons_self
      obtain ⟨ys, ys', hys, hys', hRs⟩ := ih fun x' hx' => h x' (List.mem_cons_of_mem _ hx')
      rw [mapM_eq_ok_iff] at hys hys'
      exact ⟨y :: ys, y' :: ys', mapM_eq_ok_iff.2 (.cons hy hys),
        mapM_eq_ok_iff.2 (.cons hy' hys'), .cons hR hRs⟩

/-! ## Lists of which nothing is made -/

/-- Where one member alone can fail, its error is that of the whole list. -/
theorem mapM_error_of_others (hx : x ∈ xs) (hothers : ∀ x' ∈ xs, x' ≠ x → ∃ y, f x' = .ok y)
    {e : Error} (he : f x = .error e) : xs.mapM f = .error e := by
  induction xs with
  | nil => cases hx
  | cons x' rest ih =>
      rw [List.mapM_cons]
      by_cases hsame : x' = x
      · rw [hsame, he]
        rfl
      · obtain ⟨y, hy⟩ := hothers x' List.mem_cons_self hsame
        have hrest : x ∈ rest := (List.mem_cons.1 hx).resolve_left (Ne.symm hsame)
        rw [hy, ih hrest fun z hz => hothers z (List.mem_cons_of_mem _ hz)]
        rfl

/-- Where nothing is made of a list, it is for the first member of which nothing is made. -/
theorem exists_of_mapM_error {e : Error} (h : xs.mapM f = .error e) :
    ∃ before x after, xs = before ++ x :: after ∧ (∀ z ∈ before, ∃ y, f z = .ok y) ∧
      f x = .error e := by
  induction xs with
  | nil => cases h
  | cons x rest ih =>
      rw [List.mapM_cons] at h
      cases hx : f x with
      | error e' =>
          rw [hx] at h
          cases h
          exact ⟨[], x, rest, rfl, nofun, hx⟩
      | ok y =>
          cases hrest : rest.mapM f with
          | error e' =>
              rw [hx, hrest] at h
              cases h
              obtain ⟨before, z, after, rfl, hbefore, hz⟩ := ih hrest
              exact ⟨x :: before, z, after, rfl, List.forall_mem_cons.2 ⟨⟨y, hx⟩, hbefore⟩, hz⟩
          | ok ys =>
              rw [hx, hrest] at h
              cases h

end SqlCompose
