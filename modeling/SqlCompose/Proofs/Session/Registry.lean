import Mathlib.Data.List.Induction
import SqlCompose.Proofs.Session.Command

/-!
# The registry of a session

Dialects are registered under names and asked for by them, in any order.  The
registry keeps two tables: the dialects, and the instances that were made of
them.  A registration gives up the instance of its name, so an instance that is
kept is always one of the dialect that was registered last
(`Registry.Consistent`); and instances are numbered, so that one that is made
later is another one.

Which dialect a name stands for is said from the calls alone
(`RegistryCall.latest`).

## Main results

* `Registry.Follows.after` — what one call leaves of the registry.
* `RegistryCall.kept_after`, `Registry.Renewed.after` — an instance stays until
  its name is registered anew, and is another one after that.
* `RegistryCall.instanceOf_of_calls` — what names stand for after any calls.
-/

namespace SqlCompose

open SqlCompose.Action

/-! ## Tables -/

namespace Registry

variable {α : Type} {entries : List (String × α)} {name tag : String}

/-- What is left of a table without a name has no entry for it. -/
theorem lookup_filter_self (entries : List (String × α)) (name : String) :
    (entries.filter fun e => e.1 != name).lookup name = none := by
  induction entries with
  | nil => rfl
  | cons e rest ih =>
      obtain ⟨key, a⟩ := e
      by_cases hkey : key = name
      · rw [List.filter_cons_of_neg (by simpa using hkey), ih]
      · have hother : (name == key) = false := beq_eq_false_iff_ne.2 (Ne.symm hkey)
        rw [List.filter_cons_of_pos (by simpa using hkey), List.lookup_cons, hother, ih]

/-- Entries of other names are not touched. -/
theorem lookup_filter_of_ne (h : tag ≠ name) :
    (entries.filter fun e => e.1 != name).lookup tag = entries.lookup tag := by
  induction entries with
  | nil => rfl
  | cons e rest ih =>
      obtain ⟨key, a⟩ := e
      by_cases hkey : key = name
      · have hother : (tag == key) = false := by simpa [hkey] using h
        rw [List.filter_cons_of_neg (by simpa using hkey), ih, List.lookup_cons, hother]
      · rw [List.filter_cons_of_pos (by simpa using hkey), List.lookup_cons, List.lookup_cons, ih]

end Registry

/-! ## Calls -/

/-- What is asked of the registry. -/
inductive RegistryCall where
  /-- A dialect is registered under a name. -/
  | register (tag : String) (d : Dialect)
  /-- The instance for a name is asked for. -/
  | create (tag : String)

namespace RegistryCall

/-- The session after a call. -/
def after (session : Session) : RegistryCall → Session
  | register tag d => { session with registry := session.registry.register tag d }
  | create tag => (outcome (instanceOf tag) session).2

/-- The session after calls, one after another. -/
def run (session : Session) (calls : List RegistryCall) : Session := calls.foldl after session

/-- The dialect that a call registers under a name. -/
def registers? (tag : String) : RegistryCall → Option Dialect
  | register name d => if name = tag then some d else none
  | create _ => none

/--
The dialect that a name stands for after calls: the one that was registered
last, or else the library's own of that name.
-/
def latest (tag : String) (calls : List RegistryCall) : Option Dialect :=
  (calls.reverse.findSome? (registers? tag)).or ((BuiltIn.ofTag? tag).map Dialect.ofBuiltIn)

/-- Whether all dialects that are registered have all parts that every dialect needs. -/
def AreComplete (calls : List RegistryCall) : Prop :=
  ∀ tag d, register tag d ∈ calls → d.checked = .ok d

theorem latest_concat (tag : String) (calls : List RegistryCall) (call : RegistryCall) :
    latest tag (calls ++ [call]) = (registers? tag call).or (latest tag calls) := by
  rw [latest, List.reverse_append, List.reverse_singleton, List.singleton_append,
    List.findSome?_cons, latest]
  cases registers? tag call <;> rfl

theorem run_concat (session : Session) (calls : List RegistryCall) (call : RegistryCall) :
    run session (calls ++ [call]) = call.after (run session calls) := by
  rw [run, List.foldl_append]
  rfl

end RegistryCall

/-! ## Registrations -/

namespace Registry

variable {r : Registry} {name tag : String} {d : Dialect} {i : Instance}

theorem dialects_register (r : Registry) (name tag : String) (d : Dialect) :
    (r.register name d).dialects.lookup tag =
      if name = tag then some d else r.dialects.lookup tag := by
  rw [register, List.lookup_cons]
  by_cases hname : name = tag
  · rw [if_pos hname, hname, beq_self_eq_true]
  · have hother : (tag == name) = false := beq_eq_false_iff_ne.2 (Ne.symm hname)
    rw [if_neg hname, hother, lookup_filter_of_ne (Ne.symm hname)]

theorem instances_register (r : Registry) (name tag : String) (d : Dialect) :
    (r.register name d).instances.lookup tag =
      if name = tag then none else r.instances.lookup tag := by
  rw [register]
  by_cases hname : name = tag
  · rw [if_pos hname, hname, lookup_filter_self]
  · rw [if_neg hname, lookup_filter_of_ne (Ne.symm hname)]

/-- The registry with one more instance, which is kept for a name. -/
def keep (r : Registry) (tag : String) (d : Dialect) : Registry :=
  { r with instances := (tag, ⟨r.made, d⟩) :: r.instances, made := r.made + 1 }

theorem instances_keep (r : Registry) (name tag : String) (d : Dialect) :
    (r.keep name d).instances.lookup tag =
      if name = tag then some ⟨r.made, d⟩ else r.instances.lookup tag := by
  rw [keep, List.lookup_cons]
  by_cases hname : name = tag
  · rw [if_pos hname, hname, beq_self_eq_true]
  · have hother : (tag == name) = false := beq_eq_false_iff_ne.2 (Ne.symm hname)
    rw [if_neg hname, hother]

theorem create_of_kept (h : r.instances.lookup tag = some i) : r.create tag = .ok (i, r) := by
  rw [create, h]

theorem create_of_registered (h : r.instances.lookup tag = none)
    (hd : r.dialects.lookup tag = some d) (hcomplete : d.checked = .ok d) :
    r.create tag = .ok (⟨r.made, d⟩, r.keep tag d) := by
  rw [create, h, hd]
  simp only [hcomplete]
  rfl

theorem create_of_none (h : r.instances.lookup tag = none) (hd : r.dialects.lookup tag = none) :
    r.create tag = .error (.unsupported tag (.anyStatement r.names)) := by
  rw [create, h, hd]

/--
Asking for an instance hands one out that is kept already, or makes and keeps
one of the dialect of the name, or fails.
-/
theorem create_cases (r : Registry) (tag : String) :
    (∃ i, r.instances.lookup tag = some i ∧ r.create tag = .ok (i, r)) ∨
    (∃ d, r.instances.lookup tag = none ∧ r.dialects.lookup tag = some d ∧
      r.create tag = .ok (⟨r.made, d⟩, r.keep tag d)) ∨
    ∃ e, r.create tag = .error e := by
  cases hi : r.instances.lookup tag with
  | some i => exact .inl ⟨i, rfl, create_of_kept hi⟩
  | none =>
      cases hd : r.dialects.lookup tag with
      | none => exact .inr (.inr ⟨_, create_of_none hi hd⟩)
      | some d =>
          cases hchecked : d.checked with
          | ok checked =>
              obtain rfl := Dialect.eq_of_checked hchecked
              exact .inr (.inl ⟨checked, rfl, rfl, create_of_registered hi hd hchecked⟩)
          | error e =>
              refine .inr (.inr ⟨e, ?_⟩)
              rw [create, hi, hd]
              simp only [hchecked]
              rfl

end Registry

/-- A call for an instance leaves the session as it is, but for an instance that is made. -/
theorem RegistryCall.after_create_cases (session : Session) (tag : String) :
    (create tag).after session = session ∨
    ∃ d, session.registry.instances.lookup tag = none ∧
      session.registry.dialects.lookup tag = some d ∧
      (create tag).after session = { session with registry := session.registry.keep tag d } := by
  rw [after, outcome_instanceOf]
  rcases session.registry.create_cases tag with ⟨i, -, h⟩ | ⟨d, hi, hd, h⟩ | ⟨e, h⟩
  · exact .inl (by rw [h])
  · exact .inr ⟨d, hi, hd, by rw [h]⟩
  · exact .inl (by rw [h])

/-! ## What names stand for -/

/--
Whether a registry stands for dialects by their names: they are registered and
complete, every kept instance is of the one under its name, and the next
instance will be numbered higher than all.
-/
structure Registry.Follows (r : Registry) (stands : String → Option Dialect) : Prop where
  dialects : ∀ tag, r.dialects.lookup tag = stands tag
  complete : ∀ tag d, stands tag = some d → d.checked = .ok d
  consistent : r.Consistent
  fresh : ∀ tag i, r.instances.lookup tag = some i → i.serial < r.made

namespace Registry.Follows

variable {session : Session} {stands : String → Option Dialect}

/-- At the start the names stand for the library's own dialects. -/
theorem initial : Registry.initial.Follows fun tag =>
    (BuiltIn.ofTag? tag).map Dialect.ofBuiltIn where
  dialects tag := by
    simp only [Registry.initial, BuiltIn.ofTag?]
    induction BuiltIn.all with
    | nil => rfl
    | cons b rest ih =>
        rw [List.map_cons, List.lookup_cons, List.find?_cons, Bool.beq_comm]
        cases b.tag == tag with
        | true => rfl
        | false => exact ih
  complete tag d h := by
    obtain ⟨b, -, rfl⟩ := Option.map_eq_some_iff.1 h
    exact Dialect.checked_ofBuiltIn b
  consistent := consistent_initial
  fresh tag i h := by cases h

/-- A registration is followed. -/
theorem register (h : session.registry.Follows stands) (name : String) {d : Dialect}
    (hd : d.checked = .ok d) : (session.registry.register name d).Follows fun tag =>
      ((RegistryCall.register name d).registers? tag).or (stands tag) where
  dialects tag := by
    rw [dialects_register, RegistryCall.registers?, h.dialects]
    split <;> rfl
  complete tag d' hd' := by
    rw [RegistryCall.registers?] at hd'
    split at hd'
    · cases hd'
      exact hd
    · exact h.complete tag d' hd'
  consistent tag i hi := by
    rw [instances_register] at hi
    split at hi
    · cases hi
    · rename_i hother
      rw [dialects_register, if_neg hother]
      exact h.consistent tag i hi
  fresh tag i hi := by
    rw [instances_register] at hi
    split at hi
    · cases hi
    · exact h.fresh tag i hi

/-- An instance of the dialect under its name can be kept. -/
theorem keep (h : session.registry.Follows stands) {name : String} {d : Dialect}
    (hd : session.registry.dialects.lookup name = some d) :
    (session.registry.keep name d).Follows stands where
  dialects := h.dialects
  complete := h.complete
  consistent tag i hi := by
    rw [instances_keep] at hi
    split at hi
    · rename_i hsame
      cases hi
      exact hsame ▸ hd
    · exact h.consistent tag i hi
  fresh tag i hi := by
    rw [instances_keep] at hi
    split at hi
    · cases hi
      exact Nat.lt_succ_self _
    · exact Nat.lt_succ_of_lt (h.fresh tag i hi)

/-- A call is followed: names stand for what it registers, and else for what they stood for. -/
theorem after (h : session.registry.Follows stands) (call : RegistryCall)
    (hcomplete : ∀ tag d, call = .register tag d → d.checked = .ok d) :
    (call.after session).registry.Follows fun tag => (call.registers? tag).or (stands tag) := by
  cases call with
  | register name d => exact h.register name (hcomplete name d rfl)
  | create name =>
      rcases RegistryCall.after_create_cases session name with hsame | ⟨d, -, hd, hkept⟩
      · rw [hsame]
        exact h
      · rw [hkept]
        exact h.keep hd

/-- Calls are followed. -/
theorem run {calls : List RegistryCall} (hstart : session.registry = .initial)
    (hcomplete : RegistryCall.AreComplete calls) :
    (RegistryCall.run session calls).registry.Follows fun tag =>
      RegistryCall.latest tag calls := by
  induction calls using List.reverseRecOn with
  | nil =>
      rw [RegistryCall.run, List.foldl_nil, hstart]
      exact initial
  | append_singleton calls call ih =>
      have hbefore := ih fun tag d hmem => hcomplete tag d (List.mem_append_left _ hmem)
      have hcall := hbefore.after call fun tag d hsame => hcomplete tag d (by simp [hsame])
      rw [RegistryCall.run_concat]
      simpa only [RegistryCall.latest_concat] using hcall

end Registry.Follows

/-! ## Which instance is handed out -/

namespace Registry.Follows

variable {session : Session} {stands : String → Option Dialect} {tag : String}

/-- A name that stands for a dialect has an instance of it. -/
theorem exists_instanceOf (h : session.registry.Follows stands) {d : Dialect}
    (hd : stands tag = some d) : ∃ serial registry,
      outcome (instanceOf tag) session = (.ok ⟨serial, d⟩, { session with registry }) := by
  have hregistered : session.registry.dialects.lookup tag = some d := (h.dialects tag).trans hd
  rw [outcome_instanceOf]
  cases hi : session.registry.instances.lookup tag with
  | some i =>
      obtain rfl : i.dialect = d :=
        Option.some.inj ((h.consistent tag i hi).symm.trans hregistered)
      exact ⟨i.serial, session.registry, by rw [create_of_kept hi]⟩
  | none => exact ⟨_, _, by rw [create_of_registered hi hregistered (h.complete tag d hd)]⟩

/-- A name that stands for nothing is refused, and nothing changes. -/
theorem instanceOf_of_none (h : session.registry.Follows stands) (hnone : stands tag = none) :
    outcome (instanceOf tag) session =
      (.error (.unsupported tag (.anyStatement session.registry.names)), session) := by
  have hunregistered : session.registry.dialects.lookup tag = none :=
    (h.dialects tag).trans hnone
  have hunkept : session.registry.instances.lookup tag = none := by
    by_contra hkept
    obtain ⟨i, hi⟩ := Option.ne_none_iff_exists'.1 hkept
    cases hunregistered.symm.trans (h.consistent tag i hi)
  rw [outcome_instanceOf, create_of_none hunkept hunregistered]

end Registry.Follows

section Instances

variable {session : Session} {tag : String} {i : Instance} {calls : List RegistryCall}

/-- An instance is one that is kept, or the next one, of the dialect of the name. -/
theorem Action.instanceOf_eq_ok_iff : (outcome (instanceOf tag) session).1 = .ok i ↔
    session.registry.instances.lookup tag = some i ∨
      session.registry.instances.lookup tag = none ∧
        session.registry.dialects.lookup tag = some i.dialect ∧
        i.dialect.checked = .ok i.dialect ∧ i.serial = session.registry.made := by
  rw [outcome_instanceOf]
  cases hi : session.registry.instances.lookup tag with
  | some j => simp [Registry.create_of_kept hi]
  | none =>
      cases hd : session.registry.dialects.lookup tag with
      | none => simp [Registry.create_of_none hi hd]
      | some d =>
          obtain ⟨serial, dialect⟩ := i
          cases hchecked : d.checked with
          | ok checked =>
              obtain rfl := Dialect.eq_of_checked hchecked
              simp only [Registry.create_of_registered hi hd hchecked, Except.ok.injEq,
                Instance.mk.injEq, reduceCtorEq, false_or, true_and, Option.some.injEq]
              constructor
              · rintro ⟨rfl, rfl⟩
                exact ⟨rfl, hchecked, rfl⟩
              · rintro ⟨rfl, -, rfl⟩
                exact ⟨rfl, rfl⟩
          | error e =>
              have hfails : session.registry.create tag = .error e := by
                rw [Registry.create, hi, hd]
                simp only [hchecked]
                rfl
              simp only [hfails, reduceCtorEq, false_or, true_and, Option.some.injEq, false_iff]
              rintro ⟨rfl, hcomplete, -⟩
              cases hchecked.symm.trans hcomplete

/-- An instance that is handed out is kept. -/
theorem RegistryCall.kept_of_instanceOf (h : (outcome (instanceOf tag) session).1 = .ok i) :
    ((create tag).after session).registry.instances.lookup tag = some i := by
  rw [after]
  rw [outcome_instanceOf] at h ⊢
  rcases session.registry.create_cases tag with ⟨j, hj, hout⟩ | ⟨d, -, -, hout⟩ | ⟨e, hout⟩
  · rw [hout] at h ⊢
    cases h
    exact hj
  · rw [hout] at h ⊢
    cases h
    simp only [Registry.instances_keep, if_true]
  · rw [hout] at h
    cases h

theorem Action.instanceOf_of_kept (h : session.registry.instances.lookup tag = some i) :
    (outcome (instanceOf tag) session).1 = .ok i :=
  instanceOf_eq_ok_iff.2 (.inl h)

/-- Registering another dialect does not change which instance a name has. -/
theorem Action.instanceOf_register_of_ne {name : String} (hne : name ≠ tag) (d : Dialect) :
    (outcome (instanceOf tag) ((RegistryCall.register name d).after session)).1 = .ok i ↔
      (outcome (instanceOf tag) session).1 = .ok i := by
  have hinstances := session.registry.instances_register name tag d
  have hdialects := session.registry.dialects_register name tag d
  rw [if_neg hne] at hinstances hdialects
  rw [instanceOf_eq_ok_iff, instanceOf_eq_ok_iff, RegistryCall.after, hinstances, hdialects]
  rfl

namespace RegistryCall

/-- An instance is kept until its name is registered anew. -/
theorem kept_after {call : RegistryCall} (hother : ∀ d, call ≠ register tag d)
    (h : session.registry.instances.lookup tag = some i) :
    (call.after session).registry.instances.lookup tag = some i := by
  cases call with
  | register name d =>
      have hne : name ≠ tag := by
        rintro rfl
        exact hother d rfl
      rw [after, Registry.instances_register, if_neg hne, h]
  | create name =>
      rcases after_create_cases session name with hsame | ⟨d, hnone, -, hkept⟩
      · rw [hsame, h]
      · have hne : name ≠ tag := by
          rintro rfl
          cases hnone.symm.trans h
        rw [hkept, Registry.instances_keep, if_neg hne, h]

theorem kept_run (hcalls : ∀ d, register tag d ∉ calls)
    (h : session.registry.instances.lookup tag = some i) :
    (run session calls).registry.instances.lookup tag = some i := by
  induction calls generalizing session with
  | nil => exact h
  | cons call rest ih =>
      have hother : ∀ d, call ≠ register tag d := by
        rintro d rfl
        exact hcalls d List.mem_cons_self
      exact ih (fun d hd => hcalls d (List.mem_cons_of_mem _ hd)) (kept_after hother h)

/-- No call takes back that an instance was made. -/
theorem made_le_after (session : Session) (call : RegistryCall) :
    session.registry.made ≤ (call.after session).registry.made := by
  cases call with
  | register name d => exact Nat.le_refl _
  | create name =>
      rcases after_create_cases session name with hsame | ⟨d, -, -, hkept⟩
      · exact Nat.le_of_eq (by rw [hsame])
      · rw [hkept]
        exact Nat.le_succ _

theorem made_le_run (session : Session) (calls : List RegistryCall) :
    session.registry.made ≤ (run session calls).registry.made := by
  induction calls generalizing session with
  | nil => exact Nat.le_refl _
  | cons call rest ih => exact Nat.le_trans (made_le_after session call) (ih _)

end RegistryCall

/-- Whether a name has no instance but one that is numbered from the given number on. -/
structure Registry.Renewed (r : Registry) (tag : String) (first : Nat) : Prop where
  made : first ≤ r.made
  serial : ∀ i, r.instances.lookup tag = some i → first ≤ i.serial

namespace Registry.Renewed

variable {first : Nat}

/-- A registration gives up the instance of its name. -/
theorem register (d : Dialect) (h : first ≤ session.registry.made) :
    (session.registry.register tag d).Renewed tag first where
  made := h
  serial i hi := by
    rw [instances_register, if_pos rfl] at hi
    cases hi

theorem after (h : session.registry.Renewed tag first) (call : RegistryCall) :
    (call.after session).registry.Renewed tag first where
  made := Nat.le_trans h.made (RegistryCall.made_le_after session call)
  serial i hi := by
    cases call with
    | register name d =>
        rw [RegistryCall.after, instances_register] at hi
        split at hi
        · cases hi
        · exact h.serial i hi
    | create name =>
        rcases RegistryCall.after_create_cases session name with hsame | ⟨d, -, -, hkept⟩
        · rw [hsame] at hi
          exact h.serial i hi
        · rw [hkept, instances_keep] at hi
          split at hi
          · cases hi
            exact h.made
          · exact h.serial i hi

theorem run (h : session.registry.Renewed tag first) :
    (RegistryCall.run session calls).registry.Renewed tag first := by
  induction calls generalizing session with
  | nil => exact h
  | cons call rest ih => exact ih (h.after call)

end Registry.Renewed

/-- Behind a registration of its name the instance is another one. -/
theorem RegistryCall.instanceOf_ne_of_register {d : Dialect} (hd : register tag d ∈ calls)
    (hi : i.serial < session.registry.made) :
    (outcome (instanceOf tag) (run session calls)).1 ≠ .ok i := by
  intro hsame
  obtain ⟨front, rest, rfl⟩ := List.append_of_mem hd
  have hrenewed : (run session (front ++ register tag d :: rest)).registry.Renewed tag
      session.registry.made := by
    rw [run, List.foldl_append, List.foldl_cons]
    exact (Registry.Renewed.register d (made_le_run session front)).run
  have hkept := kept_of_instanceOf hsame
  have hserial := (hrenewed.after (create tag)).serial i hkept
  omega

end Instances

/-! ## Compiling by a name -/

namespace Action

variable {α β : Type} {session : Session}

/-- Whether an action comes to the same as another one, and leaves the registry as it is. -/
def Parallels (session : Session) (a a' : Action α) : Prop :=
  outcome a' session =
    ((outcome a session).1, { (outcome a session).2 with registry := session.registry })

theorem Parallels.map {a a' : Action α} (h : Parallels session a a') (f : α → β) :
    Parallels session (f <$> a) (f <$> a') := by
  rw [Parallels, outcome_map, outcome_map, h]

/-- What only reads comes first. -/
theorem Parallels.behind {a : Action α} {k k' : α → Action β} (ha : (outcome a session).2 = session)
    (h : ∀ x, Parallels session (k x) (k' x)) : Parallels session (a >>= k) (a >>= k') := by
  rw [Parallels, outcome_andThen, outcome_andThen]
  rcases hout : outcome a session with ⟨_ | x, next⟩
  · rw [hout] at ha
    obtain rfl : next = session := ha
    rfl
  · rw [hout] at ha
    obtain rfl : next = session := ha
    exact h x

variable {d : Dialect} {tag : String} {registry : Registry}

/-- Writing in the dialect of a name is writing in the dialect itself, but for the registry. -/
theorem parallels_compile (hd : d.checked = .ok d)
    (hnamed : outcome (dialect (.named tag)) session = (.ok d, { session with registry }))
    (b : Blueprint) : Parallels session (compile (.named tag) b) (compile (.given d) b) := by
  have hignores (next : Registry) := Ignores.andThen
    (k := fun f : Fragment => finish d (Writing.outcome (b d) {}).2 (f.text d))
    (ignores_ofExcept (Writing.outcome (b d) {}).1)
    (fun f => (isAside_registry next).finish d _ _) session
  have hsame := hignores session.registry
  rw [Parallels, compile, compile, outcome_andThen, outcome_andThen, hnamed, dialect, hd]
  simp only [outcome_ofExcept]
  rw [hignores registry]
  exact hsame

end Action

/-- Compiling in the dialect of a name is compiling in the dialect itself, but for the registry. -/
theorem Command.parallels_compile {session : Session} {d : Dialect} {tag : String}
    {registry : Registry} (hd : d.checked = .ok d)
    (hnamed : outcome (dialect (.named tag)) session = (.ok d, { session with registry }))
    (c : Command) : Parallels session (c.compile (.named tag)) (c.compile (.given d)) := by
  have hwrite := Action.parallels_compile hd hnamed
  have hschema (r : Record) (schema? : Option Schema) :
      (outcome (Action.schemaFor r schema?) session).2 = session := by
    cases schema? with
    | none => exact congrArg Prod.snd (outcome_ofExcept r.model.schema session)
    | some s => rfl
  have hread {α : Type} (e : Except Error α) : (outcome (Action.ofExcept e) session).2 = session :=
    congrArg Prod.snd (outcome_ofExcept e session)
  cases c with
  | fetch r => exact .map (.behind (by rw [outcome_settled]) fun s => hwrite _) _
  | count r => exact .map (.behind (by rw [outcome_settled]) fun s => hwrite _) _
  | update r => exact .map (.behind rfl fun _ => .behind (hread _) fun b => hwrite b) _
  | updateRow r schema? =>
      refine .behind (hschema r schema?) fun s => .behind (hread _) fun written => ?_
      cases written with
      | none => rfl
      | some b => exact .map (hwrite b) some
  | deleteRow r schema? =>
      exact .map (.behind (hschema r schema?) fun s => .behind (hread _) fun b => hwrite b) _
  | insertRow r schema? => exact .map (.behind (hschema r schema?) fun s => hwrite _) _

/-! ## Any calls -/

namespace RegistryCall

variable {session : Session} {calls : List RegistryCall} {tag : String}

/-- A name stands for nothing just if neither the library nor a call registers it. -/
theorem latest_eq_none_iff : latest tag calls = none ↔
    BuiltIn.ofTag? tag = none ∧ ∀ d, register tag d ∉ calls := by
  rw [latest, Option.or_eq_none_iff, Option.map_eq_none_iff, List.findSome?_eq_none_iff, and_comm]
  refine and_congr_right fun _ => ⟨fun h d hd => ?_, fun h call hcall => ?_⟩
  · have hnone := h _ (List.mem_reverse.2 hd)
    rw [registers?, if_pos rfl] at hnone
    cases hnone
  · cases call with
    | create name => rfl
    | register name d =>
        refine if_neg ?_
        rintro rfl
        exact h d (List.mem_reverse.1 hcall)

/--
Names after any calls of a registry that began with the library's own
dialects.  A name has an instance of the dialect that was registered last
under it, and none just if it was never registered; then it is refused, and
nothing changes.  The instance stays the same until the name is registered
anew, and no registration of another name changes it.  So a statement for a
name is the statement for its dialect, and all that is reported is the same.
-/
theorem instanceOf_of_calls (hstart : session.registry = .initial) (hcomplete : AreComplete calls)
    (tag : String) :
    let now := run session calls
    (latest tag calls = none ↔ BuiltIn.ofTag? tag = none ∧ ∀ d, register tag d ∉ calls) ∧
    (latest tag calls = none → outcome (instanceOf tag) now =
      (.error (.unsupported tag (.anyStatement now.registry.names)), now)) ∧
    (∀ d, latest tag calls = some d → ∃ i, (outcome (instanceOf tag) now).1 = .ok i ∧
      i.dialect = d) ∧
    (∀ i between, (outcome (instanceOf tag) now).1 = .ok i →
      ((outcome (instanceOf tag) (run now (create tag :: between))).1 = .ok i ↔
        ∀ d, register tag d ∉ between)) ∧
    (∀ name d i, name ≠ tag → ((outcome (instanceOf tag) ((register name d).after now)).1 = .ok i ↔
      (outcome (instanceOf tag) now).1 = .ok i)) ∧
    ∀ d, latest tag calls = some d → ∀ c : Command,
      outcome (c.compile (.given d)) now = ((outcome (c.compile (.named tag)) now).1,
        { (outcome (c.compile (.named tag)) now).2 with registry := now.registry }) := by
  intro now
  have hnow : now.registry.Follows fun tag => latest tag calls := .run hstart hcomplete
  refine ⟨latest_eq_none_iff, fun hnone => hnow.instanceOf_of_none hnone, fun d hd => ?_,
    fun i between hi => ⟨?_, ?_⟩, fun name d i hne => instanceOf_register_of_ne hne d,
    fun d hd c => ?_⟩
  · obtain ⟨serial, registry, hout⟩ := hnow.exists_instanceOf hd
    exact ⟨_, by rw [hout], rfl⟩
  · intro hsame d hd
    have hkept := kept_of_instanceOf hi
    have hafter : ((create tag).after now).registry.Follows _ :=
      hnow.after (create tag) fun _ _ hcall => by cases hcall
    exact instanceOf_ne_of_register hd (hafter.fresh tag i hkept) hsame
  · intro hbetween
    show (outcome (instanceOf tag) (run ((create tag).after now) between)).1 = .ok i
    exact instanceOf_of_kept (kept_run hbetween (kept_of_instanceOf hi))
  · obtain ⟨serial, registry, hout⟩ := hnow.exists_instanceOf hd
    have hnamed : outcome (dialect (.named tag)) now = (.ok d, { now with registry }) := by
      rw [dialect, outcome_andThen, hout]
      rfl
    exact Command.parallels_compile (hnow.complete tag d hd) hnamed c

/-- The dialect of the house, which is that of one of the databases. -/
def house (b : BuiltIn) : Dialect := (Dialect.ofBuiltIn b).vary { name := some "house" }

/-- The house moves to another database after its dialect was asked for. -/
def moves : List RegistryCall :=
  [register "house" (house .postgres), create "house", register "house" (house .mysql)]

/-- Behind the move the name stands for the new dialect, also in statements. -/
theorem instanceOf_of_calls_moves :
    (∃ i, (outcome (instanceOf "house") (run {} moves)).1 = .ok i ∧ i.dialect = house .mysql) ∧
    (∀ c : Command, (outcome (c.compile (.named "house")) (run {} moves)).1 =
      (outcome (c.compile (.given (house .mysql))) (run {} moves)).1) ∧
    ∃ e, outcome (instanceOf "hall") (run {} moves) = (.error e, run {} moves) := by
  have hstart : ({} : Session).registry = .initial := rfl
  have hcomplete : AreComplete moves := by
    intro tag d hd
    simp only [moves, List.mem_cons, reduceCtorEq, register.injEq, List.not_mem_nil, or_false,
      false_or] at hd
    rcases hd with ⟨-, rfl⟩ | ⟨-, rfl⟩ <;> rfl
  obtain ⟨-, -, hfound, -, -, hcompile⟩ := instanceOf_of_calls hstart hcomplete "house"
  obtain ⟨-, hrefused, -⟩ := instanceOf_of_calls hstart hcomplete "hall"
  exact ⟨hfound _ rfl, fun c => by rw [hcompile _ rfl c], _, hrefused rfl⟩

end RegistryCall

end SqlCompose
