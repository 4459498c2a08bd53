import SqlCompose.Dialect

/-!
# The registry of dialects

Dialects are registered under names, a later registration in the place of an earlier one. The first
request for a name makes an instance of the dialect, which is kept and handed out again until the
name is registered anew; a serial number tells instances apart.
-/

namespace SqlCompose

/-- An instance of a dialect. -/
structure Instance where
  serial : Nat
  dialect : Dialect

/-- How a caller names the dialect of a statement. -/
inductive DialectChoice where
  /-- The default of the settings. -/
  | standard
  /-- The name that it is registered under. -/
  | named (tag : String)
  /-- The dialect itself. -/
  | given (d : Dialect)

/-- The registered dialects and the instances made so far. -/
structure Registry where
  dialects : List (String × Dialect)
  instances : List (String × Instance)
  /-- How many instances were made. -/
  made : Nat

namespace Registry

/-- The registry with the library's own dialects. -/
def initial : Registry where
  dialects := BuiltIn.all.map fun b => (b.tag, Dialect.ofBuiltIn b)
  instances := []
  made := 0

/-- The registered names, sorted. -/
def names (r : Registry) : List String :=
  (r.dialects.map Prod.fst).mergeSort fun a b => a ≤ b

/-- The registry with a dialect under a name; an instance of an earlier one is given up. -/
def register (r : Registry) (name : String) (d : Dialect) : Registry :=
  { r with
    dialects := (name, d) :: r.dialects.filter fun e => e.1 != name
    instances := r.instances.filter fun e => e.1 != name }

/-- The instance for a name, made if there is none yet; only a complete dialect has instances. -/
def create (r : Registry) (name : String) : Except Error (Instance × Registry) :=
  match r.instances.lookup name with
  | some i => .ok (i, r)
  | none =>
    match r.dialects.lookup name with
    | some d => do
      let i : Instance := ⟨r.made, ← d.checked⟩
      return (i, { r with instances := (name, i) :: r.instances, made := r.made + 1 })
    | none => .error (.unsupported name (.anyStatement r.names))

/-- Every instance that is kept is one of the dialect registered under its name. -/
def Consistent (r : Registry) : Prop :=
  ∀ name i, r.instances.lookup name = some i → r.dialects.lookup name = some i.dialect

/-- The registry at the start keeps no instance. -/
theorem consistent_initial : initial.Consistent := by
  intro name i h
  simp [initial] at h

end Registry

end SqlCompose
