import SqlCompose.Coerce.Truth
import SqlCompose.Dialect
import SqlCompose.Text.Lower

/-!
# Settings

The settings are read from environment variables whose names begin with `Settings.variableHead`, in
any case. A setting without a variable has its default; a variable is one also where it is empty.
The problems of all settings are found together, in the order of the fields of `Settings`.

Settings are read once: what was read is kept until it is given up (`Environment.refresh`).
-/

namespace SqlCompose

/-- What holds for all statements. -/
structure Settings where
  /-- The dialect of statements that name none. -/
  defaultDialect : BuiltIn := .postgres
  /-- Whether a statement that binds too many values is refused. -/
  enforceLimit : Bool := true
  /-- Whether every finished statement is logged. -/
  logStatements : Bool := false
  /-- The name of the log's level. -/
  logLevel : String := "INFO"
  deriving DecidableEq, Repr

namespace Settings

/-- What stands before the names of the settings. -/
def variableHead : String := "brickorm_"

/-- The value of the variable of a setting: of those with the same name but for case the last. -/
def valueOf? (vars : List (String × String)) (setting : String) : Option String :=
  (vars.reverse.find? fun v => Text.lower v.1 == variableHead ++ setting).map Prod.snd

/-- A setting: its default if it has no variable, else what its text says. -/
def read {α : Type} (vars : List (String × String)) (setting : String) (default : α)
    (problem : ProblemKind) (ofText? : String → Option α) : Except (List Problem) α :=
  match valueOf? vars setting with
  | none => .ok default
  | some text =>
    match ofText? text with
    | some a => .ok a
    | none => .error [⟨[.field setting], problem⟩]

/-- The problems of a setting. -/
def problems {α : Type} : Except (List Problem) α → List Problem
  | .ok _ => []
  | .error ps => ps

/-- The truth value that a text stands for. -/
def truthOfText? (text : String) : Option Bool := (Coerce.truthOf (.text text)).toOption

/-- The settings that environment variables make. -/
def ofVariables (vars : List (String × String)) : Except Error Settings :=
  let start : Settings := {}
  let dialect :=
    read vars "default_dialect" start.defaultDialect .notBuiltInDialect BuiltIn.ofTag?
  let enforce :=
    read vars "enforce_param_limit" start.enforceLimit .notTruth truthOfText?
  let logs := read vars "log_sql" start.logStatements .notTruth truthOfText?
  let level := (valueOf? vars "log_level").getD start.logLevel
  match dialect, enforce, logs with
  | .ok d, .ok e, .ok l => .ok ⟨d, e, l, level⟩
  | _, _, _ => .error (.invalid (problems dialect ++ problems enforce ++ problems logs))

example : ofVariables [] = .ok {} := rfl

end Settings

/--
The environment variables, in the order in which they were set, and the settings read from them.
-/
structure Environment where
  vars : List (String × String) := []
  kept : Option Settings := none

namespace Environment

/-- The environment with a variable set, in its place if it was there, or taken away. -/
def put (e : Environment) (name : String) : Option String → Environment
  | none => { e with vars := e.vars.filter fun v => v.1 != name }
  | some text =>
    if e.vars.any fun v => v.1 == name then
      { e with vars := e.vars.map fun v => if v.1 == name then (name, text) else v }
    else { e with vars := e.vars ++ [(name, text)] }

/-- Accepts a name and a text that a variable can have. -/
def checkVariable (name text : String) : Except VariableFault Unit :=
  if name.contains '\x00' || text.contains '\x00' then .error .endInside
  else if name.contains '=' then .error .signInName
  else if name.isEmpty then .error .noName
  else .ok ()

/-- The environment with a variable set to a value, or taken away where that is NULL. -/
def set (e : Environment) (name : String) : Value → Except Error Environment
  | .null => .ok (e.put name none)
  | .text text => do
    (checkVariable name text).mapError .environment
    return e.put name (some text)
  | v => .error (.environment (.notText v.typeName))

/-- The environment with the settings that were read given up. -/
def refresh (e : Environment) : Environment := { e with kept := none }

/-- The settings: those that were read before, or else those that the variables make. -/
def settings (e : Environment) : Except Error Settings :=
  match e.kept with
  | some s => .ok s
  | none => Settings.ofVariables e.vars

/-- The environment after the settings were read: they are kept if they could be. -/
def afterReading (e : Environment) : Environment :=
  match e.settings with
  | .ok s => { e with kept := some s }
  | .error _ => e

end Environment

end SqlCompose
