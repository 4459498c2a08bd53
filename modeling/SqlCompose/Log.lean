import SqlCompose.Error

/-!
# Logs

A log has a level, and what is logged below it is left out. Levels have names, which count in any
case, and numbers; a name that is not known stands for the level of plain information, unless it
names something else of the log's.

Each call of a method of a log makes a line (`Entry.line`). A line says what was given with the
event, the event, its level, and the name of the log. What is logged can be in any form.
-/

namespace SqlCompose.Log

/-- The names of the levels and their numbers. -/
def levels : List (String × Nat) := [
  ("DEBUG", 10), ("INFO", 20), ("WARNING", 30), ("WARN", 30), ("ERROR", 40), ("CRITICAL", 50),
  ("FATAL", 50), ("NOTSET", 0)]

/-- The capitals of a letter, or of a joined pair of letters, that can occur in a level's name. -/
def capital (c : Char) : List Char :=
  if c = '\u0131' then ['I']
  else if c = '\u017F' then ['S']
  else if c = '\uFB05' ∨ c = '\uFB06' then ['S', 'T']
  else [c.toUpper]

/-- The name of a level in capitals. -/
def capitals (name : String) : String := String.ofList (name.toList.flatMap capital)

/-- The number of the level with the name. -/
def levelNumber (name : String) : Nat := (levels.lookup (capitals name)).getD 20

/-- The number of the level that a log is given by its name. -/
def levelOfName (name : String) : Except Error Nat :=
  if capitals name == "BASIC_FORMAT" then .error (.log .patternAsLevel)
  else if capitals name == "_STYLES" then .error (.log .stylesAsLevel)
  else .ok (levelNumber name)

/-- The number of the level that a log is given by a value, which has to be a name. -/
def levelOf : Value → Except Error Nat
  | .text name => levelOfName name
  | v => .error (.missingAttribute (.object v.fullTypeName) "upper")

/-- The methods that log an event. -/
def methods : List String :=
  ["debug", "info", "warning", "warn", "error", "critical", "fatal", "exception"]

/-- The methods that log only when they are waited for, which a log does not do here. -/
def lateMethods : List String :=
  ["adebug", "ainfo", "awarning", "aerror", "acritical", "afatal", "aexception"]

/-- The name under which a method logs. -/
def nameOfMethod (method : String) : String :=
  if method == "warn" then "warning"
  else if method == "fatal" then "critical"
  else if method == "exception" then "error"
  else method

/-- Whether what a method logs is kept at a level. -/
def keeps (level : Nat) (method : String) : Bool :=
  methods.contains method && level ≤ levelNumber (nameOfMethod method)

/-- The name of a log; a name that counts as false is that of the one all others are below. -/
def nameOf (name : Value) : Except Error String :=
  match name with
  | .text s => .ok (if s.isEmpty then "root" else s)
  | v => if v.truth then .error (.log .nameNotText) else .ok "root"

/-- An event that a log is handed by one of its methods, with details in any form. -/
structure Entry (α : Type) where
  method : String
  /-- What happened, if that is said. -/
  event? : Option α
  /-- What is said of the event, each under a name. -/
  details : List (String × α)

/-- A line of a log. -/
structure Line (α : Type) where
  details : List (String × α)
  event? : Option α
  level : String
  logger : String

namespace Entry

variable {α : Type}

/-- The names in a line that details cannot take, or that are left out. -/
def ownNames : List String :=
  ["event", "level", "logger", "timestamp", "exc_info", "stack_info"]

/-- Accepts a method that there is, and details that do not have the names of its arguments. -/
def check (e : Entry α) : Except Error Unit := do
  if !(methods ++ lateMethods).contains e.method then
    throw (.missingAttribute (.object "BoundLogger") e.method)
  let given (name : String) : Bool := e.details.any fun d => d.1 == name
  let method := if e.method == "warn" then "warning" else e.method
  match ["event", "self"].find? given with
  | some name => throw (.log (.repeatedArgument method name))
  | none =>
    if given "method_name" && !lateMethods.contains e.method then
      throw (.log (.repeatedArgument "_proxy_to_logger" "method_name"))

/-- The line of an event. -/
def line (logger : String) (e : Entry α) : Line α where
  details := e.details.filter fun d => !ownNames.contains d.1
  event? := e.event?
  level := nameOfMethod e.method
  logger := logger

end Entry

/-- The lines of a log with a name and a level. -/
def lines {α : Type} (name : Value) (level : Nat) (entries : List (Entry α)) :
    Except Error (List (Line α)) := do
  let found ← entries.mapM fun e => do
    let name ← nameOf name
    e.check
    return if keeps level e.method then [e.line name] else []
  return found.flatten

end SqlCompose.Log
