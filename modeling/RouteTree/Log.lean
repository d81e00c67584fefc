import RouteTree.OrderedMap

/-!
# Loggers

Routers of one name share a logger. A logger may have handlers, a level, and may keep its records to
itself; what it does not settle is settled by the loggers above it, found by cutting the name at its
dots, and last by the root.

`Loggers.configure` sends a logger to standard output, once: a logger that has such a handler is
left alone (`configure_eq_self`).
-/

namespace RouteTree

/-- How grave a record is. -/
inductive Level where
  | debug
  | warning
  | error
deriving DecidableEq, Repr

namespace Level

/-- The rank of a level. -/
def rank : Level → Nat
  | .debug => 10
  | .warning => 30
  | .error => 40

/-- A level as it is printed. -/
def label : Level → String
  | .debug => "DEBUG"
  | .warning => "WARNING"
  | .error => "ERROR"

end Level

/-- Where a handler puts records. -/
inductive Handler where
  | standardOutput
  /-- Kept, for those who look at the root. -/
  | recorder
  /-- Another stream. -/
  | other
  /-- Nowhere. -/
  | silent
deriving DecidableEq, Repr

/-- A logger. -/
structure Logger where
  handlers : List Handler := []
  level : Option Level := none
  /-- Do records go on to the loggers above? -/
  propagates : Bool := true
deriving DecidableEq, Repr, Inhabited

/-- Does the logger write to standard output? -/
def Logger.isConfigured (l : Logger) : Bool := l.handlers.contains .standardOutput

/-- The logger, writing to standard output from a level on and keeping its records to itself. -/
def Logger.configure (debug : Bool) (l : Logger) : Logger where
  handlers := l.handlers ++ [.standardOutput]
  level := some (if debug then .debug else .error)
  propagates := false

/-- A record that reached a handler. -/
structure Record where
  level : Level
  logger : String
  message : String
deriving DecidableEq, Repr

/-- A record as a line of text. -/
def Record.line (r : Record) : String :=
  "[" ++ r.logger ++ "] - [" ++ r.level.label ++ "] - " ++ r.message

/-- All loggers. -/
structure Loggers where
  root : Logger
  named : OrderedMap String Logger

namespace Loggers

/-- Nothing but the root, which records what reaches it from warnings on. -/
def fresh : Loggers := ⟨{ handlers := [.recorder], level := some .warning }, .empty⟩

/-- The name that the root goes by. -/
def rootName : String := "root"

/-- Does a name mean the root? -/
def isRoot (name : String) : Bool := name == "" || name == rootName

/-- The logger with a name, as it is before anything is done to it. -/
def named? (ls : Loggers) (name : String) : Logger := (ls.named.get? name).getD {}

/-- The logger with a name. -/
def get (ls : Loggers) (name : String) : Logger :=
  if isRoot name then ls.root else ls.named? name

/-- Writes the logger with a name. -/
def set (ls : Loggers) (name : String) (l : Logger) : Loggers :=
  if isRoot name then { ls with root := l } else { ls with named := ls.named.insert name l }

/-- Adds a handler to a logger. -/
def attach (ls : Loggers) (name : String) (h : Handler) : Loggers :=
  ls.set name { ls.get name with handlers := (ls.get name).handlers ++ [h] }

/-- Sends a logger to standard output, unless it is. -/
def configure (ls : Loggers) (name : String) (debug : Bool) : Loggers :=
  if (ls.get name).isConfigured then ls else ls.set name ((ls.get name).configure debug)

/-- Makes sure that there is a logger with a name. Loggers are kept in the order they came in. -/
def ensure (ls : Loggers) (name : String) : Loggers := ls.set name (ls.get name)

/-- Is there a logger with the first name, with that of the second right below it? A logger that comes
after one below it is put in between, unless the root is in its place already, and there the root is
mistaken for a logger whose name its own name begins with. -/
def isParent (ls : Loggers) (parent name : String) : Bool :=
  (ls.named.get? parent).isSome &&
    !(parent.toList.isPrefixOf rootName.toList &&
      ls.named.keys.idxOf name < ls.named.keys.idxOf parent)

/-- The loggers between a logger and the root, nearest first, with the name read from its end. Each
dot may have one before it; where there is none, a dot next to it is passed over. -/
def above (ls : Loggers) (name : String) (passes : Bool) : List Char → List Logger
  | [] => []
  | c :: before =>
    if c = '.' ∧ passes = false then
      let parent := String.ofList before.reverse
      if ls.isParent parent name then ls.named? parent :: ls.above parent false before
      else ls.above name true before
    else ls.above name false before

/-- The loggers that a record of a logger passes, itself first. -/
def chain (ls : Loggers) (name : String) : List Logger :=
  if isRoot name then [ls.root]
  else ls.named? name :: ls.above name false name.toList.reverse ++ [ls.root]

/-- The first level that is set. -/
def effectiveRank (chain : List Logger) : Nat :=
  ((chain.findSome? (·.level)).map Level.rank).getD 0

/-- The handlers that a record reaches. -/
def reached : List Logger → List Handler
  | [] => []
  | l :: rest => l.handlers ++ if l.propagates then reached rest else []

/-- The handlers that a record of a level reaches from a logger. -/
def deliver (ls : Loggers) (name : String) (level : Level) : List Handler :=
  if effectiveRank (ls.chain name) ≤ level.rank then reached (ls.chain name) else []

/-- The name that records of a logger carry. -/
def shownName (name : String) : String := if isRoot name then rootName else name

theorem configure_eq_self {ls : Loggers} {name : String} (debug : Bool)
    (h : (ls.get name).isConfigured = true) : ls.configure name debug = ls := by
  simp [configure, h]

end Loggers

end RouteTree
