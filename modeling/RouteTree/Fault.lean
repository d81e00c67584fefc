import RouteTree.Value.Text

/-!
# Faults

What can go wrong, by cause. The causes that concern routing form a small hierarchy of kinds
(`FaultKind.lineage`); each fault has one message, built from the attributes it carries.
-/

namespace RouteTree

/-- The kinds of routing faults. -/
inductive FaultKind where
  | routing
  /-- A route or group cannot be defined so. -/
  | configuration
  /-- A constraint is malformed. -/
  | invalidPattern
  /-- No url can be built. -/
  | reversal
  /-- There is no route of that name. -/
  | unknownRoute
  /-- A placeholder has no value. -/
  | missingParameter
  /-- A value does not match its constraint. -/
  | constraintViolation
deriving DecidableEq, Repr

/-- General families of faults that a kind belongs to besides its own lineage. -/
inductive FaultFamily where
  | badValue
  | failedLookup
deriving DecidableEq, Repr

namespace FaultKind

/-- The kinds a kind belongs to, itself first. -/
def lineage : FaultKind → List FaultKind
  | .routing => [.routing]
  | .configuration => [.configuration, .routing]
  | .invalidPattern => [.invalidPattern, .configuration, .routing]
  | .reversal => [.reversal, .routing]
  | .unknownRoute => [.unknownRoute, .reversal, .routing]
  | .missingParameter => [.missingParameter, .reversal, .routing]
  | .constraintViolation => [.constraintViolation, .reversal, .routing]

/-- The general family a kind belongs to: bad definitions are bad values, and a url that cannot be
built is a failed lookup. -/
def family? (kind : FaultKind) : Option FaultFamily :=
  if kind.lineage.contains .configuration then some .badValue
  else if kind.lineage.contains .reversal then some .failedLookup
  else none

end FaultKind

/-- What went wrong. -/
inductive Fault where
  /-- A fault of a general kind, with what it was given to say. -/
  | general (kind : FaultKind) (arguments : List Value)
  | invalidPattern (pattern reason : Value)
  /-- The host cannot register routes of that method. -/
  | noRegistration (method path : String)
  | unknownRoute (name : Value)
  | missingParameter (name uri : Value)
  | constraintViolation (name pattern value : Value)
  | unsupportedArrayFormat (format : String)
  /-- A group was given options it does not know. -/
  | unexpectedOptions (names : List String)
  /-- A list that should hold pairs holds something of another length. -/
  | notAPair (index length : Nat)
  /-- A value is of a kind that cannot be used where it stands. -/
  | wrongType
  | absentKey
  | absentAttribute
  /-- A constraint repeats an item too many times. -/
  | repetitionTooLarge
  /-- A callback refused, with its own message. -/
  | refused (message : String)
deriving Repr

namespace Fault

/-- The kind of a routing fault. -/
def kind? : Fault → Option FaultKind
  | .general kind _ => some kind
  | .invalidPattern _ _ => some .invalidPattern
  | .noRegistration _ _ => some .configuration
  | .unknownRoute _ => some .unknownRoute
  | .missingParameter _ _ => some .missingParameter
  | .constraintViolation _ _ _ => some .constraintViolation
  | _ => none

/-- The attributes of a fault, by name. -/
def attributes : Fault → List (String × Value)
  | .invalidPattern pattern reason => [("pattern", pattern), ("reason", reason)]
  | .unknownRoute name => [("name", name)]
  | .missingParameter name uri => [("name", name), ("uri", uri)]
  | .constraintViolation name pattern value =>
    [("name", name), ("pattern", pattern), ("value", value)]
  | _ => []

/-- The message of a fault. -/
def message : Fault → String
  | .general _ [] => ""
  | .general _ [v] => v.text
  | .general _ arguments => (Value.tuple arguments).shown
  | .invalidPattern pattern reason =>
    "Invalid route pattern " ++ pattern.shown ++ ": " ++ reason.text
  | .noRegistration method path =>
    "Host has no '" ++ method ++ "' function to register " ++ Text.quoted path
  | .unknownRoute name => "No URL found for \"" ++ name.text ++ "\""
  | .missingParameter name uri =>
    "Missing required parameter \"" ++ name.text ++ "\"" ++
      (if uri.isTruthy then " for " ++ uri.shown else "")
  | .constraintViolation name pattern value =>
    "Parameter \"" ++ name.text ++ "\" with value " ++ value.shown ++ " does not match " ++
      pattern.shown
  | .unsupportedArrayFormat format => "'" ++ format ++ "' is not a supported array format"
  | .unexpectedOptions names =>
    "group() got unexpected keyword arguments: " ++ ", ".intercalate names
  | .notAPair index length =>
    "dictionary update sequence element #" ++ index.repr ++ " has length " ++ length.repr ++
      "; 2 is required"
  | .refused message => message
  | .wrongType | .absentKey | .absentAttribute | .repetitionTooLarge => ""

/-- A routing fault of a kind, from what it is given to carry, if that is as many values as the kind
carries. A missing parameter may come without the uri. -/
def ofArguments? (kind : FaultKind) (arguments : List Value) : Option Fault :=
  match kind, arguments with
  | .routing, _ | .configuration, _ | .reversal, _ => some (.general kind arguments)
  | .invalidPattern, [pattern, reason] => some (.invalidPattern pattern reason)
  | .unknownRoute, [name] => some (.unknownRoute name)
  | .missingParameter, [name] => some (.missingParameter name .null)
  | .missingParameter, [name, uri] => some (.missingParameter name uri)
  | .constraintViolation, [name, pattern, value] => some (.constraintViolation name pattern value)
  | _, _ => none

end Fault

end RouteTree
