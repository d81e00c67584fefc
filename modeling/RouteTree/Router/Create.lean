import RouteTree.Router.Definition

/-!
# Making routers

A router may be given a host and a mapper, by name or by position. Something that is no compatible
host is no host: the router is then lazy, and says so in its log. A mapper that counts as nothing is
none, and one that cannot be called is found out at the first action.
-/

namespace RouteTree

/-- What may be given as a host or as a mapper. -/
inductive Argument where
  | host (h : Host)
  /-- A callable, with the name of its kind. -/
  | mapper (typeName : String) (resolve : ActionMapper)
  | value (v : Value)

namespace Argument

/-- Is it an application that routes can be registered with? -/
def isCompatibleHost : Argument → Bool
  | .host h => h.isCompatible
  | _ => false

/-- Can it be called? -/
def isCallable : Argument → Bool
  | .mapper _ _ | .value (.serializer _) => true
  | _ => false

/-- Is it something at all? -/
def isAbsent : Argument → Bool
  | .value .null => true
  | _ => false

/-- Its kind, as messages name it. -/
def typeName : Argument → String
  | .host h => h.typeName
  | .mapper name _ => name
  | .value v => v.typeName

/-- The host it is, if it is compatible. -/
def host? : Argument → Option Host
  | .host h => if h.isCompatible then some h else none
  | _ => none

/-- How actions are resolved with it. -/
def resolver : Argument → Resolver
  | .mapper _ f => .ask f
  | .host _ => .unusable
  | .value v => if v.isTruthy then .unusable else .keep

end Argument

/-- What a router is made with. -/
structure RouterOptions where
  host : Argument := .value .null
  mapper : Argument := .value .null
  name : String := Router.defaultName
  debug : Bool := false
  /-- Is the logger sent to standard output? -/
  configureLogs : Bool := true
  strict : Bool := false

namespace RouterOptions

/-- The options with arguments given by position: one is a host if it is compatible and otherwise a
mapper if it can be called; of more, the first is the host and the second the mapper. -/
def withArguments (o : RouterOptions) : List Argument → RouterOptions
  | [] => o
  | [a] =>
    if a.isCompatibleHost then { o with host := a }
    else if a.isCallable then { o with mapper := a }
    else o
  | host :: mapper :: _ => { o with host, mapper }

/-- The router. -/
def router (o : RouterOptions) : Router :=
  .fresh o.name o.debug o.strict o.host.host? o.mapper.resolver

/-- What making the router writes to the log. -/
def notices (o : RouterOptions) : List Effect :=
  if o.host.isAbsent || o.host.isCompatibleHost then []
  else
    [.notice .warning (o.host.typeName ++ " is not an Express-type app, routing is lazy")]

/-- The loggers after the router is made. -/
def loggers (o : RouterOptions) (ls : Loggers) : Loggers :=
  if o.configureLogs then (ls.ensure o.name).configure o.name o.debug else ls.ensure o.name

end RouterOptions

end RouteTree
