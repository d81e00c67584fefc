import RouteTree.Registry
import RouteTree.Router.Attempt
import RouteTree.Template.Path

/-!
# Routers

A router is a tree of groups together with the registry of names that all its nodes share. With a
host it is eager: each route is registered with the host as it is defined, and defined only if the
host takes it. Without one it is lazy, and `Router.apply` hands the routes over later.

What is here only looks at a router; `Router.Definition` has what changes it.
-/

namespace RouteTree

variable [CharacterNames]

/-- An application that routes can be registered with. -/
structure Host where
  /-- The kind of application, as messages name it. -/
  typeName : String
  /-- The registration of paths for a method, if the host has one. -/
  register? : String → Option (String → List Value → Except Fault Unit)

/-- A host can at least listen and use middleware. -/
def Host.isCompatible (h : Host) : Bool :=
  (h.register? "listen").isSome && (h.register? "use").isSome

/-- A callback that turns actions into handlers. -/
abbrev ActionMapper := Value → Description → RouteOptions → Except Fault Value

/-- How actions become handlers. -/
inductive Resolver where
  /-- An action is its own handler. -/
  | keep
  | ask (mapper : ActionMapper)
  /-- Something that cannot be asked. -/
  | unusable

/-- The handlers of an action. -/
def Resolver.resolve (r : Resolver) (action : Value) (description : Description)
    (options : RouteOptions) : Attempt Value :=
  match r with
  | .keep => .succeed action
  | .ask mapper => do
    Attempt.emit (.mapped action description options)
    Attempt.ofExcept (mapper action description options)
  | .unusable => .fail .wrongType

/-- A router. -/
structure Router where
  /-- The name of its logger. -/
  name : String
  debug : Bool
  /-- Are malformed templates refused? -/
  strict : Bool
  host : Option Host
  resolver : Resolver
  registry : Registry
  root : Node

namespace Router

/-- The logger of a router without a name. -/
def defaultName : String := "laravel_router"

/-- A router without routes. -/
def fresh (name : String) (debug strict : Bool) (host : Option Host) (resolver : Resolver) :
    Router where
  name
  debug
  strict
  host
  resolver
  registry := .empty
  root := .leaf {}

/-- Do routes wait to be handed over? -/
def isLazy (r : Router) : Bool := r.host.isNone

/-- The node at an address. -/
def node (r : Router) (address : Address) : Attempt Node :=
  match r.root.at? address with
  | some n => .succeed n
  | none => .fail .absentKey

/-- Compiles a template, with a warning if a constraint is left in it. -/
def compile (r : Router) (template : String) : Attempt Compiled := do
  let compiled ← Attempt.ofExcept (Template.compile template r.strict)
  if compiled.malformed then
    Attempt.notice .warning ("Unparsed inline constraint left in " ++ Text.quoted template)
  return compiled

/-- The uris of a node joined with one more segment, which counts for nothing if it is empty or
zero. -/
def joinedUri (uris : List String) (segment : Value) : Except Fault String :=
  if !segment.isTruthy then .ok (Template.join uris)
  else
    match segment with
    | .str s => .ok (Template.join (uris ++ [s]))
    | _ => .error .wrongType

/-- A text, where nothing else will do. -/
def asText : Value → Except Fault String
  | .str s => .ok s
  | _ => .error .wrongType

/-- The full name of a route: those of the groups around it, and its own. -/
def fullName (names : List Value) (own : Value) : Except Fault String := do
  return String.join ((← names.mapM asText) ++ [← asText own])

/-- The path of a compiled uri under constraints. -/
def pathOf (uri : String) (constraints : Constraints) : Except Fault String :=
  Template.path uri (constraints.mapValues .pattern)

/-- Registers an entry with the host, if there is one, under a method. -/
def register (r : Router) (method : String) (entry : Entry) : Attempt Unit :=
  match r.host with
  | none => .succeed ()
  | some host =>
    match host.register? method with
    | none => .fail (.noRegistration method entry.path)
    | some register => do
      Attempt.emit (.registered method entry.path entry.handlers)
      Attempt.ofExcept (register entry.path entry.handlers)
      Attempt.notice .debug ("Registered " ++ Text.toUpper method ++ " " ++ entry.path)

/-- Hands entries over one after another, the first being the `count`-th. The receiver may refuse at
any count, which ends it. Answers with the count of the next one. -/
def handOver (refusal : Nat → Option Fault) : (count : Nat) → List Entry → Attempt Nat
  | count, [] => .succeed count
  | count, entry :: rest => do
    Attempt.emit (.handed entry)
    match refusal count with
    | some fault => Attempt.fail fault
    | none =>
      Attempt.notice .debug ("Applied " ++ Text.toUpper entry.method ++ " " ++ entry.path)
      handOver refusal (count + 1) rest

mutual

/-- Hands the routes of a subtree over, unless a host has them already: those of its node, and then the
groups one after another. Each node asks anew whether there is a host. -/
def applyNode (r : Router) (refusal : Nat → Option Fault) : Node → (count : Nat) → Attempt Nat
  | ⟨_, routes, groups⟩, count => do
    if r.isLazy then
      let count ← handOver refusal count routes
      r.applyNodes refusal groups count
    else
      Attempt.notice .debug "Routes already registered with host, nothing to apply"
      return count
termination_by structural n => n

/-- Hands the routes of several subtrees over, one subtree after another. -/
def applyNodes (r : Router) (refusal : Nat → Option Fault) :
    List Node → (count : Nat) → Attempt Nat
  | [], count => .succeed count
  | n :: ns, count => do
    let count ← r.applyNode refusal n count
    r.applyNodes refusal ns count
termination_by structural ns => ns

end

/-- Hands the routes of the subtree at an address over. -/
def apply (r : Router) (address : Address) (refusal : Nat → Option Fault) : Attempt Unit := do
  let n ← r.node address
  let _ ← r.applyNode refusal n 1

/-- The url of a named route. -/
def url (r : Router) (serializers : Serializers) (name : String) (params options : Params) :
    Except Fault String :=
  r.registry.url serializers name params options

end Router

end RouteTree
