import RouteTree.Router.Create

/-!
# Sessions

A session runs a script of steps on any number of routers that share one set of loggers. Steps name
nodes by handles. A group may have a builder, a script that runs with the group already open: its
first fault ends it and becomes the fault of the group's step, but what was done before stays done.
-/

namespace RouteTree

variable [CharacterNames]

/-- A step of a script. -/
inductive Step where
  /-- Makes a router; `arguments` are those given by position, if any are. -/
  | router (handle : String) (options : RouterOptions) (arguments : Option (List Argument))
    (attached : List Handler)
  | group (node handle : String) (options : Value) (more : Params)
  /-- Opens a group and runs a builder in it. -/
  | groupWith (node handle : String) (options : Value) (more : Params) (builder : List Step)
  /-- Defines a route. Without an action it makes a decorator, which is used on `endpoint`, if that
  is given. -/
  | route (node : String) (options : Value) (more : Params) (action : Value)
    (endpoint : Option Value)
  | serve (node : String) (uri static : Value)
  | apply (node : String) (refusal : Nat → Option Fault)
  | entries (node : String)
  | url (node name : String) (params options : Params) (serializers : Serializers)
  | registry (node : String)
  | state (node : String)

instance : Inhabited Step := ⟨.state ""⟩

/-- The result of a step. -/
inductive Reply where
  | router (r : Router)
  | group (settings : Settings)
  | entry (e : Entry)
  | decorator
  | decorated (v : Value)
  | done
  | entries (es : List Entry)
  | url (s : String)
  | registry (r : Registry)
  | state (r : Router) (n : Node)

/-- What a step answers. -/
structure Answer where
  outcome : Except Fault Reply
  /-- What happened during the step itself. -/
  effects : List Effect
  /-- The records that reached standard output. -/
  printed : List Record
  /-- The records that reached the recorder at the root. -/
  recorded : List Record
  /-- The answers of the builder, if there is one. -/
  steps : Option (List Answer)

/-- Where a node is: its router and its address there. -/
structure Place where
  router : Nat
  address : Address
deriving DecidableEq, Repr

/-- The state of a session. -/
structure Session where
  loggers : Loggers
  routers : List Router
  places : OrderedMap String Place

namespace Session

/-- A session in which nothing has happened. -/
def fresh : Session := ⟨.fresh, [], .empty⟩

/-- Binds a handle to a place. -/
def bind (s : Session) (handle : String) (place : Place) : Session :=
  { s with places := s.places.insert handle place }

/-- Puts a router back after a change. -/
def setRouter (s : Session) (index : Nat) (r : Router) : Session :=
  { s with routers := s.routers.set index r }

/-- The router and the place behind a handle. -/
def find (s : Session) (handle : String) : Attempt (Router × Place) :=
  match s.places.get? handle with
  | none => .fail .absentKey
  | some place =>
    match s.routers[place.router]? with
    | none => .fail .absentKey
    | some r => .succeed (r, place)

/-- The records of some effects that reach a handler, each as often as it is reached. -/
def recordsAt (ls : Loggers) (name : String) (h : Handler) (effects : List Effect) : List Record :=
  effects.flatMap fun
    | .notice level message =>
      List.replicate ((ls.deliver name level).count h) ⟨level, Loggers.shownName name, message⟩
    | _ => []

/-- The answer to an attempt made by a router whose logger has the given name. -/
def answer (s : Session) (name : String) (effects : List Effect) (outcome : Except Fault Reply)
    (steps : Option (List Answer)) : Answer where
  outcome
  effects
  printed := recordsAt s.loggers name .standardOutput effects
  recorded := recordsAt s.loggers name .recorder effects
  steps

/-- The name of the logger behind a handle. -/
def loggerOf (s : Session) (handle : String) : String :=
  match (s.find handle).outcome with
  | .ok (r, _) => r.name
  | .error _ => Loggers.rootName

/-- Makes a router. -/
def openRouter (s : Session) (handle : String) (options : RouterOptions)
    (arguments : Option (List Argument)) (attached : List Handler) : Session × Answer :=
  let options := match arguments with
    | some given => options.withArguments given
    | none => options
  let attachedLoggers := attached.foldl (fun ls h => ls.attach options.name h) s.loggers
  let s' : Session := { s with
    loggers := options.loggers attachedLoggers
    routers := s.routers ++ [options.router] }
  (s'.bind handle ⟨s.routers.length, []⟩,
    s'.answer options.name options.notices (.ok (.router options.router)) none)

/-- A step that leaves the routers as they are. -/
def look (s : Session) (node : String) (read : Router → Place → Attempt Reply) : Session × Answer :=
  let attempt := (s.find node).andThen fun (r, place) => read r place
  (s, s.answer (s.loggerOf node) attempt.effects attempt.outcome none)

/-- A step that acts on a router, which is kept as the act leaves it. -/
def act (s : Session) (node : String) (doing : Address → Act Reply) : Session × Answer :=
  match (s.find node).outcome with
  | .error fault => (s, s.answer Loggers.rootName [] (.error fault) none)
  | .ok (r, place) =>
    let acted := doing place.address r
    (s.setRouter place.router acted.router, s.answer r.name acted.effects acted.outcome none)

/-- Defines a route, or makes a decorator that does. -/
def defineRoute (s : Session) (node : String) (options : Value) (more : Params) (action : Value)
    (endpoint : Option Value) : Session × Answer :=
  match action, endpoint with
  | .null, none => s.look node fun _ _ => .succeed .decorator
  | .null, some .null => s.look node fun _ _ => .succeed (.decorated .null)
  | .null, some v => s.act node fun address => do
      let _ ← Router.defineRoute address options more v
      return .decorated v
  | v, _ => s.act node fun address => do
      return .entry (← Router.defineRoute address options more v)

/-- Opens a group and binds its handle. Answers with the effects and what the group's place is. -/
def openGroup (s : Session) (node handle : String) (options : Value) (more : Params) :
    Session × List Effect × Except Fault Place :=
  match (s.find node).outcome with
  | .error fault => (s, [], .error fault)
  | .ok (r, place) =>
    let acted := Router.openGroup place.address options more r
    let changed := s.setRouter place.router acted.router
    match acted.outcome with
    | .error fault => (changed, acted.effects, .error fault)
    | .ok address =>
      let opened : Place := ⟨place.router, address⟩
      (changed.bind handle opened, acted.effects, .ok opened)

/-- The settings of the node at a place. -/
def settingsAt (s : Session) (place : Place) : Settings :=
  ((s.routers[place.router]?.bind fun r => r.root.at? place.address).map (·.settings)).getD {}

/-- The routes of the subtree at a place. -/
def lookEntries (r : Router) (place : Place) : Attempt Reply := do
  return .entries (← r.node place.address).entries

/-- The state of the node at a place. -/
def lookState (r : Router) (place : Place) : Attempt Reply := do
  return .state r (← r.node place.address)

mutual

/-- Runs one step. -/
def step (s : Session) : Step → Session × Answer
  | .router handle options arguments attached => s.openRouter handle options arguments attached
  | .group node handle options more =>
    let (opened, effects, place) := s.openGroup node handle options more
    (opened, opened.answer (s.loggerOf node) effects
      (place.map fun place => .group (opened.settingsAt place)) none)
  | .groupWith node handle options more builder =>
    let (opened, effects, place) := s.openGroup node handle options more
    match place with
    | .error fault =>
      (opened, opened.answer (s.loggerOf node) effects (.error fault) (some []))
    | .ok place =>
      let (built, answers, fault?) := opened.build builder
      let outcome := match fault? with
        | some fault => .error fault
        | none => .ok (.group (built.settingsAt place))
      (built, opened.answer (s.loggerOf node) effects outcome (some answers))
  | .route node options more action endpoint => s.defineRoute node options more action endpoint
  | .serve node uri static => s.act node fun address => do
      return .entry (← Router.serve address uri static)
  | .apply node refusal => s.look node fun r place =>
      (r.apply place.address refusal).andThen fun _ => .succeed .done
  | .entries node => s.look node lookEntries
  | .url node name params options serializers => s.look node fun r _ =>
      .ofExcept ((r.url serializers name params options).map .url)
  | .registry node => s.look node fun r _ => .succeed (.registry r.registry)
  | .state node => s.look node lookState
termination_by structural x => x

/-- Runs the steps of a builder up to the first fault. -/
def build (s : Session) : List Step → Session × List Answer × Option Fault
  | [] => (s, [], none)
  | step :: rest =>
    let (s', a) := s.step step
    match a.outcome with
    | .error fault => (s', [a], some fault)
    | .ok _ =>
      let (s'', answers, fault?) := s'.build rest
      (s'', a :: answers, fault?)
termination_by structural xs => xs

end

/-- Runs a script; a fault ends its step only. -/
def run (s : Session) : List Step → Session × List Answer
  | [] => (s, [])
  | step :: rest =>
    let (s', a) := s.step step
    let (s'', answers) := s'.run rest
    (s'', a :: answers)

end Session

end RouteTree
