import RouteTree.Proofs.Session.Reachable

/-!
# What a script does with a router

A script that defines groups, routes and mounts carries operations out on the routers behind its
handles, those of a builder after the one that opens its group. `runEvents` lists those on the router
at one index, as they are carried out; what builders do that fail is in it up to the fault. **They are
the history of a run**, which ends with the router as the script leaves it (`follows_run`).
-/

namespace RouteTree

variable [CharacterNames]

namespace Router

theorem history_append (r : Router) (operations more : List Operation) :
    history r (operations ++ more) = history r operations ++ history (run r operations) more := by
  induction operations generalizing r with
  | nil => rfl
  | cons operation rest ih => exact congrArg _ (ih (Event.after ⟨r, operation⟩))

theorem map_operation_history (r : Router) (operations : List Operation) :
    (history r operations).map (·.operation) = operations := by
  induction operations generalizing r with
  | nil => rfl
  | cons operation rest ih => exact congrArg _ (ih _)

end Router

namespace Session

variable {s : Session} {index : Nat}

/-! ## The operations of a script -/

/-- An operation on the node behind a handle, if that is a node of the router at the index. -/
def eventsAt (index : Nat) (s : Session) (node : String) (operation : Address → Router.Operation) :
    List Router.Event :=
  match (s.find node).outcome with
  | .error _ => []
  | .ok (r, place) => if place.router = index then [⟨r, operation place.address⟩] else []

/-- A route step that only makes a decorator carries nothing out. -/
def routeEvents (index : Nat) (s : Session) (node : String) (options : Value) (more : Params)
    (action : Value) (endpoint : Option Value) : List Router.Event :=
  match routeAction? action endpoint with
  | none => []
  | some defined => s.eventsAt index node fun address => .route address options more defined

mutual

/-- The operations of a step. -/
def events (index : Nat) (s : Session) : Step → List Router.Event
  | .group node _ options more => s.eventsAt index node fun address => .group address options more
  | .groupWith node handle options more builder =>
    let (opened, _, place) := s.openGroup node handle options more
    s.eventsAt index node (fun address => .group address options more) ++
      match place with
      | .error _ => []
      | .ok _ => opened.buildEvents index builder
  | .route node options more action endpoint =>
    s.routeEvents index node options more action endpoint
  | .serve node uri static => s.eventsAt index node fun address => .serve address uri static
  | _ => []
termination_by structural x => x

/-- The operations of a builder, up to the first fault. -/
def buildEvents (index : Nat) (s : Session) : List Step → List Router.Event
  | [] => []
  | x :: rest =>
    let (s', a) := s.step x
    s.events index x ++
      match a.outcome with
      | .error _ => []
      | .ok _ => s'.buildEvents index rest
termination_by structural xs => xs

end

/-- The operations of a script. -/
def runEvents (index : Nat) (s : Session) : List Step → List Router.Event
  | [] => []
  | x :: rest => s.events index x ++ (s.step x).1.runEvents index rest

/-! ## They are a history -/

/-- What happened to the router at the index, if it was there, is this. -/
def Follows (index : Nat) (s s' : Session) (events : List Router.Event) : Prop :=
  ∀ r, s.routers[index]? = some r → ∃ operations, events = Router.history r operations ∧
    s'.routers[index]? = some (Router.run r operations)

namespace Follows

variable {s' s'' : Session} {events events' : List Router.Event}

theorem of_same (h : s'.routers = s.routers) : Follows index s s' [] := by
  intro r hr
  refine ⟨[], rfl, ?_⟩
  rw [h, hr]
  rfl

theorem trans (h : Follows index s s' events) (h' : Follows index s' s'' events') :
    Follows index s s'' (events ++ events') := by
  intro r hr
  obtain ⟨operations, rfl, hafter⟩ := h r hr
  obtain ⟨operations', rfl, hafter'⟩ := h' _ hafter
  refine ⟨operations ++ operations', (Router.history_append _ _ _).symm, ?_⟩
  rw [hafter', Router.run_append]

/-- One operation is followed by the router that it leaves; the other routers stay. -/
theorem of_find {r : Router} {node : String} {place : Place} {operation : Address → Router.Operation}
    (hfind : (s.find node).outcome = .ok (r, place))
    (hafter : s'.routers =
      (s.setRouter place.router ((operation place.address).act r).router).routers) :
    Follows index s s' (s.eventsAt index node operation) := by
  intro r' hr'
  have hr := getElem?_of_find hfind
  unfold eventsAt
  rw [hfind, hafter]
  by_cases hindex : place.router = index
  · subst hindex
    obtain rfl : r = r' := Option.some.inj (hr.symm.trans hr')
    refine ⟨[operation place.address], if_pos rfl, ?_⟩
    exact List.getElem?_set_self (List.getElem?_eq_some_iff.mp hr').1
  · refine ⟨[], if_neg hindex, ?_⟩
    exact (List.getElem?_set_ne hindex).trans hr'

end Follows

theorem follows_act (index : Nat) (s : Session) (node : String)
    (operation : Address → Router.Operation) {doing : Address → Act Reply}
    (hdoing : ∀ address r, (doing address r).router = ((operation address).act r).router) :
    Follows index s (s.act node doing).1 (s.eventsAt index node operation) := by
  unfold act
  cases hfind : (s.find node).outcome with
  | error fault =>
    rw [eventsAt, hfind]
    exact .of_same rfl
  | ok found =>
    obtain ⟨r, place⟩ := found
    refine .of_find hfind ?_
    rw [← hdoing]

theorem follows_openGroup (index : Nat) (s : Session) (node handle : String) (options : Value)
    (more : Params) :
    Follows index s (s.openGroup node handle options more).1
      (s.eventsAt index node fun address => .group address options more) := by
  unfold openGroup
  cases hfind : (s.find node).outcome with
  | error fault =>
    rw [eventsAt, hfind]
    exact .of_same rfl
  | ok found =>
    obtain ⟨r, place⟩ := found
    refine .of_find hfind ?_
    rw [Router.Operation.act, Act.router_map]
    dsimp only
    split <;> rfl

theorem follows_defineRoute (index : Nat) (s : Session) (node : String) (options : Value)
    (more : Params) (action : Value) (endpoint : Option Value) :
    Follows index s (s.defineRoute node options more action endpoint).1
      (s.routeEvents index node options more action endpoint) := by
  unfold routeEvents
  cases haction : routeAction? action endpoint with
  | none =>
    obtain ⟨reply, hroute⟩ := defineRoute_of_none haction
    rw [hroute]
    exact .of_same rfl
  | some defined =>
    obtain ⟨reply, hroute⟩ := defineRoute_of_some haction
    rw [hroute]
    refine follows_act index s node (.route · options more defined) fun address r => ?_
    rw [Router.Operation.act, Act.router_map, Act.router_map]

/-- A router that is made is put behind those that are there. -/
theorem follows_openRouter (index : Nat) (s : Session) (handle : String) (options : RouterOptions)
    (arguments : Option (List Argument)) (attached : List Handler) :
    Follows index s (s.openRouter handle options arguments attached).1 [] := by
  intro r hr
  refine ⟨[], rfl, ?_⟩
  exact (List.getElem?_append_left (List.getElem?_eq_some_iff.mp hr).1).trans hr

mutual

/-- What a step does to a router is a run. -/
theorem follows_step (index : Nat) (s : Session) (x : Step) :
    Follows index s (s.step x).1 (s.events index x) := by
  match x with
  | .router handle options arguments attached =>
    exact follows_openRouter index s handle options arguments attached
  | .group node handle options more => exact follows_openGroup index s node handle options more
  | .groupWith node handle options more builder =>
    have hopened := follows_openGroup index s node handle options more
    rw [step, events]
    dsimp only
    cases (s.openGroup node handle options more).2.2 with
    | error fault => simpa using hopened
    | ok place => exact hopened.trans (follows_build index _ builder)
  | .route node options more action endpoint =>
    exact follows_defineRoute index s node options more action endpoint
  | .serve node uri static =>
    refine follows_act index s node (.serve · uri static) fun address r => ?_
    rw [Router.Operation.act, Act.router_map, Act.router_map]
  | .apply .. | .entries .. | .url .. | .registry .. | .state .. => exact .of_same rfl
termination_by structural x

/-- What a builder does to a router is a run. -/
theorem follows_build (index : Nat) (s : Session) (xs : List Step) :
    Follows index s (s.build xs).1 (s.buildEvents index xs) := by
  match xs with
  | [] => exact .of_same rfl
  | x :: rest =>
    have hstep := follows_step index s x
    rw [build, buildEvents]
    dsimp only
    cases (s.step x).2.outcome with
    | error fault => simpa using hstep
    | ok reply => exact hstep.trans (follows_build index _ rest)
termination_by structural xs

end

/-- **What a script does to a router is a run**, and its operations are the history of that. -/
theorem follows_run (index : Nat) (s : Session) (script : List Step) :
    Follows index s (s.run script).1 (s.runEvents index script) := by
  induction script generalizing s with
  | nil => exact .of_same rfl
  | cons x rest ih => exact (follows_step index s x).trans (ih (s.step x).1)

end Session

end RouteTree
