import RouteTree.Proofs.Router.Applying
import RouteTree.Proofs.Router.Modes
import RouteTree.Proofs.Session.Events

/-!
# A script on a lazy router and on an eager one

**A script goes the same way on a lazy router and on an eager one** (`modes_agree`), if the host of
the eager one takes what the script registers. All steps answer the same, but for the log, and leave
the same tree and the same names. The host is asked for the routes in the order in which they were
defined; the lazy router has the same routes to hand over, in the order of its tree.

The two sessions stay twins step by step (`Alike`), by an induction on steps and builders together.
Which routes were defined, and in which order, is read off the operations of the script, which are
the history of a run (`follows_run`); the tree of a run holds the routes that it returned
(`Router.entries_run_fresh`).
-/

namespace RouteTree

namespace Answer

mutual

/-- The answer without what reached a log and a host. -/
def hushed : Answer → Answer
  | ⟨outcome, effects, _, _, none⟩ => ⟨outcome, effects.filter (·.isMapped), [], [], none⟩
  | ⟨outcome, effects, _, _, some answers⟩ =>
    ⟨outcome, effects.filter (·.isMapped), [], [], some (hushedAll answers)⟩
termination_by structural a => a

/-- The answers without what reached a log and a host. -/
def hushedAll : List Answer → List Answer
  | [] => []
  | a :: rest => a.hushed :: hushedAll rest
termination_by structural answers => answers

end

mutual

/-- What a host was asked during a step, and then during its builder. -/
def calls : Answer → List Call
  | ⟨_, effects, _, _, none⟩ => effects.filterMap (·.call?)
  | ⟨_, effects, _, _, some answers⟩ => effects.filterMap (·.call?) ++ callsOf answers
termination_by structural a => a

/-- What a host was asked during several steps. -/
def callsOf : List Answer → List Call
  | [] => []
  | a :: rest => a.calls ++ callsOf rest
termination_by structural answers => answers

end

theorem outcome_hushed (a : Answer) : a.hushed.outcome = a.outcome := by
  obtain ⟨outcome, effects, printed, recorded, _ | answers⟩ := a <;> rfl

end Answer

namespace Step

mutual

/-- Does the step define something, and do all steps of its builder? -/
def defines : Step → Bool
  | .group _ _ _ _ | .route _ _ _ _ _ | .serve _ _ _ => true
  | .groupWith _ _ _ _ builder => allDefine builder
  | _ => false
termination_by structural x => x

/-- Do all steps define something? -/
def allDefine : List Step → Bool
  | [] => true
  | x :: rest => x.defines && allDefine rest
termination_by structural xs => xs

end

mutual

/-- The methods that a step registers routes under. -/
def methods : Step → List String
  | .route _ options more _ _ => Router.routeMethods options more
  | .serve _ _ _ => ["use"]
  | .groupWith _ _ _ _ builder => methodsOf builder
  | _ => []
termination_by structural x => x

/-- The methods that a script registers routes under. -/
def methodsOf : List Step → List String
  | [] => []
  | x :: rest => x.methods ++ methodsOf rest
termination_by structural xs => xs

end

end Step

namespace Session

open Router.Event

variable {host : Host} {s s' : Session}

theorem routers_setRouter {r₀ : Router} (h : s.routers = [r₀]) (r : Router) :
    (s.setRouter 0 r).routers = [r] := by
  rw [setRouter, h, List.set_cons_zero]

/-- The sessions have the same handles for nodes of twins. -/
structure Twins (host : Host) (s s' : Session) : Prop where
  places : s'.places = s.places
  routers : ∃ r r', s.routers = [r] ∧ s'.routers = [r'] ∧ Router.Twins host r r'

namespace Twins

/-- A handle stands for the same node in both sessions, or for none. -/
theorem find (h : s.Twins host s') (node : String) :
    (∃ fault, (s.find node).outcome = .error fault ∧ (s'.find node).outcome = .error fault) ∨
      ∃ r r' place, (s.find node).outcome = .ok (r, place) ∧
        (s'.find node).outcome = .ok (r', place) ∧ place.router = 0 ∧ Router.Twins host r r' := by
  obtain ⟨r, r', hrouters, hrouters', htwins⟩ := h.routers
  unfold Session.find
  rw [h.places, hrouters, hrouters']
  cases s.places.get? node with
  | none => exact .inl ⟨_, rfl, rfl⟩
  | some place =>
    by_cases hzero : place.router = 0
    · simp only [hzero, List.getElem?_cons_zero]
      exact .inr ⟨r, r', place, rfl, rfl, hzero, htwins⟩
    · simp only [List.getElem?_singleton, if_neg hzero]
      exact .inl ⟨_, rfl, rfl⟩

theorem setRouter (h : s.Twins host s') {r r' : Router} (htwins : Router.Twins host r r') :
    (s.setRouter 0 r).Twins host (s'.setRouter 0 r') := by
  obtain ⟨old, old', hrouters, hrouters', -⟩ := h.routers
  exact ⟨h.places, r, r', routers_setRouter hrouters r, routers_setRouter hrouters' r', htwins⟩

theorem bind (h : s.Twins host s') (handle : String) (place : Place) :
    (s.bind handle place).Twins host (s'.bind handle place) :=
  ⟨congrArg (fun places : OrderedMap String Place => places.insert handle place) h.places,
    h.routers⟩

theorem settingsAt (h : s.Twins host s') (place : Place) :
    s'.settingsAt place = s.settingsAt place := by
  obtain ⟨r, r', hrouters, hrouters', htwins⟩ := h.routers
  unfold Session.settingsAt
  rw [hrouters, hrouters', List.getElem?_singleton, List.getElem?_singleton]
  split
  · simp only [Option.bind_some, htwins.root]
  · rfl

variable [CharacterNames]

/-- Operations that end the same on twins are told the same. -/
theorem reports_eventsAt (h : s.Twins host s') (node : String)
    (operation : Address → Router.Operation)
    (hsame : ∀ address r r', Router.Twins host r r' →
      outcome ⟨r', operation address⟩ = outcome ⟨r, operation address⟩) :
    (s'.eventsAt 0 node operation).map (·.report) = (s.eventsAt 0 node operation).map (·.report) := by
  unfold eventsAt
  rcases h.find node with ⟨fault, hfind, hfind'⟩ | ⟨r, r', place, hfind, hfind', hzero, htwins⟩
  · rw [hfind, hfind']
  · rw [hfind, hfind']
    simp only [if_pos hzero, List.map_cons, List.map_nil, report]
    rw [hsame place.address r r' htwins]

end Twins

section

variable [CharacterNames]

/-- How far two sessions have come: they are twins, all was answered the same, and a host was asked
in the second for what was defined in the first. -/
structure Alike (host : Host) (s s' : Session) (answers answers' : List Answer)
    (events events' : List Router.Event) : Prop where
  twins : s.Twins host s'
  hushed : Answer.hushedAll answers' = Answer.hushedAll answers
  silent : Answer.callsOf answers = []
  calls : Answer.callsOf answers' = events.filterMap (·.call?)
  reports : events'.map (·.report) = events.map (·.report)

namespace Alike

variable {t t' : Session} {name name' : String} {effects effects' : List Effect}
  {outcome : Except Fault Reply} {events events' own own' : List Router.Event}
  {answers answers' : List Answer}

theorem nil (h : s.Twins host s') : Alike host s s' [] [] [] [] := ⟨h, rfl, rfl, rfl, rfl⟩

/-- One step, and what comes after it. -/
theorem cons {a a' : Answer} (h : Alike host t t' [a] [a'] own own')
    (hrest : Alike host s s' answers answers' events events') :
    Alike host s s' (a :: answers) (a' :: answers') (own ++ events) (own' ++ events') := by
  obtain ⟨-, hhushed, hsilent, hcalls, hreports⟩ := h
  simp only [Answer.hushedAll, Answer.callsOf, List.append_nil, List.cons.injEq, and_true]
    at hhushed hsilent hcalls
  refine ⟨hrest.twins, ?_, ?_, ?_, ?_⟩
  · rw [Answer.hushedAll, Answer.hushedAll, hhushed, hrest.hushed]
  · rw [Answer.callsOf, hsilent, hrest.silent, List.append_nil]
  · rw [Answer.callsOf, hcalls, hrest.calls, List.filterMap_append]
  · rw [List.map_append, List.map_append, hreports, hrest.reports]

/-- What was answered the same ended the same. -/
theorem outcome_eq {a a' : Answer} (h : Alike host t t' [a] [a'] own own') :
    a'.outcome = a.outcome := by
  have hhushed : a'.hushed = a.hushed := by simpa [Answer.hushedAll] using h.hushed
  rw [← a'.outcome_hushed, hhushed, a.outcome_hushed]

/-- A step without a builder. -/
theorem plain (h : t.Twins host t')
    (hmapped : effects'.filter (·.isMapped) = effects.filter (·.isMapped))
    (hsilent : effects.filterMap (·.call?) = [])
    (hcalls : effects'.filterMap (·.call?) = events.filterMap (·.call?))
    (hreports : events'.map (·.report) = events.map (·.report)) :
    Alike host t t' [s.answer name effects outcome none] [s'.answer name' effects' outcome none]
      events events' := by
  refine ⟨h, ?_, ?_, ?_, hreports⟩
  · simp only [Answer.hushedAll, answer, Answer.hushed, hmapped]
  · simp only [Answer.callsOf, answer, Answer.calls, hsilent, List.append_nil]
  · simp only [Answer.callsOf, answer, Answer.calls, hcalls, List.append_nil]

/-- A step that asks the host for nothing itself, with what its builder did. -/
theorem nested (h : Alike host t t' answers answers' events events')
    (hmapped : effects'.filter (·.isMapped) = effects.filter (·.isMapped))
    (hsilent : effects.filterMap (·.call?) = []) (hsilent' : effects'.filterMap (·.call?) = [])
    (hown : own.filterMap (·.call?) = []) (hreports : own'.map (·.report) = own.map (·.report)) :
    Alike host t t' [s.answer name effects outcome (some answers)]
      [s'.answer name' effects' outcome (some answers')] (own ++ events) (own' ++ events') := by
  refine ⟨h.twins, ?_, ?_, ?_, ?_⟩
  · simp only [Answer.hushedAll, answer, Answer.hushed, hmapped, h.hushed]
  · simp only [Answer.callsOf, answer, Answer.calls, hsilent, h.silent, List.append_nil]
  · simp only [Answer.callsOf, answer, Answer.calls, hsilent', h.calls, List.filterMap_append, hown,
      List.append_nil, List.nil_append]
  · rw [List.map_append, List.map_append, hreports, h.reports]

end Alike

/-! ## Steps on twins -/

/-- An act that defines a route, whatever is made of the route in the end. -/
theorem Twins.act (h : s.Twins host s') (node : String) (operation : Address → Router.Operation)
    {doing : Address → Act Entry} {method : Entry → String} (reply : Entry → Reply)
    (hagrees : ∀ address, (doing address).Agrees host fun entry => [entry.callUnder (method entry)])
    (hact : ∀ address, (operation address).act = do return .entry (← doing address))
    (hregistered : ∀ address r entry,
      Router.Event.outcome ⟨r, operation address⟩ = .ok (.entry entry) →
        registration? ⟨r, operation address⟩ = some (method entry, entry)) :
    Alike host (s.act node fun address => do return reply (← doing address)).1
      (s'.act node fun address => do return reply (← doing address)).1
      [(s.act node fun address => do return reply (← doing address)).2]
      [(s'.act node fun address => do return reply (← doing address)).2]
      (s.eventsAt 0 node operation) (s'.eventsAt 0 node operation) := by
  have houtcome : ∀ address r, Router.Event.outcome ⟨r, operation address⟩ =
      (doing address r).outcome.map .entry := by
    intro address r
    rw [Router.Event.outcome, hact, Act.map_eq]
  have hreports := h.reports_eventsAt node operation fun address r r' htwins => by
    rw [houtcome, houtcome, (hagrees address r r' htwins).outcome]
  rcases h.find node with ⟨fault, hfind, hfind'⟩ | ⟨r, r', place, hfind, hfind', hzero, htwins⟩
  · simp only [Session.act, hfind, hfind']
    refine .plain h rfl rfl ?_ hreports
    rw [eventsAt, hfind]
    rfl
  · obtain ⟨hout, hrouters, hmapped, hsilent, hcalls⟩ := hagrees place.address r r' htwins
    simp only [Session.act, hfind, hfind', Act.map_eq, hzero, hout]
    refine .plain (h.setRouter hrouters) hmapped hsilent ?_ hreports
    rw [hcalls, eventsAt, hfind]
    simp only [if_pos hzero]
    -- the host is told of the route that the operation returns, if it returns one
    have hevent := houtcome place.address r
    cases hdone : (doing place.address r).outcome with
    | error fault =>
      rw [hdone] at hevent
      simp [Act.toldOf, Router.Event.call?, registration?_of_error hevent]
    | ok entry =>
      rw [hdone] at hevent
      simp [Act.toldOf, Router.Event.call?, hregistered _ _ _ hevent]

theorem Twins.openGroup (h : s.Twins host s') (node handle : String) (options : Value)
    (more : Params) :
    (s.openGroup node handle options more).1.Twins host (s'.openGroup node handle options more).1 ∧
      (s'.openGroup node handle options more).2.2 = (s.openGroup node handle options more).2.2 ∧
      (s'.openGroup node handle options more).2.1.filter (·.isMapped) =
        (s.openGroup node handle options more).2.1.filter (·.isMapped) ∧
      (s.openGroup node handle options more).2.1.filterMap (·.call?) = [] ∧
      (s'.openGroup node handle options more).2.1.filterMap (·.call?) = [] := by
  unfold Session.openGroup
  rcases h.find node with ⟨fault, hfind, hfind'⟩ | ⟨r, r', place, hfind, hfind', hzero, htwins⟩
  · simpa [hfind, hfind'] using h
  · obtain ⟨hout, hrouters, hmapped, hsilent, hcalls⟩ :=
      Router.openGroup_agrees place.address options more r r' htwins
    rw [Act.toldOf_nil] at hcalls
    simp only [hfind, hfind', hzero, hout]
    have hset := h.setRouter hrouters
    cases (Router.openGroup place.address options more r).outcome with
    | error fault => exact ⟨hset, rfl, hmapped, hsilent, hcalls⟩
    | ok address => exact ⟨hset.bind handle _, rfl, hmapped, hsilent, hcalls⟩

theorem Twins.reports_group (h : s.Twins host s') (node : String) (options : Value)
    (more : Params) :
    (s'.eventsAt 0 node fun address => .group address options more).map (·.report) =
      (s.eventsAt 0 node fun address => .group address options more).map (·.report) := by
  refine h.reports_eventsAt node (.group · options more) fun address r r' htwins => ?_
  rw [Router.Event.outcome, Router.Event.outcome, Router.Operation.act, Act.map_eq, Act.map_eq,
    (Router.openGroup_agrees address options more r r' htwins).outcome]

theorem calls_group (s : Session) (node : String) (options : Value) (more : Params) :
    (s.eventsAt 0 node fun address => .group address options more).filterMap (·.call?) = [] := by
  unfold eventsAt
  split
  · rfl
  · split <;> rfl

omit [CharacterNames] in
/-- A look that reads nothing answers if the handle stands for a node. -/
theorem look_reply (s : Session) (node : String) (reply : Reply) :
    s.look node (fun _ _ => .succeed reply) =
      (s, s.answer (s.loggerOf node) [] ((s.find node).outcome.map fun _ => reply) none) := by
  have hattempt : (s.find node).andThen (fun _ => Attempt.succeed reply) =
      ⟨[], (s.find node).outcome.map fun _ => reply⟩ := by
    unfold find
    split
    · rfl
    · split <;> rfl
  exact congrArg (fun attempt : Attempt Reply =>
    (s, s.answer (s.loggerOf node) attempt.effects attempt.outcome none)) hattempt

theorem Twins.defineRoute (h : s.Twins host s') (node : String) {options : Value} {more : Params}
    (htakes : ∀ method ∈ Router.routeMethods options more, host.Takes method) (action : Value)
    (endpoint : Option Value) :
    Alike host (s.defineRoute node options more action endpoint).1
      (s'.defineRoute node options more action endpoint).1
      [(s.defineRoute node options more action endpoint).2]
      [(s'.defineRoute node options more action endpoint).2]
      (s.routeEvents 0 node options more action endpoint)
      (s'.routeEvents 0 node options more action endpoint) := by
  unfold routeEvents
  cases haction : routeAction? action endpoint with
  | none =>
    obtain ⟨reply, hroute⟩ := defineRoute_of_none haction
    rw [hroute, hroute, look_reply, look_reply]
    rcases h.find node with ⟨fault, hfind, hfind'⟩ | ⟨r, r', place, hfind, hfind', -⟩
    · rw [hfind, hfind']
      exact .plain h rfl rfl rfl rfl
    · rw [hfind, hfind']
      exact .plain h rfl rfl rfl rfl
  | some defined =>
    obtain ⟨reply, hroute⟩ := defineRoute_of_some haction
    rw [hroute, hroute]
    refine h.act node (.route · options more defined) reply
      (Router.defineRoute_agrees · htakes defined) (fun _ => rfl) ?_
    intro address r entry houtcome
    rw [Router.Event.registration?, Router.Event.report, houtcome]

mutual

/-- A step goes the same way on twins. -/
theorem alike_step {s s' : Session} (h : s.Twins host s') (x : Step) (hx : x.defines = true)
    (htakes : ∀ method ∈ x.methods, host.Takes method) :
    Alike host (s.step x).1 (s'.step x).1 [(s.step x).2] [(s'.step x).2] (s.events 0 x)
      (s'.events 0 x) := by
  match x with
  | .group node handle options more =>
    obtain ⟨htwins, hplace, hmapped, hsilent, hsilent'⟩ := h.openGroup node handle options more
    rw [step, step, events, events]
    simp only [hplace, htwins.settingsAt]
    exact .plain htwins hmapped hsilent (hsilent'.trans (s.calls_group node options more).symm)
      (h.reports_group node options more)
  | .groupWith node handle options more builder =>
    obtain ⟨htwins, hplace, hmapped, hsilent, hsilent'⟩ := h.openGroup node handle options more
    rw [step, step, events, events]
    dsimp only
    rw [hplace]
    cases (s.openGroup node handle options more).2.2 with
    | error fault =>
      exact (Alike.nil htwins).nested hmapped hsilent hsilent' (s.calls_group node options more)
        (h.reports_group node options more)
    | ok place =>
      obtain ⟨hfault, hbuilt⟩ := alike_build htwins builder hx htakes
      dsimp only
      rw [hfault, hbuilt.twins.settingsAt]
      exact hbuilt.nested hmapped hsilent hsilent' (s.calls_group node options more)
        (h.reports_group node options more)
  | .route node options more action endpoint =>
    exact h.defineRoute node htakes action endpoint
  | .serve node uri static =>
    have huse : host.Takes "use" := htakes _ List.mem_cons_self
    refine h.act node (.serve · uri static) .entry
      (Router.serve_agrees · uri static huse) (fun _ => rfl) ?_
    intro address r entry houtcome
    rw [registration?, report, houtcome]
  | .router .. | .apply .. | .entries .. | .url .. | .registry .. | .state .. =>
    exact absurd hx nofun
termination_by structural x

/-- A builder goes the same way on twins. -/
theorem alike_build {s s' : Session} (h : s.Twins host s') (xs : List Step)
    (hxs : Step.allDefine xs = true) (htakes : ∀ method ∈ Step.methodsOf xs, host.Takes method) :
    (s'.build xs).2.2 = (s.build xs).2.2 ∧
      Alike host (s.build xs).1 (s'.build xs).1 (s.build xs).2.1 (s'.build xs).2.1
        (s.buildEvents 0 xs) (s'.buildEvents 0 xs) := by
  match xs with
  | [] => exact ⟨rfl, .nil h⟩
  | x :: rest =>
    obtain ⟨hx, hrest⟩ := Bool.and_eq_true_iff.mp hxs
    have hstep := alike_step h x hx fun method hmethod =>
      htakes method (List.mem_append_left _ hmethod)
    rw [build, build, buildEvents, buildEvents]
    dsimp only
    rw [hstep.outcome_eq]
    cases (s.step x).2.outcome with
    | error fault => exact ⟨rfl, by simpa using hstep⟩
    | ok reply =>
      obtain ⟨hfault, hbuilt⟩ := alike_build hstep.twins rest hrest fun method hmethod =>
        htakes method (List.mem_append_right _ hmethod)
      exact ⟨hfault, hstep.cons hbuilt⟩
termination_by structural xs

end

/-- A script goes the same way on twins. -/
theorem alike_run {s s' : Session} (h : s.Twins host s') {script : List Step}
    (hscript : Step.allDefine script = true)
    (htakes : ∀ method ∈ Step.methodsOf script, host.Takes method) :
    Alike host (s.run script).1 (s'.run script).1 (s.run script).2 (s'.run script).2
      (s.runEvents 0 script) (s'.runEvents 0 script) := by
  induction script generalizing s s' with
  | nil => exact .nil h
  | cons x rest ih =>
    obtain ⟨hx, hrest⟩ := Bool.and_eq_true_iff.mp hscript
    have hstep := alike_step h x hx fun method hmethod =>
      htakes method (List.mem_append_left _ hmethod)
    exact hstep.cons <| ih hstep.twins hrest fun method hmethod =>
      htakes method (List.mem_append_right _ hmethod)

/-! ## Both modes -/

/-- A session in which one router was made. -/
def opened (handle : String) (options : RouterOptions) : Session :=
  (fresh.openRouter handle options none []).1

omit [CharacterNames] in
/-- A lazy router and an eager one have just been made alike. -/
theorem twins_opened (handle : String) {o o' : RouterOptions} (hlazy : o.router.isLazy = true)
    (hhost : o'.host = .host host) (hcompatible : host.isCompatible = true)
    (hmapper : o'.mapper.resolver = o.mapper.resolver) (hstrict : o'.strict = o.strict) :
    (opened handle o).Twins host (opened handle o') := by
  have hhosted : o'.router.host = some host := by
    change o'.host.host? = some host
    rw [hhost, Argument.host?, if_pos hcompatible]
  exact ⟨rfl, o.router, o'.router, rfl, rfl, Option.isNone_iff_eq_none.mp hlazy, hhosted, hstrict,
    hmapper, rfl, rfl⟩

/-- How a script ended on a lazy router `r` and on an eager one `r'`, if it defined these routes in
this order. With each route goes the method that a host is told. -/
structure ModesAgree (r r' : Router) (defined : List (String × Entry))
    (ranLazily ranEagerly : Session × List Answer) : Prop where
  lazyRouter : ranLazily.1.routers = [r]
  eagerRouter : ranEagerly.1.routers = [r']
  /-- The trees are equal, with their entries and the settings of their nodes. -/
  root : r'.root = r.root
  registry : r'.registry = r.registry
  places : ranEagerly.1.places = ranLazily.1.places
  /-- Every step answers the same, and asks the mapper the same. -/
  answers : Answer.hushedAll ranEagerly.2 = Answer.hushedAll ranLazily.2
  /-- A host is told of routes as they are defined, if there is one. -/
  unregistered : Answer.callsOf ranLazily.2 = []
  registered : Answer.callsOf ranEagerly.2 = defined.map fun (method, entry) =>
    entry.callUnder method
  methods : ∀ method entry, (method, entry) ∈ defined →
    method = entry.method ∨ method = "use" ∧ entry.method = "get"
  /-- What is left to hand over is every route, or none. -/
  applied : (r.apply [] fun _ => none).outcome = .ok ()
  handed : ((r.apply [] fun _ => none).effects.filterMap (·.handed?)).Perm (defined.map (·.2))
  nothingLeft : ∀ address refusal, (r'.apply address refusal).effects.filterMap (·.handed?) = []

/-- **Lazy and eager modes agree.** -/
theorem modes_agree {handle : String} {o o' : RouterOptions} {script : List Step}
    (hlazy : o.router.isLazy = true) (hhost : o'.host = .host host)
    (hcompatible : host.isCompatible = true)
    (hmapper : o'.mapper.resolver = o.mapper.resolver) (hstrict : o'.strict = o.strict)
    (hscript : Step.allDefine script = true)
    (htakes : ∀ method ∈ Step.methodsOf script, host.Takes method) :
    ∃ operations,
      (opened handle o).runEvents 0 script = Router.history o.router operations ∧
      (opened handle o').runEvents 0 script = Router.history o'.router operations ∧
      ModesAgree (Router.run o.router operations) (Router.run o'.router operations)
        ((Router.history o.router operations).filterMap (·.registration?))
        ((opened handle o).run script) ((opened handle o').run script) := by
  have halike :=
    alike_run (twins_opened handle hlazy hhost hcompatible hmapper hstrict) hscript htakes
  obtain ⟨operations, hevents, hafter⟩ := follows_run 0 (opened handle o) script o.router rfl
  obtain ⟨operations', hevents', hafter'⟩ := follows_run 0 (opened handle o') script o'.router rfl
  -- the same was asked in both sessions
  obtain rfl : operations' = operations := by
    rw [← Router.map_operation_history o'.router operations',
      ← Router.map_operation_history o.router operations, ← hevents, ← hevents']
    have hasked := congrArg (List.map Prod.fst) halike.reports
    rw [List.map_map, List.map_map] at hasked
    exact hasked
  obtain ⟨r, r', hr, hr', htwins⟩ := halike.twins.routers
  obtain rfl : r = Router.run o.router operations' := by simpa [hr] using hafter
  obtain rfl : r' = Router.run o'.router operations' := by simpa [hr'] using hafter'
  have hunhosted : (Router.run o.router operations').isLazy = true :=
    Option.isNone_iff_eq_none.mpr htwins.unhosted
  have hhosted : (Router.run o'.router operations').isLazy = false := by
    rw [Router.isLazy, htwins.hosted]
    rfl
  obtain ⟨happlied, hhanded⟩ := (Router.handsOver_of_lazy hunhosted (Node.at?_nil _)).taken
    (fun _ => none) fun _ _ _ => rfl
  refine ⟨operations', hevents, hevents', ?_⟩
  refine ⟨hr, hr', htwins.root, htwins.registry, halike.twins.places, halike.hushed,
    halike.silent, ?_, ?_, happlied, ?_, Router.handed_apply_of_eager hhosted⟩
  · rw [halike.calls, hevents, List.map_filterMap]
    rfl
  · intro method entry hdefined
    obtain ⟨e, -, he⟩ := List.mem_filterMap.mp hdefined
    exact method_of_registration he
  · rw [hhanded, List.map_filterMap]
    simp only [← defined?_eq]
    exact Router.entries_run_fresh _ _ _ _ _ operations'

/-- A host that takes everything under some methods, and has no others. -/
def sampleHost : Host where
  typeName := "App"
  register? method :=
    if method ∈ ["listen", "use", "get", "post"] then some fun _ _ => .ok () else none

/-- A builder that goes back and forth between its group, the root, and a group of its own, which is
refused in the end; and a route behind them all. -/
def sampleScript : List Step :=
  [.groupWith "r" "a" (.str "/a") .empty
      [.route "a" (.str "/first") .empty (.int 1) none,
        .route "r" (.str "/second") (withMethod (.str "post") .empty) (.int 2) none,
        .groupWith "a" "b" (.str "/b") .empty
          [.serve "b" (.str "/third") (.int 3), .serve "c" (.str "/absent") (.int 4)],
        .route "a" (.str "/unreached") .empty (.int 5) none],
    .route "r" (.str "/fourth") .empty .null (some (.int 6))]

end

open scoped CharacterNames.Unnamed

theorem modes_agree_sampleScript :
    ({} : RouterOptions).router.isLazy = true ∧ sampleHost.isCompatible = true ∧
      Step.allDefine sampleScript = true ∧
      (∀ method ∈ Step.methodsOf sampleScript, sampleHost.Takes method) ∧
      ∃ operations,
        (opened "r" {}).runEvents 0 sampleScript =
          Router.history ({} : RouterOptions).router operations ∧
        (opened "r" { host := .host sampleHost }).runEvents 0 sampleScript =
          Router.history ({ host := .host sampleHost } : RouterOptions).router operations ∧
        ModesAgree (Router.run ({} : RouterOptions).router operations)
          (Router.run ({ host := .host sampleHost } : RouterOptions).router operations)
          ((Router.history ({} : RouterOptions).router operations).filterMap (·.registration?))
          ((opened "r" {}).run sampleScript)
          ((opened "r" { host := .host sampleHost }).run sampleScript) := by
  have hmethods : Step.methodsOf sampleScript = ["get", "post", "use", "use", "get", "get"] := by
    rfl
  have htakes : ∀ method ∈ Step.methodsOf sampleScript, sampleHost.Takes method := by
    rw [hmethods]
    have hknown : ∀ method ∈ ["get", "post", "use", "use", "get", "get"],
        method ∈ ["listen", "use", "get", "post"] := by decide
    exact fun method hmethod => ⟨fun _ _ => .ok (), if_pos (hknown method hmethod), fun _ _ => rfl⟩
  exact ⟨rfl, rfl, rfl, htakes, modes_agree rfl rfl rfl rfl rfl rfl htakes⟩

/-- The host is asked for routes in the order of the script; the tree has those of the root
first. -/
example :
    (Answer.callsOf ((opened "r" { host := .host sampleHost }).run sampleScript).2).map
        (fun call => (call.method, call.path)) =
      [("get", "/a/first"), ("post", "/second"), ("use", "/a/b/third"), ("get", "/fourth")] ∧
    ((opened "r" {}).run sampleScript).1.routers.flatMap
        (fun r => r.root.entries.map fun entry => (entry.method, entry.path)) =
      [("post", "/second"), ("get", "/fourth"), ("get", "/a/first"), ("get", "/a/b/third")] :=
  ⟨by rfl, by rfl⟩

end Session

end RouteTree
