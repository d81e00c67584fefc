import RouteTree.Proofs.Router.Acts

/-!
# Runs of operations

A run is a list of operations carried out one after another on one router, each at any address and
each refused or not. Its `history` has an event for every operation.

What one operation does to a node that is there is said in one lemma (`Event.at?_after`): the node
stays, gets the constraints that the operation extracted for it, if any, and the route that the
operation returned, if it was defined there; and a node that was not there has just been opened
(`Event.at?_of_after`). By induction the same holds of a run (`at?_run`, `at?_of_run`).
-/

namespace RouteTree.Router

variable [CharacterNames]

/-- Something asked of a router. -/
inductive Operation where
  | group (address : Address) (options : Value) (more : Params)
  | route (address : Address) (options : Value) (more : Params) (action : Value)
  | serve (address : Address) (uri static : Value)

/-- A route under a given method. -/
def Operation.verb (method : String) (address : Address) (options : Value) (more : Params)
    (action : Value) : Operation :=
  .route address options (withMethod (.str method) more) action

/-- What an operation returns. -/
inductive Made where
  | group (address : Address)
  | entry (entry : Entry)

/-- Carries an operation out. -/
def Operation.act : Operation → Act Made
  | .group address options more => do
    return .group (← openGroup address options more)
  | .route address options more action => do
    return .entry (← defineRoute address options more action)
  | .serve address uri static => do
    return .entry (← Router.serve address uri static)

/-- An operation on the router as it was then. -/
structure Event where
  before : Router
  operation : Operation

namespace Event

/-- What the operation returned, or why it was refused. -/
def outcome (e : Event) : Except Fault Made := (e.operation.act e.before).outcome

/-- The router as the operation left it. -/
def after (e : Event) : Router := (e.operation.act e.before).router

/-- The operation has opened a group at `child`. -/
def Opens (e : Event) (parent : Address) (g : Opened) (child : Address) : Prop :=
  ∃ options more, e.operation = .group parent options more ∧ e.outcome = .ok (.group child) ∧
    Opened.read e.before.strict options more = .ok g

end Event

/-- The constraints in the uri of a route, joined to the uris of its node. -/
def routeConstraints (strict : Bool) (uris : List String) (options : Value) (more : Params) :
    Except Fault Constraints := do
  let read ← RouteOptions.ofValue options more
  let uri ← joinedUri uris read.uri
  let compiled ← Template.compile uri strict
  return compiled.constraints

namespace Event

/-- The constraints in the joined uri of the route, if one was defined on the node at the address. -/
def extracted? (e : Event) (address : Address) : Option Constraints :=
  match e.operation, e.outcome with
  | .route a options more _, .ok _ =>
    if a = address then
      (e.before.root.at? a).bind fun n =>
        (routeConstraints e.before.strict n.settings.uris options more).toOption
    else none
  | _, _ => none

/-- The route that the operation returned, if it was defined on the node at the address. -/
def route? (e : Event) (address : Address) : Option Entry :=
  match e.operation, e.outcome with
  | .route a _ _ _, .ok (.entry entry) | .serve a _ _, .ok (.entry entry) =>
    if a = address then some entry else none
  | _, _ => none

/-! ## One operation -/

theorem after_of_error {e : Event} {fault : Fault} (h : e.outcome = .error fault) :
    e.after = e.before := by
  have hclean : e.operation.act.Clean := by
    cases e.operation with
    | group address options more =>
      exact (openGroup_clean address options more).bind_sure fun _ => Act.sure_pure _
    | route address options more action =>
      exact (defineRoute_clean address options more action).bind_sure fun _ => Act.sure_pure _
    | serve address uri static =>
      exact (serve_clean address uri static).bind_sure fun _ => Act.sure_pure _
  exact hclean e.before fault h

/-- What an operation does, if it is not refused. -/
inductive Succeeds : Event → Prop where
  | group {r : Router} {address : Address} {options : Value} {more : Params} {parent : Node}
    {g : Opened} (hparent : r.root.at? address = some parent)
    (hread : Opened.read r.strict options more = .ok g)
    (houtcome : outcome ⟨r, .group address options more⟩ =
      .ok (.group (address ++ [parent.groups.length])))
    (hafter : after ⟨r, .group address options more⟩ =
      r.modifyNode address (·.addGroup (.leaf (g.settings parent.settings)))) :
    Succeeds ⟨r, .group address options more⟩
  | route {r : Router} {address : Address} {options : Value} {more : Params} {action : Value}
    {n : Node} (d : RouteReading r n.settings options more action)
    (hn : r.root.at? address = some n)
    (houtcome : outcome ⟨r, .route address options more action⟩ = .ok (.entry d.entry))
    (hafter : after ⟨r, .route address options more action⟩ = d.placed address) :
    Succeeds ⟨r, .route address options more action⟩
  | serve {r : Router} {address : Address} {uri static : Value} {n : Node}
    (d : MountReading r n.settings uri static) (hn : r.root.at? address = some n)
    (houtcome : outcome ⟨r, .serve address uri static⟩ = .ok (.entry d.entry))
    (hafter : after ⟨r, .serve address uri static⟩ = r.modifyNode address (·.addRoute d.entry)) :
    Succeeds ⟨r, .serve address uri static⟩

theorem succeeds_of_ok {e : Event} {made : Made} (h : e.outcome = .ok made) : e.Succeeds := by
  have hyields : e.operation.act.Yields e.before made e.after := ⟨h, rfl⟩
  obtain ⟨r, operation⟩ := e
  cases operation with
  | group address options more =>
    obtain ⟨child, rfl, hopen⟩ := hyields.map
    obtain ⟨parent, g, hparent, hread, rfl, hafter⟩ := openGroup_ok hopen
    exact .group hparent hread h hafter
  | route address options more action =>
    obtain ⟨entry, rfl, hdefine⟩ := hyields.map
    obtain ⟨n, d, hn, rfl, hafter⟩ := defineRoute_ok hdefine
    exact .route d hn h hafter
  | serve address uri static =>
    obtain ⟨entry, rfl, hserve⟩ := hyields.map
    obtain ⟨n, d, hn, rfl, hafter⟩ := serve_ok hserve
    exact .serve d hn h hafter

/-- The constraints in the uri of a route that has been read. -/
theorem routeConstraints_eq {r : Router} {around : Settings} {options : Value} {more : Params}
    {action : Value} (d : RouteReading r around options more action) :
    routeConstraints r.strict around.uris options more = .ok d.compiled.constraints := by
  unfold routeConstraints
  rw [d.read_eq]
  change Except.bind (joinedUri around.uris d.read.uri) _ = _
  rw [d.uri_eq]
  change Except.bind (Template.compile d.uri r.strict) _ = _
  rw [d.compiled_eq]
  rfl

/-- What an operation leaves of a node that was there before. -/
structure Leaves (e : Event) (address : Address) (n n' : Node) : Prop where
  settings : n'.settings = { n.settings with
    constraints := (e.extracted? address).toList.foldl .override n.settings.constraints }
  routes : n'.routes = n.routes ++ (e.route? address).toList

/-- Where nothing is extracted and no route is defined, nothing changes. -/
theorem Leaves.of_same {e : Event} {address : Address} {n n' : Node}
    (hextracted : e.extracted? address = none) (hroute : e.route? address = none)
    (hsettings : n'.settings = n.settings) (hroutes : n'.routes = n.routes) :
    e.Leaves address n n' := by
  refine ⟨?_, ?_⟩
  · rw [hsettings, hextracted]
    rfl
  · rw [hroutes, hroute, Option.toList_none, List.append_nil]

theorem at?_after_group {r : Router} {a address : Address} {options : Value} {more : Params}
    {child n : Node}
    (hafter : (after ⟨r, .group a options more⟩).root = r.root.modifyAt (·.addGroup child) a)
    (h : r.root.at? address = some n) :
    ∃ n', (after ⟨r, .group a options more⟩).root.at? address = some n' ∧
      Leaves ⟨r, .group a options more⟩ address n n' := by
  obtain ⟨n', hat, hsettings, hroutes⟩ := Node.at?_modifyAt (Node.extends_addGroup child) h a
  rw [hafter]
  refine ⟨n', hat, .of_same rfl rfl ?_ ?_⟩
  · rw [hsettings]
    split <;> rfl
  · rw [hroutes]
    split <;> rfl

theorem at?_after_route {r : Router} {a address : Address} {options : Value} {more : Params}
    {action : Value} {m n : Node} (d : RouteReading r m.settings options more action)
    (hm : r.root.at? a = some m)
    (houtcome : outcome ⟨r, .route a options more action⟩ = .ok (.entry d.entry))
    (hafter : (after ⟨r, .route a options more action⟩).root =
      r.root.modifyAt (fun n => (n.withConstraints d.kept).addRoute d.entry) a)
    (h : r.root.at? address = some n) :
    ∃ n', (after ⟨r, .route a options more action⟩).root.at? address = some n' ∧
      Leaves ⟨r, .route a options more action⟩ address n n' := by
  have hextends : Node.Extends fun n => (n.withConstraints d.kept).addRoute d.entry := fun n =>
    List.prefix_refl n.groups
  obtain ⟨n', hat, hsettings, hroutes⟩ := Node.at?_modifyAt hextends h a
  rw [hafter]
  refine ⟨n', hat, ?_⟩
  by_cases ha : address = a
  · -- the node of the route is the one that was read
    subst ha
    obtain rfl : m = n := Option.some.inj (hm.symm.trans h)
    rw [if_pos rfl] at hsettings hroutes
    have hextracted : extracted? ⟨r, .route address options more action⟩ address =
        some d.compiled.constraints := by
      simp [extracted?, houtcome, hm, routeConstraints_eq d, Except.toOption]
    have hroute : route? ⟨r, .route address options more action⟩ address = some d.entry := by
      simp [route?, houtcome]
    refine ⟨?_, ?_⟩
    · rw [hsettings, hextracted]
      rfl
    · rw [hroutes, hroute]
      rfl
  · rw [if_neg ha] at hsettings hroutes
    refine .of_same ?_ ?_ hsettings hroutes
    · simp [extracted?, houtcome, Ne.symm ha]
    · simp [route?, houtcome, Ne.symm ha]

theorem at?_after_serve {r : Router} {a address : Address} {uri static : Value} {n : Node}
    {entry : Entry} (houtcome : outcome ⟨r, .serve a uri static⟩ = .ok (.entry entry))
    (hafter : (after ⟨r, .serve a uri static⟩).root = r.root.modifyAt (·.addRoute entry) a)
    (h : r.root.at? address = some n) :
    ∃ n', (after ⟨r, .serve a uri static⟩).root.at? address = some n' ∧
      Leaves ⟨r, .serve a uri static⟩ address n n' := by
  obtain ⟨n', hat, hsettings, hroutes⟩ := Node.at?_modifyAt (Node.extends_addRoute entry) h a
  rw [hafter]
  refine ⟨n', hat, ?_⟩
  by_cases ha : address = a
  · have hroute : route? ⟨r, .serve a uri static⟩ address = some entry := by
      simp [route?, houtcome, ha]
    rw [if_pos ha] at hsettings hroutes
    refine ⟨hsettings, ?_⟩
    rw [hroutes, hroute]
    rfl
  · rw [if_neg ha] at hsettings hroutes
    refine .of_same rfl ?_ hsettings hroutes
    simp [route?, houtcome, Ne.symm ha]

/-- **A node that is there stays.** It gets what was extracted for it and what was defined on it. -/
theorem at?_after {e : Event} {address : Address} {n : Node}
    (h : e.before.root.at? address = some n) :
    ∃ n', e.after.root.at? address = some n' ∧ e.Leaves address n n' := by
  cases hout : e.outcome with
  | error fault =>
    -- what is refused leaves no trace, in the tree or in what the event tells
    have hextracted : e.extracted? address = none := by
      unfold extracted?
      rw [hout]
      split <;> first | rfl | contradiction
    have hroute : e.route? address = none := by
      unfold route?
      rw [hout]
      split <;> first | rfl | contradiction
    rw [after_of_error hout]
    exact ⟨n, h, .of_same hextracted hroute rfl rfl⟩
  | ok made =>
    cases succeeds_of_ok hout with
    | group hparent hread houtcome hafter => exact at?_after_group (congrArg Router.root hafter) h
    | route d hm houtcome hafter =>
      exact at?_after_route d hm houtcome (congrArg Router.root hafter) h
    | serve d hm houtcome hafter => exact at?_after_serve houtcome (congrArg Router.root hafter) h

/-- A group that is opened is in place, with the settings of its parent and its own. -/
theorem at?_of_opens {e : Event} {parent child : Address} {g : Opened}
    (h : e.Opens parent g child) :
    ∃ n, e.before.root.at? parent = some n ∧ child = parent ++ [n.groups.length] ∧
      e.after.root.at? child = some (.leaf (g.settings n.settings)) := by
  obtain ⟨options, more, hoperation, houtcome, hread⟩ := h
  obtain ⟨r, operation⟩ := e
  obtain rfl : operation = .group parent options more := hoperation
  cases succeeds_of_ok houtcome with
  | @group _ _ _ _ n g' hparent hread' houtcome' hafter =>
    obtain rfl : g = g' := Except.ok.inj (hread.symm.trans hread')
    obtain rfl : child = parent ++ [n.groups.length] := by
      simpa using houtcome.symm.trans houtcome'
    refine ⟨n, hparent, rfl, ?_⟩
    rw [hafter, root_modifyNode]
    exact Node.at?_modifyAt_addGroup hparent _

/-- **A node that was not there has just been opened.** -/
theorem at?_of_after {e : Event} {address : Address} {n : Node}
    (h : e.after.root.at? address = some n) :
    (∃ m, e.before.root.at? address = some m) ∨ ∃ parent g, e.Opens parent g address := by
  cases hout : e.outcome with
  | error fault =>
    rw [after_of_error hout] at h
    exact .inl ⟨n, h⟩
  | ok made =>
    cases succeeds_of_ok hout with
    | @group r a options more parent g hparent hread houtcome hafter =>
      rw [hafter, root_modifyNode] at h
      rcases Node.at?_of_modifyAt_addGroup h with hold | ⟨parent', hparent', rfl, -⟩
      · exact .inl hold
      · obtain rfl : parent = parent' := Option.some.inj (hparent.symm.trans hparent')
        exact .inr ⟨a, g, options, more, rfl, houtcome, hread⟩
    | @route r a options more action m d hm houtcome hafter =>
      rw [hafter, d.root_placed] at h
      have hgroups : ∀ n : Node, ((n.withConstraints d.kept).addRoute d.entry).groups = n.groups :=
        fun _ => rfl
      exact .inl (Node.at?_of_modifyAt_of_groups hgroups h)
    | @serve r a uri static m d hm houtcome hafter =>
      rw [hafter, root_modifyNode] at h
      have hgroups : ∀ n : Node, (n.addRoute d.entry).groups = n.groups := fun _ => rfl
      exact .inl (Node.at?_of_modifyAt_of_groups hgroups h)

end Event

/-! ## Runs -/

/-- The router behind a list of operations. -/
def run : Router → List Operation → Router
  | r, [] => r
  | r, operation :: rest => run (Event.after ⟨r, operation⟩) rest

/-- What happens while a list of operations is carried out. -/
def history : Router → List Operation → List Event
  | _, [] => []
  | r, operation :: rest => ⟨r, operation⟩ :: history (Event.after ⟨r, operation⟩) rest

theorem run_append (r : Router) (operations more : List Operation) :
    run r (operations ++ more) = run (run r operations) more := by
  induction operations generalizing r with
  | nil => rfl
  | cons operation rest ih => exact ih (Event.after ⟨r, operation⟩)

/-- Behind an event, the history is that of a run from where the event left the router. -/
theorem exists_run_of_history {r : Router} {operations : List Operation} {earlier later : List Event}
    {e : Event} (h : history r operations = earlier ++ e :: later) :
    ∃ rest, later = history e.after rest ∧ run r operations = run e.after rest := by
  induction earlier generalizing r operations with
  | nil =>
    cases operations with
    | nil => exact absurd h nofun
    | cons operation rest =>
      obtain ⟨rfl, rfl⟩ := List.cons.inj h
      exact ⟨rest, rfl, rfl⟩
  | cons first earlier ih =>
    cases operations with
    | nil => exact absurd h nofun
    | cons operation rest =>
      have hrest := ih (List.cons.inj h).2
      exact hrest

/-- What a run leaves of a node that was there before. -/
structure Remains (events : List Event) (address : Address) (n n' : Node) : Prop where
  settings : n'.settings = { n.settings with
    constraints :=
      (events.filterMap (·.extracted? address)).foldl .override n.settings.constraints }
  routes : n'.routes = n.routes ++ events.filterMap (·.route? address)

/-- **A node that is there stays throughout a run.** -/
theorem at?_run {r : Router} {address : Address} {n : Node} (operations : List Operation)
    (h : r.root.at? address = some n) :
    ∃ n', (run r operations).root.at? address = some n' ∧
      Remains (history r operations) address n n' := by
  induction operations generalizing r n with
  | nil => exact ⟨n, h, rfl, by simp [history]⟩
  | cons operation rest ih =>
    obtain ⟨m, hm, hleaves⟩ := Event.at?_after (e := ⟨r, operation⟩) h
    obtain ⟨n', hn', hremains⟩ := ih hm
    refine ⟨n', hn', ?_, ?_⟩
    · rw [hremains.settings, hleaves.settings, history]
      cases hx : Event.extracted? ⟨r, operation⟩ address <;> simp [hx]
    · rw [hremains.routes, hleaves.routes, history, List.append_assoc]
      cases hx : Event.route? ⟨r, operation⟩ address <;> simp [hx]

/-- A node that a run ends with was there before, or was opened on the way. -/
theorem at?_of_run {r : Router} {address : Address} {n : Node} {operations : List Operation}
    (h : (run r operations).root.at? address = some n) :
    (∃ m, r.root.at? address = some m) ∨
      ∃ e ∈ history r operations, ∃ parent g, e.Opens parent g address := by
  induction operations generalizing r with
  | nil => exact .inl ⟨n, h⟩
  | cons operation rest ih =>
    rcases ih h with ⟨m, hm⟩ | ⟨e, he, hopens⟩
    · rcases Event.at?_of_after (e := ⟨r, operation⟩) hm with hold | hopens
      · exact .inl hold
      · exact .inr ⟨_, List.mem_cons_self, hopens⟩
    · exact .inr ⟨e, List.mem_cons_of_mem _ he, hopens⟩

/-- The router was made, and since then operations were carried out on it. -/
inductive Reachable : Router → Prop where
  | fresh (name : String) (debug strict : Bool) (host : Option Host) (resolver : Resolver) :
    Reachable (fresh name debug strict host resolver)
  | after {e : Event} : Reachable e.before → Reachable e.after

/-- The reachable routers are those that runs end with. -/
theorem reachable_iff_run {r : Router} :
    Reachable r ↔ ∃ name debug strict host resolver operations,
      r = run (fresh name debug strict host resolver) operations := by
  constructor
  · intro h
    induction h with
    | fresh name debug strict host resolver => exact ⟨name, debug, strict, host, resolver, [], rfl⟩
    | @after e _ ih =>
      obtain ⟨before, operation⟩ := e
      obtain ⟨name, debug, strict, host, resolver, operations, rfl⟩ := ih
      refine ⟨name, debug, strict, host, resolver, operations ++ [operation], ?_⟩
      rw [run_append]
      rfl
  · rintro ⟨name, debug, strict, host, resolver, operations, rfl⟩
    -- whatever router a run begins with, if that is reachable, so is what the run ends with
    have hrun : ∀ r, Reachable r → Reachable (run r operations) := by
      induction operations with
      | nil => exact fun _ hr => hr
      | cons operation rest ih => exact fun r hr => ih _ (.after (e := ⟨r, operation⟩) hr)
    exact hrun _ (.fresh name debug strict host resolver)

end RouteTree.Router
