import RouteTree.Proofs.Router.Names

/-!
# Plans of operations

An operation reads first and changes then. What it has read when nothing can fail any more is its
`Plan`: what is to become of its node, and what is to be written into the registry. **An operation
is the reading of its plan, carried out** (`act_of_at?`). To read a plan, nothing is looked at but
the settings of the node and what a router has from the beginning (`plan_congr`), so operations on
different routers or nodes compare as their plans do.

The definitions of operations are brought into this form read by read (`Act.look_bind`).
-/

namespace RouteTree

namespace Act

variable {α β γ δ : Type}

theorem bind_bind (x : Act α) (next : α → Act β) (last : β → Act γ) :
    ((x >>= next) >>= last) = (x >>= fun a => next a >>= last) := by
  funext r
  change (x.andThen next).andThen last r = x.andThen (fun a => (next a).andThen last) r
  unfold andThen
  cases hx : (x r).outcome with
  | error fault => rfl
  | ok a => cases hnext : (next a (x r).router).outcome <;> simp [hnext]

theorem look_andThen (read : Router → Attempt α) (next : α → Act β) (r : Router) :
    (look read).andThen next r = match (read r).outcome with
      | .ok a => { next a r with effects := (read r).effects ++ (next a r).effects }
      | .error fault => { effects := (read r).effects, outcome := .error fault, router := r } := rfl

theorem look_bind_look (first : Router → Attempt α) (second : α → Router → Attempt β)
    (last : β → Act γ) :
    (look first >>= fun a => look (second a) >>= last) =
      (look (fun r => first r >>= fun a => second a r) >>= last) := by
  funext r
  change (look first).andThen (fun a => (look (second a)).andThen last) r =
    (look fun r => (first r).andThen fun a => second a r).andThen last r
  simp only [look_andThen, Attempt.andThen]
  cases hfirst : (first r).outcome with
  | error fault => rfl
  | ok a => cases hsecond : (second a r).outcome <;> simp [hsecond]

/-- What is read first is part of what is read before the end. -/
theorem look_bind {first : Router → Attempt α} {next : α → Act β} {last : β → Act γ}
    {second : α → Router → Attempt δ} {finish : δ → Act γ}
    (h : ∀ a, (next a >>= last) = (look (second a) >>= finish)) :
    ((look first >>= next) >>= last) =
      (look (fun r => first r >>= fun a => second a r) >>= finish) := by
  rw [bind_bind, ← look_bind_look]
  exact congrArg (look first >>= ·) (funext h)

/-- What is read is there for what follows. -/
theorem Yields.of_look {read : Router → Attempt α} {next : α → Act β} {r r' : Router} {a : α} {b : β}
    (h : (read r).outcome = .ok a) (hnext : (next a).Yields r b r') :
    (Act.look read >>= next).Yields r b r' := by
  obtain ⟨houtcome, hrouter⟩ := hnext
  constructor
  · rw [bind_eq_andThen, look_andThen, h]
    exact houtcome
  · rw [bind_eq_andThen, look_andThen, h]
    exact hrouter

end Act

/-- What comes of two steps has come of both. -/
theorem ok_of_bind {α β : Type} {x : Except Fault α} {next : α → Except Fault β} {b : β}
    (h : (x >>= next) = .ok b) : ∃ a, x = .ok a ∧ next a = .ok b := by
  cases x with
  | error fault => exact absurd h nofun
  | ok a => exact ⟨a, rfl, h⟩

/-- What comes of two attempts in a row has come of both. -/
theorem Attempt.ok_of_bind {α β : Type} {x : Attempt α} {next : α → Attempt β} {b : β}
    (h : (x >>= next).outcome = .ok b) :
    ∃ a, x.outcome = .ok a ∧ (next a).outcome = .ok b := by
  change (x.andThen next).outcome = .ok b at h
  unfold andThen at h
  cases hx : x.outcome with
  | error fault =>
    rw [hx] at h
    exact absurd h nofun
  | ok a =>
    rw [hx] at h
    exact ⟨a, rfl, h⟩

namespace Router

/-- What is to be changed. -/
inductive Plan where
  /-- A group with these settings is opened. -/
  | group (settings : Settings)
  /-- A route is defined, and the node is left with these constraints. -/
  | route (kept : Constraints) (entry : Entry)
  | mount (entry : Entry)

namespace Plan

/-- What becomes of the node. -/
def change : Plan → Node → Node
  | .group settings, n => n.addGroup (.leaf settings)
  | .route kept entry, n => (n.withConstraints kept).addRoute entry
  | .mount entry, n => n.addRoute entry

/-- What is written into the registry. -/
def named? : Plan → Option (String × NamedRoute)
  | .route _ entry => entry.named?
  | .group _ | .mount _ => none

/-- What is returned, if it is carried out on the node at an address. -/
def made (address : Address) (n : Node) : Plan → Made
  | .group _ => .group (address ++ [n.groups.length])
  | .route _ entry | .mount entry => .entry entry

/-- The route that is defined, if one is. -/
def entry? : Plan → Option Entry
  | .group _ => none
  | .route _ entry | .mount entry => some entry

/-- What is written to the log. -/
def notices : Plan → List Effect
  | .group settings => [.notice .debug ("Created group " ++ Template.join settings.uris)]
  | .route _ _ | .mount _ => []

theorem extends_change (p : Plan) : Node.Extends p.change := by
  cases p with
  | group settings => exact Node.extends_addGroup (.leaf settings)
  | route kept entry => exact fun n => List.prefix_refl n.groups
  | mount entry => exact Node.extends_addRoute entry

theorem shallow_change (p : Plan) : Node.Shallow p.change := by
  cases p with
  | group settings => exact Node.shallow_addGroup (.leaf settings)
  | route kept entry => exact fun _ _ _ _ => rfl
  | mount entry => exact Node.shallow_addRoute entry

end Plan

/-! ## Reading a plan -/

section

variable [CharacterNames]

/-- Reads a group. -/
def planGroup (r : Router) (around : Settings) (options : Value) (more : Params) :
    Attempt Plan := do
  let options ← .ofExcept (GroupOptions.ofValue options more)
  let mount ← .ofExcept (asText options.mount)
  let compiled ← r.compile mount
  let own ← .ofExcept (Constraint.anchorAll options.constraints)
  return .group (Opened.settings ⟨options, compiled, own⟩ around)

/-- Reads what is left of a route when its uri is compiled and the constraints of its node are
known. -/
def planEntry (r : Router) (around : Settings) (read : RouteOptions) (uri : String)
    (kept : Constraints) (action : Value) : Attempt Plan := do
  let middleware := around.middleware ++ read.middleware
  let name ← .ofExcept (fullName around.names read.name)
  let own ← .ofExcept (Constraint.anchorAll read.constraints)
  let constraints := kept.override own
  let metadata := around.metadata.override read.metadata
  let handler ← r.resolver.resolve action ⟨uri, middleware, name, constraints, metadata⟩ read
  let path ← .ofExcept (pathOf uri constraints)
  let entry : Entry :=
    { method := read.method
      path
      handlers := middleware ++ handler.asItems
      uri
      name := if read.name.isTruthy then some name else none
      constraints
      metadata }
  r.register read.method entry
  return .route kept entry

/-- Reads a route. -/
def planRoute (r : Router) (around : Settings) (options : Value) (more : Params) (action : Value) :
    Attempt Plan := do
  let read ← .ofExcept (RouteOptions.ofValue options more)
  let uri ← .ofExcept (joinedUri around.uris read.uri)
  let compiled ← r.compile uri
  r.planEntry around read compiled.uri (around.constraints.override compiled.constraints) action

/-- Reads a mount. -/
def planServe (r : Router) (around : Settings) (uri static : Value) : Attempt Plan := do
  let uri ← .ofExcept (joinedUri around.uris uri)
  let compiled ← r.compile uri
  let constraints := around.constraints.override compiled.constraints
  let path ← .ofExcept (pathOf compiled.uri constraints)
  let entry : Entry :=
    { method := "get"
      path
      handlers := around.middleware ++ static.asItems
      uri := compiled.uri
      name := none
      constraints
      metadata := around.metadata }
  r.register "use" entry
  return .mount entry

theorem exists_of_planEntry {r : Router} {around : Settings} {read : RouteOptions} {uri : String}
    {kept : Constraints} {action : Value} {p : Plan}
    (h : (r.planEntry around read uri kept action).outcome = .ok p) :
    ∃ entry, p = .route kept entry ∧ entry.uri = uri := by
  obtain ⟨name, -, h⟩ := Attempt.ok_of_bind h
  obtain ⟨own, -, h⟩ := Attempt.ok_of_bind h
  obtain ⟨handler, -, h⟩ := Attempt.ok_of_bind h
  obtain ⟨path, -, h⟩ := Attempt.ok_of_bind h
  obtain ⟨_, -, h⟩ := Attempt.ok_of_bind h
  exact ⟨_, (Except.ok.inj h).symm, rfl⟩

/-- The plan of a route is a route. -/
theorem isSome_entry_of_planRoute {r : Router} {around : Settings} {options : Value} {more : Params}
    {action : Value} {p : Plan} (h : (r.planRoute around options more action).outcome = .ok p) :
    p.entry?.isSome = true := by
  obtain ⟨read, -, h⟩ := Attempt.ok_of_bind h
  obtain ⟨uri, -, h⟩ := Attempt.ok_of_bind h
  obtain ⟨compiled, -, h⟩ := Attempt.ok_of_bind h
  obtain ⟨entry, rfl, -⟩ := exists_of_planEntry h
  rfl

theorem isSome_entry_of_planServe {r : Router} {around : Settings} {uri static : Value} {p : Plan}
    (h : (r.planServe around uri static).outcome = .ok p) : p.entry?.isSome = true := by
  obtain ⟨joined, -, h⟩ := Attempt.ok_of_bind h
  obtain ⟨compiled, -, h⟩ := Attempt.ok_of_bind h
  obtain ⟨path, -, h⟩ := Attempt.ok_of_bind h
  obtain ⟨_, -, h⟩ := Attempt.ok_of_bind h
  obtain rfl := Except.ok.inj h
  rfl

namespace Operation

/-- The address of the node that is asked. -/
def address : Operation → Address
  | .group address _ _ | .route address _ _ _ | .serve address _ _ => address

/-- Reads the plan of the operation on a node with the given settings. -/
def plan (x : Operation) (r : Router) (around : Settings) : Attempt Plan :=
  match x with
  | .group _ options more => r.planGroup around options more
  | .route _ options more action => r.planRoute around options more action
  | .serve _ uri static => r.planServe around uri static

/-- **A plan depends on the settings of the node**, and else on nothing that an operation changes. -/
theorem plan_congr (x : Operation) {r r' : Router} (around : Settings)
    (hstrict : r'.strict = r.strict) (hhost : r'.host = r.host)
    (hresolver : r'.resolver = r.resolver) : x.plan r' around = x.plan r around := by
  cases x with
  | group address options more =>
    simp only [plan, planGroup, compile, hstrict]
  | route address options more action =>
    simp only [plan, planRoute, planEntry, compile, register, hstrict, hhost, hresolver]
  | serve address uri static =>
    simp only [plan, planServe, compile, register, hstrict, hhost]

end Operation

/-! ## Groups that can be read -/

namespace Opened

/-- What a group that could be read is made of. -/
theorem of_read {strict : Bool} {options : Value} {more : Params} {g : Opened}
    (h : read strict options more = .ok g) :
    GroupOptions.ofValue options more = .ok g.options ∧
      ∃ mount, asText g.options.mount = .ok mount ∧
        Template.compile mount strict = .ok g.compiled ∧
        Constraint.anchorAll g.options.constraints = .ok g.own := by
  obtain ⟨read, hread, h⟩ := ok_of_bind h
  obtain ⟨mount, hmount, h⟩ := ok_of_bind h
  obtain ⟨compiled, hcompiled, h⟩ := ok_of_bind h
  obtain ⟨own, hown, h⟩ := ok_of_bind h
  obtain rfl := Except.ok.inj h
  exact ⟨hread, mount, hmount, hcompiled, hown⟩

/-- What a group is made of can be read. -/
theorem read_eq {strict : Bool} {options : Value} {more : Params} {g : Opened} {mount : String}
    (hread : GroupOptions.ofValue options more = .ok g.options)
    (hmount : g.options.mount = .str mount)
    (hcompiled : Template.compile mount strict = .ok g.compiled)
    (hown : Constraint.anchorAll g.options.constraints = .ok g.own) :
    read strict options more = .ok g := by
  unfold read
  rw [hread]
  change Except.bind (asText g.options.mount) _ = _
  rw [hmount]
  change Except.bind (Template.compile mount strict) _ = _
  rw [hcompiled]
  change Except.bind (Constraint.anchorAll g.options.constraints) _ = _
  rw [hown]
  rfl

end Opened

theorem compile_outcome {r : Router} {template : String} {c : Compiled}
    (h : Template.compile template r.strict = .ok c) : (r.compile template).outcome = .ok c := by
  unfold compile
  rw [h]
  cases hm : c.malformed <;>
    simp [Attempt.ofExcept, Attempt.andThen, Attempt.notice, Attempt.emit, Attempt.succeed, hm]

/-- **A group that can be read is opened**, behind the other groups of its parent. -/
theorem openGroup_yields {r : Router} {address : Address} {n : Node} {options : Value}
    {more : Params} {g : Opened} (hn : r.root.at? address = some n)
    (hread : Opened.read r.strict options more = .ok g) :
    (openGroup address options more).Yields r (address ++ [n.groups.length])
      (r.modifyNode address (·.addGroup (.leaf (g.settings n.settings)))) := by
  obtain ⟨hoptions, mount, hmount, hcompiled, hown⟩ := Opened.of_read hread
  have hnode : (r.node address).outcome = .ok n := by
    rw [node, hn]
    rfl
  refine Act.Yields.of_look hnode ?_
  refine Act.Yields.of_look hoptions ?_
  refine Act.Yields.of_look hmount ?_
  refine Act.Yields.of_look (compile_outcome hcompiled) ?_
  refine Act.Yields.of_look hown ?_
  exact ⟨rfl, rfl⟩

/-- **A route that can be read is defined**, if the host takes it. -/
theorem defineRoute_yields {r : Router} {address : Address} {n : Node} {options : Value}
    {more : Params} {action : Value} (hn : r.root.at? address = some n)
    (d : RouteReading r n.settings options more action)
    (htakes : (r.register d.read.method d.entry).outcome = .ok ()) :
    (defineRoute address options more action).Yields r d.entry (d.placed address) := by
  have hnode : (r.node address).outcome = .ok n := by
    rw [node, hn]
    rfl
  refine Act.Yields.of_look hnode ?_
  refine Act.Yields.of_look d.read_eq ?_
  refine Act.Yields.of_look d.uri_eq ?_
  refine Act.Yields.of_look (compile_outcome d.compiled_eq) ?_
  refine Act.Yields.of_look d.name_eq ?_
  refine Act.Yields.of_look d.own_eq ?_
  refine Act.Yields.of_look d.handler_eq ?_
  refine Act.Yields.of_look d.path_eq ?_
  refine Act.Yields.of_look htakes ?_
  exact ⟨rfl, d.placed_eq address⟩

/-- **A mount that can be read is made**, if the host takes it. -/
theorem serve_yields {r : Router} {address : Address} {n : Node} {uri static : Value}
    (hn : r.root.at? address = some n) (d : MountReading r n.settings uri static)
    (htakes : (r.register "use" d.entry).outcome = .ok ()) :
    (serve address uri static).Yields r d.entry (r.modifyNode address (·.addRoute d.entry)) := by
  have hnode : (r.node address).outcome = .ok n := by
    rw [node, hn]
    rfl
  refine Act.Yields.of_look hnode ?_
  refine Act.Yields.of_look d.joined_eq ?_
  refine Act.Yields.of_look (compile_outcome d.compiled_eq) ?_
  refine Act.Yields.of_look d.path_eq ?_
  refine Act.Yields.of_look htakes ?_
  exact ⟨rfl, rfl⟩

/-! ## Carrying a plan out -/

/-- The router with a plan carried out on the node at an address. -/
def carry (r : Router) (address : Address) (p : Plan) : Router :=
  { r with
    registry := ⟨r.registry.routes.insertAll p.named?.toList⟩
    root := r.root.modifyAt p.change address }

/-- Carries a plan out on a node. -/
def finish (address : Address) (n : Node) (p : Plan) : Act Made := fun r =>
  { effects := p.notices, outcome := .ok (p.made address n), router := r.carry address p }

open Act

omit [CharacterNames] in
/-- The changes that make a route are its plan, carried out. -/
theorem finish_route (address : Address) (n : Node) (kept : Constraints) {entry : Entry}
    {named : Bool} {name : String} (hname : entry.name = if named then some name else none) :
    ((do
        change (·.modifyNode address (·.withConstraints kept))
        change fun r => if named then r.addName name ⟨entry.uri, entry.constraints⟩ else r
        change (·.modifyNode address (·.addRoute entry))
        return entry : Act Entry) >>= fun entry => return .entry entry) =
      (look (fun _ => .succeed (.route kept entry)) >>= finish address n) := by
  funext r
  refine congrArg (fun after => Acted.mk ⟨[], .ok (Made.entry entry)⟩ after) ?_
  change (if named then
      (r.modifyNode address (·.withConstraints kept)).addName name ⟨entry.uri, entry.constraints⟩
    else r.modifyNode address (·.withConstraints kept)).modifyNode address (·.addRoute entry) =
      r.carry address (.route kept entry)
  have hnamed : (Plan.route kept entry).named? =
      if named then some (name, ⟨entry.uri, entry.constraints⟩) else none := by
    rw [Plan.named?, Entry.named?, hname]
    cases named <;> rfl
  have hroot := Node.modifyAt_modifyAt r.root (·.withConstraints kept) (·.addRoute entry) address
  unfold carry
  rw [hnamed]
  cases named with
  | false => exact congrArg (fun root => { r with root }) hroot
  | true =>
    exact congrArg
      (fun root =>
        { r with registry := r.registry.add name ⟨entry.uri, entry.constraints⟩, root })
      hroot

/-- **An operation reads its plan and carries it out.** -/
theorem act_eq (x : Operation) :
    x.act = (look (·.node x.address) >>= fun n =>
      look (fun r => x.plan r n.settings) >>= finish x.address n) := by
  cases x with
  | group address options more =>
    refine (bind_bind _ _ _).trans (congrArg (look (·.node address) >>= ·) (funext fun n => ?_))
    refine look_bind fun options => ?_
    refine look_bind fun mount => ?_
    refine look_bind fun compiled => ?_
    refine look_bind fun own => ?_
    rfl
  | route address options more action =>
    refine (bind_bind _ _ _).trans (congrArg (look (·.node address) >>= ·) (funext fun n => ?_))
    refine look_bind fun read => ?_
    refine look_bind fun uri => ?_
    refine look_bind fun compiled => ?_
    refine look_bind fun name => ?_
    refine look_bind fun own => ?_
    refine look_bind fun handler => ?_
    refine look_bind fun path => ?_
    refine look_bind fun _ => ?_
    exact finish_route address n _ rfl
  | serve address uri static =>
    refine (bind_bind _ _ _).trans (congrArg (look (·.node address) >>= ·) (funext fun n => ?_))
    refine look_bind fun uri => ?_
    refine look_bind fun compiled => ?_
    refine look_bind fun path => ?_
    refine look_bind fun _ => ?_
    rfl

/-- What comes of the reading of a plan on a node. -/
def carried (r : Router) (address : Address) (n : Node) (reading : Attempt Plan) : Acted Made :=
  match reading.outcome with
  | .ok p =>
    { effects := reading.effects ++ p.notices
      outcome := .ok (p.made address n)
      router := r.carry address p }
  | .error fault => { effects := reading.effects, outcome := .error fault, router := r }

/-- **What comes of an operation is what comes of the reading of its plan.** -/
theorem act_of_at? {x : Operation} {r : Router} {n : Node} (h : r.root.at? x.address = some n) :
    x.act r = r.carried x.address n (x.plan r n.settings) := by
  have hnode : r.node x.address = .succeed n := by rw [node, h]
  rw [act_eq, bind_eq_andThen, look_andThen, hnode, Attempt.succeed]
  simp only [bind_eq_andThen, look_andThen, List.nil_append, carried]
  cases (x.plan r n.settings).outcome <;> rfl

end

/-- What comes of a plan that could be read. -/
theorem carried_of_ok {r : Router} {address : Address} {n : Node} {reading : Attempt Plan} {p : Plan}
    (h : reading.outcome = .ok p) :
    (r.carried address n reading).outcome = .ok (p.made address n) ∧
      (r.carried address n reading).router = r.carry address p := by
  rw [carried, h]
  exact ⟨rfl, rfl⟩

theorem carried_of_error {r : Router} {address : Address} {n : Node} {reading : Attempt Plan}
    {fault : Fault} (h : reading.outcome = .error fault) :
    (r.carried address n reading).outcome = .error fault ∧
      (r.carried address n reading).router = r := by
  rw [carried, h]
  exact ⟨rfl, rfl⟩

/-- What comes of a plan for a route is the same on any node, and so is what is written into the
registry. -/
theorem carried_of_entry {reading : Attempt Plan}
    (h : ∀ p, reading.outcome = .ok p → p.entry?.isSome = true) {r r' : Router}
    (hregistry : r'.registry = r.registry) (a a' : Address) (n n' : Node) :
    (r'.carried a' n' reading).toAttempt = (r.carried a n reading).toAttempt ∧
      (r'.carried a' n' reading).router.registry = (r.carried a n reading).router.registry := by
  unfold carried
  cases hreading : reading.outcome with
  | error fault => exact ⟨rfl, hregistry⟩
  | ok p =>
    refine ⟨?_, by simp only [carry, hregistry]⟩
    cases p with
    | group settings => exact absurd (h _ hreading) nofun
    | route kept entry => rfl
    | mount entry => rfl

end Router

end RouteTree
