import RouteTree.Router.Definition
import RouteTree.Proofs.Router.Tree

/-!
# What acts do

An act that fails leaves no trace (`Act.Clean`) if it only reads up to where it can fail last:
`Act.Reads.bind` and `Act.Clean.bind_sure` are the two rules, and `openGroup_clean`,
`defineRoute_clean` and `serve_clean` follow the definitions with them, read by read.

What an act has done if it succeeds is said once for each operation (`openGroup_ok`,
`defineRoute_ok`, `serve_ok`): what it has read (`Opened`, `RouteReading`, `MountReading`), its
result, and the router as it leaves it. All else about operations is derived from these.
-/

namespace RouteTree

namespace Act

variable {α β : Type}

/-- The act leaves the router as it is. -/
def Reads (x : Act α) : Prop := ∀ r, (x r).router = r

/-- The act cannot fail. -/
def Sure (x : Act α) : Prop := ∀ r, ∃ a, (x r).outcome = .ok a

/-- If the act fails, it leaves the router as it was. -/
def Clean (x : Act α) : Prop := ∀ r fault, (x r).outcome = .error fault → (x r).router = r

theorem reads_look (read : Router → Attempt α) : (look read).Reads := fun _ => rfl

theorem reads_ofExcept (x : Except Fault α) : (ofExcept x).Reads := fun _ => rfl

theorem sure_change (f : Router → Router) : (change f).Sure := fun _ => ⟨(), rfl⟩

theorem sure_pure (a : α) : (pure a : Act α).Sure := fun _ => ⟨a, rfl⟩

theorem sure_notice (level : Level) (message : String) : (notice level message).Sure := fun _ =>
  ⟨(), rfl⟩

theorem Sure.clean {x : Act α} (h : x.Sure) : x.Clean := by
  intro r fault hfault
  obtain ⟨a, ha⟩ := h r
  rw [ha] at hfault
  exact absurd hfault nofun

/-- Behind a read, whatever fails cleanly does so. -/
theorem Reads.bind {x : Act α} {next : α → Act β} (hx : x.Reads) (hnext : ∀ a, (next a).Clean) :
    (x >>= next).Clean := by
  intro r fault hfault
  change (x.andThen next r).outcome = .error fault at hfault
  change (x.andThen next r).router = r
  unfold andThen at hfault ⊢
  cases hout : (x r).outcome with
  | ok a =>
    simp only [hout, hx r] at hfault ⊢
    exact hnext a r fault hfault
  | error _ => exact hx r

theorem Clean.bind_sure {x : Act α} {next : α → Act β} (hx : x.Clean)
    (hnext : ∀ a, (next a).Sure) : (x >>= next).Clean := by
  intro r fault hfault
  change (x.andThen next r).outcome = .error fault at hfault
  change (x.andThen next r).router = r
  unfold andThen at hfault ⊢
  cases hout : (x r).outcome with
  | ok a =>
    obtain ⟨b, hb⟩ := hnext a (x r).router
    simp only [hout, hb] at hfault
    exact absurd hfault nofun
  | error fault' => exact hx r fault' hout

theorem Sure.bind {x : Act α} {next : α → Act β} (hx : x.Sure) (hnext : ∀ a, (next a).Sure) :
    (x >>= next).Sure := by
  intro r
  obtain ⟨a, ha⟩ := hx r
  obtain ⟨b, hb⟩ := hnext a (x r).router
  refine ⟨b, ?_⟩
  change (x.andThen next r).outcome = .ok b
  unfold andThen
  simp only [ha]
  exact hb

/-- The act succeeds on the router, with this result, and leaves this router. -/
structure Yields (x : Act α) (r : Router) (a : α) (r' : Router) : Prop where
  outcome : (x r).outcome = .ok a
  router : (x r).router = r'

namespace Yields

variable {r r' : Router} {b : β}

theorem bind {x : Act α} {next : α → Act β} (h : (x >>= next).Yields r b r') :
    ∃ a, (x r).outcome = .ok a ∧ (next a).Yields (x r).router b r' := by
  obtain ⟨hout, hrouter⟩ := h
  change (x.andThen next r).outcome = .ok b at hout
  change (x.andThen next r).router = r' at hrouter
  unfold andThen at hout hrouter
  cases hx : (x r).outcome with
  | ok a =>
    simp only [hx] at hout hrouter
    exact ⟨a, rfl, hout, hrouter⟩
  | error _ =>
    simp only [hx] at hout
    exact absurd hout nofun

theorem look {read : Router → Attempt α} {next : α → Act β}
    (h : (Act.look read >>= next).Yields r b r') :
    ∃ a, (read r).outcome = .ok a ∧ (next a).Yields r b r' := h.bind

theorem ofExcept {x : Except Fault α} {next : α → Act β}
    (h : (Act.ofExcept x >>= next).Yields r b r') : ∃ a, x = .ok a ∧ (next a).Yields r b r' :=
  h.bind

theorem change {f : Router → Router} {next : Unit → Act β}
    (h : (Act.change f >>= next).Yields r b r') : (next ()).Yields (f r) b r' := by
  obtain ⟨_, -, hnext⟩ := h.bind
  exact hnext

theorem notice {level : Level} {message : String} {next : Unit → Act β}
    (h : (Act.notice level message >>= next).Yields r b r') : (next ()).Yields r b r' := by
  obtain ⟨_, -, hnext⟩ := h.bind
  exact hnext

theorem pure {a : β} (h : (Pure.pure a : Act β).Yields r b r') : b = a ∧ r' = r :=
  ⟨(Except.ok.inj h.outcome).symm, h.router.symm⟩

theorem map {x : Act α} {f : α → β} (h : (x >>= fun a => Pure.pure (f a)).Yields r b r') :
    ∃ a, b = f a ∧ x.Yields r a r' := by
  obtain ⟨a, ha, hnext⟩ := h.bind
  obtain ⟨rfl, rfl⟩ := hnext.pure
  exact ⟨a, rfl, ha, rfl⟩

end Yields

end Act

namespace Router

open Act

variable [CharacterNames]

/-- **A group that is refused leaves no trace.** -/
theorem openGroup_clean (address : Address) (options : Value) (more : Params) :
    (openGroup address options more).Clean := by
  refine (reads_look _).bind fun parent => ?_
  refine (reads_ofExcept _).bind fun options => ?_
  refine (reads_ofExcept _).bind fun mount => ?_
  refine (reads_look _).bind fun compiled => ?_
  refine (reads_ofExcept _).bind fun constraints => ?_
  -- the options are read; nothing can fail any more
  refine Sure.clean ?_
  exact (sure_change _).bind fun _ => (sure_notice _ _).bind fun _ => sure_pure _

/-- **A route that is refused leaves no trace.** -/
theorem defineRoute_clean (address : Address) (options : Value) (more : Params) (action : Value) :
    (defineRoute address options more action).Clean := by
  refine (reads_look _).bind fun node => ?_
  refine (reads_ofExcept _).bind fun options => ?_
  refine (reads_ofExcept _).bind fun uri => ?_
  refine (reads_look _).bind fun compiled => ?_
  refine (reads_ofExcept _).bind fun name => ?_
  refine (reads_ofExcept _).bind fun own => ?_
  refine (reads_look _).bind fun handler => ?_
  refine (reads_ofExcept _).bind fun path => ?_
  refine (reads_look _).bind fun _ => ?_
  -- the host has taken the route; nothing can fail any more
  refine Sure.clean ?_
  exact (sure_change _).bind fun _ => (sure_change _).bind fun _ => (sure_change _).bind fun _ =>
    sure_pure _

/-- **A mount that is refused leaves no trace.** -/
theorem serve_clean (address : Address) (uri static : Value) : (serve address uri static).Clean := by
  refine (reads_look _).bind fun node => ?_
  refine (reads_ofExcept _).bind fun uri => ?_
  refine (reads_look _).bind fun compiled => ?_
  refine (reads_ofExcept _).bind fun path => ?_
  refine (reads_look _).bind fun _ => ?_
  refine Sure.clean ?_
  exact (sure_change _).bind fun _ => sure_pure _

/-! ## What a success says -/

theorem compile_ok {r : Router} {template : String} {compiled : Compiled}
    (h : (r.compile template).outcome = .ok compiled) :
    Template.compile template r.strict = .ok compiled := by
  unfold compile at h
  cases hc : Template.compile template r.strict with
  | error fault =>
    rw [hc] at h
    exact absurd h nofun
  | ok c =>
    rw [hc] at h
    cases hm : c.malformed <;>
      simpa [Attempt.ofExcept, Attempt.andThen, Attempt.notice, Attempt.emit, Attempt.succeed,
        hm] using h

omit [CharacterNames] in
theorem node_ok {r : Router} {address : Address} {n : Node}
    (h : (r.node address).outcome = .ok n) : r.root.at? address = some n := by
  unfold node at h
  split at h
  · rename_i m hm
    rw [hm, Except.ok.inj h]
  · exact absurd h nofun

/-- What is read of a group. -/
structure Opened where
  options : GroupOptions
  compiled : Compiled
  /-- The constraints among the options, anchored. -/
  own : Constraints

namespace Opened

/-- Reads a group, strictly or not. -/
def read (strict : Bool) (options : Value) (more : Params) : Except Fault Opened := do
  let options ← GroupOptions.ofValue options more
  let mount ← asText options.mount
  let compiled ← Template.compile mount strict
  let own ← Constraint.anchorAll options.constraints
  return { options, compiled, own }

/-- The settings of the group inside others. -/
def settings (g : Opened) (around : Settings) : Settings where
  uris := around.uris ++ [g.compiled.uri]
  middleware := around.middleware ++ g.options.middleware
  names := around.names ++ [g.options.naming]
  constraints := (around.constraints.override g.compiled.constraints).override g.own
  metadata := around.metadata.override g.options.metadata

end Opened

/-- A group that is opened is a leaf behind the other groups of its parent. -/
theorem openGroup_ok {r r' : Router} {address child : Address} {options : Value} {more : Params}
    (h : (openGroup address options more).Yields r child r') :
    ∃ parent g, r.root.at? address = some parent ∧
      Opened.read r.strict options more = .ok g ∧
      child = address ++ [parent.groups.length] ∧
      r' = r.modifyNode address (·.addGroup (.leaf (g.settings parent.settings))) := by
  obtain ⟨parent, hparent, h⟩ := h.look
  obtain ⟨read, hread, h⟩ := h.ofExcept
  obtain ⟨mount, hmount, h⟩ := h.ofExcept
  obtain ⟨compiled, hcompiled, h⟩ := h.look
  obtain ⟨own, hown, h⟩ := h.ofExcept
  obtain ⟨rfl, rfl⟩ := h.change.notice.pure
  refine ⟨parent, ⟨read, compiled, own⟩, node_ok hparent, ?_, rfl, rfl⟩
  unfold Opened.read
  rw [hread]
  change Except.bind (asText read.mount) _ = _
  rw [hmount]
  change Except.bind (Template.compile mount r.strict) _ = _
  rw [compile_ok hcompiled]
  change Except.bind (Constraint.anchorAll read.constraints) _ = _
  rw [hown]
  rfl

/-- What is read of a route on a node with the given settings. -/
structure RouteReading (r : Router) (around : Settings) (options : Value) (more : Params)
    (action : Value) where
  read : RouteOptions
  uri : String
  compiled : Compiled
  name : String
  /-- The constraints among the options, anchored. -/
  own : Constraints
  handler : Value
  path : String
  read_eq : RouteOptions.ofValue options more = .ok read
  uri_eq : joinedUri around.uris read.uri = .ok uri
  compiled_eq : Template.compile uri r.strict = .ok compiled
  name_eq : fullName around.names read.name = .ok name
  own_eq : Constraint.anchorAll read.constraints = .ok own
  handler_eq : (r.resolver.resolve action
      { uri := compiled.uri
        middleware := around.middleware ++ read.middleware
        name
        constraints := (around.constraints.override compiled.constraints).override own
        metadata := around.metadata.override read.metadata } read).outcome = .ok handler
  path_eq : pathOf compiled.uri
    ((around.constraints.override compiled.constraints).override own) = .ok path

namespace RouteReading

variable {r : Router} {around : Settings} {options : Value} {more : Params} {action : Value}

/-- The constraints that stay with the node. -/
def kept (d : RouteReading r around options more action) : Constraints :=
  around.constraints.override d.compiled.constraints

/-- The route. -/
def entry (d : RouteReading r around options more action) : Entry where
  method := d.read.method
  path := d.path
  handlers := around.middleware ++ d.read.middleware ++ d.handler.asItems
  uri := d.compiled.uri
  name := if d.read.name.isTruthy then some d.name else none
  constraints := d.kept.override d.own
  metadata := around.metadata.override d.read.metadata

/-- The router with the route at an address. -/
def placed (d : RouteReading r around options more action) (address : Address) : Router :=
  { r with
    registry :=
      if d.read.name.isTruthy then r.registry.add d.name ⟨d.entry.uri, d.entry.constraints⟩
      else r.registry
    root := r.root.modifyAt (fun m => (m.withConstraints d.kept).addRoute d.entry) address }

theorem root_placed (d : RouteReading r around options more action) (address : Address) :
    (d.placed address).root =
      r.root.modifyAt (fun m => (m.withConstraints d.kept).addRoute d.entry) address := rfl

end RouteReading

omit [CharacterNames] in
theorem root_modifyNode (r : Router) (address : Address) (f : Node → Node) :
    (r.modifyNode address f).root = r.root.modifyAt f address := rfl

/-- The changes that define a route leave it in its place. -/
theorem RouteReading.placed_eq {r : Router} {around : Settings} {options : Value} {more : Params}
    {action : Value} (d : RouteReading r around options more action) (address : Address) :
    (if d.read.name.isTruthy then
        (r.modifyNode address (·.withConstraints d.kept)).addName d.name
          ⟨d.entry.uri, d.entry.constraints⟩
      else r.modifyNode address (·.withConstraints d.kept)).modifyNode address
        (·.addRoute d.entry) = d.placed address := by
  have hput : ∀ (s : Router) (named : Bool) (name : String) (route : NamedRoute) (f : Node → Node),
      (if named then s.addName name route else s).modifyNode address f =
        { s with
          registry := if named then s.registry.add name route else s.registry
          root := s.root.modifyAt f address } := by
    intro s named name route f
    cases named <;> rfl
  rw [hput]
  simp only [modifyNode, Node.modifyAt_modifyAt]
  rfl

/-- A route that is defined stands behind the other routes of its node, and the node has the
constraints of its uri. The registry changes if the route has a name. -/
theorem defineRoute_ok {r r' : Router} {address : Address} {options : Value} {more : Params}
    {action : Value} {entry : Entry}
    (h : (defineRoute address options more action).Yields r entry r') :
    ∃ n, ∃ d : RouteReading r n.settings options more action,
      r.root.at? address = some n ∧ entry = d.entry ∧ r' = d.placed address := by
  obtain ⟨n, hn, h⟩ := h.look
  obtain ⟨read, hread, h⟩ := h.ofExcept
  obtain ⟨uri, huri, h⟩ := h.ofExcept
  obtain ⟨compiled, hcompiled, h⟩ := h.look
  obtain ⟨name, hname, h⟩ := h.ofExcept
  obtain ⟨own, hown, h⟩ := h.ofExcept
  obtain ⟨handler, hhandler, h⟩ := h.look
  obtain ⟨path, hpath, h⟩ := h.ofExcept
  obtain ⟨-, -, h⟩ := h.look
  obtain ⟨rfl, rfl⟩ := h.change.change.change.pure
  let d : RouteReading r n.settings options more action :=
    { read, uri, compiled, name, own, handler, path
      read_eq := hread
      uri_eq := huri
      compiled_eq := compile_ok hcompiled
      name_eq := hname
      own_eq := hown
      handler_eq := hhandler
      path_eq := hpath }
  exact ⟨n, d, node_ok hn, rfl, d.placed_eq address⟩

/-- What is read of a mount on a node with the given settings. -/
structure MountReading (r : Router) (around : Settings) (uri static : Value) where
  joined : String
  compiled : Compiled
  path : String
  joined_eq : joinedUri around.uris uri = .ok joined
  compiled_eq : Template.compile joined r.strict = .ok compiled
  path_eq : pathOf compiled.uri (around.constraints.override compiled.constraints) = .ok path

/-- The mount as a route. -/
def MountReading.entry {r : Router} {around : Settings} {uri static : Value}
    (d : MountReading r around uri static) : Entry where
  method := "get"
  path := d.path
  handlers := around.middleware ++ static.asItems
  uri := d.compiled.uri
  name := none
  constraints := around.constraints.override d.compiled.constraints
  metadata := around.metadata

/-- A mount stands behind the other routes of its node; nothing else changes. -/
theorem serve_ok {r r' : Router} {address : Address} {uri static : Value} {entry : Entry}
    (h : (serve address uri static).Yields r entry r') :
    ∃ n, ∃ d : MountReading r n.settings uri static,
      r.root.at? address = some n ∧ entry = d.entry ∧
      r' = r.modifyNode address (·.addRoute d.entry) := by
  obtain ⟨n, hn, h⟩ := h.look
  obtain ⟨joined, hjoined, h⟩ := h.ofExcept
  obtain ⟨compiled, hcompiled, h⟩ := h.look
  obtain ⟨path, hpath, h⟩ := h.ofExcept
  obtain ⟨-, -, h⟩ := h.look
  obtain ⟨rfl, rfl⟩ := h.change.pure
  exact ⟨n, ⟨joined, compiled, path, hjoined, compile_ok hcompiled, hpath⟩, node_ok hn, rfl, rfl⟩

end Router

end RouteTree
