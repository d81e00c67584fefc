import RouteTree.Proofs.Router.Plans
import RouteTree.Proofs.Template.Joining

/-!
# Routes that are accepted

**A route that is accepted is defined, if its uri can be compiled and has a path**
(`exists_defineRoute`), and a mount in the same way (`exists_serve`). What else could refuse a
route is its name, if that is no text, a constraint among its options, whoever resolves its action,
and the host (`Accepts`).
-/

namespace RouteTree.Router

open Template

theorem joinedUri_str (uris : List String) (segment : String) :
    joinedUri uris (.str segment) = .ok (Template.join (uris ++ [segment])) := by
  unfold joinedUri
  split
  · rename_i hempty
    obtain rfl : segment = "" := by simpa [Value.isTruthy] using hempty
    refine congrArg (fun text => Except.ok (String.ofList text)) ?_
    rw [List.map_append]
    exact (Template.joinText_append_of_forall_nil (by simp) _).symm
  · rfl

/-- The route has no constraints but those of its uri, and the router has nothing else against it. -/
structure Accepts (r : Router) (read : RouteOptions) (action : Value) : Prop where
  name : ∃ text, read.name = .str text
  constraints : read.constraints = .empty
  answers : ∀ description options,
    ∃ handler, (r.resolver.resolve action description options).outcome = .ok handler
  takes : ∀ entry, (r.register read.method entry).outcome = .ok ()

theorem Accepts.with_uri {r : Router} {read : RouteOptions} {action : Value}
    (h : r.Accepts read action) (uri : Value) : r.Accepts { read with uri } action :=
  ⟨h.name, h.constraints, h.answers, h.takes⟩

theorem Accepts.exists_fullName {r : Router} {read : RouteOptions} {action : Value}
    (h : r.Accepts read action) : ∃ name, fullName [] read.name = .ok name := by
  obtain ⟨text, htext⟩ := h.name
  rw [htext]
  exact ⟨_, rfl⟩

variable [CharacterNames]

/-- **A route that is accepted is defined**, if its uri can be compiled and has a path. -/
theorem exists_defineRoute {r : Router} {address : Address} {n : Node} {options : Value}
    {more : Params} {action : Value} {read : RouteOptions} {segment : String} {c : Compiled}
    {name path : String} (hn : r.root.at? address = some n)
    (hread : RouteOptions.ofValue options more = .ok read) (huri : read.uri = .str segment)
    (hcompiled : Template.compile (join (n.settings.uris ++ [segment])) r.strict = .ok c)
    (hname : fullName n.settings.names read.name = .ok name)
    (hpath : pathOf c.uri (n.settings.constraints.override c.constraints) = .ok path)
    (haccepts : r.Accepts read action) :
    ∃ entry, (defineRoute address options more action r).outcome = .ok entry ∧
      entry.uri = c.uri ∧
      entry.constraints = n.settings.constraints.override c.constraints := by
  obtain ⟨handler, hhandler⟩ := haccepts.answers
    { uri := c.uri
      middleware := n.settings.middleware ++ read.middleware
      name
      constraints := n.settings.constraints.override c.constraints
      metadata := n.settings.metadata.override read.metadata } read
  let d : RouteReading r n.settings options more action :=
    { read, uri := join (n.settings.uris ++ [segment]), compiled := c, name, own := .empty, handler
      path
      read_eq := hread
      uri_eq := by rw [huri, joinedUri_str]
      compiled_eq := hcompiled
      name_eq := hname
      own_eq := by rw [haccepts.constraints]; rfl
      handler_eq := hhandler
      path_eq := hpath }
  exact ⟨d.entry, (defineRoute_yields hn d (haccepts.takes d.entry)).outcome, rfl, rfl⟩

/-- **A mount that is accepted is made**, if its uri can be compiled and has a path. -/
theorem exists_serve {r : Router} {address : Address} {n : Node} {segment path : String}
    {static : Value} {c : Compiled} (hn : r.root.at? address = some n)
    (hcompiled : Template.compile (join (n.settings.uris ++ [segment])) r.strict = .ok c)
    (hpath : pathOf c.uri (n.settings.constraints.override c.constraints) = .ok path)
    (htakes : ∀ entry, (r.register "use" entry).outcome = .ok ()) :
    ∃ entry, (serve address (.str segment) static r).outcome = .ok entry ∧
      entry.uri = c.uri ∧
      entry.constraints = n.settings.constraints.override c.constraints := by
  let d : MountReading r n.settings (.str segment) static :=
    { joined := join (n.settings.uris ++ [segment]), compiled := c, path
      joined_eq := joinedUri_str _ _
      compiled_eq := hcompiled
      path_eq := hpath }
  exact ⟨d.entry, (serve_yields hn d (htakes d.entry)).outcome, rfl, rfl⟩

end RouteTree.Router
