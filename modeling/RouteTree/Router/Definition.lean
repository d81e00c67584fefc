import RouteTree.Router.Act

/-!
# Groups and routes

Groups and routes are defined on the node at an address. Everything that can fail comes before the
first change: a route is kept only once the host has taken it, and a group only once all its options
are read.
-/

namespace RouteTree.Router

open Act

variable [CharacterNames]

/-- Changes the node at an address. -/
def modifyNode (r : Router) (address : Address) (f : Node → Node) : Router :=
  { r with root := r.root.modifyAt f address }

/-- Registers a route under a name. -/
def addName (r : Router) (name : String) (route : NamedRoute) : Router :=
  { r with registry := r.registry.add name route }

/-- Opens a group inside the node at an address. Answers with the address of the group. -/
def openGroup (address : Address) (options : Value) (more : Params) : Act Address := do
  let parent ← look (·.node address)
  let options ← ofExcept (GroupOptions.ofValue options more)
  let mount ← ofExcept (asText options.mount)
  let compiled ← look (·.compile mount)
  let constraints ← ofExcept (Constraint.anchorAll options.constraints)
  let around := parent.settings
  let settings : Settings :=
    { uris := around.uris ++ [compiled.uri]
      middleware := around.middleware ++ options.middleware
      names := around.names ++ [options.naming]
      constraints := (around.constraints.override compiled.constraints).override constraints
      metadata := around.metadata.override options.metadata }
  change (·.modifyNode address (·.addGroup (.leaf settings)))
  notice .debug ("Created group " ++ Template.join settings.uris)
  return address ++ [parent.groups.length]

/-- Defines a route on the node at an address. The constraints of its uri stay with the node. -/
def defineRoute (address : Address) (options : Value) (more : Params) (action : Value) :
    Act Entry := do
  let node ← look (·.node address)
  let around := node.settings
  let options ← ofExcept (RouteOptions.ofValue options more)
  let uri ← ofExcept (joinedUri around.uris options.uri)
  let compiled ← look (·.compile uri)
  let kept := around.constraints.override compiled.constraints
  let middleware := around.middleware ++ options.middleware
  let name ← ofExcept (fullName around.names options.name)
  let own ← ofExcept (Constraint.anchorAll options.constraints)
  let constraints := kept.override own
  let metadata := around.metadata.override options.metadata
  let description : Description := ⟨compiled.uri, middleware, name, constraints, metadata⟩
  let handler ← look (·.resolver.resolve action description options)
  let path ← ofExcept (pathOf compiled.uri constraints)
  let named := options.name.isTruthy
  let entry : Entry :=
    { method := options.method
      path
      handlers := middleware ++ handler.asItems
      uri := compiled.uri
      name := if named then some name else none
      constraints
      metadata }
  look (·.register options.method entry)
  change (·.modifyNode address (·.withConstraints kept))
  change fun r => if named then r.addName name ⟨compiled.uri, constraints⟩ else r
  change (·.modifyNode address (·.addRoute entry))
  return entry

/-- Mounts handlers under a uri of the node at an address. Such a route has no name, and its
constraints are its own. -/
def serve (address : Address) (uri static : Value) : Act Entry := do
  let node ← look (·.node address)
  let around := node.settings
  let uri ← ofExcept (joinedUri around.uris uri)
  let compiled ← look (·.compile uri)
  let constraints := around.constraints.override compiled.constraints
  let path ← ofExcept (pathOf compiled.uri constraints)
  let entry : Entry :=
    { method := "get"
      path
      handlers := around.middleware ++ static.asItems
      uri := compiled.uri
      name := none
      constraints
      metadata := around.metadata }
  look (·.register "use" entry)
  change (·.modifyNode address (·.addRoute entry))
  return entry

end RouteTree.Router
