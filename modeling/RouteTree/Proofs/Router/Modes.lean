import RouteTree.Proofs.Router.Entries

/-!
# Operations on a lazy router and on an eager one

Two routers are twins if they are the same but for a host that only the second has. An operation
goes the same way on both as long as the host takes what it is asked to register (`Act.Agrees`): it
ends in the same result or fault, leaves twins, asks the mapper the same, and asks the host of the
second for nothing but the route that it returns.

An operation reads of a router only what twins share, so every step of it agrees, and the rules
`Act.Agrees.bind`, `.bind_ofExcept` and `.bind_told` put them together. The last is for the one step
at which the host is asked: what comes after it cannot fail any more.
-/

namespace RouteTree

/-- The host takes everything that it is asked to register under the method. -/
def Host.Takes (host : Host) (method : String) : Prop :=
  ∃ register, host.register? method = some register ∧
    ∀ path handlers, register path handlers = .ok ()

/-- What a host is asked to register. -/
structure Call where
  method : String
  path : String
  handlers : List Value
deriving Repr

/-- The call that registers a route under a method. -/
def Entry.callUnder (entry : Entry) (method : String) : Call := ⟨method, entry.path, entry.handlers⟩

namespace Effect

/-- What the host is asked, if it is. -/
def call? : Effect → Option Call
  | .registered method path handlers => some ⟨method, path, handlers⟩
  | _ => none

/-- Is the mapper asked? -/
def isMapped : Effect → Bool
  | .mapped _ _ _ => true
  | _ => false

end Effect

/-- The routers differ in nothing but that the second has a host; what they are called in the log
does not matter. -/
structure Router.Twins (host : Host) (r r' : Router) : Prop where
  unhosted : r.host = none
  hosted : r'.host = some host
  strict : r'.strict = r.strict
  resolver : r'.resolver = r.resolver
  registry : r'.registry = r.registry
  root : r'.root = r.root

namespace Act

variable {α β : Type} {host : Host} {x : Act α} {next : α → Act β}

/-- What a host is told, if there is a result. -/
def toldOf (told : α → List Call) : Except Fault α → List Call
  | .ok a => told a
  | .error _ => []

theorem toldOf_nil (outcome : Except Fault α) : toldOf (fun _ => []) outcome = [] := by
  cases outcome <;> rfl

/-- What came of one act on two routers, of which only the second has a host. -/
structure Agree (host : Host) (told : α → List Call) (done done' : Acted α) : Prop where
  outcome : done'.outcome = done.outcome
  twins : Router.Twins host done.router done'.router
  mapped : done'.effects.filter (·.isMapped) = done.effects.filter (·.isMapped)
  silent : done.effects.filterMap (·.call?) = []
  calls : done'.effects.filterMap (·.call?) = toldOf told done.outcome

/-- The act goes the same way on twins; a host is told of the result, and of nothing else. -/
def Agrees (host : Host) (x : Act α) (told : α → List Call) : Prop :=
  ∀ r r', Router.Twins host r r' → Agree host told (x r) (x r')

/-! ## Steps of an act -/

/-- What is read of both routers may have effects, but none that is a call. -/
theorem agrees_look {read : Router → Attempt α}
    (hread : ∀ r r', Router.Twins host r r' → read r' = read r)
    (hquiet : ∀ r, (read r).effects.filterMap (·.call?) = []) :
    (look read).Agrees host fun _ => [] := by
  intro r r' h
  have hsame : read r' = read r := hread r r' h
  refine ⟨?_, h, ?_, hquiet r, (hquiet r').trans (toldOf_nil _).symm⟩
  · exact congrArg Attempt.outcome hsame
  · exact congrArg (fun a : Attempt α => a.effects.filter (·.isMapped)) hsame

theorem agrees_pure (a : α) : (pure a : Act α).Agrees host fun _ => [] :=
  agrees_look (fun _ _ _ => rfl) fun _ => rfl

theorem agrees_notice (level : Level) (message : String) :
    (notice level message).Agrees host fun _ => [] :=
  agrees_look (fun _ _ _ => rfl) fun _ => rfl

theorem agrees_change {f : Router → Router}
    (hf : ∀ r r', Router.Twins host r r' → Router.Twins host (f r) (f r')) :
    (change f).Agrees host fun _ => [] := fun r r' h =>
  ⟨rfl, hf r r' h, rfl, rfl, rfl⟩

namespace Agrees

/-- What is told on the way and at the end is told of the end. -/
theorem bind_of {first : α → List Call} {second : α → β → List Call} {told : β → List Call}
    (hx : x.Agrees host first) (hnext : ∀ a, (next a).Agrees host (second a))
    (htold : ∀ a r, first a ++ toldOf (second a) (next a r).outcome =
      toldOf told (next a r).outcome) :
    (x >>= next).Agrees host told := by
  intro r r' h
  obtain ⟨houtcome, htwins, hmapped, hsilent, hcalls⟩ := hx r r' h
  change Agree host told (x.andThen next r) (x.andThen next r')
  unfold andThen
  cases hout : (x r).outcome with
  | error fault =>
    rw [hout] at houtcome hcalls
    simp only [houtcome]
    exact ⟨rfl, htwins, hmapped, hsilent, hcalls⟩
  | ok a =>
    rw [hout] at houtcome hcalls
    simp only [houtcome]
    obtain ⟨houtcome₂, htwins₂, hmapped₂, hsilent₂, hcalls₂⟩ := hnext a _ _ htwins
    refine ⟨houtcome₂, htwins₂, ?_, ?_, ?_⟩
    · rw [List.filter_append, List.filter_append, hmapped, hmapped₂]
    · rw [List.filterMap_append, hsilent, hsilent₂, List.append_nil]
    · rw [List.filterMap_append, hcalls, hcalls₂]
      exact htold a _

/-- As long as nothing is told, the act may go on in any way. -/
theorem bind {told : β → List Call} (hx : x.Agrees host fun _ => [])
    (hnext : ∀ a, (next a).Agrees host told) : (x >>= next).Agrees host told :=
  hx.bind_of hnext fun _ _ => List.nil_append _

/-- After something is told, the act must end in what it was told of. -/
theorem bind_told {first : α → List Call} {told : β → List Call} (hx : x.Agrees host first)
    (hnext : ∀ a, (next a).Agrees host fun _ => [])
    (hends : ∀ a r, ∃ b, (next a r).outcome = .ok b ∧ told b = first a) :
    (x >>= next).Agrees host told := by
  refine hx.bind_of hnext fun a r => ?_
  obtain ⟨b, hb, htold⟩ := hends a r
  rw [toldOf_nil, List.append_nil, hb]
  exact htold.symm

/-- What follows a result knows it. -/
theorem bind_ofExcept {read : Except Fault α} {told : β → List Call}
    (hnext : ∀ a, read = .ok a → (next a).Agrees host told) :
    (ofExcept read >>= next).Agrees host told := by
  cases hread : read with
  | error fault => exact fun r r' h => ⟨rfl, h, rfl, rfl, rfl⟩
  | ok a => exact hnext a hread

end Agrees

end Act

namespace Router

open Act

variable {host : Host}

/-! ## What an operation does with a router -/

theorem agrees_node (address : Address) : (look (·.node address)).Agrees host fun _ => [] := by
  refine agrees_look (fun r r' h => ?_) fun r => ?_
  · unfold node
    rw [h.root]
  · unfold node
    split <;> rfl

theorem agrees_compile [CharacterNames] (template : String) :
    (look (·.compile template)).Agrees host fun _ => [] := by
  refine agrees_look (fun r r' h => ?_) fun r => ?_
  · unfold compile
    rw [h.strict]
  · unfold compile
    cases Template.compile template r.strict with
    | error fault => rfl
    | ok compiled =>
      obtain ⟨uri, constraints, malformed⟩ := compiled
      cases malformed <;> rfl

theorem agrees_resolve (action : Value) (description : Description) (options : RouteOptions) :
    (look (·.resolver.resolve action description options)).Agrees host fun _ => [] := by
  refine agrees_look (fun r r' h => ?_) fun r => ?_
  · rw [h.resolver]
  · unfold Resolver.resolve
    cases r.resolver <;> rfl

theorem agrees_register {method : String} (h : host.Takes method) (entry : Entry) :
    (look (·.register method entry)).Agrees host fun _ => [entry.callUnder method] := by
  intro r r' htwins
  obtain ⟨register, hregister, htakes⟩ := h
  have hlazy : r.register method entry = .succeed () := by
    unfold Router.register
    rw [htwins.unhosted]
  have heager : r'.register method entry =
      ⟨[.registered method entry.path entry.handlers,
        .notice .debug ("Registered " ++ Text.toUpper method ++ " " ++ entry.path)], .ok ()⟩ := by
    unfold Router.register
    simp only [htwins.hosted, hregister, htakes]
    rfl
  change Agree host _ { toAttempt := r.register method entry, router := r }
    { toAttempt := r'.register method entry, router := r' }
  rw [hlazy, heager]
  exact ⟨rfl, htwins, rfl, rfl, rfl⟩

theorem agrees_modifyNode (address : Address) (f : Node → Node) :
    (change (·.modifyNode address f)).Agrees host fun _ => [] :=
  agrees_change fun _ _ h =>
    { h with root := congrArg (fun n : Node => n.modifyAt f address) h.root }

theorem agrees_addName (named : Bool) (name : String) (route : NamedRoute) :
    (change fun r => if named then r.addName name route else r).Agrees host fun _ => [] := by
  refine agrees_change fun r r' h => ?_
  cases named with
  | false => exact h
  | true => exact { h with registry := congrArg (fun g : Registry => g.add name route) h.registry }

/-! ## Operations -/

variable [CharacterNames]

/-- **Opening a group agrees**, and no host is told of it. -/
theorem openGroup_agrees (address : Address) (options : Value) (more : Params) :
    (openGroup address options more).Agrees host fun _ => [] := by
  refine (agrees_node address).bind fun parent => ?_
  refine .bind_ofExcept fun options _ => ?_
  refine .bind_ofExcept fun mount _ => ?_
  refine (agrees_compile mount).bind fun compiled => ?_
  refine .bind_ofExcept fun constraints _ => ?_
  exact (agrees_modifyNode _ _).bind fun _ => (agrees_notice _ _).bind fun _ => agrees_pure _

/-- The method that a route is registered under, if its options can be read. -/
def routeMethods (options : Value) (more : Params) : List String :=
  match RouteOptions.ofValue options more with
  | .ok read => [read.method]
  | .error _ => []

/-- **Defining a route agrees**, and a host is told of it under its method. -/
theorem defineRoute_agrees (address : Address) {options : Value} {more : Params}
    (h : ∀ method ∈ routeMethods options more, host.Takes method) (action : Value) :
    (defineRoute address options more action).Agrees host fun entry =>
      [entry.callUnder entry.method] := by
  refine (agrees_node address).bind fun node => ?_
  refine .bind_ofExcept fun read hread => ?_
  refine .bind_ofExcept fun uri _ => ?_
  refine (agrees_compile uri).bind fun compiled => ?_
  refine .bind_ofExcept fun name _ => ?_
  refine .bind_ofExcept fun own _ => ?_
  refine (agrees_resolve action _ read).bind fun handler => ?_
  refine .bind_ofExcept fun path _ => ?_
  have htakes : host.Takes read.method := h _ (by simp [routeMethods, hread])
  -- the route that the host takes is the one that is returned
  refine (agrees_register htakes _).bind_told (fun _ => ?_) fun _ _ => ⟨_, rfl, rfl⟩
  exact (agrees_modifyNode _ _).bind fun _ => (agrees_addName _ _ _).bind fun _ =>
    (agrees_modifyNode _ _).bind fun _ => agrees_pure _

/-- **Mounting agrees**, and a host is told of the mount as middleware. -/
theorem serve_agrees (address : Address) (uri static : Value) (h : host.Takes "use") :
    (serve address uri static).Agrees host fun entry => [entry.callUnder "use"] := by
  refine (agrees_node address).bind fun node => ?_
  refine .bind_ofExcept fun joined _ => ?_
  refine (agrees_compile joined).bind fun compiled => ?_
  refine .bind_ofExcept fun path _ => ?_
  refine (agrees_register h _).bind_told (fun _ => ?_) fun _ _ => ⟨_, rfl, rfl⟩
  exact (agrees_modifyNode _ _).bind fun _ => agrees_pure _

/-! ## What a host is told -/

namespace Event

/-- What was asked, and what came of it. -/
def report (e : Event) : Operation × Except Fault Made := (e.operation, e.outcome)

/-- The route that the operation returned, with the method that a host is told: mounts are
middleware there. -/
def registration? (e : Event) : Option (String × Entry) :=
  match e.report with
  | (.route _ _ _ _, .ok (.entry entry)) => some (entry.method, entry)
  | (.serve _ _ _, .ok (.entry entry)) => some ("use", entry)
  | _ => none

/-- The call that registers the route. -/
def call? (e : Event) : Option Call :=
  e.registration?.map fun (method, entry) => entry.callUnder method

theorem registration?_of_error {e : Event} {fault : Fault} (h : e.outcome = .error fault) :
    e.registration? = none := by
  unfold registration? report
  rw [h]
  cases e.operation <;> rfl

/-- A host is told the method of the route, unless it is a mount. -/
theorem method_of_registration {e : Event} {method : String} {entry : Entry}
    (h : e.registration? = some (method, entry)) :
    method = entry.method ∨ method = "use" ∧ entry.method = "get" := by
  unfold registration? report at h
  split at h
  · obtain ⟨rfl, rfl⟩ := Prod.mk.inj (Option.some.inj h)
    exact .inl rfl
  · rename_i address uri static returned hreport
    obtain ⟨rfl, rfl⟩ := Prod.mk.inj (Option.some.inj h)
    obtain ⟨r, operation⟩ := e
    obtain ⟨rfl, houtcome⟩ := Prod.mk.inj hreport
    cases succeeds_of_ok houtcome with
    | serve d hn houtcome' hafter =>
      obtain rfl : returned = d.entry := by simpa using houtcome.symm.trans houtcome'
      exact .inr ⟨rfl, rfl⟩
  · exact absurd h nofun

theorem defined?_eq (e : Event) : e.defined? = e.registration?.map (·.2) := by
  obtain ⟨r, operation⟩ := e
  cases hout : outcome ⟨r, operation⟩ with
  | error fault => rw [defined?_of_error hout, registration?_of_error hout, Option.map_none]
  | ok made =>
    cases succeeds_of_ok hout with
    | group hparent hread houtcome hafter =>
      rw [defined?_of_group houtcome]
      rfl
    | route d hn houtcome hafter =>
      rw [defined?_of_entry houtcome, registration?, report, houtcome]
      rfl
    | serve d hn houtcome hafter =>
      rw [defined?_of_entry houtcome, registration?, report, houtcome]
      rfl

end Event

end Router

end RouteTree
