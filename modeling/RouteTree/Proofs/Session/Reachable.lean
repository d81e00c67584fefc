import RouteTree.Session
import RouteTree.Proofs.Router.Runs

/-!
# The routers of a session

**Every router of a session is one that a run of operations ends with** (`reachable_of_run`), so
what is proved of runs holds of the routers that scripts make, builders included.

A step makes a router, or carries out one operation on one that is there, or leaves all routers as
they are; a group with a builder does one after another.
-/

namespace RouteTree

/-- What is made of the result does not matter to the router, or to what happens on the way. -/
theorem Act.map_eq {α β : Type} (x : Act α) (f : α → β) (r : Router) :
    (x >>= fun a => pure (f a)) r =
      { effects := (x r).effects, outcome := (x r).outcome.map f, router := (x r).router } := by
  change x.andThen (fun a => pure (f a)) r = _
  unfold Act.andThen
  cases (x r).outcome with
  | error fault => rfl
  | ok a => simp [look, Attempt.succeed, Except.map]

theorem Act.router_map {α β : Type} (x : Act α) (f : α → β) (r : Router) :
    ((x >>= fun a => pure (f a)) r).router = (x r).router := by
  rw [map_eq]

namespace Session

variable {s : Session}

/-! ## Route steps -/

variable [CharacterNames]

/-- The action that a route step defines a route with, unless it only makes a decorator. -/
def routeAction? (action : Value) (endpoint : Option Value) : Option Value :=
  match action, endpoint with
  | .null, none => none
  | .null, some .null => none
  | .null, some v => some v
  | v, _ => some v

section Route
variable {node : String} {options : Value} {more : Params} {action : Value}
  {endpoint : Option Value}

theorem defineRoute_of_none (h : routeAction? action endpoint = none) :
    ∃ reply, ∀ s : Session,
      s.defineRoute node options more action endpoint = s.look node fun _ _ => .succeed reply := by
  unfold routeAction? at h
  split at h
  · exact ⟨.decorator, fun _ => rfl⟩
  · exact ⟨.decorated .null, fun _ => rfl⟩
  · exact absurd h nofun
  · exact absurd h nofun

theorem defineRoute_of_some {defined : Value} (h : routeAction? action endpoint = some defined) :
    ∃ reply : Entry → Reply, ∀ s : Session,
      s.defineRoute node options more action endpoint = s.act node fun address => do
        return reply (← Router.defineRoute address options more defined) := by
  unfold routeAction? at h
  split at h
  · exact absurd h nofun
  · exact absurd h nofun
  · rename_i v hv
    obtain rfl := Option.some.inj h
    exact ⟨fun _ => .decorated v, fun _ => by simp [Session.defineRoute]⟩
  · obtain rfl := Option.some.inj h
    exact ⟨.entry, fun _ => by simp [Session.defineRoute]⟩

end Route

/-! ## Soundness -/

/-- All routers of the session are reachable. -/
def Sound (s : Session) : Prop := ∀ r ∈ s.routers, r.Reachable

theorem sound_fresh : fresh.Sound := nofun

theorem Sound.setRouter (h : s.Sound) (index : Nat) {r : Router} (hr : r.Reachable) :
    (s.setRouter index r).Sound := by
  intro r' hr'
  rcases List.mem_or_eq_of_mem_set hr' with hold | rfl
  · exact h r' hold
  · exact hr

omit [CharacterNames] in
/-- A handle stands for a router that is there. -/
theorem getElem?_of_find {node : String} {r : Router} {place : Place}
    (h : (s.find node).outcome = .ok (r, place)) : s.routers[place.router]? = some r := by
  unfold find at h
  split at h
  · exact absurd h nofun
  · split at h
    · exact absurd h nofun
    · rename_i found hfound
      obtain ⟨rfl, rfl⟩ := Prod.mk.inj (Except.ok.inj h)
      exact hfound

theorem Sound.reachable_of_find (h : s.Sound) {node : String} {r : Router} {place : Place}
    (hfind : (s.find node).outcome = .ok (r, place)) : r.Reachable :=
  h r (List.mem_of_getElem? (getElem?_of_find hfind))

/-- The routers are sound after an act that is an operation, whatever is made of its result. -/
theorem Sound.act (h : s.Sound) (node : String) {doing : Address → Act Reply}
    (hdoing : ∀ address r, ∃ operation : Router.Operation,
      (doing address r).router = (operation.act r).router) :
    (s.act node doing).1.Sound := by
  unfold Session.act
  split
  · exact h
  · rename_i r place hfind
    obtain ⟨operation, hoperation⟩ := hdoing place.address r
    refine h.setRouter place.router ?_
    rw [hoperation]
    exact .after (e := ⟨r, operation⟩) (h.reachable_of_find hfind)

theorem Sound.openGroup (h : s.Sound) (node handle : String) (options : Value) (more : Params) :
    (s.openGroup node handle options more).1.Sound := by
  unfold Session.openGroup
  split
  · exact h
  · rename_i r place hfind
    have hgroup : (Router.openGroup place.address options more r).router.Reachable := by
      have hafter := Router.Reachable.after (e := ⟨r, .group place.address options more⟩)
        (h.reachable_of_find hfind)
      rwa [Router.Event.after, Router.Operation.act, Act.router_map] at hafter
    dsimp only
    split
    · exact h.setRouter place.router hgroup
    · exact h.setRouter place.router hgroup

theorem Sound.defineRoute (h : s.Sound) (node : String) (options : Value) (more : Params)
    (action : Value) (endpoint : Option Value) :
    (s.defineRoute node options more action endpoint).1.Sound := by
  cases haction : routeAction? action endpoint with
  | none =>
    obtain ⟨reply, hroute⟩ := defineRoute_of_none haction
    rw [hroute]
    exact h
  | some defined =>
    obtain ⟨reply, hroute⟩ := defineRoute_of_some haction
    rw [hroute]
    refine h.act node fun address r => ⟨.route address options more defined, ?_⟩
    rw [Router.Operation.act, Act.router_map, Act.router_map]

theorem Sound.openRouter (h : s.Sound) (handle : String) (options : RouterOptions)
    (arguments : Option (List Argument)) (attached : List Handler) :
    (s.openRouter handle options arguments attached).1.Sound := by
  intro r hr
  rcases List.mem_append.mp hr with hold | hnew
  · exact h r hold
  · obtain rfl := List.mem_singleton.mp hnew
    exact .fresh _ _ _ _ _

mutual

/-- A step keeps the routers sound. -/
theorem sound_step (s : Session) (h : s.Sound) (x : Step) : (s.step x).1.Sound := by
  match x with
  | .router handle options arguments attached => exact h.openRouter handle options arguments attached
  | .group node handle options more => exact h.openGroup node handle options more
  | .groupWith node handle options more builder =>
    have hopened := h.openGroup node handle options more
    rw [step]
    dsimp only
    split
    · exact hopened
    · exact sound_build _ hopened builder
  | .route node options more action endpoint => exact h.defineRoute node options more action endpoint
  | .serve node uri static =>
    refine h.act node fun address r => ⟨.serve address uri static, ?_⟩
    rw [Router.Operation.act, Act.router_map, Act.router_map]
  | .apply .. | .entries .. | .url .. | .registry .. | .state .. => exact h
termination_by structural x

theorem sound_build (s : Session) (h : s.Sound) (xs : List Step) : (s.build xs).1.Sound := by
  match xs with
  | [] => exact h
  | x :: rest =>
    have hstep := sound_step s h x
    rw [build]
    dsimp only
    split
    · exact hstep
    · exact sound_build _ hstep rest
termination_by structural xs

end

theorem Sound.run (h : s.Sound) (steps : List Step) : (s.run steps).1.Sound := by
  induction steps generalizing s with
  | nil => exact h
  | cons x rest ih => exact ih (sound_step s h x)

/-- **Every router of a session is one that a run of operations ends with.** -/
theorem reachable_of_run {steps : List Step} {r : Router}
    (h : r ∈ (fresh.run steps).1.routers) : r.Reachable :=
  sound_fresh.run steps r h

end Session

end RouteTree
