import RouteTree.Proofs.Router.Applying
import RouteTree.Proofs.Router.Order
import RouteTree.Proofs.Session.Modes

/-!
# The routes of a router in a session

**Whatever a script does, each router has its routes in order and hands them over in order**
(`ordered_run`). The script may go back and forth between several routers and their nodes, make more
routers, run builders that fail, and apply nodes in between.

What the script does to a router is the history of a run (`follows_run`), and the tree of a run tells
its routes in order (`Router.tells_run`). Applying is no operation: it leaves the session as it is.
-/

namespace RouteTree.Session

variable {s : Session}

/-! ## Routes in order -/

/-- What the nodes of a router have to hand over: their subtrees, or nothing if a host has the
routes. -/
def leftOf (r : Router) (n : Node) : List Entry := if r.isLazy then n.entries else []

/-- The router has the routes of these events in order, and hands them over in order. -/
structure Ordered [CharacterNames] (s : Session) (r : Router) (events : List Router.Event) :
    Prop where
  tells : Router.Tells r.root events
  handsOver : ∀ address n, r.root.at? address = some n → r.HandsOver address (leftOf r n)
  /-- Applying a node leaves all routers and all names as they are. -/
  unchanged : ∀ node refusal, (s.step (.apply node refusal)).1 = s
  /-- After a receiver has refused, another one gets everything. -/
  again : ∀ node place n refusal, (s.find node).outcome = .ok (r, place) →
    r.root.at? place.address = some n →
      ((s.step (.apply node refusal)).1.step (.apply node fun _ => none)).2.effects.filterMap
        (·.handed?) = leftOf r n

theorem handsOver_leftOf {r : Router} {address : Address} {n : Node}
    (hn : r.root.at? address = some n) : r.HandsOver address (leftOf r n) := by
  unfold leftOf
  cases hlazy : r.isLazy with
  | true => exact Router.handsOver_of_lazy hlazy hn
  | false => exact Router.handsOver_of_eager hlazy hn

/-- Looking up a handle has no effects. -/
theorem find_eq_succeed {node : String} {found : Router × Place}
    (h : (s.find node).outcome = .ok found) : s.find node = .succeed found := by
  unfold find at h ⊢
  split
  · rename_i hplace
    rw [hplace] at h
    exact absurd h nofun
  · rename_i place hplace
    simp only [hplace] at h
    split
    · rename_i hrouter
      rw [hrouter] at h
      exact absurd h nofun
    · rename_i r hrouter
      rw [hrouter] at h
      exact congrArg Attempt.succeed (Except.ok.inj h)

/-- A step that applies a node has the effects of applying it. -/
theorem effects_step_apply [CharacterNames] {node : String} {r : Router} {place : Place}
    (h : (s.find node).outcome = .ok (r, place)) (refusal : Nat → Option Fault) :
    (s.step (.apply node refusal)).2.effects = (r.apply place.address refusal).effects := by
  change ((s.find node).andThen _).effects = _
  rw [find_eq_succeed h, Attempt.succeed_andThen]
  change ((r.apply place.address refusal).andThen fun _ => Attempt.succeed Reply.done).effects = _
  unfold Attempt.andThen
  cases (r.apply place.address refusal).outcome with
  | error fault => rfl
  | ok done => exact List.append_nil _

/-- **A router has its routes in order, and hands them over in order.** -/
theorem ordered_run [CharacterNames] {s : Session} {index : Nat} {o : RouterOptions}
    (h : s.routers[index]? = some o.router) (script : List Step) :
    ∃ r, (s.run script).1.routers[index]? = some r ∧
      Ordered (s.run script).1 r (s.runEvents index script) := by
  obtain ⟨operations, hevents, hafter⟩ := follows_run index s script _ h
  refine ⟨_, hafter, ?_, fun _ _ => handsOver_leftOf, fun _ _ => rfl, ?_⟩
  · rw [hevents]
    exact Router.tells_run _ _ _ _ _ operations
  · intro node place n refusal hfind hn
    have hsame : ((s.run script).1.step (.apply node refusal)).1 = (s.run script).1 := rfl
    rw [hsame, effects_step_apply hfind]
    exact ((handsOver_leftOf hn).taken (fun _ => none) fun _ _ _ => rfl).2

/-- A lazy router and an eager one. -/
def samplePair : Session :=
  ((opened "lazy" {}).openRouter "eager" { host := .host sampleHost } none []).1

/-- Routes on both routers and in groups of both, in a builder that is refused in the end, and before
and after the lazy router is applied. -/
def samplePairScript : List Step :=
  [.groupWith "lazy" "a" (.str "/a") .empty
      [.route "eager" (.str "/first") .empty (.int 1) none,
        .route "a" (.str "/second") .empty (.int 2) none,
        .groupWith "a" "b" (.str "/b") .empty [.serve "b" (.str "/third") (.int 3)],
        .group "eager" "c" (.str "/c") .empty,
        .route "c" (.str "/fourth") .empty (.int 4) none,
        .serve "absent" (.str "/refused") (.int 5)],
    .apply "lazy" fun count => if count = 2 then some (.refused "enough") else none,
    .route "a" (.str "/fifth") .empty (.int 6) none,
    .route "lazy" (.str "/sixth") .empty (.int 7) none]

open scoped CharacterNames.Unnamed

theorem ordered_run_samplePair :
    samplePair.routers[0]? = some ({} : RouterOptions).router ∧
      ∃ r, (samplePair.run samplePairScript).1.routers[0]? = some r ∧
        Ordered (samplePair.run samplePairScript).1 r (samplePair.runEvents 0 samplePairScript) :=
  ⟨rfl, ordered_run rfl samplePairScript⟩

/-- The routes of the root come first, then those of the group, then those of the group inside it. -/
example :
    (samplePair.run samplePairScript).1.routers.map
        (fun r => r.root.entries.map fun entry => entry.path) =
      [["/sixth", "/a/second", "/a/fifth", "/a/b/third"], ["/first", "/c/fourth"]] := by
  decide +kernel

end RouteTree.Session
