import RouteTree.Proofs.Router.Entries
import RouteTree.Proofs.Router.Modes

/-!
# The order of routes

**The tree of a run tells its routes in order** (`tells_run`): a node has the routes that were defined
on it, and the groups that were opened in it, in the order in which this happened. Its subtree has its
own routes and then those of the groups, one group after another.

An operation adds at most one route or one group, and that behind those of its node
(`Event.routesAt_after`, `Event.childrenAt_after`), so what is read at an address grows with the history
(`collected_run`).
-/

namespace RouteTree

namespace Node

/-- The routes of the node at an address, if there is one. -/
def routesAt (n : Node) (address : Address) : List Entry :=
  ((n.at? address).map (·.routes)).getD []

/-- The number of subgroups of the node at an address, if there is one. -/
def sizeAt (n : Node) (address : Address) : Nat := ((n.at? address).map (·.groups.length)).getD 0

/-- The addresses of the subgroups of the node at an address. -/
def childrenAt (n : Node) (address : Address) : List Address :=
  (List.range (n.sizeAt address)).map fun i => address ++ [i]

/-- The routes of the subtree at an address. -/
def entriesAt (n : Node) (address : Address) : List Entry :=
  ((n.at? address).map entries).getD []

variable {n m : Node} {address : Address}

theorem at?_concat (h : n.at? address = some m) (i : Nat) :
    n.at? (address ++ [i]) = m.groups[i]? := by
  rw [at?_append, h, Option.bind_some, at?_cons]
  cases m.groups[i]? <;> rfl

/-- Subgroups are what the addresses behind the node lead to. -/
theorem lt_sizeAt_iff {i : Nat} : i < n.sizeAt address ↔ ∃ m, n.at? (address ++ [i]) = some m := by
  unfold sizeAt
  cases h : n.at? address with
  | none =>
    rw [at?_append, h]
    simp
  | some m =>
    rw [at?_concat h]
    constructor
    · exact fun hi => ⟨_, List.getElem?_eq_getElem hi⟩
    · rintro ⟨child, hchild⟩
      exact (List.getElem?_eq_some_iff.mp hchild).1

theorem at?_leaf (settings : Settings) (address : Address) :
    (leaf settings).at? address = if address = [] then some (leaf settings) else none := by
  cases address <;> rfl

theorem routesAt_leaf (settings : Settings) (address : Address) :
    (leaf settings).routesAt address = [] := by
  rw [routesAt, at?_leaf]
  split <;> rfl

theorem childrenAt_leaf (settings : Settings) (address : Address) :
    (leaf settings).childrenAt address = [] := by
  rw [childrenAt, sizeAt, at?_leaf]
  split <;> rfl

/-- A subtree has the routes of its node and then those of the subgroups, in order. -/
theorem entries_eq_children (h : n.at? address = some m) :
    m.entries = m.routes ++ (n.childrenAt address).flatMap n.entriesAt := by
  have hgroups : (n.childrenAt address).flatMap n.entriesAt = m.groups.flatMap entries := by
    have hsize : n.sizeAt address = m.groups.length := by rw [sizeAt, h]; rfl
    have hat : ∀ i, n.entriesAt (address ++ [i]) = ((m.groups[i]?).map entries).getD [] := by
      intro i
      rw [entriesAt, at?_concat h]
    have hgroups : (List.range m.groups.length).map (m.groups[·]?) = m.groups.map some :=
      List.ext_getElem (by simp) (by simp)
    rw [childrenAt, List.flatMap_map, hsize]
    simp only [hat]
    rw [← List.flatMap_map (m.groups[·]?) (fun o => (o.map entries).getD []), hgroups,
      List.flatMap_map]
    rfl
  rw [hgroups, entries_eq]

end Node

namespace Router

variable [CharacterNames]

namespace Event

/-- The address of the group that the operation opened in the node at the address, if it did. -/
def opened? (e : Event) (address : Address) : Option Address :=
  match e.operation, e.outcome with
  | .group a _ _, .ok (.group child) => if a = address then some child else none
  | _, _ => none

variable {e : Event} {address child : Address}

theorem opened?_eq_some_iff : e.opened? address = some child ↔ ∃ g, e.Opens address g child := by
  obtain ⟨r, operation⟩ := e
  constructor
  · intro h
    cases hout : outcome ⟨r, operation⟩ with
    | error fault =>
      unfold opened? at h
      rw [hout] at h
      cases operation <;> exact absurd h nofun
    | ok made =>
      cases succeeds_of_ok hout with
      | @group _ a options more parent g hparent hread houtcome hafter =>
        simp only [opened?, houtcome] at h
        by_cases ha : a = address
        · subst ha
          rw [if_pos rfl] at h
          obtain rfl := Option.some.inj h
          exact ⟨g, options, more, rfl, houtcome, hread⟩
        · rw [if_neg ha] at h
          exact absurd h nofun
      | route | serve => exact absurd h nofun
  · rintro ⟨g, options, more, hoperation, houtcome, -⟩
    obtain rfl : operation = .group address options more := hoperation
    simp [opened?, houtcome]

/-- On a node that is not there, no route is defined. -/
theorem route?_of_absent (h : e.before.root.at? address = none) : e.route? address = none := by
  obtain ⟨r, operation⟩ := e
  cases hout : outcome ⟨r, operation⟩ with
  | error fault =>
    unfold route?
    rw [hout]
    cases operation <;> rfl
  | ok made =>
    have helsewhere : ∀ {a : Address} {n : Node}, r.root.at? a = some n → a ≠ address := by
      rintro a n hn rfl
      exact absurd (hn.symm.trans h) nofun
    cases succeeds_of_ok hout with
    | group => rfl
    | route d hn houtcome hafter => simp [route?, houtcome, helsewhere hn]
    | serve d hn houtcome hafter => simp [route?, houtcome, helsewhere hn]

/-- **An operation adds the route that was defined on a node** behind those that are there. -/
theorem routesAt_after (e : Event) (address : Address) :
    e.after.root.routesAt address = e.before.root.routesAt address ++ (e.route? address).toList := by
  unfold Node.routesAt
  cases hbefore : e.before.root.at? address with
  | some n =>
    obtain ⟨n', hafter, hleaves⟩ := at?_after hbefore
    rw [hafter]
    exact hleaves.routes
  | none =>
    rw [route?_of_absent hbefore]
    cases hafter : e.after.root.at? address with
    | none => rfl
    | some n =>
      -- the node has just been opened
      rcases at?_of_after hafter with ⟨m, hm⟩ | ⟨parent, g, hopens⟩
      · exact absurd (hbefore.symm.trans hm) nofun
      · obtain ⟨_, -, -, hleaf⟩ := at?_of_opens hopens
        obtain rfl := Option.some.inj (hafter.symm.trans hleaf)
        rfl

/-- A node that has just been opened is the last one of its parent. -/
theorem sizeAt_of_opened (h : e.opened? address = some child) :
    e.after.root.sizeAt address = e.before.root.sizeAt address + 1 ∧
      child = address ++ [e.before.root.sizeAt address] := by
  obtain ⟨g, hopens⟩ := opened?_eq_some_iff.mp h
  obtain ⟨n, hn, rfl, hleaf⟩ := at?_of_opens hopens
  have hsize : e.before.root.sizeAt address = n.groups.length := by
    rw [Node.sizeAt, hn]
    rfl
  rw [hsize]
  refine ⟨?_, rfl⟩
  have hsizes : ∀ i, i < e.after.root.sizeAt address ↔ i < n.groups.length ∨ i = n.groups.length := by
    intro i
    rw [Node.lt_sizeAt_iff, ← hsize, Node.lt_sizeAt_iff, hsize]
    constructor
    · rintro ⟨m, hm⟩
      rcases at?_of_after hm with hold | ⟨parent, g', hopens'⟩
      · exact .inl hold
      · -- no operation opens two groups
        obtain ⟨_, _, _, houtcome, -⟩ := hopens
        obtain ⟨_, _, _, houtcome', -⟩ := hopens'
        have hsame : address ++ [i] = address ++ [n.groups.length] := by
          simpa using houtcome'.symm.trans houtcome
        exact .inr (by simpa using hsame)
    · rintro (⟨m, hm⟩ | rfl)
      · obtain ⟨m', hm', -⟩ := at?_after hm
        exact ⟨m', hm'⟩
      · exact ⟨_, hleaf⟩
  have hat := hsizes n.groups.length
  have hend := hsizes (n.groups.length + 1)
  omega

theorem sizeAt_of_not_opened (h : e.opened? address = none) :
    e.after.root.sizeAt address = e.before.root.sizeAt address := by
  have hsizes : ∀ i, i < e.after.root.sizeAt address ↔ i < e.before.root.sizeAt address := by
    intro i
    rw [Node.lt_sizeAt_iff, Node.lt_sizeAt_iff]
    constructor
    · rintro ⟨m, hm⟩
      rcases at?_of_after hm with hold | ⟨parent, g, hopens⟩
      · exact hold
      · -- a group at such an address was opened in the node
        obtain ⟨n, -, heq, -⟩ := at?_of_opens hopens
        obtain ⟨rfl, -⟩ := List.append_inj' heq rfl
        rw [opened?_eq_some_iff.mpr ⟨g, hopens⟩] at h
        exact absurd h nofun
    · rintro ⟨m, hm⟩
      obtain ⟨m', hm', -⟩ := at?_after hm
      exact ⟨m', hm'⟩
  have hbefore := hsizes (e.before.root.sizeAt address)
  have hafter := hsizes (e.after.root.sizeAt address)
  omega

/-- **An operation adds the group that was opened in a node** behind those that are there. -/
theorem childrenAt_after (e : Event) (address : Address) :
    e.after.root.childrenAt address =
      e.before.root.childrenAt address ++ (e.opened? address).toList := by
  unfold Node.childrenAt
  cases hopened : e.opened? address with
  | none =>
    rw [sizeAt_of_not_opened hopened, Option.toList_none, List.append_nil]
  | some child =>
    obtain ⟨hsize, rfl⟩ := sizeAt_of_opened hopened
    rw [hsize, List.range_succ, List.map_append, List.map_singleton, Option.toList_some]

end Event

/-! ## Runs -/

/-- **What every operation adds to is collected in a run**, in the order of its history. -/
theorem collected_run {β : Type} {collected : Router → List β} {added? : Event → Option β}
    (h : ∀ e : Event, collected e.after = collected e.before ++ (added? e).toList) (r : Router)
    (operations : List Operation) :
    collected (run r operations) = collected r ++ (history r operations).filterMap added? := by
  induction operations generalizing r with
  | nil => rw [history, List.filterMap_nil, List.append_nil, run]
  | cons operation rest ih =>
    rw [run, ih, h ⟨r, operation⟩, history, List.append_assoc]
    cases hadded : added? ⟨r, operation⟩ with
    | none => rw [List.filterMap_cons_none hadded, Option.toList_none, List.nil_append]
    | some b => rw [List.filterMap_cons_some hadded, Option.toList_some, List.singleton_append]

theorem routesAt_run (r : Router) (operations : List Operation) (address : Address) :
    (run r operations).root.routesAt address =
      r.root.routesAt address ++ (history r operations).filterMap (·.route? address) :=
  @collected_run _ _ (·.root.routesAt address) _ (·.routesAt_after address) r operations

theorem childrenAt_run (r : Router) (operations : List Operation) (address : Address) :
    (run r operations).root.childrenAt address =
      r.root.childrenAt address ++ (history r operations).filterMap (·.opened? address) :=
  @collected_run _ _ (·.root.childrenAt address) _ (·.childrenAt_after address) r operations

/-- The tree has the routes and the groups that these events tell, in order. -/
structure Tells (root : Node) (events : List Event) : Prop where
  /-- No route is lost and none is there twice. -/
  all : root.entries.Perm (events.filterMap (·.defined?))
  /-- A node has its routes in the order in which they were defined on it. -/
  routes : ∀ address n, root.at? address = some n →
    n.routes = events.filterMap (·.route? address)
  /-- A node has its groups in the order in which they were opened in it. -/
  groups : ∀ address n, root.at? address = some n →
    events.filterMap (·.opened? address) =
      (List.range n.groups.length).map fun i => address ++ [i]
  /-- The routes of a subtree are those of its node and then those of the groups. -/
  entries : ∀ address n, root.at? address = some n →
    n.entries = events.filterMap (·.route? address) ++
      (events.filterMap (·.opened? address)).flatMap root.entriesAt

/-- **The tree of a run tells its routes in order.** -/
theorem tells_run (name : String) (debug strict : Bool) (host : Option Host) (resolver : Resolver)
    (operations : List Operation) :
    Tells (run (fresh name debug strict host resolver) operations).root
      (history (fresh name debug strict host resolver) operations) := by
  have hroutes : ∀ address, (run (fresh name debug strict host resolver) operations).root.routesAt
      address = (history (fresh name debug strict host resolver) operations).filterMap
        (·.route? address) := by
    intro address
    rw [routesAt_run, fresh, Node.routesAt_leaf, List.nil_append]
  have hchildren : ∀ address, (run (fresh name debug strict host resolver) operations).root.childrenAt
      address = (history (fresh name debug strict host resolver) operations).filterMap
        (·.opened? address) := by
    intro address
    rw [childrenAt_run, fresh, Node.childrenAt_leaf, List.nil_append]
  refine ⟨entries_run_fresh name debug strict host resolver operations, ?_, ?_, ?_⟩
  · intro address n hn
    rw [← hroutes, Node.routesAt, hn]
    rfl
  · intro address n hn
    rw [← hchildren, Node.childrenAt, Node.sizeAt, hn]
    rfl
  · intro address n hn
    rw [← hroutes, ← hchildren, Node.entries_eq_children hn, Node.routesAt, hn]
    rfl

end Router

end RouteTree
