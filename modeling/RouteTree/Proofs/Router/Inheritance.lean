import Mathlib.Data.List.Induction
import RouteTree.Proofs.Router.Runs

/-!
# What nodes inherit

**Every node of a run has what the groups on its way gave it** (`inherits_run`). Its uris,
middleware, names and metadata are those of the groups from the root to it, and never change. Its
constraints do: they begin with those that its parent had when the group was opened, overridden by
those of its own prefix and then of its own options, and each route that is then defined on the node
itself adds the constraints of its uri. What is defined elsewhere, mounts, and whatever is refused
add nothing. Routes stay as they were returned.

The groups on the way to a node are told by the history of the run (`Leads`). That a node keeps its
settings between two events comes from `at?_run`, so the settings follow by induction along the way.
-/

namespace RouteTree.Router

section

variable [CharacterNames]

/-- The groups that lead from the root to an address, outermost first. -/
inductive Leads (events : List Event) : Address → List Opened → Prop where
  | root : Leads events [] []
  | group {parent child : Address} {groups : List Opened} {g : Opened} {e : Event} :
    Leads events parent groups → e ∈ events → e.Opens parent g child →
      Leads events child (groups ++ [g])

/-- The settings are those of the groups, but for the constraints. -/
structure Inherited (groups : List Opened) (s : Settings) : Prop where
  uris : s.uris = groups.map (·.compiled.uri)
  middleware : s.middleware = groups.flatMap (·.options.middleware)
  names : s.names = groups.map (·.options.naming)
  metadata : s.metadata =
    groups.foldl (fun known g => known.override g.options.metadata) OrderedMap.empty

/-- The second node is what became of the first. -/
structure Grown (n n' : Node) : Prop where
  settings : n'.settings = { n.settings with constraints := n'.settings.constraints }
  routes : n.routes <+: n'.routes

/-- What a node has at the end of a run, by the events of the run. -/
structure Inherits (events : List Event) (address : Address) (n : Node) : Prop where
  reached : ∃ groups, Leads events address groups
  settings : ∀ groups, Leads events address groups → Inherited groups n.settings
  unchanged : ∀ e ∈ events, ∀ m, e.before.root.at? address = some m ∨
    e.after.root.at? address = some m → Grown m n
  /-- The constraints of the root are those of its routes. -/
  rootConstraints : address = [] → n.settings.constraints =
    (events.filterMap (·.extracted? address)).foldl .override OrderedMap.empty
  /-- The constraints of a group are those of its parent as they were when it was opened, its own,
  and those of the routes that were defined on it later. -/
  groupConstraints : ∀ earlier e later parent g, events = earlier ++ e :: later →
    e.Opens parent g address →
      ∃ m, e.before.root.at? parent = some m ∧ n.settings.constraints =
        (later.filterMap (·.extracted? address)).foldl .override
          ((m.settings.constraints.override g.compiled.constraints).override g.own)
  /-- A route that was returned is still there, with what it had from the node. -/
  routes : ∀ e ∈ events, ∀ options more action entry,
    e.operation = .route address options more action → e.outcome = .ok (.entry entry) →
      entry ∈ n.routes ∧ ∃ m, ∃ d : RouteReading e.before m.settings options more action,
        e.before.root.at? address = some m ∧ entry = d.entry ∧
        entry.handlers = n.settings.middleware ++ d.read.middleware ++ d.handler.asItems ∧
        entry.metadata = n.settings.metadata.override d.read.metadata

/-! ## Growth -/

theorem Remains.grown {events : List Event} {address : Address} {n n' : Node}
    (h : Remains events address n n') : Grown n n' := by
  refine ⟨?_, ?_⟩
  · rw [h.settings]
  · rw [h.routes]
    exact List.prefix_append _ _

theorem Event.Leaves.grown {e : Event} {address : Address} {n n' : Node}
    (h : e.Leaves address n n') : Grown n n' := by
  refine ⟨?_, ?_⟩
  · rw [h.settings]
  · rw [h.routes]
    exact List.prefix_append _ _

omit [CharacterNames] in
theorem Grown.trans {n n' n'' : Node} (h : Grown n n') (h' : Grown n' n'') : Grown n n'' := by
  refine ⟨?_, h.routes.trans h'.routes⟩
  rw [h'.settings, h.settings]

omit [CharacterNames] in
/-- Growing changes nothing that is inherited. -/
theorem Grown.inherited_iff {n n' : Node} {groups : List Opened} (h : Grown n n') :
    Inherited groups n'.settings ↔ Inherited groups n.settings := by
  rw [h.settings]
  exact ⟨fun hn => ⟨hn.uris, hn.middleware, hn.names, hn.metadata⟩,
    fun hn => ⟨hn.uris, hn.middleware, hn.names, hn.metadata⟩⟩

/-- What was there behind an event has grown into what is there at the end. -/
theorem grown_of_after {r : Router} {operations : List Operation} {e : Event}
    (he : e ∈ history r operations) {address : Address} {m : Node}
    (hm : e.after.root.at? address = some m) :
    ∃ n, (run r operations).root.at? address = some n ∧ Grown m n := by
  obtain ⟨earlier, later, hsplit⟩ := List.append_of_mem he
  obtain ⟨rest, -, hrun⟩ := exists_run_of_history hsplit
  obtain ⟨n, hn, hremains⟩ := at?_run rest hm
  exact ⟨n, by rw [hrun, hn], hremains.grown⟩

theorem grown_of_before {r : Router} {operations : List Operation} {e : Event}
    (he : e ∈ history r operations) {address : Address} {m : Node}
    (hm : e.before.root.at? address = some m) :
    ∃ n, (run r operations).root.at? address = some n ∧ Grown m n := by
  obtain ⟨m', hm', hleaves⟩ := Event.at?_after hm
  obtain ⟨n, hn, hgrown⟩ := grown_of_after he hm'
  exact ⟨n, hn, hleaves.grown.trans hgrown⟩

/-! ## Along the way to a node -/

end

/-- A group adds to what lies around it. -/
theorem Inherited.concat {groups : List Opened} {s : Settings} (h : Inherited groups s)
    (g : Opened) : Inherited (groups ++ [g]) (g.settings s) := by
  refine ⟨?_, ?_, ?_, ?_⟩
  · simp [Opened.settings, h.uris]
  · simp [Opened.settings, h.middleware]
  · simp [Opened.settings, h.names]
  · simp [Opened.settings, h.metadata]

section Fresh
variable {name : String} {debug strict : Bool} {host : Option Host} {resolver : Resolver}
  {operations : List Operation}

/-- In a router without routes there is the root only. -/
theorem at?_fresh {address : Address} {n : Node}
    (h : (fresh name debug strict host resolver).root.at? address = some n) :
    address = [] ∧ n = .leaf {} := by
  cases address with
  | nil => exact ⟨rfl, (Option.some.inj h).symm⟩
  | cons i rest => exact absurd h nofun

variable [CharacterNames]

/-- The root of a run. -/
theorem root_remains {n : Node}
    (h : (run (fresh name debug strict host resolver) operations).root.at? [] = some n) :
    Remains (history (fresh name debug strict host resolver) operations) [] (.leaf {}) n := by
  have hroot : (fresh name debug strict host resolver).root.at? [] = some (.leaf {}) := rfl
  obtain ⟨n', hn', hremains⟩ := at?_run operations hroot
  obtain rfl : n' = n := Option.some.inj (hn'.symm.trans h)
  exact hremains

/-- Groups lead to every node. -/
theorem exists_leads {address : Address} {n : Node}
    (h : (run (fresh name debug strict host resolver) operations).root.at? address = some n) :
    ∃ groups, Leads (history (fresh name debug strict host resolver) operations) address groups := by
  induction address using List.reverseRecOn generalizing n with
  | nil => exact ⟨[], .root⟩
  | append_singleton address i ih =>
    -- the node was opened in the run, under a parent that groups lead to
    rcases at?_of_run h with ⟨m, hm⟩ | ⟨e, he, parent, g, hopens⟩
    · exact absurd (at?_fresh hm).1 (by simp)
    · obtain ⟨m, hm, hchild, -⟩ := Event.at?_of_opens hopens
      obtain ⟨rfl, -⟩ := List.append_inj' hchild rfl
      obtain ⟨p, hp, -⟩ := grown_of_before he hm
      obtain ⟨groups, hgroups⟩ := ih hp
      exact ⟨groups ++ [g], .group hgroups he hopens⟩

/-- The settings of a node are those of the groups that lead to it. -/
theorem inherited_of_leads {address : Address} {groups : List Opened}
    (hleads : Leads (history (fresh name debug strict host resolver) operations) address groups)
    {n : Node}
    (h : (run (fresh name debug strict host resolver) operations).root.at? address = some n) :
    Inherited groups n.settings := by
  induction hleads generalizing n with
  | root => exact (root_remains h).grown.inherited_iff.mpr ⟨rfl, rfl, rfl, rfl⟩
  | @group parent child groups g e hparent he hopens ih =>
    obtain ⟨m, hm, -, hchild⟩ := Event.at?_of_opens hopens
    obtain ⟨p, hp, hgrown⟩ := grown_of_before he hm
    obtain ⟨n', hn', hgrown'⟩ := grown_of_after he hchild
    obtain rfl : n' = n := Option.some.inj (hn'.symm.trans h)
    -- the parent had its settings already when the group was opened
    have hthen : Inherited groups m.settings := hgrown.inherited_iff.mp (ih hp)
    exact hgrown'.inherited_iff.mpr (hthen.concat g)

/-- **Every node of a run has what the groups on its way gave it**, and the constraints that have
come to it since. -/
theorem inherits_run {address : Address} {n : Node}
    (h : (run (fresh name debug strict host resolver) operations).root.at? address = some n) :
    Inherits (history (fresh name debug strict host resolver) operations) address n where
  reached := exists_leads h
  settings := fun _ hleads => inherited_of_leads hleads h
  unchanged := by
    intro e he m hm
    obtain ⟨n', hn', hgrown⟩ : ∃ n', (run (fresh name debug strict host resolver)
        operations).root.at? address = some n' ∧ Grown m n' := by
      rcases hm with hm | hm
      · exact grown_of_before he hm
      · exact grown_of_after he hm
    obtain rfl : n' = n := Option.some.inj (hn'.symm.trans h)
    exact hgrown
  rootConstraints := by
    rintro rfl
    rw [(root_remains h).settings]
    rfl
  groupConstraints := by
    intro earlier e later parent g hsplit hopens
    obtain ⟨m, hm, -, hchild⟩ := Event.at?_of_opens hopens
    obtain ⟨rest, rfl, hrun⟩ := exists_run_of_history hsplit
    obtain ⟨n', hn', hremains⟩ := at?_run rest hchild
    obtain rfl : n' = n := Option.some.inj (hn'.symm.trans (hrun ▸ h))
    exact ⟨m, hm, by rw [hremains.settings]; rfl⟩
  routes := by
    intro e he options more action entry hoperation houtcome
    obtain ⟨r, operation⟩ := e
    obtain rfl : operation = .route address options more action := hoperation
    cases Event.succeeds_of_ok houtcome with
    | @route _ _ _ _ _ m d hm houtcome' hafter =>
      obtain rfl : entry = d.entry := by simpa using houtcome.symm.trans houtcome'
      obtain ⟨m', hm', hleaves⟩ := Event.at?_after (e := ⟨r, _⟩) hm
      obtain ⟨n', hn', hgrown⟩ := grown_of_after he hm'
      obtain rfl : n' = n := Option.some.inj (hn'.symm.trans h)
      have hentry : d.entry ∈ m'.routes := by
        rw [hleaves.routes]
        simp [Event.route?, houtcome]
      have hsettings := (hleaves.grown.trans hgrown).settings
      refine ⟨hgrown.routes.subset hentry, m, d, hm, rfl, ?_, ?_⟩
      · rw [hsettings]
        rfl
      · rw [hsettings]
        rfl

end Fresh

/-- A group with a route under a constraint, a mount, and a subgroup. The last operation is refused,
since no node is at its address. -/
def sampleOperations : List Operation :=
  [.group [] (.str "/a") .empty,
    .verb "post" [0] (.str "/:id(x)") .empty (.int 1),
    .serve [0] (.str "/s/:id(y)") (.int 2),
    .group [0] .null .empty,
    .route [1] (.str "/b") .empty (.int 3)]

open scoped CharacterNames.Unnamed

theorem inherits_run_sampleOperations :
    ∃ h : ((run (fresh "sample" false true none .keep) sampleOperations).root.at? [0]).isSome = true,
      Inherits (history (fresh "sample" false true none .keep) sampleOperations) [0]
        (((run (fresh "sample" false true none .keep) sampleOperations).root.at? [0]).get h) :=
  ⟨by decide +kernel, inherits_run (Option.some_get _).symm⟩

end RouteTree.Router
