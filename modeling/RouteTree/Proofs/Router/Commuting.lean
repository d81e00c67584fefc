import RouteTree.Proofs.Router.Plans

/-!
# Operations on different nodes

**Operations on two nodes do not interfere** (`operations_commute`), also if one node lies below the
other. Whichever comes first, each is answered as if the other had not been there, and the tree
comes out the same. The registry, which all nodes share, knows the same in the end, unless both
operations write the same name; then the later one wins.

What an operation reads of its node are the settings and the number of subgroups, and an operation
elsewhere leaves both as they are (`Node.at?_modifyAt_of_ne`). So it reads the same plan
(`act_after`), and what is left is that the two plans can be carried out in either order.
-/

namespace RouteTree.Router

/-- Both operations are not refused, and write the same name. -/
def WriteOneName [CharacterNames] (r : Router) (x y : Operation) : Prop :=
  ∃ name entry entry', Event.defined? ⟨r, x⟩ = some entry ∧ Event.defined? ⟨r, y⟩ = some entry' ∧
    entry.name = some name ∧ entry'.name = some name

/-- What two operations come to in either order. -/
structure Commutes [CharacterNames] (r : Router) (x y : Operation) : Prop where
  /-- The first is answered behind the second as it is by itself. -/
  first : (x.act (Event.after ⟨r, y⟩)).toAttempt = (x.act r).toAttempt
  second : (y.act (Event.after ⟨r, x⟩)).toAttempt = (y.act r).toAttempt
  root : (run r [x, y]).root = (run r [y, x]).root
  registry : ¬ WriteOneName r x y →
    ∀ name, (run r [x, y]).registry.get name = (run r [y, x]).registry.get name

/-! ## Plans carried out one after another -/

theorem made_congr (p : Plan) (address : Address) {n n' : Node}
    (h : n'.groups.length = n.groups.length) : p.made address n' = p.made address n := by
  cases p with
  | group settings => rw [Plan.made, Plan.made, h]
  | route kept entry => rfl
  | mount entry => rfl

theorem carried_congr (r : Router) (address : Address) {n n' : Node}
    (h : n'.groups.length = n.groups.length) (reading : Attempt Plan) :
    r.carried address n' reading = r.carried address n reading := by
  unfold carried
  cases reading.outcome with
  | error fault => rfl
  | ok p => simp only [made_congr p address h]

/-- The answer does not depend on the router that a plan is carried out on. -/
theorem toAttempt_carried (r r' : Router) (address : Address) (n : Node) (reading : Attempt Plan) :
    (r'.carried address n reading).toAttempt = (r.carried address n reading).toAttempt := by
  unfold carried
  cases reading.outcome <;> rfl

section

variable [CharacterNames]

/-- An operation leaves the settings of other nodes, and what a router has from the beginning. -/
theorem plan_after {x y : Operation} {r : Router} {n m : Node} (hne : x.address ≠ y.address)
    (hx : r.root.at? x.address = some n) (hy : r.root.at? y.address = some m) :
    ∃ n', (Event.after ⟨r, y⟩).root.at? x.address = some n' ∧
      n'.groups.length = n.groups.length ∧
      x.plan (Event.after ⟨r, y⟩) n'.settings = x.plan r n.settings := by
  rw [Event.after, act_of_at? hy]
  cases hplan : (y.plan r m.settings).outcome with
  | error fault => exact ⟨n, by rw [(carried_of_error hplan).2, hx], rfl, by
      rw [(carried_of_error hplan).2]⟩
  | ok p =>
    obtain ⟨n', hn', hsettings, hlength⟩ := Node.at?_modifyAt_of_ne p.extends_change hx hne
    rw [(carried_of_ok hplan).2]
    refine ⟨n', hn', hlength, ?_⟩
    rw [hsettings]
    exact x.plan_congr n.settings rfl rfl rfl

/-- **Behind an operation on another node, an operation carries the same plan out.** -/
theorem act_after {x y : Operation} {r : Router} {n m : Node} (hne : x.address ≠ y.address)
    (hx : r.root.at? x.address = some n) (hy : r.root.at? y.address = some m) :
    x.act (Event.after ⟨r, y⟩) =
      (Event.after ⟨r, y⟩).carried x.address n (x.plan r n.settings) := by
  obtain ⟨n', hn', hlength, hplan⟩ := plan_after hne hx hy
  rw [act_of_at? hn', hplan, carried_congr _ _ hlength]

omit [CharacterNames] in
/-- Plans for two nodes can be carried out in either order, as far as the tree goes. -/
theorem root_carried_comm {r : Router} {a b : Address} {n m : Node} (hne : a ≠ b)
    (ha : r.root.at? a = some n) (hb : r.root.at? b = some m) (first second : Attempt Plan) :
    ((r.carried a n first).router.carried b m second).router.root =
      ((r.carried b m second).router.carried a n first).router.root := by
  unfold carried
  cases first.outcome <;> cases second.outcome <;> try rfl
  rename_i p q
  exact Node.modifyAt_comm p.shallow_change q.shallow_change ha hb hne

omit [CharacterNames] in
theorem get_insertAll_comm {m : OrderedMap String NamedRoute}
    {first second : Option (String × NamedRoute)}
    (h : ∀ w ∈ first, ∀ w' ∈ second, w.1 ≠ w'.1) (name : String) :
    ((m.insertAll first.toList).insertAll second.toList).get? name =
      ((m.insertAll second.toList).insertAll first.toList).get? name := by
  cases first with
  | none => rfl
  | some w =>
    cases second with
    | none => rfl
    | some w' =>
      obtain ⟨k, v⟩ := w
      obtain ⟨k', v'⟩ := w'
      have hne : k ≠ k' := h _ rfl _ rfl
      simp only [Option.toList_some, OrderedMap.insertAll_cons, OrderedMap.insertAll_nil,
        OrderedMap.get?_insert]
      by_cases hk : k = name
      · have hk' : k' ≠ name := fun h' => hne (hk.trans h'.symm)
        simp [hk, hk']
      · simp [hk]

/-! ## Operations in either order -/

namespace Event

/-- What is returned is told by the answer. -/
theorem defined?_congr {x : Operation} {r r' : Router}
    (h : (x.act r').toAttempt = (x.act r).toAttempt) :
    defined? ⟨r', x⟩ = defined? ⟨r, x⟩ := by
  have houtcome : outcome ⟨r', x⟩ = outcome ⟨r, x⟩ := congrArg Attempt.outcome h
  rw [defined?, defined?, houtcome]

theorem exists_of_named {e : Event} {w : String × NamedRoute} (h : w ∈ e.named?) :
    ∃ entry, e.defined? = some entry ∧ entry.name = some w.1 := by
  obtain ⟨entry, hentry, hnamed⟩ := Option.bind_eq_some_iff.mp h
  obtain ⟨name, hname, rfl⟩ := Option.map_eq_some_iff.mp hnamed
  exact ⟨entry, hentry, hname⟩

end Event

/-- An operation that is answered as if it came first writes what it writes then. -/
theorem routes_run_pair {r : Router} {x y : Operation}
    (hanswer : (y.act (Event.after ⟨r, x⟩)).toAttempt = (y.act r).toAttempt) :
    (run r [x, y]).registry.routes =
      (r.registry.routes.insertAll (Event.named? ⟨r, x⟩).toList).insertAll
        (Event.named? ⟨r, y⟩).toList := by
  have hnamed : Event.named? ⟨Event.after ⟨r, x⟩, y⟩ = Event.named? ⟨r, y⟩ :=
    congrArg (Option.bind · Entry.named?) (Event.defined?_congr hanswer)
  change (Event.after ⟨Event.after ⟨r, x⟩, y⟩).registry.routes = _
  rw [Event.registry_after, Event.registry_after, hnamed]

/-- **Operations on different nodes do not interfere.** -/
theorem operations_commute {r : Router} {x y : Operation} {n m : Node}
    (hne : x.address ≠ y.address) (hx : r.root.at? x.address = some n)
    (hy : r.root.at? y.address = some m) : Commutes r x y := by
  have hfirst : (x.act (Event.after ⟨r, y⟩)).toAttempt = (x.act r).toAttempt := by
    rw [act_after hne hx hy, act_of_at? hx, toAttempt_carried]
  have hsecond : (y.act (Event.after ⟨r, x⟩)).toAttempt = (y.act r).toAttempt := by
    rw [act_after hne.symm hy hx, act_of_at? hy, toAttempt_carried]
  refine ⟨hfirst, hsecond, ?_, fun hnames name => ?_⟩
  · change (y.act (Event.after ⟨r, x⟩)).router.root = (x.act (Event.after ⟨r, y⟩)).router.root
    rw [act_after hne hx hy, act_after hne.symm hy hx, Event.after, Event.after, act_of_at? hx,
      act_of_at? hy]
    exact root_carried_comm hne hx hy _ _
  · rw [Registry.get, Registry.get, routes_run_pair hsecond, routes_run_pair hfirst,
      get_insertAll_comm fun w hw w' hw' hsame => hnames ?_]
    obtain ⟨entry, hentry, hname⟩ := Event.exists_of_named hw
    obtain ⟨entry', hentry', hname'⟩ := Event.exists_of_named hw'
    exact ⟨w.1, entry, entry', hentry, hentry', hname, hsame ▸ hname'⟩

end

open scoped CharacterNames.Unnamed

/-- A named route on the root and a group inside a group of the root. -/
theorem operations_commute_sampleOperations :
    ((run (fresh "sample" false true none .keep) sampleOperations).root.at? [0]).isSome = true ∧
      Commutes (run (fresh "sample" false true none .keep) sampleOperations)
        (.route [] (.map [(.str "uri", .str "/:id(z)"), (.str "name", .str "n")]) .empty (.int 4))
        (.group [0] (.str "/c") .empty) :=
  ⟨by decide +kernel,
    operations_commute (by decide) rfl (Option.some_get (by decide +kernel)).symm⟩

end RouteTree.Router
