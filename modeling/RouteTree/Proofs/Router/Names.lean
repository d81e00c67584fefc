import RouteTree.Proofs.OrderedMap.TextKeys
import RouteTree.Proofs.Router.Entries
import RouteTree.Proofs.Router.Inheritance

/-!
# Names of routes

**The registry mirrors the tree** (`mirrors_run`). A route has a name if it has one of its own, and
then its name is that of the groups on its way followed by its own (`name_of_route`); mounts have
none. The registry knows exactly the names of the entries of the tree, in the order in which they
were first given, and knows of each name what was defined under it last, on whatever node.

Entries are kept node by node, names are written one after another; what keeps the two in step is
that an operation writes a name if and only if it returns an entry with that name
(`Event.registry_after`), so that the registry is the map of the named entries of the history.
-/

namespace RouteTree

/-- The name of an entry with what is to be known by it. -/
def Entry.named? (entry : Entry) : Option (String × NamedRoute) :=
  entry.name.map fun name => (name, ⟨entry.uri, entry.constraints⟩)

/-- Of entries by their names, the first is found. -/
theorem lookup_named (entries : List Entry) (name : String) :
    (entries.filterMap (·.named?)).lookup name =
      (entries.find? (·.name == some name)).map fun entry => ⟨entry.uri, entry.constraints⟩ := by
  induction entries with
  | nil => rfl
  | cons entry entries ih =>
    cases hname : entry.name with
    | none =>
      have hnamed : entry.named? = none := by simp [Entry.named?, hname]
      rw [List.filterMap_cons_none hnamed, ih, List.find?_cons_of_neg (by simp [hname])]
    | some known =>
      have hnamed : entry.named? = some (known, ⟨entry.uri, entry.constraints⟩) := by
        simp [Entry.named?, hname]
      rw [List.filterMap_cons_some hnamed, List.lookup_cons]
      by_cases heq : name = known
      · simp [heq, hname]
      · rw [List.find?_cons_of_neg (by simp [hname, Ne.symm heq]), ← ih, beq_false_of_ne heq]

namespace Router

variable [CharacterNames]

namespace Event

/-- What the operation writes into the registry. -/
def named? (e : Event) : Option (String × NamedRoute) := e.defined?.bind (·.named?)

/-- **An operation writes the name of the entry it returns**, if that has one. -/
theorem registry_after (e : Event) :
    e.after.registry.routes = e.before.registry.routes.insertAll e.named?.toList := by
  unfold named?
  cases hout : e.outcome with
  | error fault =>
    rw [after_of_error hout, defined?_of_error hout]
    rfl
  | ok made =>
    cases succeeds_of_ok hout with
    | group hparent hread houtcome hafter =>
      rw [hafter, defined?_of_group houtcome]
      rfl
    | serve d hn houtcome hafter =>
      rw [hafter, defined?_of_entry houtcome]
      rfl
    | @route r address options more action n d hn houtcome hafter =>
      have hname : d.entry.name = if d.read.name.isTruthy then some d.name else none := rfl
      have hregistry : (d.placed address).registry =
          if d.read.name.isTruthy then r.registry.add d.name ⟨d.entry.uri, d.entry.constraints⟩
          else r.registry := rfl
      rw [hafter, defined?_of_entry houtcome, Option.bind_some, Entry.named?, hname, hregistry]
      cases d.read.name.isTruthy <;> rfl

end Event

theorem registry_run (r : Router) (operations : List Operation) :
    (run r operations).registry.routes =
      r.registry.routes.insertAll ((history r operations).filterMap (·.named?)) := by
  induction operations generalizing r with
  | nil => rfl
  | cons operation rest ih =>
    rw [run, ih, Event.registry_after, ← OrderedMap.insertAll_append, history]
    cases hnamed : Event.named? ⟨r, operation⟩ with
    | none => rw [List.filterMap_cons_none hnamed, Option.toList_none, List.nil_append]
    | some named => rw [List.filterMap_cons_some hnamed, Option.toList_some, List.singleton_append]

/-! ## The name of a route -/

omit [CharacterNames] in
theorem eq_map_of_mapM_asText {names : List Value} {texts : List String}
    (h : names.mapM asText = .ok texts) : names = texts.map .str := by
  induction names generalizing texts with
  | nil =>
    obtain rfl : [] = texts := Except.ok.inj h
    rfl
  | cons v names ih =>
    rw [List.mapM_cons] at h
    cases v with
    | str text =>
      cases hrest : names.mapM asText with
      | error fault =>
        rw [hrest] at h
        exact absurd h nofun
      | ok rest =>
        rw [hrest] at h
        obtain rfl : text :: rest = texts := Except.ok.inj h
        rw [ih hrest, List.map_cons]
    | _ => exact absurd h nofun

omit [CharacterNames] in
/-- A full name is put together from texts. -/
theorem eq_of_fullName {names : List Value} {own : Value} {name : String}
    (h : fullName names own = .ok name) :
    ∃ texts text, names = texts.map .str ∧ own = .str text ∧ name = String.join texts ++ text := by
  unfold fullName at h
  cases htexts : names.mapM asText with
  | error fault =>
    rw [htexts] at h
    exact absurd h nofun
  | ok texts =>
    rw [htexts] at h
    cases own with
    | str text =>
      obtain rfl : String.join (texts ++ [text]) = name := Except.ok.inj h
      refine ⟨texts, text, eq_map_of_mapM_asText htexts, rfl, ?_⟩
      simp [String.join, List.foldl_append]
    | _ => exact absurd h nofun

/-- A route has a name if it has one of its own, which stands behind those of the groups. -/
theorem RouteReading.name_entry {r : Router} {around : Settings} {options : Value} {more : Params}
    {action : Value} (d : RouteReading r around options more action) :
    ∃ texts own, around.names = texts.map .str ∧ d.read.name = .str own ∧
      d.entry.name = if own = "" then none else some (String.join texts ++ own) := by
  obtain ⟨texts, own, htexts, hown, hname⟩ := eq_of_fullName d.name_eq
  refine ⟨texts, own, htexts, hown, ?_⟩
  have htruthy : d.read.name.isTruthy = !own.isEmpty := by
    rw [hown]
    rfl
  rw [entry, htruthy, hname]
  by_cases hempty : own = ""
  · simp [hempty]
  · simp [hempty]

/-! ## What the registry knows -/

/-- The entry that a run returned last under a name. -/
def lastNamed (events : List Event) (name : String) : Option Entry :=
  (events.filterMap (·.defined?)).reverse.find? fun entry => entry.name == some name

/-- The names of the entries that a run returned, in order. -/
def namesGiven (events : List Event) : List String :=
  (events.filterMap (·.defined?)).filterMap (·.name)

theorem filterMap_named (events : List Event) :
    events.filterMap (·.named?) = (events.filterMap (·.defined?)).filterMap (·.named?) := by
  rw [List.filterMap_filterMap]
  rfl

theorem map_fst_named (events : List Event) :
    (events.filterMap (·.named?)).map (·.1) = namesGiven events := by
  rw [filterMap_named, namesGiven, List.map_filterMap]
  congr 1
  funext entry
  unfold Entry.named?
  cases entry.name <;> rfl

theorem lookup_reverse_named (events : List Event) (name : String) :
    (events.filterMap (·.named?)).reverse.lookup name =
      (lastNamed events name).map fun entry => ⟨entry.uri, entry.constraints⟩ := by
  rw [filterMap_named, ← List.filterMap_reverse, lookup_named]
  rfl

/-- What a router knows by name, by the events of the run that it ends. -/
structure Mirrors (events : List Event) (r : Router) : Prop where
  /-- The tree has the entries that were returned, each as often. -/
  entries : r.root.entries.Perm (events.filterMap (·.defined?))
  /-- A route is named by the groups on its way and by itself, if it has a name of its own. -/
  naming : ∀ e ∈ events, ∀ address options more action entry,
    e.operation = .route address options more action → e.outcome = .ok (.entry entry) →
      ∃ groups texts read own, Leads events address groups ∧
        groups.map (·.options.naming) = texts.map .str ∧
        RouteOptions.ofValue options more = .ok read ∧ read.name = .str own ∧
        entry.name = if own = "" then none else some (String.join texts ++ own)
  unnamed : ∀ e ∈ events, ∀ address uri static entry,
    e.operation = .serve address uri static → e.outcome = .ok (.entry entry) → entry.name = none
  contains : ∀ name, r.registry.contains (.str name) = .ok true ↔
    ∃ entry ∈ r.root.entries, entry.name = some name
  /-- The names are listed in the order in which they were first given. -/
  names : r.registry.names = (namesGiven events).eraseDups
  size : r.registry.size = (namesGiven events).eraseDups.length
  /-- What was defined last under a name is what is known of it. -/
  get : ∀ name, r.registry.get name = match lastNamed events name with
    | some entry => .ok ⟨entry.uri, entry.constraints⟩
    | none => .error (.unknownRoute (.str name))
  /-- The names are those of the router, so every node of it gives this url. -/
  url : ∀ serializers name params options, r.url serializers name params options =
    match lastNamed events name with
    | some entry => Url.build serializers entry.uri params entry.constraints options
    | none => .error (.unknownRoute (.str name))

section Fresh
variable (name : String) (debug strict : Bool) (host : Option Host) (resolver : Resolver)
  (operations : List Operation)

/-- The registry of a run is the map of the named entries. -/
theorem registry_run_fresh :
    (run (fresh name debug strict host resolver) operations).registry.routes =
      OrderedMap.ofList
        ((history (fresh name debug strict host resolver) operations).filterMap (·.named?)) :=
  registry_run _ operations

/-- The groups on the way to a route give the names in its node. -/
theorem name_of_route {e : Event}
    (he : e ∈ history (fresh name debug strict host resolver) operations) {address : Address}
    {options : Value} {more : Params} {action : Value} {entry : Entry}
    (hoperation : e.operation = .route address options more action)
    (houtcome : e.outcome = .ok (.entry entry)) :
    ∃ groups texts read own,
      Leads (history (fresh name debug strict host resolver) operations) address groups ∧
      groups.map (·.options.naming) = texts.map .str ∧
      RouteOptions.ofValue options more = .ok read ∧ read.name = .str own ∧
      entry.name = if own = "" then none else some (String.join texts ++ own) := by
  obtain ⟨r, operation⟩ := e
  obtain rfl : operation = .route address options more action := hoperation
  cases Event.succeeds_of_ok houtcome with
  | @route _ _ _ _ _ m d hm houtcome' hafter =>
    obtain rfl : entry = d.entry := by simpa using houtcome.symm.trans houtcome'
    obtain ⟨n, hn, hgrown⟩ := grown_of_before he hm
    obtain ⟨groups, hgroups⟩ := exists_leads hn
    obtain ⟨texts, own, htexts, hown, hname⟩ := d.name_entry
    have hinherited := hgrown.inherited_iff.mp (inherited_of_leads hgroups hn)
    exact ⟨groups, texts, d.read, own, hgroups, hinherited.names.symm.trans htexts, d.read_eq, hown,
      hname⟩

theorem name_of_mount {e : Event} {address : Address} {uri static : Value} {entry : Entry}
    (hoperation : e.operation = .serve address uri static)
    (houtcome : e.outcome = .ok (.entry entry)) : entry.name = none := by
  obtain ⟨r, operation⟩ := e
  obtain rfl : operation = .serve address uri static := hoperation
  cases Event.succeeds_of_ok houtcome with
  | serve d hm houtcome' hafter =>
    obtain rfl : entry = d.entry := by simpa using houtcome.symm.trans houtcome'
    rfl

/-- **The registry mirrors the tree.** -/
theorem mirrors_run :
    Mirrors (history (fresh name debug strict host resolver) operations)
      (run (fresh name debug strict host resolver) operations) := by
  have hroutes := registry_run_fresh name debug strict host resolver operations
  have hentries := entries_run_fresh name debug strict host resolver operations
  generalize hevents : history (fresh name debug strict host resolver) operations = events at *
  generalize run (fresh name debug strict host resolver) operations = r at *
  have hkeys : r.registry.routes.keys = (namesGiven events).eraseDups := by
    rw [hroutes, OrderedMap.keys_ofList, map_fst_named]
  have hget : ∀ name, r.registry.get name = match lastNamed events name with
      | some entry => .ok ⟨entry.uri, entry.constraints⟩
      | none => .error (.unknownRoute (.str name)) := by
    intro name
    rw [Registry.get, hroutes, OrderedMap.get?_ofList, lookup_reverse_named]
    cases lastNamed events name <;> rfl
  refine ⟨hentries, ?_, fun _ _ _ _ _ _ => name_of_mount, fun name => ?_, hkeys, ?_, hget, ?_⟩
  · subst hevents
    exact fun e he _ _ _ _ _ => name_of_route _ _ _ _ _ _ he
  · -- both sides say that the name was given
    have hgiven : r.registry.contains (.str name) = .ok true ↔ name ∈ namesGiven events := by
      rw [Registry.contains, OrderedMap.contains_eq_contains_keys, hkeys]
      simp [List.mem_eraseDups]
    rw [hgiven, namesGiven, List.mem_filterMap]
    exact exists_congr fun entry => and_congr_left fun _ => hentries.mem_iff.symm
  · rw [← hkeys, Registry.size, OrderedMap.size, OrderedMap.keys, List.length_map]
  · intro serializers name params options
    rw [Router.url, Registry.url, hget]
    cases lastNamed events name <;> rfl

end Fresh

end Router

end RouteTree
