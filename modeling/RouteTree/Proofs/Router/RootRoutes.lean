import RouteTree.Proofs.Router.Accepting
import RouteTree.Proofs.Template.Paths
import RouteTree.Proofs.Value.Keys

/-!
# Routes at the root

A uri is joined before its constraints are taken out of it, so a run of slashes in a constraint is
written as one slash, as it is anywhere else in a uri. **A route at the root has the constraints of
its uri, each with single slashes** (`root_constraints`): without a run of slashes they are those
that the uri is compiled to by itself. The prefix of a group is compiled before it is joined, and
its constraints stay as they are.
-/

namespace RouteTree.Router

open Text Template

section

variable [CharacterNames]

/-- The constraints of a template, each with single slashes. -/
def squeezedConstraints (template : String) : Except Fault Constraints :=
  constraintsOf ((constrainedIn template.toList).map Constrained.squeezed)

/-- Without runs of slashes, the constraints are those that the template is compiled to. -/
theorem squeezedConstraints_eq {template : String} {strict : Bool} {c : Compiled}
    (h : Template.compile template strict = .ok c)
    (hsingle : ∀ d ∈ constrainedIn template.toList, ¬ ['/', '/'] <:+: d.body) :
    squeezedConstraints template = .ok c.constraints := by
  rw [squeezedConstraints, map_squeezed_eq_self hsingle]
  exact (eq_of_compile h).1

theorem empty_override_of_squeezed {template : String} {constraints : Constraints}
    (h : squeezedConstraints template = .ok constraints) :
    OrderedMap.empty.override constraints = constraints := by
  obtain ⟨anchored, hfound, hanchored⟩ := exists_of_constraintsOf h
  have hmade := constraintsOf_eq_ok hanchored
  rw [hfound] at hmade
  obtain rfl := Except.ok.inj (hmade.symm.trans h)
  rw [OrderedMap.withTextKeys_ofList, OrderedMap.empty_override_ofList]

theorem exists_pathOf_of_squeezed {template : String} {constraints : Constraints}
    (h : squeezedConstraints template = .ok constraints) (uri : String) :
    ∃ path, pathOf uri constraints = .ok path := by
  refine exists_path_of_constraintsOf h (fun d hd => ?_) uri
  obtain ⟨written, hwritten, rfl⟩ := List.mem_map.mp hd
  exact (bodyText_squeeze_iff written.body).1.mpr (bodyText_of_mem_constrainedIn hwritten)

/-! ## Routes and mounts with the uri -/

/-- The entry has been defined at the root of the router under the uri, with no other constraints. -/
inductive DefinedAtRoot (r : Router) (template : String) : Entry → Prop where
  | route {options : Value} {more : Params} {read : RouteOptions} {action : Value} {entry : Entry}
      {r' : Router} (read_eq : RouteOptions.ofValue options more = .ok read)
      (uri_eq : read.uri = .str template) (constraints_eq : read.constraints = .empty)
      (yields : (defineRoute [] options more action).Yields r entry r') :
      DefinedAtRoot r template entry
  | serve {static : Value} {entry : Entry} {r' : Router}
      (yields : (serve [] (.str template) static).Yields r entry r') :
      DefinedAtRoot r template entry

/-- What a uri is compiled to at the root has the constraints with single slashes. -/
theorem squeezed_of_compile_root {template uri : String} {strict : Bool} {c : Compiled}
    (huri : joinedUri [] (.str template) = .ok uri)
    (hcompiled : Template.compile uri strict = .ok c) :
    squeezedConstraints template = .ok c.constraints := by
  rw [joinedUri_str] at huri
  obtain rfl := Except.ok.inj huri
  exact constraintsOf_of_compile_join hcompiled

section Fresh
variable {name : String} {debug strict : Bool} {host : Option Host} {resolver : Resolver}
  {template : String}

theorem squeezed_of_definedAtRoot {entry : Entry}
    (h : DefinedAtRoot (fresh name debug strict host resolver) template entry) :
    squeezedConstraints template = .ok entry.constraints := by
  cases h with
  | route hread huri hbare hyields =>
    obtain ⟨n, d, hn, rfl, -⟩ := defineRoute_ok hyields
    obtain rfl : Node.leaf {} = n := Option.some.inj hn
    obtain rfl := Except.ok.inj (hread.symm.trans d.read_eq)
    have hjoined := d.uri_eq
    rw [huri] at hjoined
    have hsqueezed := squeezed_of_compile_root hjoined d.compiled_eq
    have hown : OrderedMap.empty = d.own := by
      have hanchored := d.own_eq
      rw [hbare] at hanchored
      exact Except.ok.inj hanchored
    have hconstraints : d.entry.constraints = d.compiled.constraints := by
      change (OrderedMap.empty.override d.compiled.constraints).override d.own = _
      rw [empty_override_of_squeezed hsqueezed, ← hown]
      rfl
    rw [hconstraints, hsqueezed]
  | serve hyields =>
    obtain ⟨n, d, hn, rfl, -⟩ := serve_ok hyields
    obtain rfl : Node.leaf {} = n := Option.some.inj hn
    have hsqueezed := squeezed_of_compile_root d.joined_eq d.compiled_eq
    have hconstraints : d.entry.constraints = d.compiled.constraints :=
      empty_override_of_squeezed hsqueezed
    rw [hconstraints, hsqueezed]

end Fresh

/-- **A route at the root has the constraints of its uri, each with single slashes.** -/
theorem root_constraints {template : String} {c : Compiled}
    (h : Template.compile template true = .ok c) (name : String) (debug : Bool)
    (host : Option Host) (resolver : Resolver) :
    (∀ entry, DefinedAtRoot (fresh name debug true host resolver) template entry →
      squeezedConstraints template = .ok entry.constraints) ∧
    ((∀ d ∈ constrainedIn template.toList, ¬ ['/', '/'] <:+: d.body) →
      squeezedConstraints template = .ok c.constraints) ∧
    ∀ constraints, squeezedConstraints template = .ok constraints →
      (∀ options more read action, RouteOptions.ofValue options more = .ok read →
        read.uri = .str template → (fresh name debug true host resolver).Accepts read action →
        ∃ entry, (defineRoute [] options more action
            (fresh name debug true host resolver)).outcome = .ok entry ∧
          entry.constraints = constraints) ∧
      ∀ static, (∀ entry, ((fresh name debug true host resolver).register "use" entry).outcome =
          .ok ()) →
        ∃ entry, (serve [] (.str template) static
            (fresh name debug true host resolver)).outcome = .ok entry ∧
          entry.constraints = constraints := by
  refine ⟨fun entry hentry => squeezed_of_definedAtRoot hentry, squeezedConstraints_eq h,
    fun constraints hconstraints => ?_⟩
  have hroot : (fresh name debug true host resolver).root.at? [] = some (.leaf {}) := rfl
  have hcompiled : Template.compile (join ([] ++ [template])) true =
      .ok ⟨join [c.uri], constraints, false⟩ := compile_join_singleton h hconstraints true
  have hkept := empty_override_of_squeezed hconstraints
  obtain ⟨path, hpath⟩ := exists_pathOf_of_squeezed hconstraints (join [c.uri])
  rw [← hkept] at hpath
  refine ⟨fun options more read action hread huri haccepts => ?_, fun static htakes => ?_⟩
  · obtain ⟨full, hname⟩ := haccepts.exists_fullName
    obtain ⟨entry, hentry, -, hequal⟩ :=
      exists_defineRoute hroot hread huri hcompiled hname hpath haccepts
    exact ⟨entry, hentry, hequal.trans hkept⟩
  · obtain ⟨entry, hentry, -, hequal⟩ := exists_serve hroot hcompiled hpath htakes
    exact ⟨entry, hentry, hequal.trans hkept⟩

end

open scoped CharacterNames.Unnamed

theorem root_constraints_singleSlash :
    ∃ entry, (defineRoute [] (.str "/:u(a/b)") .empty (.str "h")
        (fresh "sample" false true none .keep)).outcome = .ok entry ∧
      entry.constraints.mapValues (·.source) = ⟨[(.str "u", "^a/b$")]⟩ := by
  have hcompiled : ∃ c, Template.compile "/:u(a/b)" true = .ok c ∧
      c.constraints.mapValues (·.source) = ⟨[(.str "u", "^a/b$")]⟩ := ⟨_, rfl, rfl⟩
  obtain ⟨c, hc, hsources⟩ := hcompiled
  obtain ⟨-, hsame, hdefined⟩ := root_constraints hc "sample" false none .keep
  have hfound : constrainedIn "/:u(a/b)".toList = [⟨⟨['u'], false⟩, [':', 'u'], ['a', '/', 'b']⟩] :=
    rfl
  have hsingle : ∀ d ∈ constrainedIn "/:u(a/b)".toList, ¬ ['/', '/'] <:+: d.body := by
    rw [hfound]
    decide
  obtain ⟨hroute, -⟩ := hdefined c.constraints (hsame hsingle)
  obtain ⟨entry, hentry, hconstraints⟩ := hroute (.str "/:u(a/b)") .empty
    ⟨"get", .str "/:u(a/b)", [], .str "", .empty, .empty, .empty⟩ (.str "h") rfl rfl
    ⟨⟨"", rfl⟩, rfl, fun _ _ => ⟨.str "h", rfl⟩, fun _ => rfl⟩
  exact ⟨entry, hentry, by rw [hconstraints, hsources]⟩

/-- With a run of slashes in its constraint, a uri is registered with another constraint than it has
by itself. -/
theorem root_constraints_doubleSlash :
    ∃ c entry, Template.compile "/:u(a//b)" true = .ok c ∧
      c.constraints.mapValues (·.source) = ⟨[(.str "u", "^a//b$")]⟩ ∧
      (defineRoute [] (.str "/:u(a//b)") .empty (.str "h")
        (fresh "sample" false true none .keep)).outcome = .ok entry ∧
      entry.constraints.mapValues (·.source) = ⟨[(.str "u", "^a/b$")]⟩ :=
  ⟨_, _, rfl, rfl, rfl, rfl⟩

end RouteTree.Router
