import RouteTree.Proofs.Router.Plans
import RouteTree.Proofs.Template.Joining
import RouteTree.Proofs.Template.Recompiling

/-!
# Uris of routes

Every route of a router has a uri that was compiled from joined segments (`Event.exists_compiles`),
the first of which were compiled before as the prefixes of groups. Whatever the segments are, **the
uri begins with a slash, has no two slashes side by side and no parameter in braces**, also where a
constraint is left in it; **and if the log does not tell that one is, it has no backslash**
(`normal_run`).

That the log tells is said of the operation as a whole: on the way to a route there is one warning
for a template in which a constraint is left, and no other (`Compiles`).
-/

namespace RouteTree

/-! ## Warnings -/

/-- Is it a warning? -/
def Effect.isWarning : Effect → Bool
  | .notice .warning _ => true
  | _ => false

namespace Attempt

variable {α β : Type}

/-- The attempt does not warn, whatever comes of it. -/
def Quiet (x : Attempt α) : Prop := ∀ effect ∈ x.effects, effect.isWarning = false

/-- The warnings of an attempt. -/
def warnings (x : Attempt α) : List Effect := x.effects.filter (·.isWarning)

theorem quiet_ofExcept (x : Except Fault α) : (ofExcept x).Quiet := nofun

theorem quiet_emit {effect : Effect} (h : effect.isWarning = false) : (emit effect).Quiet := by
  intro other hother
  rw [List.mem_singleton.mp hother]
  exact h

theorem Quiet.bind {x : Attempt α} {next : α → Attempt β} (hx : x.Quiet)
    (hnext : ∀ a, (next a).Quiet) : (x >>= next).Quiet := by
  show (x.andThen next).Quiet
  unfold andThen
  cases x.outcome with
  | error fault => exact hx
  | ok a =>
    intro effect heffect
    rcases List.mem_append.mp heffect with hfirst | hsecond
    · exact hx effect hfirst
    · exact hnext a effect hsecond

theorem Quiet.warnings {x : Attempt α} (hx : x.Quiet) : x.warnings = [] :=
  List.filter_eq_nil_iff.mpr fun effect heffect => by simp [hx effect heffect]

/-- What two attempts in a row warn of, if both succeed. -/
theorem warnings_of_bind {x : Attempt α} {next : α → Attempt β} {b : β}
    (h : (x >>= next).outcome = .ok b) :
    ∃ a, x.outcome = .ok a ∧ (next a).outcome = .ok b ∧
      (x >>= next).warnings = x.warnings ++ (next a).warnings := by
  obtain ⟨a, hx, hnext⟩ := ok_of_bind h
  refine ⟨a, hx, hnext, ?_⟩
  show (x.andThen next).warnings = _
  simp only [andThen, hx, warnings, List.filter_append]

/-- After an attempt that does not warn, the warnings are those of the next. -/
theorem Quiet.warnings_of_bind {x : Attempt α} {next : α → Attempt β} {b : β} (hx : x.Quiet)
    (h : (x >>= next).outcome = .ok b) :
    ∃ a, x.outcome = .ok a ∧ (next a).outcome = .ok b ∧
      (x >>= next).warnings = (next a).warnings := by
  obtain ⟨a, ha, hnext, hwarnings⟩ := Attempt.warnings_of_bind h
  rw [hx.warnings, List.nil_append] at hwarnings
  exact ⟨a, ha, hnext, hwarnings⟩

end Attempt

namespace Router

open Template

/-- The warning that a constraint is left in a template. -/
def openWarning (template : String) : Effect :=
  .notice .warning ("Unparsed inline constraint left in " ++ Text.quoted template)

/-- A compilation warns if a constraint is left. -/
theorem warnings_compile [CharacterNames] {r : Router} {template : String} {c : Compiled}
    (h : (r.compile template).outcome = .ok c) :
    (r.compile template).warnings = if c.malformed then [openWarning template] else [] := by
  have hcompiled := compile_ok h
  unfold compile
  rw [hcompiled]
  cases hmalformed : c.malformed <;>
    simp [Attempt.ofExcept, Attempt.andThen, Attempt.notice, Attempt.emit, Attempt.succeed,
      Attempt.warnings, Effect.isWarning, openWarning, hmalformed]

theorem quiet_resolve (resolver : Resolver) (action : Value) (description : Description)
    (options : RouteOptions) : (resolver.resolve action description options).Quiet := by
  cases resolver with
  | keep | unusable => exact nofun
  | ask mapper => exact (Attempt.quiet_emit rfl).bind fun _ => Attempt.quiet_ofExcept _

theorem quiet_register (r : Router) (method : String) (entry : Entry) :
    (r.register method entry).Quiet := by
  unfold register
  split
  · exact nofun
  · split
    · exact nofun
    · refine (Attempt.quiet_emit rfl).bind fun _ => ?_
      exact (Attempt.quiet_ofExcept _).bind fun _ => Attempt.quiet_emit rfl

section

variable [CharacterNames]

/-- Behind the compilation of its uri, the reading of a route does not warn. -/
theorem quiet_planEntry (r : Router) (around : Settings) (read : RouteOptions) (uri : String)
    (kept : Constraints) (action : Value) : (r.planEntry around read uri kept action).Quiet := by
  refine (Attempt.quiet_ofExcept _).bind fun name => ?_
  refine (Attempt.quiet_ofExcept _).bind fun own => ?_
  refine (quiet_resolve _ _ _ _).bind fun handler => ?_
  refine (Attempt.quiet_ofExcept _).bind fun path => ?_
  exact (quiet_register _ _ _).bind fun _ => nofun

/-! ## What a uri is compiled from -/

omit [CharacterNames] in
theorem exists_of_joinedUri {uris : List String} {segment : Value} {uri : String}
    (h : joinedUri uris segment = .ok uri) : ∃ segments, uri = Template.join segments := by
  unfold joinedUri at h
  split at h
  · exact ⟨_, (Except.ok.inj h).symm⟩
  · split at h
    · exact ⟨_, (Except.ok.inj h).symm⟩
    · cases h

/-- The uri is compiled from joined segments, and the warnings tell whether a constraint is left in
them. -/
structure Compiles (strict : Bool) (uri : String) (warnings : List Effect) (segments : List String)
    (c : Compiled) : Prop where
  compiled : Template.compile (Template.join segments) strict = .ok c
  uri : uri = c.uri
  warnings : warnings = if c.malformed then [openWarning (Template.join segments)] else []

theorem Compiles.malformed {strict : Bool} {uri : String} {segments : List String} {c : Compiled}
    (h : Compiles strict uri [] segments c) : c.malformed = false := by
  by_contra hmalformed
  have hwarnings := h.warnings
  rw [if_pos (by simpa using hmalformed)] at hwarnings
  exact absurd hwarnings nofun

theorem compiles_of_planRoute {r : Router} {around : Settings} {options : Value} {more : Params}
    {action : Value} {p : Plan} (h : (r.planRoute around options more action).outcome = .ok p) :
    ∃ entry segments c, p.entry? = some entry ∧
      Compiles r.strict entry.uri (r.planRoute around options more action).warnings segments c := by
  obtain ⟨read, -, h, hread⟩ := (Attempt.quiet_ofExcept _).warnings_of_bind h
  obtain ⟨uri, huri, h, hjoined⟩ := (Attempt.quiet_ofExcept _).warnings_of_bind h
  obtain ⟨c, hcompile, h, hcompiled⟩ := Attempt.warnings_of_bind h
  obtain ⟨entry, rfl, hentry⟩ := exists_of_planEntry h
  obtain ⟨segments, rfl⟩ := exists_of_joinedUri huri
  refine ⟨entry, segments, c, rfl, compile_ok hcompile, hentry, ?_⟩
  rw [← warnings_compile hcompile]
  refine (hread.trans (hjoined.trans hcompiled)).trans ?_
  rw [(quiet_planEntry _ _ _ _ _ _).warnings, List.append_nil]

theorem compiles_of_planServe {r : Router} {around : Settings} {uri static : Value} {p : Plan}
    (h : (r.planServe around uri static).outcome = .ok p) :
    ∃ entry segments c, p.entry? = some entry ∧
      Compiles r.strict entry.uri (r.planServe around uri static).warnings segments c := by
  obtain ⟨joined, huri, h, hjoined⟩ := (Attempt.quiet_ofExcept _).warnings_of_bind h
  obtain ⟨c, hcompile, h, hcompiled⟩ := Attempt.warnings_of_bind h
  obtain ⟨path, -, h, hpath⟩ := (Attempt.quiet_ofExcept _).warnings_of_bind h
  obtain ⟨_, -, h, hregistered⟩ := (quiet_register _ _ _).warnings_of_bind h
  obtain rfl := Except.ok.inj h
  obtain ⟨segments, rfl⟩ := exists_of_joinedUri huri
  refine ⟨_, segments, c, rfl, compile_ok hcompile, rfl, ?_⟩
  rw [← warnings_compile hcompile]
  refine (hjoined.trans (hcompiled.trans (congrArg _ (hpath.trans hregistered)))).trans ?_
  exact List.append_nil _

theorem compiles_of_plan {x : Operation} {r : Router} {around : Settings} {p : Plan} {entry : Entry}
    (h : (x.plan r around).outcome = .ok p) (hentry : p.entry? = some entry) :
    ∃ segments c, Compiles r.strict entry.uri (x.plan r around).warnings segments c := by
  cases x with
  | group address options more =>
    obtain ⟨read, -, h⟩ := Attempt.ok_of_bind h
    obtain ⟨mount, -, h⟩ := Attempt.ok_of_bind h
    obtain ⟨c, -, h⟩ := Attempt.ok_of_bind h
    obtain ⟨own, -, h⟩ := Attempt.ok_of_bind h
    obtain rfl := Except.ok.inj h
    exact absurd hentry nofun
  | route address options more action =>
    obtain ⟨_, segments, c, hplanned, hcompiles⟩ := compiles_of_planRoute h
    obtain rfl := Option.some.inj (hplanned.symm.trans hentry)
    exact ⟨segments, c, hcompiles⟩
  | serve address uri static =>
    obtain ⟨_, segments, c, hplanned, hcompiles⟩ := compiles_of_planServe h
    obtain rfl := Option.some.inj (hplanned.symm.trans hentry)
    exact ⟨segments, c, hcompiles⟩

namespace Event

/-- What the operation warned of. -/
def warnings (e : Event) : List Effect := (e.operation.act e.before).toAttempt.warnings

theorem outcome_of_defined? {e : Event} {entry : Entry} (h : e.defined? = some entry) :
    e.outcome = .ok (.entry entry) := by
  unfold defined? at h
  split at h
  · rename_i hout
    rw [hout, Option.some.inj h]
  · exact absurd h nofun

/-- An operation that is not refused asks a node that is there. -/
theorem exists_at?_of_ok {e : Event} {made : Made} (h : e.outcome = .ok made) :
    ∃ n, e.before.root.at? e.operation.address = some n := by
  cases succeeds_of_ok h with
  | group hparent hread houtcome hafter => exact ⟨_, hparent⟩
  | route d hn houtcome hafter => exact ⟨_, hn⟩
  | serve d hn houtcome hafter => exact ⟨_, hn⟩

/-- **The uri of a route is compiled from joined segments**, and its operation warns if a constraint
is left in them. -/
theorem exists_compiles {e : Event} {entry : Entry} (h : e.defined? = some entry) :
    ∃ segments c, Compiles e.before.strict entry.uri e.warnings segments c := by
  have hout := outcome_of_defined? h
  obtain ⟨n, hn⟩ := exists_at?_of_ok hout
  have hact := act_of_at? hn
  unfold outcome at hout
  unfold warnings
  rw [hact] at hout ⊢
  unfold carried at hout ⊢
  cases hreading : (e.operation.plan e.before n.settings).outcome with
  | error fault =>
    rw [hreading] at hout
    exact absurd hout nofun
  | ok p =>
    rw [hreading] at hout
    cases p with
    | group settings => exact absurd hout nofun
    | route kept planned | mount planned =>
      obtain rfl : planned = entry := by simpa [Plan.made] using hout
      obtain ⟨segments, c, hcompiles⟩ := compiles_of_plan hreading rfl
      refine ⟨segments, c, hcompiles.compiled, hcompiles.uri, ?_⟩
      rw [← hcompiles.warnings]
      exact congrArg (List.filter Effect.isWarning) (List.append_nil _)

/-- No operation changes how strict the router is. -/
theorem strict_after (e : Event) : e.after.strict = e.before.strict := by
  cases hout : e.outcome with
  | error fault => rw [after_of_error hout]
  | ok made =>
    obtain ⟨n, hn⟩ := exists_at?_of_ok hout
    unfold after
    rw [act_of_at? hn, carried]
    split <;> rfl

end Event

theorem strict_of_mem_history {r : Router} {operations : List Operation} {e : Event}
    (he : e ∈ history r operations) : e.before.strict = r.strict := by
  induction operations generalizing r with
  | nil => exact absurd he List.not_mem_nil
  | cons operation rest ih =>
    rcases List.mem_cons.mp he with rfl | hrest
    · rfl
    · exact (ih hrest).trans (Event.strict_after ⟨r, operation⟩)

/-! ## Uris in normal form -/

/-- The text begins with a slash, has no two slashes side by side, and no parameter in braces. -/
structure IsNormal (uri : List Char) : Prop extends IsRooted uri where
  noBraces : ∀ p : Param, p.IsNamed → ¬ p.brace <:+: uri

omit [CharacterNames] in
theorem not_brace_infix {cs : List Char} (h : HasNoBraces cs) {p : Param} (hp : p.IsNamed) :
    ¬ p.brace <:+: cs := by
  rintro ⟨before, after, rfl⟩
  have hsuffix : p.brace ++ after <:+ before ++ p.brace ++ after :=
    ⟨before, (List.append_assoc _ _ _).symm⟩
  exact absurd ((braceParam_append hp after).symm.trans (h _ hsuffix)) nofun

namespace Compiles

variable {strict : Bool} {uri : String} {warnings : List Effect} {segments : List String}
  {c : Compiled}

/-- **What is compiled from joined segments is normal**, malformed or not. -/
theorem isNormal (h : Compiles strict uri warnings segments c) : IsNormal uri.toList := by
  refine { h.uri ▸ compile_join_rooted h.compiled with noBraces := fun p hp => ?_ }
  obtain ⟨-, -, huri, -⟩ := eq_of_compile h.compiled
  rw [h.uri, huri, String.toList_ofList]
  exact not_brace_infix (hasNoBraces_normalize _ _) hp

theorem backslash_not_mem (h : Compiles strict uri warnings segments c)
    (hclosed : c.malformed = false) : '\\' ∉ uri.toList := by
  obtain ⟨-, -, huri, -⟩ := eq_of_compile h.compiled
  rw [h.uri, huri, hclosed, String.toList_ofList]
  exact backslash_not_mem_normalize _

theorem malformed_of_strict (h : Compiles true uri warnings segments c) : c.malformed = false :=
  (eq_of_compile h.compiled).2.2.2 rfl

end Compiles

/-- The uris of the routes of a router, by the events of the run that it ends. -/
structure Normalises (strict : Bool) (events : List Event) (r : Router) : Prop where
  /-- The tree has the entries that were returned, each as often. -/
  entries : r.root.entries.Perm (events.filterMap (·.defined?))
  isNormal : ∀ entry ∈ r.root.entries, IsNormal entry.uri.toList
  compiles : ∀ e ∈ events, ∀ entry, e.defined? = some entry →
    ∃ segments c, Compiles strict entry.uri e.warnings segments c ∧
      (c.malformed = false → '\\' ∉ entry.uri.toList)
  /-- Where nothing was warned of, there is no backslash. -/
  silent : ∀ e ∈ events, ∀ entry, e.defined? = some entry → e.warnings = [] →
    '\\' ∉ entry.uri.toList
  ofStrict : strict = true → ∀ entry ∈ r.root.entries, '\\' ∉ entry.uri.toList

section Fresh
variable (name : String) (debug strict : Bool) (host : Option Host) (resolver : Resolver)
  (operations : List Operation)

/-- **The uris of routes are normal**, whatever they and the prefixes of their groups were. -/
theorem normal_run :
    Normalises strict (history (fresh name debug strict host resolver) operations)
      (run (fresh name debug strict host resolver) operations) := by
  have hentries := entries_run_fresh name debug strict host resolver operations
  have hcompiles : ∀ e ∈ history (fresh name debug strict host resolver) operations, ∀ entry,
      e.defined? = some entry →
        ∃ segments c, Compiles strict entry.uri e.warnings segments c := by
    intro e he entry hentry
    obtain ⟨segments, c, h⟩ := Event.exists_compiles hentry
    rw [strict_of_mem_history he] at h
    exact ⟨segments, c, h⟩
  -- every entry of the tree was returned by an event
  have hreturned : ∀ entry ∈ (run (fresh name debug strict host resolver) operations).root.entries,
      ∃ warnings segments c, Compiles strict entry.uri warnings segments c := by
    intro entry hentry
    obtain ⟨e, he, hdefined⟩ := List.mem_filterMap.mp (hentries.mem_iff.mp hentry)
    exact ⟨e.warnings, hcompiles e he entry hdefined⟩
  refine ⟨hentries, fun entry hentry => ?_, fun e he entry hentry => ?_,
    fun e he entry hentry hquiet => ?_, fun hstrict entry hentry => ?_⟩
  · obtain ⟨_, _, _, h⟩ := hreturned entry hentry
    exact h.isNormal
  · obtain ⟨segments, c, h⟩ := hcompiles e he entry hentry
    exact ⟨segments, c, h, h.backslash_not_mem⟩
  · obtain ⟨segments, c, h⟩ := hcompiles e he entry hentry
    rw [hquiet] at h
    exact h.backslash_not_mem h.malformed
  · obtain ⟨_, _, _, h⟩ := hreturned entry hentry
    subst hstrict
    exact h.backslash_not_mem h.malformed_of_strict

end Fresh

/-- Prefixes and uris with backslashes, braces and empty segments; in the uri of the second route a
constraint is left. -/
def sampleTangled : List Operation :=
  [.group [] (.str "api\\\\\x7bversion\x7d//") .empty,
    .route [0] (.str ":id(\\d+)\\list//\x7bkind?\x7d") .empty (.str "list"),
    .route [0] (.str "\x7b\x7bid\x7d\x7d:name(a(b)\\c//") .empty (.str "show"),
    .serve [] (.str "static\\\x7bfile\x7d") (.str "files")]

end

open scoped CharacterNames.Unnamed

theorem normal_run_sampleTangled :
    Normalises false (history (fresh "sample" false false none .keep) sampleTangled)
        (run (fresh "sample" false false none .keep) sampleTangled) ∧
      (run (fresh "sample" false false none .keep) sampleTangled).root.entries.map (·.uri) =
        ["/static/:file", "/api/:version/:id/list/:kind?",
          "/api/:version/\x7b:id\x7d:name(a(b)\\c/"] ∧
      (history (fresh "sample" false false none .keep) sampleTangled).map (·.warnings.length) =
        [0, 0, 1, 0] :=
  ⟨normal_run "sample" false false none .keep sampleTangled, by decide +kernel, by decide +kernel⟩

end Router

end RouteTree
