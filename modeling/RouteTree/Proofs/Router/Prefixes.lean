import RouteTree.Proofs.Router.Accepting
import RouteTree.Proofs.Template.JoiningWritten
import RouteTree.Proofs.Template.Paths

/-!
# Prefixes of groups and of routes

**A prefix may stand with a group or with the route inside** (`grouped_eq_joined`). On a router
without routes, a group with a written template for its prefix and a route in it with another
template for its uri come to what one route comes to whose uri is the two templates, joined: the
same entry, and the same registry, so the same urls.

With the group, the prefix is compiled before it is joined, and its constraints come to the route
through the settings of the group (`compile_grouped`); without it, the two are compiled as one
(`compile_joined`). A mapper sees the difference among the options of the route, where the uri
stands as it was written. One that answers by it may choose other handlers, but all else agrees
(`agree_grouped`); with one that does not (`Resolver.IgnoresUri`), also the handlers and the faults
are the same (`endAlike_grouped`).
-/

namespace RouteTree

/-- How actions are resolved does not depend on how the uri of the route was written. -/
def Resolver.IgnoresUri (s : Resolver) : Prop :=
  ∀ action description options uri,
    (s.resolve action description { options with uri }).outcome =
      (s.resolve action description options).outcome

theorem Attempt.outcome_bind {α β : Type} (x : Attempt α) (next : α → Attempt β) :
    (x >>= next).outcome = x.outcome >>= fun a => (next a).outcome := by
  change (x.andThen next).outcome = _
  unfold andThen
  cases x.outcome <;> rfl

/-- What is attempted with a result comes to what comes of the result. -/
theorem Attempt.outcome_bind_of_ok {α β : Type} {x : Attempt α} {next : α → Attempt β} {a : α}
    (h : x.outcome = .ok a) : (x >>= next).outcome = (next a).outcome := by
  rw [outcome_bind, h]
  rfl

namespace Router

open Text Template

/-! ## Reading the route -/

/-- Routers with the same registry give the same urls. -/
theorem url_congr {r r' : Router} (h : r'.registry = r.registry) (serializers : Serializers)
    (name : String) (params options : Params) :
    r'.url serializers name params options = r.url serializers name params options :=
  congrArg (fun registry : Registry => registry.url serializers name params options) h

/-- An empty name of a group counts for nothing. -/
theorem fullName_emptyText (own : Value) : fullName [] own = fullName [.str ""] own := by
  cases own with
  | str text => rfl
  | _ => rfl

section

variable [CharacterNames]

/-- What is read of a route comes down to what is read behind its uri. -/
theorem planRoute_outcome (r : Router) (around : Settings) {options : Value} {more : Params}
    {read : RouteOptions} {segment : String} {c : Compiled}
    (hread : RouteOptions.ofValue options more = .ok read) (huri : read.uri = .str segment)
    (hcompiled : Template.compile (join (around.uris ++ [segment])) r.strict = .ok c)
    (action : Value) :
    (r.planRoute around options more action).outcome =
      (r.planEntry around read c.uri (around.constraints.override c.constraints) action).outcome := by
  have hjoined : joinedUri around.uris read.uri =
      .ok (join (around.uris ++ [segment])) := by
    rw [huri, joinedUri_str]
  unfold planRoute
  rw [Attempt.outcome_bind_of_ok hread, Attempt.outcome_bind_of_ok hjoined,
    Attempt.outcome_bind_of_ok (compile_outcome hcompiled)]

/-- What is read behind a uri depends neither on how it was written nor on where it was joined. -/
theorem planEntry_outcome_congr {r r' : Router} {around around' : Settings}
    (hhost : r'.host = r.host) (hresolver : r'.resolver = r.resolver)
    (hignores : r.resolver.IgnoresUri)
    (hmiddleware : around'.middleware = around.middleware)
    (hnames : ∀ own, fullName around'.names own = fullName around.names own)
    (hmetadata : around'.metadata = around.metadata) (read : RouteOptions) (given given' : Value)
    (uri : String) (kept : Constraints) (action : Value) :
    (r'.planEntry around' { read with uri := given' } uri kept action).outcome =
      (r.planEntry around { read with uri := given } uri kept action).outcome := by
  simp only [planEntry, Attempt.outcome_bind, hresolver, hmiddleware, hnames, hmetadata, register,
    hhost, hignores action _ read given, hignores action _ read given']

/-- Readings with the same uri and the same constraints differ in the handlers only. -/
theorem RouteReading.entry_congr {r r' : Router} {around around' : Settings}
    {options options' : Value} {more more' : Params} {action action' given : Value}
    (d : RouteReading r around options more action)
    (d' : RouteReading r' around' options' more' action')
    (hread : d'.read = { d.read with uri := given })
    (huri : d'.compiled.uri = d.compiled.uri) (hkept : d'.kept = d.kept)
    (hnames : ∀ own, fullName around'.names own = fullName around.names own)
    (hmetadata : around'.metadata = around.metadata) :
    d'.name = d.name ∧ d'.entry = { d.entry with handlers := d'.entry.handlers } := by
  have hname : d'.name = d.name := by
    have h := d'.name_eq
    rw [hread, hnames, d.name_eq] at h
    exact (Except.ok.inj h).symm
  have hown : d'.own = d.own := by
    have h := d'.own_eq
    rw [hread, d.own_eq] at h
    exact (Except.ok.inj h).symm
  have hpath : d'.path = d.path := by
    have h : pathOf d'.compiled.uri (d'.kept.override d'.own) = .ok d'.path := d'.path_eq
    have h₀ : pathOf d.compiled.uri (d.kept.override d.own) = .ok d.path := d.path_eq
    rw [huri, hkept, hown, h₀] at h
    exact (Except.ok.inj h).symm
  refine ⟨hname, ?_⟩
  simp only [RouteReading.entry, hread, huri, hkept, hname, hown, hpath, hmetadata]

/-- **A route has a path**, if its constraints were written in templates. -/
theorem exists_pathOf (segments : List Segment) (uri : String) :
    ∃ path, pathOf uri (keptIn segments) = .ok path := by
  refine exists_path_of_constraintsOf (constraintsOf_found? segments) (fun c hc => ?_) uri
  obtain ⟨found, hfound, rfl⟩ := List.mem_map.mp hc
  exact bodyText_of_mem_found? hfound

/-! ## The group -/

namespace Opened

/-- A group with a written template for its prefix, and no other options. -/
def ofTemplate (segments : List Segment) : Opened where
  options := ⟨.str (String.ofList (written segments)), [], .str "", .empty, .empty⟩
  compiled := ⟨String.ofList (squeeze '/' (plainText segments)), keptIn segments, false⟩
  own := .empty

theorem read_ofTemplate {segments : List Segment} (h : segments.IsChain Segment.Apart)
    (strict : Bool) :
    read strict (.str (String.ofList (written segments))) .empty = .ok (ofTemplate segments) :=
  read_eq rfl rfl (compile_written_eq h strict) rfl

theorem settings_ofTemplate (segments : List Segment) :
    (ofTemplate segments).settings {} =
      { uris := [String.ofList (squeeze '/' (plainText segments))]
        middleware := []
        names := [.str ""]
        constraints := keptIn segments
        metadata := .empty } := by
  unfold settings
  rw [ofTemplate, empty_override_keptIn]
  rfl

theorem fullName_ofTemplate (segments : List Segment) (own : Value) :
    fullName ((ofTemplate segments).settings {}).names own = fullName [] own := by
  rw [settings_ofTemplate]
  exact (fullName_emptyText own).symm

theorem metadata_ofTemplate (segments : List Segment) :
    ((ofTemplate segments).settings {}).metadata = .empty := by
  rw [settings_ofTemplate]

/-- The constraints of the group come before those of the route. -/
theorem constraints_ofTemplate (segments inner : List Segment) :
    ((ofTemplate segments).settings {}).constraints.override (keptIn inner) =
      keptIn (segments ++ inner) := by
  rw [settings_ofTemplate, override_keptIn]

end Opened

/-! ## Two ways to one route -/

/-- Two acts end in the same result or the same fault, and with the same registry. -/
structure EndAlike {α : Type} (x x' : Acted α) : Prop where
  outcome : x'.outcome = x.outcome
  registry : x'.router.registry = x.router.registry

omit [CharacterNames] in
/-- What comes of a plan depends on the way it was read in its effects only. -/
theorem carried_of_outcome_eq {reading reading' : Attempt Plan}
    (h : reading'.outcome = reading.outcome) (r : Router) (a : Address) (n : Node) :
    (r.carried a n reading').outcome = (r.carried a n reading).outcome ∧
      (r.carried a n reading').router = (r.carried a n reading).router := by
  unfold carried
  rw [h]
  cases reading.outcome <;> exact ⟨rfl, rfl⟩

omit [CharacterNames] in
/-- Plans for routes that are the same are carried out alike, wherever they are. -/
theorem endAlike_carried {reading reading' : Attempt Plan}
    (houtcome : reading'.outcome = reading.outcome)
    (h : ∀ p, reading.outcome = .ok p → p.entry?.isSome = true) {r r' : Router}
    (hregistry : r'.registry = r.registry) (a a' : Address) (n n' : Node) :
    EndAlike (r.carried a n reading) (r'.carried a' n' reading') := by
  obtain ⟨hanswer, hrouter⟩ := carried_of_outcome_eq houtcome r' a' n'
  obtain ⟨hattempt, hwritten⟩ := carried_of_entry h hregistry a a' n n'
  constructor
  · rw [hanswer]
    exact congrArg Attempt.outcome hattempt
  · rw [hrouter]
    exact hwritten

theorem act_route (address : Address) (options : Value) (more : Params) (action : Value)
    (r : Router) :
    ((Operation.route address options more action).act r).outcome =
        (defineRoute address options more action r).outcome.map .entry ∧
      ((Operation.route address options more action).act r).router =
        (defineRoute address options more action r).router := by
  change ((defineRoute address options more action).andThen _ r).outcome = _ ∧
    ((defineRoute address options more action).andThen _ r).router = _
  unfold Act.andThen
  cases (defineRoute address options more action r).outcome <;> exact ⟨rfl, rfl⟩

omit [CharacterNames] in
theorem eq_of_map_entry {x x' : Except Fault Entry} (h : x'.map Made.entry = x.map Made.entry) :
    x' = x := by
  cases x with
  | error fault =>
    cases x' with
    | error fault' => exact congrArg Except.error (Except.error.inj h)
    | ok entry' => cases h
  | ok entry =>
    cases x' with
    | error fault' => cases h
    | ok entry' => exact congrArg Except.ok (Made.entry.inj (Except.ok.inj h))

/-- **Routes whose plans are the same end alike.** -/
theorem endAlike_defineRoute {r r' : Router} {a a' : Address} {n n' : Node}
    {options options' : Value} {more more' : Params} {action action' : Value}
    (hn : r.root.at? a = some n) (hn' : r'.root.at? a' = some n')
    (hregistry : r'.registry = r.registry)
    (hplan : (r'.planRoute n'.settings options' more' action').outcome =
      (r.planRoute n.settings options more action).outcome) :
    EndAlike (defineRoute a options more action r) (defineRoute a' options' more' action' r') := by
  obtain ⟨hout, hrouter⟩ := act_route a options more action r
  obtain ⟨hout', hrouter'⟩ := act_route a' options' more' action' r'
  rw [act_of_at? (x := .route a options more action) hn] at hout hrouter
  rw [act_of_at? (x := .route a' options' more' action') hn'] at hout' hrouter'
  obtain ⟨houtcome, hregistry⟩ := endAlike_carried hplan
    (fun p hp => isSome_entry_of_planRoute hp) hregistry a a' n n'
  constructor
  · exact eq_of_map_entry (hout'.symm.trans (houtcome.trans hout))
  · rw [← hrouter, ← hrouter']
    exact hregistry

/-! ## A prefix with the group, and with the route -/

section Written
variable {p r : List Segment}

/-- The uri of a route in the group is compiled to both templates, and to the constraints of the
second. -/
theorem compile_grouped (hp : p.IsChain Segment.Apart) (hr : r.IsChain Segment.Apart)
    (hsingle : ∀ s ∈ p ++ r, s.SingleSlashed) (strict : Bool) :
    Template.compile (join
        (((Opened.ofTemplate p).settings {}).uris ++ [String.ofList (written r)])) strict =
      .ok ⟨String.ofList (joinText [plainText p, plainText r]), keptIn r, false⟩ := by
  rw [Opened.settings_ofTemplate, join]
  simp only [List.cons_append, List.nil_append, List.map_cons, List.map_nil, String.toList_ofList]
  exact compile_joinText_compiled hp hr (fun s hs => hsingle s (List.mem_append_right p hs)) strict

/-- The uri of the one route is compiled to both templates, and to the constraints of both. -/
theorem compile_joined (hp : p.IsChain Segment.Apart) (hr : r.IsChain Segment.Apart)
    (hsingle : ∀ s ∈ p ++ r, s.SingleSlashed) (strict : Bool) :
    Template.compile (join (({} : Settings).uris ++
        [join [String.ofList (written p), String.ofList (written r)]])) strict =
      .ok ⟨String.ofList (joinText [plainText p, plainText r]), keptIn (p ++ r), false⟩ := by
  have hchains : ∀ segments ∈ [p, r], segments.IsChain Segment.Apart := by simp [hp, hr]
  have hbodies : ∀ segments ∈ [p, r], ∀ s ∈ segments, s.SingleSlashed := by
    simpa [or_imp, forall_and] using hsingle
  have hjoined := compile_joinText_written hchains hbodies strict
  simp only [join, List.nil_append, List.map_cons, List.map_nil, String.toList_ofList,
    joinText_joinText]
  simpa using hjoined

/-- A route with either uri has the same plan, behind its uri. -/
theorem planRoute_grouped (hp : p.IsChain Segment.Apart) (hr : r.IsChain Segment.Apart)
    (hsingle : ∀ s ∈ p ++ r, s.SingleSlashed) (router : Router) {options : Value} {more : Params}
    {read : RouteOptions} (huri : read.uri = .str (String.ofList (written r)))
    (hread : RouteOptions.ofValue options more = .ok read) (action : Value) :
    (router.planRoute ((Opened.ofTemplate p).settings {}) options more action).outcome =
      (router.planEntry ((Opened.ofTemplate p).settings {}) read
        (String.ofList (joinText [plainText p, plainText r])) (keptIn (p ++ r)) action).outcome := by
  have hcompiled := compile_grouped hp hr hsingle router.strict
  rw [planRoute_outcome router _ hread huri hcompiled, Opened.constraints_ofTemplate]

theorem planRoute_joined (hp : p.IsChain Segment.Apart) (hr : r.IsChain Segment.Apart)
    (hsingle : ∀ s ∈ p ++ r, s.SingleSlashed) (router : Router) {options : Value} {more : Params}
    {read : RouteOptions}
    (huri : read.uri = .str (join [String.ofList (written p), String.ofList (written r)]))
    (hread : RouteOptions.ofValue options more = .ok read) (action : Value) :
    (router.planRoute {} options more action).outcome =
      (router.planEntry {} read (String.ofList (joinText [plainText p, plainText r]))
        (keptIn (p ++ r)) action).outcome := by
  have hcompiled := compile_joined hp hr hsingle router.strict
  have hkept : ({} : Settings).constraints.override (keptIn (p ++ r)) = keptIn (p ++ r) :=
    empty_override_keptIn (p ++ r)
  rw [planRoute_outcome router _ hread huri hcompiled, hkept]

/-- A router without routes, but with a group. -/
def withGroup (router : Router) (segments : List Segment) : Router :=
  { router with root := (Node.leaf {}).addGroup (.leaf ((Opened.ofTemplate segments).settings {})) }

theorem at?_withGroup (router : Router) (segments : List Segment) :
    (router.withGroup segments).root.at? [0] =
      some (.leaf ((Opened.ofTemplate segments).settings {})) := rfl

/-- The route in the group and the one route end alike. -/
theorem endAlike_grouped (hp : p.IsChain Segment.Apart) (hr : r.IsChain Segment.Apart)
    (hsingle : ∀ s ∈ p ++ r, s.SingleSlashed) {options options' : Value} {more more' : Params}
    {read : RouteOptions}
    (hread : RouteOptions.ofValue options more =
      .ok { read with uri := .str (String.ofList (written r)) })
    (hread' : RouteOptions.ofValue options' more' =
      .ok { read with uri := .str (join [String.ofList (written p), String.ofList (written r)]) })
    (f f' : Router) (hroot : f'.root = .leaf {}) (hregistry : f'.registry = f.registry)
    (hhost : f'.host = f.host) (hresolver : f'.resolver = f.resolver)
    (hignores : f.resolver.IgnoresUri) (action : Value) :
    EndAlike (defineRoute [0] options more action (f.withGroup p))
      (defineRoute [] options' more' action f') := by
  have hempty : f'.root.at? [] = some (.leaf {}) := congrArg some hroot
  refine endAlike_defineRoute (at?_withGroup f p) hempty hregistry ?_
  refine (planRoute_joined hp hr hsingle f' rfl hread' action).trans
    (Eq.trans ?_ (planRoute_grouped hp hr hsingle (f.withGroup p) rfl hread action).symm)
  refine planEntry_outcome_congr hhost hresolver hignores ?_ ?_ ?_ read _ _ _ _ action
  · rw [Opened.settings_ofTemplate]
  · exact fun own => (Opened.fullName_ofTemplate p own).symm
  · exact (Opened.metadata_ofTemplate p).symm

/-- What is read of the route in the group. -/
theorem reading_grouped (hp : p.IsChain Segment.Apart) (hr : r.IsChain Segment.Apart)
    (hsingle : ∀ s ∈ p ++ r, s.SingleSlashed) {router : Router} {options : Value} {more : Params}
    {read : RouteOptions} {action : Value} (huri : read.uri = .str (String.ofList (written r)))
    (hread : RouteOptions.ofValue options more = .ok read)
    (d : RouteReading router ((Opened.ofTemplate p).settings {}) options more action) :
    d.read = read ∧ d.compiled.uri = String.ofList (joinText [plainText p, plainText r]) ∧
      d.kept = keptIn (p ++ r) := by
  obtain rfl := Except.ok.inj (hread.symm.trans d.read_eq)
  have hjoined := d.uri_eq
  rw [huri, joinedUri_str] at hjoined
  have hcompiled := d.compiled_eq
  rw [← Except.ok.inj hjoined, compile_grouped hp hr hsingle] at hcompiled
  have hequal := Except.ok.inj hcompiled
  refine ⟨rfl, by rw [← hequal], ?_⟩
  rw [RouteReading.kept, ← hequal, Opened.constraints_ofTemplate]

theorem reading_joined (hp : p.IsChain Segment.Apart) (hr : r.IsChain Segment.Apart)
    (hsingle : ∀ s ∈ p ++ r, s.SingleSlashed) {router : Router} {options : Value} {more : Params}
    {read : RouteOptions} {action : Value}
    (huri : read.uri = .str (join [String.ofList (written p), String.ofList (written r)]))
    (hread : RouteOptions.ofValue options more = .ok read)
    (d : RouteReading router {} options more action) :
    d.read = read ∧ d.compiled.uri = String.ofList (joinText [plainText p, plainText r]) ∧
      d.kept = keptIn (p ++ r) := by
  obtain rfl := Except.ok.inj (hread.symm.trans d.read_eq)
  have hjoined := d.uri_eq
  rw [huri, joinedUri_str] at hjoined
  have hcompiled := d.compiled_eq
  rw [← Except.ok.inj hjoined, compile_joined hp hr hsingle] at hcompiled
  have hequal := Except.ok.inj hcompiled
  refine ⟨rfl, by rw [← hequal], ?_⟩
  rw [RouteReading.kept, ← hequal]
  exact empty_override_keptIn (p ++ r)

/-- The route in the group and the one route agree in everything but the handlers, which a mapper
may choose by the uri as it was written. -/
theorem agree_grouped (hp : p.IsChain Segment.Apart) (hr : r.IsChain Segment.Apart)
    (hsingle : ∀ s ∈ p ++ r, s.SingleSlashed) {options options' : Value} {more more' : Params}
    {read : RouteOptions}
    (hread : RouteOptions.ofValue options more =
      .ok { read with uri := .str (String.ofList (written r)) })
    (hread' : RouteOptions.ofValue options' more' =
      .ok { read with uri := .str (join [String.ofList (written p), String.ofList (written r)]) })
    (f f' : Router) (hroot : f'.root = .leaf {}) (hregistry : f'.registry = f.registry)
    {action : Value} {entry entry' : Entry}
    (hinner : (defineRoute [0] options more action (f.withGroup p)).outcome = .ok entry)
    (houter : (defineRoute [] options' more' action f').outcome = .ok entry') :
    entry' = { entry with handlers := entry'.handlers } ∧
      (defineRoute [] options' more' action f').router.registry =
        (defineRoute [0] options more action (f.withGroup p)).router.registry := by
  obtain ⟨n, d, hn, rfl, hplaced⟩ := defineRoute_ok ⟨hinner, rfl⟩
  obtain ⟨n', d', hn', rfl, hplaced'⟩ := defineRoute_ok ⟨houter, rfl⟩
  obtain rfl := Option.some.inj ((at?_withGroup f p).symm.trans hn)
  obtain rfl := Option.some.inj (hn'.symm.trans (congrArg some hroot))
  obtain ⟨hd, huri, hkept⟩ := reading_grouped hp hr hsingle rfl hread d
  obtain ⟨hd', huri', hkept'⟩ := reading_joined hp hr hsingle rfl hread' d'
  have hdiffer : d'.read = { d.read with
      uri := .str (join [String.ofList (written p), String.ofList (written r)]) } := by rw [hd, hd']
  obtain ⟨hname, hentry⟩ := d.entry_congr d' hdiffer (huri'.trans huri.symm)
    (hkept'.trans hkept.symm) (fun own => (Opened.fullName_ofTemplate p own).symm)
    (Opened.metadata_ofTemplate p).symm
  refine ⟨hentry, ?_⟩
  have hnamed : d'.read.name = d.read.name := by rw [hd, hd']
  have hroute : (⟨d'.entry.uri, d'.entry.constraints⟩ : NamedRoute) =
      ⟨d.entry.uri, d.entry.constraints⟩ := by rw [hentry]
  rw [hplaced, hplaced']
  simp only [RouteReading.placed, hnamed, hname, hregistry, hroute]
  rfl

/-- The route in the group is defined, if it is accepted. -/
theorem exists_grouped (hp : p.IsChain Segment.Apart) (hr : r.IsChain Segment.Apart)
    (hsingle : ∀ s ∈ p ++ r, s.SingleSlashed) {options : Value} {more : Params}
    {read : RouteOptions} (huri : read.uri = .str (String.ofList (written r)))
    (hread : RouteOptions.ofValue options more = .ok read) {f : Router} {action : Value}
    (haccepts : f.Accepts read action) :
    ∃ entry, (defineRoute [0] options more action (f.withGroup p)).outcome = .ok entry ∧
      entry.uri = String.ofList (joinText [plainText p, plainText r]) ∧
      entry.constraints = keptIn (p ++ r) := by
  obtain ⟨full, hname⟩ := haccepts.exists_fullName
  obtain ⟨path, hpath⟩ := exists_pathOf (p ++ r)
    (String.ofList (joinText [plainText p, plainText r]))
  have haccepts' : (f.withGroup p).Accepts read action :=
    ⟨haccepts.name, haccepts.constraints, haccepts.answers, haccepts.takes⟩
  rw [← Opened.constraints_ofTemplate] at hpath ⊢
  rw [← Opened.fullName_ofTemplate p] at hname
  exact exists_defineRoute (at?_withGroup f p) hread huri (compile_grouped hp hr hsingle f.strict)
    hname hpath haccepts'

end Written

/-- **A prefix may stand with a group or with the route inside.** -/
theorem grouped_eq_joined {p r : List Segment} (hp : p.IsChain Segment.Apart)
    (hr : r.IsChain Segment.Apart) (hsingle : ∀ s ∈ p ++ r, s.SingleSlashed)
    {options options' : Value} {more more' : Params} {read : RouteOptions}
    (hread : RouteOptions.ofValue options more =
      .ok { read with uri := .str (String.ofList (written r)) })
    (hread' : RouteOptions.ofValue options' more' =
      .ok { read with uri := .str (join [String.ofList (written p), String.ofList (written r)]) })
    (host : Option Host) (resolver : Resolver) (name name' : String)
    (debug debug' strict strict' : Bool) (action : Value) :
    ∃ grouped, (openGroup [] (.str (String.ofList (written p))) .empty).Yields
        (fresh name debug strict host resolver) [0] grouped ∧
      (resolver.IgnoresUri →
        EndAlike (defineRoute [0] options more action grouped)
          (defineRoute [] options' more' action (fresh name' debug' strict' host resolver))) ∧
      (∀ entry entry',
        (defineRoute [0] options more action grouped).outcome = .ok entry →
        (defineRoute [] options' more' action
          (fresh name' debug' strict' host resolver)).outcome = .ok entry' →
        entry' = { entry with handlers := entry'.handlers } ∧
          ∀ serializers route params wanted,
            (defineRoute [] options' more' action
              (fresh name' debug' strict' host resolver)).router.url serializers route params wanted =
            (defineRoute [0] options more action grouped).router.url serializers route params
              wanted) ∧
      ((fresh name debug strict host resolver).Accepts read action →
        ∃ entry, (defineRoute [0] options more action grouped).outcome = .ok entry ∧
          entry.uri = String.ofList (joinText [plainText p, plainText r]) ∧
          entry.constraints = keptIn (p ++ r)) := by
  have hroot : (fresh name debug strict host resolver).root.at? [] = some (.leaf {}) := rfl
  have hgroup := openGroup_yields hroot (Opened.read_ofTemplate hp strict)
  refine ⟨_, hgroup, fun hignores => ?_, fun entry entry' hinner houter => ?_, fun haccepts => ?_⟩
  · exact endAlike_grouped hp hr hsingle hread hread' (fresh name debug strict host resolver)
      (fresh name' debug' strict' host resolver) rfl rfl rfl rfl hignores action
  · obtain ⟨hentry, hregistry⟩ := agree_grouped hp hr hsingle hread hread'
      (fresh name debug strict host resolver) (fresh name' debug' strict' host resolver) rfl rfl
      hinner houter
    exact ⟨hentry, url_congr hregistry⟩
  · exact exists_grouped hp hr hsingle rfl hread (haccepts.with_uri _)

/-- The options of a named route, but for its uri. -/
def namedRoute : RouteOptions := ⟨"get", .str "/", [], .str "n", .empty, .empty, .empty⟩

end

open scoped CharacterNames.Unnamed

/-- The prefix and the uri constrain parameters of one name. -/
theorem grouped_eq_joined_doublyConstrained :
    ∃ grouped, (openGroup [] (.str "/u//:id(\\\\d\x7b4\x7d)?/\x7bid?\x7d(:x)") .empty).Yields
        (fresh "grouped" false true none .keep) [0] grouped ∧
      EndAlike
        (defineRoute [0] (.str "/u//:id(\\\\d\x7b4\x7d)?/\x7bid?\x7d(:x)")
          ⟨[(.str "name", .str "n")]⟩ (.str "h") grouped)
        (defineRoute []
          (.str "/u/:id(\\\\d\x7b4\x7d)?/\x7bid?\x7d(:x)/u/:id(\\\\d\x7b4\x7d)?/\x7bid?\x7d(:x)")
          ⟨[(.str "name", .str "n")]⟩ (.str "h") (fresh "joined" false false none .keep)) ∧
      ∃ entry, (defineRoute [0] (.str "/u//:id(\\\\d\x7b4\x7d)?/\x7bid?\x7d(:x)")
          ⟨[(.str "name", .str "n")]⟩ (.str "h") grouped).outcome = .ok entry ∧
        entry.uri = "/u/:id?/:id?/u/:id?/:id?" := by
  have hread : RouteOptions.ofValue (.str "/u//:id(\\\\d\x7b4\x7d)?/\x7bid?\x7d(:x)")
      ⟨[(.str "name", .str "n")]⟩ =
      .ok { namedRoute with uri := .str (String.ofList (written doublyConstrained)) } := rfl
  have hread' : RouteOptions.ofValue
      (.str "/u/:id(\\\\d\x7b4\x7d)?/\x7bid?\x7d(:x)/u/:id(\\\\d\x7b4\x7d)?/\x7bid?\x7d(:x)")
      ⟨[(.str "name", .str "n")]⟩ =
      .ok { namedRoute with uri := .str (join [String.ofList (written doublyConstrained),
        String.ofList (written doublyConstrained)]) } := rfl
  have hkeep : Resolver.keep.IgnoresUri := fun _ _ _ _ => rfl
  obtain ⟨grouped, hgroup, halike, -, hdefined⟩ := grouped_eq_joined (by decide) (by decide)
    (by decide) hread hread' none .keep "grouped" "joined" false false true false (.str "h")
  obtain ⟨entry, houtcome, huri, -⟩ := hdefined
    ⟨⟨"n", rfl⟩, rfl, fun _ _ => ⟨.str "h", rfl⟩, fun _ => rfl⟩
  exact ⟨grouped, hgroup, halike hkeep, entry, houtcome, huri⟩

end Router

end RouteTree
