import Mathlib.Data.List.Forall2
import RouteTree.Proofs.OrderedMap.Overriding
import RouteTree.Proofs.Router.Plans
import RouteTree.Proofs.Template.Joining
import RouteTree.Proofs.Value.Keys

/-!
# Groups inside groups

**A chain of groups is one group** (`nested_eq_merged`). The one group has the joined prefixes, the
middleware and the names one behind the other, and the constraints and metadata of inner groups
written over those of outer ones (`GroupOptions.merge`). What is then defined inside comes to the
same, with the same effects, and leaves the same registry. Prefixes with constraints are left out:
they may be changed when they are joined.

What lies around a route acts on it only through the uris that its own is joined to, the names that
its own is written behind, and what it inherits as it is (`Settings.Alike`). The chain and the one
group give their routes settings that are alike.
-/

namespace RouteTree

namespace GroupOptions

/-- The text of the prefix. -/
def mountText (g : GroupOptions) : String :=
  match g.mount with
  | .str s => s
  | _ => ""

/-- Names one behind the other, as one: their texts, or something that is no text, if one of them
is not. -/
def joinedNaming (namings : List Value) : Value :=
  match namings.mapM Router.asText with
  | .ok texts => .str (String.join texts)
  | .error _ => .list namings

/-- A chain of groups as one group, outermost first. -/
def merge (groups : List GroupOptions) : GroupOptions where
  mount := .str (Template.join (groups.map mountText))
  middleware := groups.flatMap (·.middleware)
  naming := joinedNaming (groups.map (·.naming))
  constraints := (groups.map (·.constraints)).foldl .override .empty
  metadata := (groups.map (·.metadata)).foldl .override .empty

/-- The options as they are given. -/
def toValue (g : GroupOptions) : Value :=
  .map [(.str "prefix", g.mount), (.str "middleware", .list g.middleware),
    (.str "namespace", g.naming), (.str "patterns", .map g.constraints.entries),
    (.str "meta", .map g.metadata.entries)]

theorem asParams_map (entries : List (Value × Value)) :
    (Value.map entries).asParams = .ok ⟨entries⟩ := by
  cases entries <;> rfl

/-- Options that are given are read as they are. -/
theorem ofValue_toValue {g : GroupOptions} (h : g.naming.orEmptyText = g.naming) :
    ofValue g.toValue .empty = .ok g := by
  obtain ⟨mount, middleware, naming, ⟨constraints⟩, ⟨metadata⟩⟩ := g
  have hread : ofValue (toValue ⟨mount, middleware, naming, ⟨constraints⟩, ⟨metadata⟩⟩) .empty =
      (do
        let constraints ← (Value.map constraints).asParams
        let metadata ← (Value.map metadata).asParams
        return ⟨mount, middleware, naming.orEmptyText, constraints, metadata⟩) := rfl
  rw [hread, asParams_map, asParams_map, h]
  rfl

theorem orEmptyText_joinedNaming (namings : List Value) :
    (joinedNaming namings).orEmptyText = joinedNaming namings := by
  unfold joinedNaming
  cases htexts : namings.mapM Router.asText with
  | ok texts =>
    dsimp only
    unfold Value.orEmptyText
    split
    · rfl
    · rename_i hempty
      have : String.join texts = "" := by simpa [Value.isTruthy] using hempty
      rw [this]
  | error fault =>
    cases namings with
    | nil => exact absurd htexts nofun
    | cons naming namings => rfl

end GroupOptions

/-! ## Constraints of several groups -/

namespace Constraint

theorem mapM_eq_ok_iff {α β : Type} {f : α → Except Fault β} {l : List α} {l' : List β} :
    l.mapM f = .ok l' ↔ List.Forall₂ (fun a b => f a = .ok b) l l' := by
  induction l generalizing l' with
  | nil =>
    rw [List.mapM_nil, List.forall₂_nil_left_iff]
    exact ⟨fun h => (Except.ok.inj h).symm, fun h => congrArg Except.ok h.symm⟩
  | cons a l ih =>
    rw [List.mapM_cons, List.forall₂_cons_left_iff]
    cases ha : f a with
    | error fault =>
      refine ⟨nofun, ?_⟩
      rintro ⟨b, rest, hb, -⟩
      exact absurd hb nofun
    | ok b =>
      cases hrest : l.mapM f with
      | error fault =>
        refine ⟨nofun, ?_⟩
        rintro ⟨c, rest, -, hl, -⟩
        exact absurd (hrest.symm.trans (ih.mpr hl)) nofun
      | ok rest =>
        refine ⟨fun h => ⟨b, rest, rfl, ih.mp hrest, (Except.ok.inj h).symm⟩, ?_⟩
        rintro ⟨c, rest', hc, hl, rfl⟩
        obtain rfl := Except.ok.inj hc
        obtain rfl := Except.ok.inj (hrest.symm.trans (ih.mpr hl))
        rfl

variable [CharacterNames]

/-- Every constraint has its pattern under the same name. -/
theorem anchorAll_eq_ok_iff {constraints : Params} {own : Constraints} :
    anchorAll constraints = .ok own ↔
      OrderedMap.Matches (fun v p => anchor v = .ok p) constraints own := by
  obtain ⟨ps⟩ := own
  have hall : anchorAll constraints = .ok ⟨ps⟩ ↔
      (constraints.entries.mapM fun e => do return (e.1, ← anchor e.2)) = Except.ok ps := by
    change (do return ⟨← constraints.entries.mapM fun e => do return (e.1, ← anchor e.2)⟩) =
      Except.ok (⟨ps⟩ : Constraints) ↔ _
    cases constraints.entries.mapM (m := Except Fault) _ with
    | error fault => exact ⟨fun h => (by cases h), fun h => (by cases h)⟩
    | ok ps' => exact ⟨fun h => by cases h; rfl, fun h => by cases h; rfl⟩
  rw [hall, mapM_eq_ok_iff, OrderedMap.Matches]
  refine iff_of_eq (congrArg (fun R => List.Forall₂ R constraints.entries ps) ?_)
  funext e e'
  obtain ⟨k, v⟩ := e
  obtain ⟨k', p⟩ := e'
  simp only
  cases anchor v with
  | error fault => exact propext ⟨fun h => (by cases h), fun h => (by cases h.2)⟩
  | ok p' =>
    refine propext ⟨fun h => ?_, fun h => ?_⟩
    · obtain ⟨rfl, rfl⟩ := Prod.mk.inj (Except.ok.inj h)
      exact ⟨rfl, rfl⟩
    · obtain ⟨rfl, hp⟩ := h
      obtain rfl := Except.ok.inj hp
      rfl

end Constraint

namespace Router

/-! ## Names -/

theorem asText_error {v : Value} {fault : Fault} (h : asText v = .error fault) :
    fault = .wrongType := by
  cases v with
  | str s => exact absurd h nofun
  | _ => exact (Except.error.inj h).symm

theorem mapM_asText_error {names : List Value} {fault : Fault}
    (h : names.mapM asText = .error fault) : fault = .wrongType := by
  induction names generalizing fault with
  | nil => exact absurd h nofun
  | cons v names ih =>
    rw [List.mapM_cons] at h
    cases hv : asText v with
    | error fault' =>
      rw [hv] at h
      exact (Except.error.inj h).symm.trans (asText_error hv)
    | ok text =>
      rw [hv] at h
      cases hrest : names.mapM asText with
      | error fault' =>
        rw [hrest] at h
        exact (Except.error.inj h).symm.trans (ih hrest)
      | ok rest =>
        rw [hrest] at h
        exact absurd h nofun

/-- Names that are joined give the same full names. -/
theorem fullName_joinedNaming (names namings : List Value) (own : Value) :
    fullName (names ++ [GroupOptions.joinedNaming namings]) own =
      fullName (names ++ namings) own := by
  unfold fullName GroupOptions.joinedNaming
  rw [List.mapM_append, List.mapM_append]
  cases hnames : names.mapM asText with
  | error fault => rfl
  | ok texts =>
    cases hnamings : namings.mapM asText with
    | error fault =>
      obtain rfl := mapM_asText_error hnamings
      rfl
    | ok inner =>
      cases hown : asText own with
      | error fault => rfl
      | ok text =>
        refine congrArg Except.ok ?_
        simp [String.join_append]

/-! ## Settings that are alike -/

section

variable [CharacterNames]

/-- The settings do the same to what is defined inside. -/
structure Alike (s s' : Settings) : Prop where
  uris : ∀ more, Template.join (s'.uris ++ more) = Template.join (s.uris ++ more)
  names : ∀ own, fullName s'.names own = fullName s.names own
  middleware : s'.middleware = s.middleware
  constraints : s'.constraints = s.constraints
  metadata : s'.metadata = s.metadata

namespace Alike

variable {s s' : Settings}

omit [CharacterNames] in
theorem joinedUri_eq (h : Alike s s') (segment : Value) :
    joinedUri s'.uris segment = joinedUri s.uris segment := by
  have hnone := h.uris []
  rw [List.append_nil, List.append_nil] at hnone
  unfold joinedUri
  rw [hnone]
  cases segment <;> simp only [h.uris]

/-- **Settings that are alike give routes the same plan.** -/
theorem planRoute_eq (h : Alike s s') (r : Router) (options : Value) (more : Params)
    (action : Value) :
    r.planRoute s' options more action = r.planRoute s options more action := by
  simp only [planRoute, planEntry, h.joinedUri_eq, h.names, h.middleware, h.constraints, h.metadata]

theorem planServe_eq (h : Alike s s') (r : Router) (uri static : Value) :
    r.planServe s' uri static = r.planServe s uri static := by
  simp only [planServe, h.joinedUri_eq, h.middleware, h.constraints, h.metadata]

end Alike

/-! ## Chains of groups -/

/-- Opens groups inside each other, outermost first. Answers with the address of the innermost. -/
def openGroups (address : Address) : List (Value × Params) → Act Address
  | [] => pure address
  | (options, more) :: rest => do openGroups (← openGroup address options more) rest

/-- The innermost of groups that are opened has the settings of all of them. -/
theorem openGroups_ok {r r' : Router} {address inner : Address} {chain : List (Value × Params)}
    {n : Node} (hn : r.root.at? address = some n)
    (h : (openGroups address chain).Yields r inner r') :
    ∃ gs root m,
      List.Forall₂ (fun (c : Value × Params) g => Opened.read r.strict c.1 c.2 = .ok g) chain gs ∧
      r' = { r with root } ∧ root.at? inner = some m ∧
      m.settings = gs.foldl (fun s g => g.settings s) n.settings := by
  induction chain generalizing r address n with
  | nil =>
    obtain ⟨rfl, rfl⟩ := Act.Yields.pure h
    exact ⟨[], r'.root, n, .nil, rfl, hn, rfl⟩
  | cons c rest ih =>
    obtain ⟨child, houtcome, h⟩ := h.bind
    obtain ⟨parent, g, hparent, hread, rfl, hrouter⟩ := openGroup_ok ⟨houtcome, rfl⟩
    obtain rfl : n = parent := Option.some.inj (hn.symm.trans hparent)
    rw [hrouter] at h
    have hchild := Node.at?_modifyAt_addGroup hn (.leaf (g.settings n.settings))
    obtain ⟨gs, root, m, hgs, hr', hm, hsettings⟩ := ih hchild h
    exact ⟨g :: gs, root, m, .cons hread hgs, hr', hm, hsettings⟩

namespace Opened

/-- The prefix of the group has no constraints. -/
structure IsBare (g : Opened) : Prop where
  mount : g.options.mount = .str g.options.mountText
  closed : '(' ∉ g.options.mountText.toList
  compiled : g.compiled =
    ⟨String.ofList (Template.normalize false g.options.mountText.toList), .empty, false⟩
  own : Constraint.anchorAll g.options.constraints = .ok g.own

theorem isBare_of_read {strict : Bool} {options : Value} {more : Params} {g : Opened}
    (h : read strict options more = .ok g)
    (hclosed : ∀ text, g.options.mount = .str text → '(' ∉ text.toList) : g.IsBare := by
  obtain ⟨-, mount, hmount, hcompiled, hown⟩ := of_read h
  obtain ⟨hvalue, htext⟩ : g.options.mount = .str mount ∧ g.options.mountText = mount := by
    unfold GroupOptions.mountText
    cases hv : g.options.mount with
    | str text =>
      rw [hv] at hmount
      obtain rfl := Except.ok.inj hmount
      exact ⟨rfl, rfl⟩
    | _ =>
      rw [hv] at hmount
      exact absurd hmount nofun
  have hnormal := Template.compile_eq_normalize (hclosed mount hvalue) strict
  rw [String.ofList_toList, hcompiled] at hnormal
  rw [← htext] at hvalue hnormal
  exact ⟨hvalue, hclosed _ hvalue, Except.ok.inj hnormal, hown⟩

/-- What groups without constraints in their prefixes add, one inside the other. -/
theorem foldl_settings {gs : List Opened} (h : ∀ g ∈ gs, g.IsBare) (s : Settings) :
    gs.foldl (fun s g => g.settings s) s =
      { uris := s.uris ++ gs.map (·.compiled.uri)
        middleware := s.middleware ++ gs.flatMap (·.options.middleware)
        names := s.names ++ gs.map (·.options.naming)
        constraints := (gs.map (·.own)).foldl .override s.constraints
        metadata := (gs.map (·.options.metadata)).foldl .override s.metadata } := by
  induction gs generalizing s with
  | nil => simp
  | cons g gs ih =>
    have hempty : g.compiled.constraints = .empty := by rw [(h g List.mem_cons_self).compiled]
    rw [List.foldl_cons, ih fun g hg => h g (List.mem_cons_of_mem _ hg)]
    simp [settings, hempty]

/-- Groups without constraints in their prefixes, read as one. -/
def merged (gs : List Opened) : Opened where
  options := .merge (gs.map (·.options))
  compiled := ⟨Template.join (gs.map (·.compiled.uri)), .empty, false⟩
  own := (gs.map (·.own)).foldl .override .empty

/-- **The one group for a chain of groups can be read.** -/
theorem read_merged {gs : List Opened} (h : ∀ g ∈ gs, g.IsBare) (strict : Bool) :
    read strict (GroupOptions.merge (gs.map (·.options))).toValue .empty = .ok (merged gs) := by
  refine read_eq (GroupOptions.ofValue_toValue (GroupOptions.orEmptyText_joinedNaming _)) rfl ?_ ?_
  · have htexts : ((gs.map (·.options)).map GroupOptions.mountText).map String.toList =
        gs.map fun g => g.options.mountText.toList := by
      rw [List.map_map, List.map_map]
      rfl
    have hnormal : (gs.map (·.compiled.uri)).map String.toList =
        (gs.map fun g => g.options.mountText.toList).map (Template.normalize false) := by
      rw [List.map_map, List.map_map]
      refine List.map_congr_left fun g hg => ?_
      rw [Function.comp_apply, (h g hg).compiled, String.toList_ofList]
      rfl
    have hclosed : '(' ∉ Template.joinText (gs.map fun g => g.options.mountText.toList) := by
      intro hmem
      rcases Template.mem_of_mem_joinText hmem with heq | ⟨text, htext, hin⟩
      · exact absurd heq (by decide)
      · obtain ⟨g, hg, rfl⟩ := List.mem_map.mp htext
        exact (h g hg).closed hin
    rw [Template.join, htexts, Template.compile_eq_normalize hclosed, Template.normalize_joinText,
      ← hnormal]
    rfl
  · refine Constraint.anchorAll_eq_ok_iff.mpr ?_
    refine OrderedMap.Matches.foldl_override OrderedMap.matches_empty ?_
    rw [List.map_map, List.forall₂_map_left_iff, List.forall₂_map_right_iff, List.forall₂_same]
    exact fun g hg => Constraint.anchorAll_eq_ok_iff.mp (h g hg).own

/-- **The chain and the one group give settings that are alike.** -/
theorem alike_merged {gs : List Opened} (h : ∀ g ∈ gs, g.IsBare)
    (hne : ∃ g ∈ gs, g.options.mountText ≠ "") (s : Settings) :
    Alike (gs.foldl (fun s g => g.settings s) s) ((merged gs).settings s) := by
  rw [foldl_settings h]
  have hnames : (merged gs).options.naming =
      GroupOptions.joinedNaming (gs.map (·.options.naming)) :=
    congrArg GroupOptions.joinedNaming (List.map_map ..)
  refine ⟨fun more => ?_, fun own => ?_, ?_, ?_, ?_⟩
  · have hinner : ∃ segment ∈ (gs.map (·.compiled.uri)).map String.toList, segment ≠ [] := by
      obtain ⟨g, hg, htext⟩ := hne
      refine ⟨g.compiled.uri.toList,
        List.mem_map_of_mem (List.mem_map.mpr ⟨g, hg, rfl⟩), ?_⟩
      rw [(h g hg).compiled, String.toList_ofList]
      exact Template.normalize_ne_nil fun hnil => htext (String.toList_eq_nil_iff.mp hnil)
    have hjoined := Template.joinText_join hinner (s.uris.map String.toList)
      (more.map String.toList)
    simpa [settings, merged, Template.join] using congrArg String.ofList hjoined
  · rw [settings, hnames]
    exact fullName_joinedNaming s.names _ own
  · simp [settings, merged, GroupOptions.merge, List.flatMap_map]
  · exact OrderedMap.override_foldl_override s.constraints _
  · exact (OrderedMap.override_foldl_override s.metadata _).trans
      (congrArg (List.foldl .override s.metadata) (List.map_map ..))

end Opened

/-! ## Routes inside -/

/-- What is defined on the two nodes comes to the same, with the same effects, and leaves the same
registry. -/
structure DefineAlike (r r' : Router) (address address' : Address) : Prop where
  route : ∀ options more action,
    ((Operation.route address' options more action).act r').toAttempt =
        ((Operation.route address options more action).act r).toAttempt ∧
      ((Operation.route address' options more action).act r').router.registry =
        ((Operation.route address options more action).act r).router.registry
  serve : ∀ uri static,
    ((Operation.serve address' uri static).act r').toAttempt =
        ((Operation.serve address uri static).act r).toAttempt ∧
      ((Operation.serve address' uri static).act r').router.registry =
        ((Operation.serve address uri static).act r).router.registry

/-- On nodes with settings that are alike, what is defined comes to the same. -/
theorem Alike.defineAlike {r : Router} {root root' : Node} {address address' : Address} {n n' : Node}
    (h : Alike n.settings n'.settings) (hn : root.at? address = some n)
    (hn' : root'.at? address' = some n') :
    DefineAlike { r with root } { r with root := root' } address address' := by
  have hregistry : ({ r with root := root' } : Router).registry =
      ({ r with root } : Router).registry := rfl
  refine ⟨fun options more action => ?_, fun uri static => ?_⟩
  · have hplan : (Operation.route address' options more action).plan { r with root := root' }
        n'.settings = Router.planRoute { r with root } n.settings options more action :=
      (Operation.plan_congr (.route address' options more action) _ rfl rfl rfl).trans
        (h.planRoute_eq { r with root } options more action)
    rw [act_of_at? (x := .route address' options more action) hn',
      act_of_at? (x := .route address options more action) hn, hplan]
    exact carried_of_entry (fun p hp => isSome_entry_of_planRoute hp) hregistry _ _ _ _
  · have hplan : (Operation.serve address' uri static).plan { r with root := root' } n'.settings =
        Router.planServe { r with root } n.settings uri static :=
      (Operation.plan_congr (.serve address' uri static) _ rfl rfl rfl).trans
        (h.planServe_eq { r with root } uri static)
    rw [act_of_at? (x := .serve address' uri static) hn',
      act_of_at? (x := .serve address uri static) hn, hplan]
    exact carried_of_entry (fun p hp => isSome_entry_of_planServe hp) hregistry _ _ _ _

theorem map_options {strict : Bool} {chain : List (Value × Params)} {groups : List GroupOptions}
    {gs : List Opened}
    (hgroups : List.Forall₂
      (fun (c : Value × Params) g => GroupOptions.ofValue c.1 c.2 = .ok g) chain groups)
    (hgs : List.Forall₂
      (fun (c : Value × Params) g => Opened.read strict c.1 c.2 = .ok g) chain gs) :
    groups = gs.map (·.options) := by
  induction hgroups generalizing gs with
  | nil =>
    obtain rfl := List.forall₂_nil_left_iff.mp hgs
    rfl
  | cons hc _ ih =>
    obtain ⟨g, rest, hg, hrest, rfl⟩ := List.forall₂_cons_left_iff.mp hgs
    rw [List.map_cons, ih hrest, Except.ok.inj (hc.symm.trans (Opened.of_read hg).1)]

theorem isBare_of_forall₂ {strict : Bool} {chain : List (Value × Params)} {gs : List Opened}
    (hgs : List.Forall₂
      (fun (c : Value × Params) g => Opened.read strict c.1 c.2 = .ok g) chain gs)
    (hclosed : ∀ g ∈ gs, ∀ text, g.options.mount = .str text → '(' ∉ text.toList) :
    ∀ g ∈ gs, g.IsBare := by
  induction hgs with
  | nil => exact fun g hg => absurd hg List.not_mem_nil
  | @cons c g _ gs hc _ ih =>
    intro g' hg'
    rcases List.mem_cons.mp hg' with rfl | hg'
    · exact Opened.isBare_of_read hc (hclosed g' List.mem_cons_self)
    · exact ih (fun g hg => hclosed g (List.mem_cons_of_mem _ hg)) g' hg'

/-- **A chain of groups is one group.** -/
theorem nested_eq_merged {r r' : Router} {address inner : Address} {chain : List (Value × Params)}
    {groups : List GroupOptions}
    (hread : List.Forall₂
      (fun (c : Value × Params) g => GroupOptions.ofValue c.1 c.2 = .ok g) chain groups)
    (hclosed : ∀ g ∈ groups, ∀ text, g.mount = .str text → '(' ∉ text.toList)
    (hne : ∃ g ∈ groups, g.mount ≠ .str "")
    (hopen : (openGroups address chain).Yields r inner r') :
    ∃ outer r'', (openGroup address (GroupOptions.merge groups).toValue .empty).Yields r outer r'' ∧
      DefineAlike r' r'' inner outer := by
  obtain ⟨n, hn⟩ : ∃ n, r.root.at? address = some n := by
    cases hread with
    | nil =>
      obtain ⟨g, hg, -⟩ := hne
      exact absurd hg List.not_mem_nil
    | cons _ _ =>
      obtain ⟨child, houtcome, -⟩ := hopen.bind
      obtain ⟨parent, -, hparent, -⟩ := openGroup_ok ⟨houtcome, rfl⟩
      exact ⟨parent, hparent⟩
  obtain ⟨gs, root, m, hgs, rfl, hm, hsettings⟩ := openGroups_ok hn hopen
  obtain rfl := map_options hread hgs
  have hbare : ∀ g ∈ gs, g.IsBare := by
    refine isBare_of_forall₂ hgs fun g hg => hclosed g.options (List.mem_map_of_mem hg)
  have hmounts : ∃ g ∈ gs, g.options.mountText ≠ "" := by
    obtain ⟨o, ho, hmount⟩ := hne
    obtain ⟨g, hg, rfl⟩ := List.mem_map.mp ho
    refine ⟨g, hg, fun hempty => hmount ?_⟩
    rw [(hbare g hg).mount, hempty]
  have hmerged := openGroup_yields hn (Opened.read_merged hbare r.strict)
  refine ⟨_, _, hmerged, ?_⟩
  have halike : Alike m.settings
      (Node.leaf ((Opened.merged gs).settings n.settings)).settings := by
    rw [hsettings]
    exact Opened.alike_merged hbare hmounts n.settings
  exact halike.defineAlike hm (Node.at?_modifyAt_addGroup hn _)

/-- A group inside a group. -/
def sampleChain : List (Value × Params) :=
  [(.str "/a", .empty),
    (.map [(.str "prefix", .str "\\\x7bb\x7d/"), (.str "namespace", .str "n."),
      (.str "patterns", .map [(.str "b", .str "x")])], .empty)]

/-- The groups of the chain, as they are read. -/
def sampleGroups : List GroupOptions :=
  [⟨.str "/a", [], .str "", .empty, .empty⟩,
    ⟨.str "\\\x7bb\x7d/", [], .str "n.", ⟨[(.str "b", .str "x")]⟩, .empty⟩]

end

open scoped CharacterNames.Unnamed

theorem nested_eq_merged_sampleChain :
    ∃ outer r, (openGroup [] (GroupOptions.merge sampleGroups).toValue .empty).Yields
        (fresh "sample" false true none .keep) outer r ∧
      DefineAlike (openGroups [] sampleChain (fresh "sample" false true none .keep)).router r
        [0, 0] outer := by
  refine nested_eq_merged (.cons rfl (.cons rfl .nil)) ?_
    ⟨_, List.mem_cons_self, fun h => absurd (Value.str.inj h) (by decide)⟩
    (⟨rfl, rfl⟩ : (openGroups [] sampleChain).Yields (fresh "sample" false true none .keep) [0, 0] _)
  intro g hg text htext
  simp only [sampleGroups, List.mem_cons, List.not_mem_nil, or_false] at hg
  rcases hg with rfl | rfl
  · obtain rfl := Value.str.inj htext
    decide
  · obtain rfl := Value.str.inj htext
    decide

end Router

end RouteTree
