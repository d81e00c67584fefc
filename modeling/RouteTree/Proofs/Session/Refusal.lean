import RouteTree.Proofs.Session.Reachable

/-!
# What a refused step leaves

**A refused definition leaves no trace** (`no_trace_of_refusal`). Whatever the reason, the session is what
it was before the step, unless the step is a group and its builder was refused. Then the group stays
open, and with it what the steps of the builder did before the one that was refused, and what that
one left (`Refused`).

Routers change only when nothing can fail any more (`Router.Event.after_of_error`), so a step that
has no builder puts back the router it found. Builders are scripts of steps, so the rest is an
induction on steps and scripts together.
-/

namespace RouteTree

/-- Is the step a group with a builder? -/
def Step.hasBuilder : Step → Bool
  | .groupWith _ _ _ _ _ => true
  | _ => false

namespace Session

variable {s : Session}

/-- What a step leaves of a session, if it is refused. -/
inductive Refused [CharacterNames] : Session → Step → Session → Prop where
  /-- A step without a builder leaves no trace. -/
  | plain {s : Session} {x : Step}
    (h : x.hasBuilder = false) : Refused s x s
  /-- Nor does a group that could not be opened. -/
  | unopened {s : Session} {node handle : String} {options : Value} {more : Params}
    {builder : List Step} {fault : Fault}
    (h : (s.openGroup node handle options more).2.2 = .error fault) :
    Refused s (.groupWith node handle options more builder) s
  /-- A group that was opened stays, with what was done in it up to the refusal. -/
  | built {s mid s' : Session} {node handle : String} {options : Value} {more : Params}
    {done rest : List Step} {failing : Step} {r : Router} {place : Place} {parent : Node}
    {g : Router.Opened} {answers : List Answer} {fault : Fault}
    (hfind : (s.find node).outcome = .ok (r, place))
    (hparent : r.root.at? place.address = some parent)
    (hread : Router.Opened.read r.strict options more = .ok g)
    (hdone : ((s.setRouter place.router (r.modifyNode place.address
        (·.addGroup (.leaf (g.settings parent.settings))))).bind handle
          ⟨place.router, place.address ++ [parent.groups.length]⟩).build done =
      (mid, answers, none))
    (hfailing : (mid.step failing).2.outcome = .error fault)
    (hrefused : Refused mid failing s') :
    Refused s (.groupWith node handle options more (done ++ failing :: rest)) s'

/-! ## Steps without a builder -/

/-- The router behind a handle is put back as it was found. -/
theorem setRouter_find {node : String} {r : Router} {place : Place}
    (h : (s.find node).outcome = .ok (r, place)) : s.setRouter place.router r = s := by
  obtain ⟨hlt, hget⟩ := List.getElem?_eq_some_iff.mp (getElem?_of_find h)
  unfold setRouter
  rw [← hget, List.set_getElem_self]

theorem act_error {node : String} {doing : Address → Act Reply} {fault : Fault}
    (hclean : ∀ address, (doing address).Clean)
    (h : (s.act node doing).2.outcome = .error fault) : (s.act node doing).1 = s := by
  unfold act at h ⊢
  split at h
  · rfl
  · rename_i r place hfind
    have hrouter := hclean place.address r fault h
    exact (congrArg (s.setRouter place.router) hrouter).trans (setRouter_find hfind)

section

variable [CharacterNames]

theorem openGroup_error {node handle : String} {options : Value} {more : Params} {fault : Fault}
    (h : (s.openGroup node handle options more).2.2 = .error fault) :
    (s.openGroup node handle options more).1 = s := by
  unfold openGroup at h ⊢
  split at h
  · rfl
  · rename_i r place hfind
    dsimp only at h ⊢
    split at h
    · rename_i fault' hout
      rw [Router.openGroup_clean place.address options more r fault' hout]
      exact setRouter_find hfind
    · exact absurd h nofun

omit [CharacterNames] in
theorem look_fst (node : String) (read : Router → Place → Attempt Reply) :
    (s.look node read).1 = s := rfl

theorem defineRoute_error {node : String} {options : Value} {more : Params} {action : Value}
    {endpoint : Option Value} {fault : Fault}
    (h : (s.defineRoute node options more action endpoint).2.outcome = .error fault) :
    (s.defineRoute node options more action endpoint).1 = s := by
  cases haction : routeAction? action endpoint with
  | none =>
    obtain ⟨reply, hroute⟩ := defineRoute_of_none haction
    rw [hroute]
    exact look_fst node _
  | some defined =>
    obtain ⟨reply, hroute⟩ := defineRoute_of_some haction
    rw [hroute] at h ⊢
    refine act_error (fun address => ?_) h
    exact (Router.defineRoute_clean address options more defined).bind_sure fun _ => Act.sure_pure _

/-- A group that was opened is in its place, under its handle. -/
theorem openGroup_ok {node handle : String} {options : Value} {more : Params} {opened : Place}
    (h : (s.openGroup node handle options more).2.2 = .ok opened) :
    ∃ r place parent g, (s.find node).outcome = .ok (r, place) ∧
      r.root.at? place.address = some parent ∧
      Router.Opened.read r.strict options more = .ok g ∧
      opened = ⟨place.router, place.address ++ [parent.groups.length]⟩ ∧
      (s.openGroup node handle options more).1 =
        (s.setRouter place.router (r.modifyNode place.address
          (·.addGroup (.leaf (g.settings parent.settings))))).bind handle opened := by
  unfold openGroup at h ⊢
  split at h
  · exact absurd h nofun
  · rename_i r place hfind
    dsimp only at h ⊢
    split at h
    · exact absurd h nofun
    · rename_i address hout
      obtain ⟨parent, g, hparent, hread, rfl, hrouter⟩ :=
        Router.openGroup_ok ⟨hout, rfl⟩
      obtain rfl := Except.ok.inj h
      refine ⟨r, place, parent, g, hfind, hparent, hread, rfl, ?_⟩
      rw [hrouter]

/-! ## Steps and scripts -/

/-- A step that is no group with a builder leaves no trace. -/
theorem step_error {x : Step} {fault : Fault} (hx : x.hasBuilder = false)
    (h : (s.step x).2.outcome = .error fault) : (s.step x).1 = s := by
  cases x with
  | router handle options arguments attached => exact absurd h nofun
  | group node handle options more =>
    cases hplace : (s.openGroup node handle options more).2.2 with
    | error fault' => exact openGroup_error hplace
    | ok place =>
      rw [step] at h
      dsimp only [answer] at h
      rw [hplace] at h
      exact absurd h nofun
  | groupWith node handle options more builder => exact absurd hx nofun
  | route node options more action endpoint => exact defineRoute_error h
  | serve node uri static =>
    exact act_error (fun address =>
      (Router.serve_clean address uri static).bind_sure fun _ => Act.sure_pure _) h
  | apply | entries | url | registry | state => rfl

mutual

/-- What a refused step leaves. -/
theorem refused_of_step (s : Session) (x : Step) {fault : Fault}
    (h : (s.step x).2.outcome = .error fault) : Refused s x (s.step x).1 := by
  match x with
  | .groupWith node handle options more builder =>
    rw [step] at h ⊢
    cases hplace : (s.openGroup node handle options more).2.2 with
    | error fault' =>
      simp only [hplace]
      rw [openGroup_error hplace]
      exact .unopened hplace
    | ok opened =>
      obtain ⟨r, place, parent, g, hfind, hparent, hread, rfl, hopened⟩ := openGroup_ok hplace
      simp only [hplace, hopened] at h ⊢
      rcases hbuild : Session.build _ builder with ⟨s', answers, _ | fault'⟩
      · simp only [hbuild] at h
        exact absurd h nofun
      · -- the builder goes on from the session in which the group is open
        obtain ⟨done, failing, rest, mid, answers', rfl, hdone, ⟨_, hfailing⟩, hrefused⟩ :=
          refused_of_build _ builder hbuild
        exact .built hfind hparent hread hdone hfailing hrefused
  | .router .. | .group .. | .route .. | .serve .. | .apply .. | .entries .. | .url ..
  | .registry .. | .state .. =>
    rw [step_error rfl h]
    exact .plain rfl
termination_by structural x

/-- A script that is refused has a first step that is. -/
theorem refused_of_build (s : Session) (xs : List Step) {s' : Session} {answers : List Answer}
    {fault : Fault} (h : s.build xs = (s', answers, some fault)) :
    ∃ done failing rest mid answers', xs = done ++ failing :: rest ∧
      s.build done = (mid, answers', none) ∧ (∃ fault', (mid.step failing).2.outcome = .error fault') ∧
      Refused mid failing s' := by
  match xs with
  | [] => exact absurd h nofun
  | x :: rest =>
    rw [build] at h
    cases hout : (s.step x).2.outcome with
    | error fault' =>
      simp only [hout] at h
      obtain ⟨rfl, -⟩ := Prod.mk.inj h
      exact ⟨[], x, rest, s, [], rfl, rfl, ⟨fault', hout⟩, refused_of_step s x hout⟩
    | ok reply =>
      simp only [hout] at h
      rcases hbuild : (s.step x).1.build rest with ⟨s₂, answers₂, fault?⟩
      simp only [hbuild] at h
      obtain ⟨rfl, -, rfl⟩ : s₂ = s' ∧ (s.step x).2 :: answers₂ = answers ∧ fault? = some fault := by
        simpa using h
      obtain ⟨done, failing, rest', mid, answers', rfl, hdone, hfailing, hrefused⟩ :=
        refused_of_build _ rest hbuild
      refine ⟨x :: done, failing, rest', mid, (s.step x).2 :: answers', rfl, ?_, hfailing, hrefused⟩
      rw [build]
      simp only [hout, hdone]
termination_by structural xs

end

/-- **A refused definition leaves no trace**: the router is what it was, whatever was asked of it,
and so is the session, but for what a builder has done before its own step was refused. -/
theorem no_trace_of_refusal :
    (∀ (e : Router.Event) (fault : Fault), e.outcome = .error fault → e.after = e.before) ∧
      ∀ (s : Session) (x : Step) (fault : Fault),
        (s.step x).2.outcome = .error fault → Refused s x (s.step x).1 :=
  ⟨fun _ _ h => Router.Event.after_of_error h, fun s x _ h => refused_of_step s x h⟩

/-- A session with one router. -/
def sampleSession : Session := (fresh.step (.router "r" {} none [])).1

/-- A group whose builder defines a route and then opens a group that is refused in its own builder,
for an option that groups do not know. -/
def sampleStep : Step :=
  .groupWith "r" "a" (.str "/a") .empty
    [.route "a" (.str "/x") .empty (.int 1) none,
      .groupWith "a" "b" (.str "/b") .empty
        [.group "b" "c" (.map [(.str "color", .null)]) .empty]]

/-- A mount where there is no node. -/
def sampleEvent : Router.Event :=
  ⟨.fresh "sample" false false none .keep, .serve [0] (.str "/") .null⟩

end

open scoped CharacterNames.Unnamed

theorem no_trace_of_refusal_sampleStep :
    sampleEvent.outcome = .error .absentKey ∧ sampleEvent.after = sampleEvent.before ∧
      (sampleSession.step sampleStep).2.outcome = .error (.unexpectedOptions ["color"]) ∧
      Refused sampleSession sampleStep (sampleSession.step sampleStep).1 :=
  ⟨by rfl, no_trace_of_refusal.1 _ _ (by rfl), by rfl, no_trace_of_refusal.2 _ _ _ (by rfl)⟩

end Session

end RouteTree
