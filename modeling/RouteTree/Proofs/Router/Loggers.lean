import RouteTree.Router.Create

/-!
# Loggers of routers

All routers of one name write to one logger, which the first of them that wants its log to be
configured sends to standard output. **However many routers are made, and in whatever order, a logger
has at most one handler there, and it has one, with the level of the first such router and without
propagation, just if there is such a router** (`stable_made`). Other loggers are not touched.

What is printed follows from that along the way of a record to the root: the first logger on it that
prints a record lets it go no further, so no record is printed twice, and none that is printed gets to
the root.
-/

namespace RouteTree

/-! ## One logger -/

namespace Logger

/-- The logger, sent to standard output unless it is. -/
def settle (debug : Bool) (l : Logger) : Logger :=
  if l.isConfigured then l else l.configure debug

theorem isConfigured_configure (debug : Bool) (l : Logger) :
    (l.configure debug).isConfigured = true := by
  simp [isConfigured, configure]

theorem isConfigured_settle (debug : Bool) (l : Logger) : (l.settle debug).isConfigured = true := by
  unfold settle
  split
  · assumption
  · exact isConfigured_configure debug l

/-- **What is settled stays.** -/
theorem settle_settle (debug debug' : Bool) (l : Logger) :
    (l.settle debug).settle debug' = l.settle debug :=
  if_pos (isConfigured_settle debug l)

theorem settle_of_not_isConfigured {l : Logger} (h : l.isConfigured = false) (debug : Bool) :
    l.settle debug = l.configure debug :=
  if_neg (by simp [h])

/-- The logger prints a record once at most, and if so, keeps it to itself. -/
structure PrintsOnce (l : Logger) : Prop where
  count_le : l.handlers.count .standardOutput ≤ 1
  keeps : l.isConfigured = true → l.propagates = false

theorem count_eq_zero {l : Logger} (h : l.isConfigured = false) :
    l.handlers.count .standardOutput = 0 := by
  simpa [isConfigured, List.count_eq_zero] using h

theorem printsOnce_of_not_isConfigured {l : Logger} (h : l.isConfigured = false) :
    l.PrintsOnce :=
  ⟨by rw [count_eq_zero h]; omega, fun hconfigured => absurd (h.symm.trans hconfigured) nofun⟩

theorem printsOnce_configure {l : Logger} (h : l.isConfigured = false) (debug : Bool) :
    (l.configure debug).PrintsOnce := by
  refine ⟨?_, fun _ => rfl⟩
  show (l.handlers ++ [Handler.standardOutput]).count .standardOutput ≤ 1
  rw [List.count_append, count_eq_zero h]
  decide

end Logger

/-! ## The way to the root -/

namespace Loggers

/-- The loggers below the root that a record may pass. -/
def below (ls : Loggers) (name : String) : List Logger := (ls.chain name).dropLast

theorem exists_above_eq (ls : Loggers) (name : String) (passes : Bool) (before : List Char) :
    ∃ names : List String, ls.above name passes before = names.map ls.named? := by
  induction before generalizing name passes with
  | nil => exact ⟨[], rfl⟩
  | cons c before ih =>
    rw [above]
    split
    · dsimp only
      split
      · obtain ⟨names, hnames⟩ := ih (String.ofList before.reverse) false
        exact ⟨_ :: names, congrArg _ hnames⟩
      · exact ih name true
    · exact ih name false

theorem exists_chain_eq (ls : Loggers) (name : String) :
    ∃ names : List String, ls.chain name = names.map ls.named? ++ [ls.root] := by
  unfold chain
  split
  · exact ⟨[], rfl⟩
  · obtain ⟨names, hnames⟩ := ls.exists_above_eq name false name.toList.reverse
    exact ⟨name :: names, by rw [hnames, List.map_cons]⟩

/-- The way of a record ends at the root. -/
theorem chain_eq (ls : Loggers) (name : String) : ls.chain name = ls.below name ++ [ls.root] := by
  obtain ⟨names, hchain⟩ := ls.exists_chain_eq name
  rw [below, hchain, List.dropLast_concat]

theorem mem_below {ls : Loggers} {name : String} {l : Logger} (h : l ∈ ls.below name) :
    ∃ other, ls.named? other = l := by
  obtain ⟨names, hchain⟩ := ls.exists_chain_eq name
  rw [below, hchain, List.dropLast_concat] at h
  obtain ⟨other, -, hother⟩ := List.mem_map.mp h
  exact ⟨other, hother⟩

/-- Does a record of a logger get to the root? -/
def reachesRoot (ls : Loggers) (name : String) : Bool := (ls.below name).all (·.propagates)

/-- The handlers of the last logger are reached just if those before it let records go on. -/
theorem reached_concat (before : List Logger) (last : Logger) :
    reached (before ++ [last]) =
      reached before ++ if before.all (·.propagates) then last.handlers else [] := by
  induction before with
  | nil => cases last with | mk handlers level propagates => cases propagates <;> simp [reached]
  | cons l before ih =>
    cases hpropagates : l.propagates <;> simp [reached, ih, hpropagates]

/-- **What is printed is printed once and goes no further.** -/
theorem printed_of_printsOnce {before : List Logger} (h : ∀ l ∈ before, l.PrintsOnce) :
    (reached before).count .standardOutput ≤ 1 ∧
      (.standardOutput ∈ reached before → before.all (·.propagates) = false) := by
  induction before with
  | nil => exact ⟨Nat.zero_le 1, fun hin => absurd hin List.not_mem_nil⟩
  | cons l before ih =>
    obtain ⟨hl, hbefore⟩ := List.forall_mem_cons.mp h
    obtain ⟨hcount, hkept⟩ := ih hbefore
    cases hpropagates : l.propagates with
    | false =>
      rw [reached, if_neg (by simp [hpropagates]), List.append_nil]
      exact ⟨hl.count_le, fun _ => by simp [hpropagates]⟩
    | true =>
      -- a logger that lets records go on does not print them
      have hfree : l.isConfigured = false := Bool.eq_false_iff.mpr fun hconfigured =>
        absurd (hpropagates.symm.trans (hl.keeps hconfigured)) nofun
      have hzero := Logger.count_eq_zero hfree
      rw [reached, if_pos hpropagates, List.count_append, hzero, Nat.zero_add, List.mem_append]
      refine ⟨hcount, fun hin => ?_⟩
      rcases hin with hin | hin
      · exact absurd hin (List.count_eq_zero.mp hzero)
      · simp [hpropagates, hkept hin]

end Loggers

/-! ## Routers that are made -/

/-- Is the logger with a name configured when the router is made? -/
def RouterOptions.configures (o : RouterOptions) (name : String) : Bool :=
  o.configureLogs && o.name == name

namespace Loggers

/-- The loggers after routers are made one after another. -/
def made (start : Loggers) (os : List RouterOptions) : Loggers :=
  os.foldl (fun ls o => o.loggers ls) start

/-- No logger writes to standard output. -/
structure NonePrints (ls : Loggers) : Prop where
  root : ls.root.isConfigured = false
  named : ∀ name, (ls.named? name).isConfigured = false

theorem named?_set {name : String} (hname : isRoot name = false) (ls : Loggers) (l : Logger)
    (other : String) :
    (ls.set name l).named? other = if name == other then l else ls.named? other := by
  rw [set, if_neg (by simp [hname]), named?, OrderedMap.get?_insert]
  split <;> rfl

theorem root_set {name : String} (hname : isRoot name = false) (ls : Loggers) (l : Logger) :
    (ls.set name l).root = ls.root := by
  rw [set, if_neg (by simp [hname])]

theorem get_of_isRoot {name : String} (hname : isRoot name = true) (ls : Loggers) :
    ls.get name = ls.root := if_pos hname

theorem get_of_not_isRoot {name : String} (hname : isRoot name = false) (ls : Loggers) :
    ls.get name = ls.named? name := if_neg (by simp [hname])

/-- Who has no handler for standard output among those it got, prints nothing. -/
theorem NonePrints.attach {ls : Loggers} (h : ls.NonePrints) {handler : Handler}
    (hhandler : handler ≠ .standardOutput) (name : String) : (ls.attach name handler).NonePrints := by
  have hkept : ∀ {l : Logger}, l.isConfigured = false →
      Logger.isConfigured { l with handlers := l.handlers ++ [handler] } = false := by
    intro l hl
    simpa [Logger.isConfigured, hhandler.symm] using hl
  cases hname : isRoot name with
  | true =>
    rw [Loggers.attach, set, if_pos hname, get_of_isRoot hname]
    exact ⟨hkept h.root, h.named⟩
  | false =>
    refine ⟨(congrArg Logger.isConfigured (root_set hname ls _)).trans h.root, fun other => ?_⟩
    rw [Loggers.attach, named?_set hname, get_of_not_isRoot hname]
    split
    · exact hkept (h.named name)
    · exact h.named other

theorem nonePrints_fresh : fresh.NonePrints := ⟨rfl, fun _ => rfl⟩

theorem named?_configure {name : String} (hname : isRoot name = false) (ls : Loggers)
    (debug : Bool) (other : String) :
    (ls.configure name debug).named? other =
      if name == other then (ls.named? other).settle debug else ls.named? other := by
  rw [configure, get_of_not_isRoot hname]
  by_cases heq : name = other
  · subst heq
    rw [if_pos (beq_self_eq_true name), Logger.settle]
    split
    · rfl
    · rw [named?_set hname, if_pos (beq_self_eq_true name)]
  · have hne : (name == other) = false := beq_eq_false_iff_ne.mpr heq
    simp only [hne, Bool.false_eq_true, if_false]
    split
    · rfl
    · rw [named?_set hname, hne, if_neg Bool.false_ne_true]

theorem named?_ensure {name : String} (hname : isRoot name = false) (ls : Loggers)
    (other : String) : (ls.ensure name).named? other = ls.named? other := by
  rw [ensure, named?_set hname, get_of_not_isRoot hname]
  split
  · rename_i heq
    rw [eq_of_beq heq]
  · rfl

theorem root_ensure {name : String} (hname : isRoot name = false) (ls : Loggers) :
    (ls.ensure name).root = ls.root := root_set hname ls _

/-- **Making a router settles the logger of its name**, if it is to be configured, and no other. -/
theorem named?_loggers {o : RouterOptions} (hname : isRoot o.name = false) (ls : Loggers)
    (name : String) :
    (o.loggers ls).named? name =
      if o.configures name then (ls.named? name).settle o.debug else ls.named? name := by
  unfold RouterOptions.loggers RouterOptions.configures
  cases o.configureLogs with
  | false => exact named?_ensure hname ls name
  | true =>
    rw [if_pos rfl, named?_configure hname, named?_ensure hname]
    rfl

theorem root_loggers {o : RouterOptions} (hname : isRoot o.name = false) (ls : Loggers) :
    (o.loggers ls).root = ls.root := by
  unfold RouterOptions.loggers configure
  split
  · split
    · exact root_ensure hname ls
    · exact (root_set hname _ _).trans (root_ensure hname ls)
  · exact root_ensure hname ls

theorem root_made (start : Loggers) {os : List RouterOptions}
    (hnames : ∀ o ∈ os, isRoot o.name = false) : (made start os).root = start.root := by
  induction os generalizing start with
  | nil => rfl
  | cons o os ih =>
    obtain ⟨hname, hnames⟩ := List.forall_mem_cons.mp hnames
    exact (ih (o.loggers start) hnames).trans (root_loggers hname start)

/-- **The first router that is to configure a logger settles it.** -/
theorem named?_made (start : Loggers) {os : List RouterOptions}
    (hnames : ∀ o ∈ os, isRoot o.name = false) (name : String) :
    (made start os).named? name = match os.find? (·.configures name) with
      | some o => (start.named? name).settle o.debug
      | none => start.named? name := by
  induction os generalizing start with
  | nil => rfl
  | cons o os ih =>
    obtain ⟨hname, hnames⟩ := List.forall_mem_cons.mp hnames
    refine (ih (o.loggers start) hnames).trans ?_
    rw [named?_loggers hname]
    cases hconfigures : o.configures name with
    | false => rw [if_neg nofun, List.find?_cons, hconfigures]
    | true =>
      -- whoever comes later finds it settled
      rw [if_pos rfl, List.find?_cons, hconfigures]
      split
      · exact Logger.settle_settle _ _ _
      · rfl

theorem NonePrints.get {ls : Loggers} (h : ls.NonePrints) (name : String) :
    (ls.get name).isConfigured = false := by
  unfold Loggers.get
  split
  · exact h.root
  · exact h.named name

theorem made_append (start : Loggers) (os more : List RouterOptions) :
    made start (os ++ more) = made (made start os) more := List.foldl_append

section Made
variable {start : Loggers} {os : List RouterOptions}

theorem find?_configures_of_isRoot (hnames : ∀ o ∈ os, isRoot o.name = false) {name : String}
    (hname : isRoot name = true) : os.find? (·.configures name) = none := by
  refine List.find?_eq_none.mpr fun o ho hconfigures => ?_
  obtain ⟨-, heq⟩ := Bool.and_eq_true_iff.mp hconfigures
  have hfalse := hnames o ho
  rw [eq_of_beq heq, hname] at hfalse
  exact absurd hfalse nofun

/-- Where nothing printed before, a logger is as the first router left it that configured it. -/
theorem get_made (hstart : start.NonePrints) (hnames : ∀ o ∈ os, isRoot o.name = false)
    (name : String) :
    (made start os).get name = match os.find? (·.configures name) with
      | some o => (start.get name).configure o.debug
      | none => start.get name := by
  cases hname : isRoot name with
  | true =>
    rw [find?_configures_of_isRoot hnames hname, get_of_isRoot hname, root_made start hnames,
      get_of_isRoot hname]
  | false =>
    rw [get_of_not_isRoot hname, named?_made start hnames, get_of_not_isRoot hname]
    split
    · exact Logger.settle_of_not_isConfigured (hstart.named name) _
    · rfl

theorem printsOnce_made (hstart : start.NonePrints) (hnames : ∀ o ∈ os, isRoot o.name = false)
    (name : String) : ((made start os).named? name).PrintsOnce := by
  rw [named?_made start hnames]
  split
  · rw [Logger.settle_of_not_isConfigured (hstart.named name)]
    exact Logger.printsOnce_configure (hstart.named name) _
  · exact Logger.printsOnce_of_not_isConfigured (hstart.named name)

/-- The handlers that a record reaches after routers are made print it once at most, and if they do,
the root does not get it. -/
theorem printed_made (hstart : start.NonePrints) (hnames : ∀ o ∈ os, isRoot o.name = false)
    (name : String) (level : Level) :
    ((made start os).deliver name level).count .standardOutput ≤ 1 ∧
      (.standardOutput ∈ (made start os).deliver name level →
        (made start os).reachesRoot name = false) := by
  have hbelow : ∀ l ∈ (made start os).below name, l.PrintsOnce := by
    intro l hl
    obtain ⟨other, rfl⟩ := mem_below hl
    exact printsOnce_made hstart hnames other
  obtain ⟨hcount, hkept⟩ := printed_of_printsOnce hbelow
  have hroot : Handler.standardOutput ∉ (made start os).root.handlers := by
    rw [root_made start hnames]
    exact List.count_eq_zero.mp (Logger.count_eq_zero hstart.root)
  unfold deliver
  split
  · rw [chain_eq, reached_concat, List.count_append, List.mem_append, reachesRoot]
    split
    · -- the record gets to the root, which does not print it
      rename_i hall
      rw [List.count_eq_zero.mpr hroot, Nat.add_zero]
      refine ⟨hcount, fun hin => ?_⟩
      rcases hin with hin | hin
      · exact hkept hin
      · exact absurd hin hroot
    · rename_i hall
      exact ⟨hcount, fun _ => by simpa using hall⟩
  · exact ⟨Nat.zero_le 1, fun hin => absurd hin List.not_mem_nil⟩

/-- What becomes of loggers when routers are made. -/
structure Stable (start : Loggers) (os : List RouterOptions) : Prop where
  count_le : ∀ name, ((made start os).get name).handlers.count .standardOutput ≤ 1
  isConfigured_iff : ∀ name, ((made start os).get name).isConfigured = true ↔
    ∃ o ∈ os, o.name = name ∧ o.configureLogs = true
  /-- A logger is as the first router made it that was to configure it. -/
  first : ∀ earlier o later, os = earlier ++ o :: later → o.configureLogs = true →
    (∀ o' ∈ earlier, o'.name = o.name → o'.configureLogs = false) →
      (made start os).get o.name =
        { handlers := (start.get o.name).handlers ++ [.standardOutput]
          level := some (if o.debug then .debug else .error)
          propagates := false }
  /-- A logger that no router was to configure is as it was. -/
  untouched : ∀ name, (∀ o ∈ os, o.name = name → o.configureLogs = false) →
    (made start os).get name = start.get name
  /-- A logger that was configured on the way has not changed since. -/
  settled : ∀ earlier later, os = earlier ++ later → ∀ name,
    ((made start earlier).get name).isConfigured = true →
      (made start os).get name = (made start earlier).get name
  /-- No router on the way has changed the logger of another name. -/
  others : ∀ earlier o later, os = earlier ++ o :: later → ∀ name, name ≠ o.name →
    (made start (earlier ++ [o])).get name = (made start earlier).get name
  printed_once : ∀ name level, ((made start os).deliver name level).count .standardOutput ≤ 1
  printed_not_root : ∀ name level, .standardOutput ∈ (made start os).deliver name level →
    (made start os).reachesRoot name = false

theorem find?_configures_eq_none {name : String} :
    os.find? (·.configures name) = none ↔ ∀ o ∈ os, o.name = name → o.configureLogs = false := by
  simp only [List.find?_eq_none, RouterOptions.configures, Bool.and_eq_true, beq_iff_eq, not_and,
    Bool.eq_false_iff, ne_eq]
  exact forall₂_congr fun o _ => ⟨fun h heq hlogs => h hlogs heq, fun h hlogs heq => h heq hlogs⟩

theorem exists_of_find?_configures {name : String} {o : RouterOptions}
    (h : os.find? (·.configures name) = some o) :
    o ∈ os ∧ o.name = name ∧ o.configureLogs = true := by
  have hconfigures := List.find?_some h
  obtain ⟨hlogs, hname⟩ := Bool.and_eq_true_iff.mp hconfigures
  exact ⟨List.mem_of_find?_eq_some h, eq_of_beq hname, hlogs⟩

/-- **Loggers are configured once**, however many routers are made. -/
theorem stable_made (hstart : start.NonePrints) (hnames : ∀ o ∈ os, isRoot o.name = false) :
    Stable start os where
  count_le name := by
    cases hname : isRoot name with
    | true =>
      rw [get_of_isRoot hname, root_made start hnames, Logger.count_eq_zero hstart.root]
      omega
    | false =>
      rw [get_of_not_isRoot hname]
      exact (printsOnce_made hstart hnames name).count_le
  isConfigured_iff name := by
    rw [get_made hstart hnames]
    cases hfind : os.find? (·.configures name) with
    | none =>
      refine ⟨fun h => absurd ((hstart.get name).symm.trans h) nofun, ?_⟩
      rintro ⟨o, ho, hname, hlogs⟩
      have hfalse := find?_configures_eq_none.mp hfind o ho hname
      exact absurd (hfalse.symm.trans hlogs) nofun
    | some o =>
      obtain ⟨ho, hname, hlogs⟩ := exists_of_find?_configures hfind
      exact ⟨fun _ => ⟨o, ho, hname, hlogs⟩, fun _ => Logger.isConfigured_configure _ _⟩
  first earlier o later hos hlogs hearlier := by
    have hself : o.configures o.name = true := by simp [RouterOptions.configures, hlogs]
    have hfind : os.find? (·.configures o.name) = some o := by
      rw [hos, List.find?_append, find?_configures_eq_none.mpr hearlier, Option.none_or,
        List.find?_cons, hself]
    rw [get_made hstart hnames, hfind]
    rfl
  untouched name hname := by
    rw [get_made hstart hnames, find?_configures_eq_none.mpr hname]
  settled earlier later hos name hconfigured := by
    have hbefore : ∀ o ∈ earlier, isRoot o.name = false := fun o ho =>
      hnames o (hos ▸ List.mem_append_left later ho)
    rw [get_made hstart hbefore] at hconfigured ⊢
    rw [get_made hstart hnames, hos, List.find?_append]
    cases hfind : earlier.find? (·.configures name) with
    | none =>
      rw [hfind] at hconfigured
      exact absurd ((hstart.get name).symm.trans hconfigured) nofun
    | some o => rfl
  others earlier o later hos name hne := by
    have ho : isRoot o.name = false :=
      hnames o (hos ▸ List.mem_append_right earlier List.mem_cons_self)
    rw [made_append]
    show (o.loggers (made start earlier)).get name = _
    cases hname : isRoot name with
    | true => rw [get_of_isRoot hname, get_of_isRoot hname, root_loggers ho]
    | false =>
      have hconfigures : o.configures name = false := by
        simp [RouterOptions.configures, hne.symm]
      rw [get_of_not_isRoot hname, get_of_not_isRoot hname, named?_loggers ho, hconfigures,
        if_neg nofun]
  printed_once name level := (printed_made hstart hnames name level).1
  printed_not_root name level := (printed_made hstart hnames name level).2

end Made

/-- Routers of two names, one below the other. The first of the outer name leaves its logger alone, the
third would have it print less than the second. -/
def sampleRouters : List RouterOptions :=
  [{ name := "api", configureLogs := false }, { name := "api", debug := true }, { name := "api" },
    { name := "api.users", configureLogs := false, debug := true }]

theorem stable_made_sampleRouters :
    (fresh.attach "api" .other).NonePrints ∧
      (∀ o ∈ sampleRouters, isRoot o.name = false) ∧
      Stable (fresh.attach "api" .other) sampleRouters ∧
      (made (fresh.attach "api" .other) sampleRouters).get "api" =
        { handlers := [.other, .standardOutput], level := some .debug, propagates := false } ∧
      (made (fresh.attach "api" .other) sampleRouters).deliver "api.users" .debug =
        [.other, .standardOutput] := by
  have hstart : (fresh.attach "api" .other).NonePrints := nonePrints_fresh.attach (by decide) "api"
  have hnames : ∀ o ∈ sampleRouters, isRoot o.name = false := by decide +kernel
  exact ⟨hstart, hnames, stable_made hstart hnames, by decide +kernel, by decide +kernel⟩

end Loggers

end RouteTree
