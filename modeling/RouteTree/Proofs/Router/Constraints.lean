import RouteTree.Proofs.Router.Nesting
import RouteTree.Proofs.Template.Anchors
import RouteTree.Proofs.Template.Squeezing

/-!
# Constraints that are refused

Whether a constraint is a regular expression is only ever asked of its anchored text. **A constraint
that can be read is anchored, unless it begins with flags for the whole expression; one that cannot be
read is refused, unless it ends within an escape that the closing anchor completes**
(`anchor_accepts`). So `(?i)a`, which can be read, is refused, and a lone backslash, which cannot, is
accepted.

A constraint that is refused is refused wherever it stands: in a template, in the uri of a group or a
route, and among their options.
-/

namespace RouteTree

namespace Constraint

open Regex

variable [CharacterNames]

/-- What can be read does not end within an escape. -/
theorem completed_of_isValid {flags : Flags} {source : List Char} (h : IsValid flags source) :
    completed source = source := by
  obtain ⟨read₀, hread⟩ := h
  obtain ⟨-, -, htokens, -⟩ := exists_of_read hread
  exact completed_of_tokens htokens

/-- **A text that can be read is anchored**, unless it begins with flags. -/
theorem exists_anchor_of_isValid {source : String} (h : IsValid {} source.toList) :
    (∃ p, anchor (.str source) = .ok p) ↔ ¬ BeginsWithFlags false (tokens source.toList).1 := by
  rw [exists_anchor_str_iff, completed_of_isValid h]
  exact and_iff_right h

/-- **A text that cannot be read is refused**, unless it ends within an escape that the anchor
completes. -/
theorem exists_anchor_of_not_isValid {source : String} (h : ¬ IsValid {} source.toList) :
    (∃ p, anchor (.str source) = .ok p) ↔ (tokens source.toList).2 = true ∧
      IsValid {} (source.toList ++ ['$']) ∧
      ¬ BeginsWithFlags false (tokens (source.toList ++ ['$'])).1 := by
  rw [exists_anchor_str_iff]
  unfold completed
  cases (tokens source.toList).2 with
  | true => exact (and_iff_right rfl).symm
  | false => exact ⟨fun hread => absurd hread.1 h, fun hread => absurd hread.1 nofun⟩

/-- Whoever refuses a text names it, but for a repetition that is too large. That text cannot be read
without anchors either. -/
theorem anchor_str_fault {source : String} {fault : Fault} (h : anchor (.str source) = .error fault) :
    (∃ reason, fault = .invalidPattern (.str source) (.str reason)) ∨
      fault = .repetitionTooLarge ∧ ¬ IsValid {} source.toList := by
  have hnone : ¬ ∃ p, anchor (.str source) = .ok p := by
    rintro ⟨p, hp⟩
    exact absurd (hp.symm.trans h) nofun
  rw [anchor_str] at h
  unfold compileAnchored Pattern.compile at h
  simp only [String.toList_ofList] at h
  cases hread : read {} (anchorText source.toList) with
  | ok read₀ =>
    simp only [hread] at h
    exact absurd h nofun
  | error e =>
    simp only [hread] at h
    split at h
    · rename_i hcause
      refine .inr ⟨(Except.error.inj h).symm, fun hvalid => ?_⟩
      -- flags are refused for another cause
      rw [exists_anchor_of_isValid hvalid, not_not] at hnone
      rw [← completed_of_isValid hvalid] at hnone
      have hflags : BeginsWithFlags ({} : Flags).verbose (tokens (completed source.toList)).1 := hnone
      obtain ⟨e', he', hother⟩ := refuses_anchorText hflags
      obtain rfl := Except.error.inj (hread.symm.trans he')
      exact hother hcause
    · exact .inl ⟨_, (Except.error.inj h).symm⟩

/-- Constraints that are all anchored are anchored one by one. -/
theorem anchor_of_anchorAll {constraints : Params} {own : Constraints}
    (h : anchorAll constraints = .ok own) {v : Value} (hv : v ∈ constraints.entries.map (·.2)) :
    ∃ p, anchor v = .ok p :=
  (anchorAll_eq_ok_iff.mp h).exists_of_mem hv

end Constraint

namespace Template

variable [CharacterNames]

/-- The constraints that stand in a template. -/
def inlineBodies (template : String) : List Value :=
  (constrainedIn template.toList).map fun c => .str (String.ofList (collapseBackslashes c.body))

/-- A template that compiles has constraints that are anchored. -/
theorem anchor_of_compile {template : String} {strict : Bool} {c : Compiled}
    (h : compile template strict = .ok c) {v : Value} (hv : v ∈ inlineBodies template) :
    ∃ p, Constraint.anchor v = .ok p := by
  obtain ⟨d, hd, rfl⟩ := List.mem_map.mp hv
  obtain ⟨hconstraints, -⟩ := eq_of_compile h
  obtain ⟨anchored, hfound, hanchored⟩ := exists_of_constraintsOf hconstraints
  rw [constrainedIn, ← hfound] at hd
  obtain ⟨e, he, rfl⟩ := List.mem_map.mp hd
  rw [Text.collapseBackslashes_eq]
  exact ⟨e.2, hanchored e he⟩

end Template

namespace Router

open Regex Template

theorem exists_error_of_ne_ok {α : Type} {x : Except Fault α} (h : ∀ a, x ≠ .ok a) :
    ∃ fault, x = .error fault := by
  cases x with
  | ok a => exact absurd rfl (h a)
  | error fault => exact ⟨fault, rfl⟩

section

variable [CharacterNames]

/-- The constraints that a group is given: those in its mount, and those among its options. -/
def GivenToGroup (read : GroupOptions) (v : Value) : Prop :=
  (∃ mount, read.mount = .str mount ∧ v ∈ inlineBodies mount) ∨
    v ∈ read.constraints.entries.map (·.2)

/-- The constraints that a route is given inside groups with these uris: those in its own uri, as it is
joined to theirs, and those among its options. -/
def GivenToRoute (uris : List String) (read : RouteOptions) (v : Value) : Prop :=
  (∃ uri, joinedUri uris read.uri = .ok uri ∧ v ∈ inlineBodies uri) ∨
    v ∈ read.constraints.entries.map (·.2)

/-- A group that is opened was given constraints that are anchored. -/
theorem anchor_of_openGroup {r : Router} {address child : Address} {options : Value} {more : Params}
    {read : GroupOptions} {v : Value} (hread : GroupOptions.ofValue options more = .ok read)
    (hv : GivenToGroup read v) (h : (openGroup address options more r).outcome = .ok child) :
    ∃ p, Constraint.anchor v = .ok p := by
  obtain ⟨parent, g, -, hg, -, -⟩ := openGroup_ok ⟨h, rfl⟩
  obtain ⟨hoptions, mount, hmount, hcompiled, hown⟩ := Opened.of_read hg
  obtain rfl := Except.ok.inj (hoptions.symm.trans hread)
  rcases hv with ⟨mount', hmount', hv⟩ | hv
  · rw [hmount'] at hmount
    obtain rfl := Except.ok.inj hmount
    exact anchor_of_compile hcompiled hv
  · exact Constraint.anchor_of_anchorAll hown hv

/-- A route that is defined was given constraints that are anchored. -/
theorem anchor_of_defineRoute {r : Router} {address : Address} {n : Node} {options : Value}
    {more : Params} {action : Value} {entry : Entry} {read : RouteOptions} {v : Value}
    (hn : r.root.at? address = some n) (hread : RouteOptions.ofValue options more = .ok read)
    (hv : GivenToRoute n.settings.uris read v)
    (h : (defineRoute address options more action r).outcome = .ok entry) :
    ∃ p, Constraint.anchor v = .ok p := by
  obtain ⟨m, d, hm, -, -⟩ := defineRoute_ok ⟨h, rfl⟩
  obtain rfl := Option.some.inj (hm.symm.trans hn)
  obtain rfl := Except.ok.inj (d.read_eq.symm.trans hread)
  rcases hv with ⟨uri, huri, hv⟩ | hv
  · obtain rfl := Except.ok.inj (d.uri_eq.symm.trans huri)
    exact anchor_of_compile d.compiled_eq hv
  · exact Constraint.anchor_of_anchorAll d.own_eq hv

/-- **What is accepted as a constraint.** A text that can be read is anchored, unless it begins with flags
for the whole expression. One that cannot be read is refused, unless it ends within an escape that the
closing anchor completes. A refusal names the text, but for a repetition that is too large. A pattern of
the text is anchored, unless it begins with flags. Whatever is refused is refused in every template, and
for every group and route that it is given to. -/
theorem anchor_accepts (source : String) :
    (IsValid {} source.toList →
      ((∃ p, Constraint.anchor (.str source) = .ok p) ↔
        ¬ BeginsWithFlags false (tokens source.toList).1)) ∧
    (¬ IsValid {} source.toList →
      ((∃ p, Constraint.anchor (.str source) = .ok p) ↔ (tokens source.toList).2 = true ∧
        IsValid {} (source.toList ++ ['$']) ∧
        ¬ BeginsWithFlags false (tokens (source.toList ++ ['$'])).1)) ∧
    (∀ fault, Constraint.anchor (.str source) = .error fault →
      (∃ reason, fault = .invalidPattern (.str source) (.str reason)) ∨
        fault = .repetitionTooLarge ∧ ¬ IsValid {} source.toList) ∧
    (∀ (flags : Flags) (p : Pattern), Pattern.compile source flags = .ok p →
      ((∃ q, Constraint.anchor (.pattern p) = .ok q) ↔
        ¬ BeginsWithFlags p.flags.verbose (tokens source.toList).1)) ∧
    ∀ (v : Value) (fault : Fault), Constraint.anchor v = .error fault →
      (∀ (template : String) (strict : Bool), v ∈ inlineBodies template →
        ∃ fault, Template.compile template strict = .error fault) ∧
      (∀ (r : Router) (address : Address) (options : Value) (more : Params) (read : GroupOptions),
        GroupOptions.ofValue options more = .ok read → GivenToGroup read v →
        ∃ fault, (openGroup address options more r).outcome = .error fault) ∧
      (∀ (r : Router) (address : Address) (n : Node) (options : Value) (more : Params)
        (action : Value) (read : RouteOptions), r.root.at? address = some n →
        RouteOptions.ofValue options more = .ok read → GivenToRoute n.settings.uris read v →
        ∃ fault, (defineRoute address options more action r).outcome = .error fault) := by
  refine ⟨Constraint.exists_anchor_of_isValid, Constraint.exists_anchor_of_not_isValid,
    fun fault h => Constraint.anchor_str_fault h, fun flags p h => ?_, fun v fault h => ?_⟩
  · obtain ⟨hread, rfl⟩ := Constraint.read_of_compile h
    exact Constraint.exists_anchor_pattern_iff hread
  · have hrefused : ¬ ∃ p, Constraint.anchor v = .ok p := by
      rintro ⟨p, hp⟩
      exact absurd (hp.symm.trans h) nofun
    refine ⟨fun template strict hv => ?_, fun r address options more read hread hv => ?_,
      fun r address n options more action read hn hread hv => ?_⟩
    · exact exists_error_of_ne_ok fun c hc => hrefused (anchor_of_compile hc hv)
    · exact exists_error_of_ne_ok fun child hchild => hrefused (anchor_of_openGroup hread hv hchild)
    · exact exists_error_of_ne_ok fun entry hentry =>
        hrefused (anchor_of_defineRoute hn hread hv hentry)

end

open scoped CharacterNames.Unnamed

/-- A set that is not closed is refused by itself, in a template and for a group; digits are accepted, and
so is a pattern with flags of its own. -/
theorem anchor_accepts_unclosedSet :
    (IsValid {} "\\d+".toList ∧ ∃ p, Constraint.anchor (.str "\\d+") = .ok p) ∧
      (∃ p, Pattern.compile "a b" { verbose := true } = .ok p ∧
        ∃ q, Constraint.anchor (.pattern p) = .ok q) ∧
      ¬ IsValid {} "[a-".toList ∧
      ∃ fault, Constraint.anchor (.str "[a-") = .error fault ∧
        (∃ reason, fault = .invalidPattern (.str "[a-") (.str reason)) ∧
        (∃ fault, Template.compile "/users/:id([a-)" false = .error fault) ∧
        (∃ fault, (openGroup [] (.str "/users/:id([a-)") .empty
          (fresh "sample" false true none .keep)).outcome = .error fault) ∧
        ∃ fault, (defineRoute [] (.str "/users/:id([a-)") .empty .null
          (fresh "sample" false true none .keep)).outcome = .error fault := by
  obtain ⟨hvalid, -⟩ := anchor_accepts "\\d+"
  obtain ⟨-, -, -, hpattern, -⟩ := anchor_accepts "a b"
  obtain ⟨-, hinvalid, hfault, -, hgiven⟩ := anchor_accepts "[a-"
  have hdigits : IsValid {} "\\d+".toList := ⟨_, rfl⟩
  have hset : ¬ IsValid {} "[a-".toList := by
    rintro ⟨read₀, hread⟩
    exact absurd hread nofun
  have hspaced : Pattern.compile "a b" { verbose := true } = .ok _ := rfl
  have hfound : constrainedIn "/users/:id([a-)".toList =
      [⟨⟨['i', 'd'], false⟩, [':', 'i', 'd'], ['[', 'a', '-']⟩] := by decide +kernel
  have hbody : (.str "[a-" : Value) ∈ inlineBodies "/users/:id([a-)" := by
    rw [inlineBodies, hfound]
    exact List.mem_singleton.mpr rfl
  obtain ⟨fault, hrefused⟩ : ∃ fault, Constraint.anchor (.str "[a-") = .error fault :=
    exists_error_of_ne_ok fun p hp => absurd ((hinvalid hset).mp ⟨p, hp⟩).1 (by decide)
  have hreason : Constraint.anchor (.str "[a-") = .error (.invalidPattern _ _) := rfl
  obtain ⟨htemplate, hgroup, hroute⟩ := hgiven _ fault hrefused
  refine ⟨⟨hdigits, (hvalid hdigits).mpr ?_⟩, ⟨_, hspaced, (hpattern _ _ hspaced).mpr ?_⟩, hset, fault,
    hrefused, ?_, htemplate _ false hbody, ?_, ?_⟩
  · exact fun hflags => absurd hflags.head?_eq (by decide)
  · change ¬ BeginsWithFlags true [.char 'a', .char ' ', .char 'b']
    intro hflags
    cases hflags with
    | blank _ hc => exact absurd hc (by decide)
  · refine (hfault _ hrefused).resolve_right fun htoo => ?_
    obtain rfl := Except.error.inj (hreason.symm.trans hrefused)
    exact absurd htoo.1 nofun
  · exact hgroup _ _ _ _ _ rfl (.inl ⟨_, rfl, hbody⟩)
  · exact hroute _ _ _ _ _ _ _ rfl rfl (.inl ⟨_, rfl, hbody⟩)

/-- A lone backslash cannot be read and is accepted; a text with flags can be read and is refused. -/
theorem anchor_accepts_backslash :
    (¬ IsValid {} "\\".toList ∧ ∃ p, Constraint.anchor (.str "\\") = .ok p) ∧
      IsValid {} "(?i)a".toList ∧ ¬ ∃ p, Constraint.anchor (.str "(?i)a") = .ok p := by
  refine ⟨⟨?_, ⟨"^\\$", {}, _⟩, rfl⟩, ⟨_, rfl⟩, ?_⟩
  · rintro ⟨read₀, hread⟩
    exact absurd hread nofun
  · rintro ⟨p, hp⟩
    exact absurd hp nofun

end Router

end RouteTree
