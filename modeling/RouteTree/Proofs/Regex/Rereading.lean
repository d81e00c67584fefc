import RouteTree.Proofs.Regex.Settling

/-!
# The end of an expression, and reading it again

**The end of the text completes both expressions, or none** (`Reader.Prefaced.finish`): two readers, one
behind anchors, that have come to the same flags have the same groups open, ask for the same groups and
have the same faults to find in the whole.

So **a pattern can be read again under the flags it shows, with the same result** (`read_again`), though
the flags may come from its text, where they stand once more. If the flags that are given skip blanks
from the beginning, or if no flags do, the two readers differ in nothing that reading depends on, and
`Prefaced` without anchors applies. Otherwise it is the text that has blanks skipped, and they can be
skipped from the beginning.
-/

namespace RouteTree.Regex

open Text

/-! ## Faults of the whole -/

section

variable {template : Bool} {groups : List (Option Width)}

theorem fault?_sequence_eq_none {items : List Regex} :
    (sequence items).fault? template groups = none ↔
      ∀ item ∈ items, item.fault? template groups = none := by
  induction items with
  | nil => exact ⟨fun _ => nofun, fun _ => rfl⟩
  | cons item items ih =>
    cases items with
    | nil =>
      rw [List.forall_mem_singleton]
      rfl
    | cons next items =>
      rw [List.forall_mem_cons, ← ih]
      exact Option.or_eq_none_iff

theorem fault?_choice_eq_none {alternatives : List Regex} {last : Regex} :
    (choice alternatives last).fault? template groups = none ↔
      (∀ r ∈ alternatives, r.fault? template groups = none) ∧ last.fault? template groups = none := by
  induction alternatives with
  | nil => exact (and_iff_right nofun).symm
  | cons r rs ih =>
    rw [List.forall_mem_cons, and_assoc, ← ih]
    exact Option.or_eq_none_iff

/-- The whole expression has a fault if one of its branches or of the items read last has. -/
theorem fault?_body_eq_none {f : Frame} (hwhole : f.opening = .whole) :
    f.body.fault? template groups = none ↔
      (∀ branch ∈ f.branches, branch.fault? template groups = none) ∧
        ∀ item ∈ f.items, item.fault? template groups = none := by
  have hbody : f.body = choice f.branches.reverse (sequence f.items.reverse) := by
    simp only [Frame.body, hwhole]
  rw [hbody, fault?_choice_eq_none, fault?_sequence_eq_none]
  simp only [List.mem_reverse]

/-- An item without a fault brings none in. -/
theorem fault?_body_push {item : Regex} (hitem : item.fault? template groups = none) (f : Frame) :
    ({ f with items := item :: f.items } : Frame).body.fault? template groups = none ↔
      f.body.fault? template groups = none := by
  have hitems : (sequence (item :: f.items).reverse).fault? template groups = none ↔
      (sequence f.items.reverse).fault? template groups = none := by
    simp only [fault?_sequence_eq_none, List.mem_reverse, List.forall_mem_cons, hitem, true_and]
  unfold Frame.body
  dsimp only
  split
  · split
    · exact Option.or_eq_none_iff.trans ((and_congr_left' hitems).trans Option.or_eq_none_iff.symm)
    · exact Option.or_eq_none_iff.trans ((and_congr_right' hitems).trans Option.or_eq_none_iff.symm)
  · rw [fault?_choice_eq_none, fault?_choice_eq_none]
    exact and_congr_right' hitems

/-- Anchors have no faults. -/
theorem Reader.LikeWhole.fault?_body {extra : List Regex}
    (hextra : ∀ item ∈ extra, item = .assertion .lineStart) {f f' : Frame}
    (h : Reader.LikeWhole extra f f') :
    f.body.fault? template groups = none ↔ f'.body.fault? template groups = none := by
  have hnone : ∀ item ∈ extra, item.fault? template groups = none := by
    intro item hitem
    obtain rfl := hextra item hitem
    rfl
  cases h with
  | first start start' verbose items =>
    rw [fault?_body_eq_none rfl, fault?_body_eq_none rfl, List.forall_mem_append]
    exact and_congr_right' (and_iff_left hnone)
  | later start start' verbose branches begun items =>
    have hbranch : (sequence (extra.reverse ++ begun)).fault? template groups = none ↔
        (sequence begun).fault? template groups = none := by
      simp only [fault?_sequence_eq_none, List.forall_mem_append, List.mem_reverse]
      exact and_iff_right hnone
    rw [fault?_body_eq_none rfl, fault?_body_eq_none rfl]
    simp only [List.forall_mem_append, List.forall_mem_singleton, hbranch]

end

namespace Reader

variable {r closed : Reader}

/-! ## The end of the text -/

/-- What both readers come to: trees of the whole expression under the same changes of flags. -/
structure LikeRead (extra : List Regex) (flags flags' : Flags) (read read' : Regex × Flags) :
    Prop where
  whole : ∃ f f', LikeWhole extra f f' ∧ read.1 = f.body ∧ read'.1 = f'.body
  changed : ∃ change : FlagChange, change.verbose ≠ some false ∧ read.2 = change.apply flags ∧
    read'.2 = change.apply flags'

/-- No group is open, the flags do not clash, every group asked for is there, and the whole has no
fault. -/
structure IsComplete (r : Reader) : Prop where
  outer : r.outer = []
  flags : r.clashes = false
  conditions : r.conditions.find? (r.widths.length < ·.1) = none
  body : r.frame.body.fault? r.flags.template r.widths = none

/-- What it takes to be complete at the end. -/
theorem finish_ok {read : Regex × Flags} (h : r.finish = .ok read) :
    ∃ closed, r.closeMode = .ok closed ∧ closed.IsComplete ∧
      read = (closed.frame.body, closed.flags) := by
  obtain ⟨closed, hclosed⟩ := exists_closeMode_of_finish h
  refine ⟨closed, hclosed, ?_⟩
  unfold finish at h
  rw [hclosed] at h
  cases houter : closed.outer with
  | cons frame outer =>
    simp only [bind, Except.bind, houter] at h
    exact absurd h nofun
  | nil =>
    cases hflags : closed.clashes with
    | true =>
      simp only [bind, Except.bind, houter, hflags] at h
      exact absurd h nofun
    | false =>
      cases hconditions : closed.conditions.find? (closed.widths.length < ·.1) with
      | some c =>
        simp only [bind, Except.bind, houter, hflags, hconditions] at h
        exact absurd h nofun
      | none =>
        cases hbody : closed.frame.body.fault? closed.flags.template closed.widths with
        | some cause =>
          simp only [bind, Except.bind, houter, hflags, hconditions, hbody] at h
          exact absurd h nofun
        | none =>
          simp only [bind, Except.bind, houter, hflags, hconditions, hbody] at h
          exact ⟨⟨houter, hflags, hconditions, hbody⟩, (Except.ok.inj h).symm⟩

theorem finish_eq_ok (hclosed : r.closeMode = .ok closed) (h : closed.IsComplete) :
    r.finish = .ok (closed.frame.body, closed.flags) := by
  unfold finish
  rw [hclosed]
  simp only [bind, Except.bind, h.outer, h.flags, h.conditions, h.body]
  rfl

/-- Where a reader is does not matter, nor what mode it is in. -/
theorem IsComplete.move (h : r.IsComplete) (mode : Mode) (position : Nat) :
    { r with mode, position }.IsComplete := ⟨h.outer, h.flags, h.conditions, h.body⟩

/-- **An anchor at the end completes nothing and leaves nothing to complete.** -/
theorem isComplete_push_assertion_iff (r : Reader) (a : Assertion) (position : Nat) :
    { r.push (.assertion a) with position }.IsComplete ↔ r.IsComplete := by
  have hitem : (Regex.assertion a).fault? r.flags.template r.widths = none := rfl
  have hbody := fault?_body_push hitem r.frame
  exact ⟨fun h => ⟨h.outer, h.flags, h.conditions, hbody.mp h.body⟩,
    fun h => ⟨h.outer, h.flags, h.conditions, hbody.mpr h.body⟩⟩

theorem flags_of_finish {read : Regex × Flags} (h : r.finish = .ok read) : read.2 = r.flags := by
  obtain ⟨closed, hclosed, -, rfl⟩ := finish_ok h
  exact (stays_closeMode r closed hclosed).flags

namespace Prefaced

variable {extra : List Regex} {flags flags' : Flags} {r' : Reader}

/-- Both have the same groups open, ask for the same groups and have the same faults. -/
theorem isComplete_iff (hextra : ∀ item ∈ extra, item = .assertion .lineStart)
    (h : Prefaced extra flags flags' r r') (hflags : r.flags = r'.flags) :
    r.IsComplete ↔ r'.IsComplete := by
  have hclashes : r.clashes = r'.clashes := by rw [clashes, clashes, h.unicode, hflags]
  have hfind : ∀ (conditions : List (Nat × Nat)) (groups : Nat),
      conditions.find? (groups < ·.1) = none ↔ ∀ i ∈ conditions.map Prod.fst, ¬ groups < i := by
    intro conditions groups
    simp [List.find?_eq_none]
  have hconditions : r.conditions.find? (r.widths.length < ·.1) = none ↔
      r'.conditions.find? (r'.widths.length < ·.1) = none := by
    rw [hfind, hfind, h.conditions, h.widths]
  have hbody : ∀ {f f' : Frame}, LikeWhole extra f f' →
      (f.body.fault? r.flags.template r.widths = none ↔
        f'.body.fault? r'.flags.template r'.widths = none) := by
    intro f f' hwhole
    rw [hflags, h.widths]
    exact hwhole.fault?_body hextra
  have hstacks := h.frames
  constructor
  · rintro ⟨houter, hflags, hgroups, hfault⟩
    have hwhole := hstacks.likeWhole houter
    exact ⟨hstacks.outer_eq_nil_iff.mp houter, hclashes ▸ hflags, hconditions.mp hgroups,
      (hbody hwhole).mp hfault⟩
  · rintro ⟨houter', hflags, hgroups, hfault⟩
    have houter := hstacks.outer_eq_nil_iff.mpr houter'
    have hwhole := hstacks.likeWhole houter
    exact ⟨houter, hclashes ▸ hflags, hconditions.mpr hgroups, (hbody hwhole).mpr hfault⟩

/-- **The end of the text completes both expressions, or none.** -/
theorem finish (hextra : ∀ item ∈ extra, item = .assertion .lineStart)
    (h : Prefaced extra flags flags' r r') (hflags : r.flags = r'.flags) :
    Agrees (LikeRead extra flags flags') r.finish r'.finish := by
  have hnone : ∀ {s : Reader}, (∀ u, s.closeMode = .ok u → ¬ u.IsComplete) →
      ∀ read, s.finish ≠ .ok read := by
    intro s hs read hread
    obtain ⟨u, hu, hcomplete, -⟩ := finish_ok hread
    exact hs u hu hcomplete
  have hclose := h.closeMode
  generalize hr : r.closeMode = x, hr' : r'.closeMode = x' at hclose
  cases hclose with
  | error =>
    refine .of_ne_ok (hnone fun u hu => ?_) (hnone fun u hu => ?_)
    · exact absurd (hu.symm.trans hr) nofun
    · exact absurd (hu.symm.trans hr') nofun
  | @ok closed closed' hlike =>
    have hclosed : closed.flags = closed'.flags := by
      rw [(stays_closeMode r closed hr).flags, (stays_closeMode r' closed' hr').flags, hflags]
    by_cases hcomplete : closed.IsComplete
    · have hcomplete' := (hlike.isComplete_iff hextra hclosed).mp hcomplete
      have hwhole := hlike.frames.likeWhole hcomplete.outer
      rw [finish_eq_ok hr hcomplete, finish_eq_ok hr' hcomplete']
      exact .ok ⟨⟨_, _, hwhole, rfl, rfl⟩, hlike.changed⟩
    · refine .of_ne_ok (hnone fun u hu => ?_) (hnone fun u hu => ?_)
      · obtain rfl := Except.ok.inj (hu.symm.trans hr)
        exact hcomplete
      · obtain rfl := Except.ok.inj (hu.symm.trans hr')
        exact mt (hlike.isComplete_iff hextra hclosed).mpr hcomplete

/-- Readers that began under the same flags have come to the same. -/
theorem flags_eq (h : Prefaced extra flags flags r r') : r.flags = r'.flags := by
  obtain ⟨change, -, hflags, hflags'⟩ := h.changed
  rw [hflags, hflags']

end Prefaced

/-- Where there are no anchors, both expressions are the same. -/
theorem LikeWhole.body_eq {f f' : Frame} (h : LikeWhole [] f f') : f.body = f'.body := by
  cases h with
  | first start start' verbose items =>
    rw [List.append_nil]
    rfl
  | later => rfl

/-- Two readers at the beginning, which both skip blanks or both do not. -/
theorem prefaced_initial {flags flags' : Flags} (h : flags.verbose = flags'.verbose) :
    Prefaced [] flags flags' (Reader.initial flags) (Reader.initial flags') where
  changed := ⟨{}, (Option.some_ne_none false).symm, rfl, rfl⟩
  verbose := h
  frames := by
    have hwhole : LikeWhole [] _ _ := .first 0 0 flags.verbose []
    refine .whole ?_
    unfold initial
    rw [← h]
    exact hwhole
  widths := rfl
  names := rfl
  behind := rfl
  conditions := rfl
  unicode := rfl
  mode := .plain

end Reader

/-! ## Whole expressions -/

variable [CharacterNames]

/-- Reading is reading the tokens up to the end. -/
theorem read_eq_ok_of_finish {flags : Flags} {source : List Char} {r : Reader} {read₀ : Regex × Flags}
    (htokens : (tokens source).2 = false)
    (hread : (Reader.initial flags).readTokens (tokens source).1 = .ok r)
    (hfinish : r.finish = .ok read₀) : read flags source = .ok read₀ := by
  unfold read
  simp only [hread, htokens]
  exact hfinish

/-- What two readers come to that both skip blanks or both do not, the second under the flags that the
first was given or under those that it found. -/
theorem read_congr {flags flags' : Flags} {source : List Char} {read₀ : Regex × Flags}
    (h : read flags source = .ok read₀) (hverbose : flags.verbose = flags'.verbose)
    (hfound : flags' = flags ∨ flags' = read₀.2) :
    ∃ change : FlagChange, change.verbose ≠ some false ∧ read₀.2 = change.apply flags ∧
      read flags' source = .ok (read₀.1, change.apply flags') := by
  obtain ⟨r, hr, htokens, hfinish⟩ := exists_of_read h
  obtain ⟨r', hr', hlike⟩ := (Reader.prefaced_initial hverbose).readTokens (by simp) _ r hr
  have hflags : r.flags = r'.flags := by
    obtain ⟨change, -, hr, hr'⟩ := hlike.changed
    rcases hfound with rfl | rfl
    · rw [hr, hr']
    · rw [hr', Reader.flags_of_finish hfinish, hr, FlagChange.apply_apply]
  obtain ⟨read', hfinish', ⟨f, f', hwhole, hregex, hregex'⟩, change, hchange, hflags, hflags'⟩ :=
    (hlike.finish (by simp) hflags).follows read₀ hfinish
  refine ⟨change, hchange, hflags, ?_⟩
  rw [read_eq_ok_of_finish htokens hr' hfinish', hregex, hwhole.body_eq, ← hregex', ← hflags']

/-- **What has been read can be read again** under the flags that were found. -/
theorem read_again {flags flags' : Flags} {source : List Char} {regex : Regex}
    (h : read flags source = .ok (regex, flags')) : read flags' source = .ok (regex, flags') := by
  have hsame : ∀ {flags : Flags}, read flags source = .ok (regex, flags') →
      flags.verbose = flags'.verbose → read flags' source = .ok (regex, flags') := by
    intro flags h hverbose
    obtain ⟨change, -, rfl, hread⟩ := read_congr h hverbose (.inr rfl)
    rwa [FlagChange.apply_apply] at hread
  cases hverbose : flags.verbose with
  | true =>
    -- no flags turn the skipping of blanks off
    obtain ⟨change, hchange, rfl, -⟩ := read_congr h rfl (.inl rfl)
    refine hsame h ?_
    change flags.verbose = change.verbose.getD flags.verbose
    cases hbit : change.verbose with
    | none => rfl
    | some bit =>
      cases bit with
      | false => exact absurd hbit hchange
      | true => exact hverbose
  | false =>
    cases hverbose' : flags'.verbose with
    | false => exact hsame h (hverbose.trans hverbose'.symm)
    | true =>
      obtain ⟨r, hr, htokens, hfinish⟩ := exists_of_read h
      have hflags : r.flags.verbose = true := by
        rw [← Reader.flags_of_finish hfinish]
        exact hverbose'
      have hr' := Reader.readTokens_verbosely rfl hr hflags
      have hread : read { flags with verbose := true } source = .ok (regex, flags') :=
        read_eq_ok_of_finish htokens hr' hfinish
      exact hsame hread hverbose'.symm

end RouteTree.Regex
