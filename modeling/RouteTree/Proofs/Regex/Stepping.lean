import RouteTree.Regex.Matcher

/-!
# Expressions without a second way

A search goes back to another way of matching only if there is one. An expression that matches one
character has one way at most (`IsStep`), and so has one put together from such expressions one after
another, or as alternatives of which one at most applies.

A repetition has a way for every number of rounds. It tries the greatest first, so **a greedy repetition
ends where no round is left, if what follows has no better chance after fewer rounds**
(`search_iterate_of_steps`). That is so if nothing follows, and if what follows cannot begin where a
round does.
-/

namespace RouteTree.Regex

open Text

variable {flags : Flags}

/-- The search goes where `step` does, and has no other way. -/
def IsStep (search : Search) (step : Cursor → Option Cursor) : Prop :=
  ∀ s follow, search s follow = (step s).bind follow

theorem isStep_code (c : Char) : IsStep ((Regex.code c.toNat).search {}) (·.take? (· == c)) := by
  intro s follow
  have htest : (fun d => (codesOf {} d).contains c.toNat) = (· == c) := by
    funext d
    by_cases hd : d = c
    · simp [codesOf, hd]
    · have hcode : c.toNat ≠ d.toNat := fun heq => hd (Char.toNat_inj.mp heq).symm
      simp [codesOf, hd, hcode]
  rw [search, htest]

theorem isStep_any : IsStep (Regex.any.search {}) (·.take? (· != '\n')) := fun _ _ => rfl

theorem isStep_set (negated : Bool) (items : List SetItem) :
    IsStep ((Regex.set negated items).search flags) (·.take? (setHolds flags negated items)) :=
  fun _ _ => rfl

theorem IsStep.cat {a b : Regex} {stepA stepB : Cursor → Option Cursor}
    (ha : IsStep (a.search flags) stepA) (hb : IsStep (b.search flags) stepB) :
    IsStep ((Regex.cat a b).search flags) fun s => (stepA s).bind stepB := by
  intro s follow
  rw [search, ha s, Option.bind_assoc]
  exact congrArg (stepA s).bind (funext fun s' => hb s' follow)

theorem search_alt (a b : Regex) (s : Cursor) (follow : Cursor → Option Cursor) :
    (Regex.alt a b).search flags s follow =
      (a.search flags s follow).or (b.search flags s follow) := by
  rw [search]
  cases a.search flags s follow <;> rfl

/-- Of two alternatives, one at most applies. -/
theorem IsStep.alt {a b : Regex} {stepA stepB : Cursor → Option Cursor}
    (ha : IsStep (a.search flags) stepA) (hb : IsStep (b.search flags) stepB)
    (hone : ∀ s, stepA s ≠ none → stepB s = none) :
    IsStep ((Regex.alt a b).search flags) fun s => (stepA s).or (stepB s) := by
  intro s follow
  change _ = ((stepA s).or (stepB s)).bind follow
  rw [search_alt, ha s, hb s]
  cases hstep : stepA s with
  | none => rw [Option.bind_none, Option.none_or, Option.none_or]
  | some s' =>
    rw [hone s (hstep ▸ Option.some_ne_none s'), Option.bind_none, Option.or_none, Option.or_none]

/-- An expression that may be left out is tried first. -/
theorem search_optional (r : Regex) (s : Cursor) (follow : Cursor → Option Cursor) :
    (Regex.iterate .greedy 0 (some 1) r).search flags s follow =
      (r.search flags s follow).or (follow s) := by
  simp [search, iterateSearch, iterateGreedy, mayRepeat]

/-! ## Repetition -/

/-- So many steps lead from one cursor to another, and from there none is left. -/
inductive Steps (step : Cursor → Option Cursor) : Nat → Cursor → Cursor → Prop where
  | done {s : Cursor} (hnone : step s = none) : Steps step 0 s s
  | more {n : Nat} {s s' e : Cursor} (hstep : step s = some s') (hrest : Steps step n s' e) :
    Steps step (n + 1) s e

/-- Every step goes forward. -/
def Advances (step : Cursor → Option Cursor) : Prop :=
  ∀ s s', step s = some s' → s.position < s'.position ∧ s'.after.length < s.after.length

theorem Steps.le_length {step : Cursor → Option Cursor} (hadvances : Advances step) {n : Nat}
    {s e : Cursor} (h : Steps step n s e) : n ≤ s.after.length := by
  induction h with
  | done => exact Nat.zero_le _
  | more hstep _ ih =>
    have hlt := (hadvances _ _ hstep).2
    omega

/-- What follows has no better chance before the last step than behind it. -/
def PrefersEnd (step : Cursor → Option Cursor) (follow : Cursor → Option Cursor) (e : Cursor) : Prop :=
  follow e = none → ∀ s, step s ≠ none → follow s = none

/-- Of greedy rounds, all are taken that there are. -/
theorem iterateGreedy_of_steps {body : Search} {step : Cursor → Option Cursor}
    (hbody : IsStep body step) (hadvances : Advances step) {n : Nat} {s e : Cursor}
    (hsteps : Steps step n s e) {follow : Cursor → Option Cursor} (hfollow : PrefersEnd step follow e)
    {least fuel count : Nat} {last : Option Nat} (hfuel : n < fuel)
    (hlast : ∀ p ∈ last, p < s.position) :
    iterateGreedy body least none fuel count last s follow =
      if least ≤ count + n then follow e else none := by
  induction hsteps generalizing fuel count last with
  | @done s hnone =>
    obtain ⟨fuel, rfl⟩ := Nat.exists_eq_succ_of_ne_zero (Nat.ne_zero_of_lt hfuel)
    rw [iterateGreedy, hbody s, hbody s, hnone, Option.bind_none, Option.bind_none, Option.none_or,
      ite_self, Nat.add_zero]
    by_cases hleast : least ≤ count
    · rw [if_neg (Nat.not_lt.mpr hleast), if_pos hleast]
    · rw [if_pos (Nat.lt_of_not_le hleast), if_neg hleast]
  | @more n s s' e hstep hrest ih =>
    obtain ⟨fuel, rfl⟩ := Nat.exists_eq_succ_of_ne_zero (Nat.ne_zero_of_lt hfuel)
    have hforward := (hadvances s s' hstep).1
    have hcount : count + 1 + n = count + (n + 1) := by omega
    rw [iterateGreedy, hbody s, hbody s, hstep, Option.bind_some, Option.bind_some]
    by_cases hleast : count < least
    · have hlast' : ∀ p ∈ last, p < s'.position := fun p hp =>
        Nat.lt_trans (hlast p hp) hforward
      rw [if_pos hleast, ih hfollow (by omega) hlast', hcount]
    · have hnew : last ≠ some s.position := fun heq => Nat.lt_irrefl _ (hlast _ heq)
      have hlast' : ∀ p ∈ some s.position, p < s'.position := by
        intro p hp
        obtain rfl := Option.some.inj hp
        exact hforward
      have hagain : (mayRepeat none count && last != some s.position) = true := by
        simp [mayRepeat, hnew]
      rw [if_neg hleast, if_pos hagain, ih hfollow (by omega) hlast', if_pos (by omega),
        if_pos (by omega)]
      -- if what follows fails at the end, it fails here as well
      cases hend : follow e with
      | none => rw [hfollow hend s (hstep ▸ Option.some_ne_none s'), Option.none_or]
      | some end' => rfl

/-- **A greedy repetition ends where no round is left**, if what follows has no better chance before. -/
theorem search_iterate_of_steps {r : Regex} {step : Cursor → Option Cursor}
    (hr : IsStep (r.search flags) step) (hadvances : Advances step) {n : Nat} {s e : Cursor}
    (hsteps : Steps step n s e) {follow : Cursor → Option Cursor} (hfollow : PrefersEnd step follow e)
    (least : Nat) :
    (Regex.iterate .greedy least none r).search flags s follow =
      if least ≤ n then follow e else none := by
  have hfuel : n < least + s.after.length + 2 := by
    have hle := hsteps.le_length hadvances
    omega
  have hrun : iterateGreedy (r.search flags) least none (least + s.after.length + 2) 0 none s follow =
      if least ≤ 0 + n then follow e else none :=
    iterateGreedy_of_steps hr hadvances hsteps hfollow hfuel nofun
  rw [Nat.zero_add] at hrun
  exact hrun

/-- Where there is no first round, a repetition that needs one fails. -/
theorem search_iterate_eq_none {r : Regex} {step : Cursor → Option Cursor}
    (hr : IsStep (r.search flags) step) {s : Cursor} (hnone : step s = none) {least : Nat}
    (hleast : 0 < least) (follow : Cursor → Option Cursor) :
    (Regex.iterate .greedy least none r).search flags s follow = none := by
  change iterateGreedy _ least none (least + s.after.length + 2) 0 none s follow = none
  rw [iterateGreedy, if_pos hleast, hr s, hnone, Option.bind_none]

/-! ## Runs of characters -/

theorem take?_cons {test : Char → Bool} {c : Char} (hc : test c = true) (before rest : List Char)
    (groups : List (Nat × List Char)) :
    (Cursor.mk before (c :: rest) groups).take? test = some ⟨c :: before, rest, groups⟩ := by
  simp [Cursor.take?, hc]

theorem take?_eq_none {test : Char → Bool} {s : Cursor} (h : ∀ c ∈ s.after.head?, test c = false) :
    s.take? test = none := by
  obtain ⟨before, after, groups⟩ := s
  cases after with
  | nil => rfl
  | cons c rest => simp [Cursor.take?, h c rfl]

theorem head?_of_take?_ne_none {test : Char → Bool} {s : Cursor} (h : s.take? test ≠ none) :
    ∃ c ∈ s.after.head?, test c = true := by
  obtain ⟨before, after, groups⟩ := s
  cases after with
  | nil => exact absurd rfl h
  | cons c rest =>
    cases hc : test c with
    | true => exact ⟨c, rfl, hc⟩
    | false => exact absurd (by simp [Cursor.take?, hc]) h

theorem advances_take? (test : Char → Bool) : Advances (·.take? test) := by
  rintro ⟨before, after, groups⟩ s' h
  cases after with
  | nil => exact absurd h nofun
  | cons c rest =>
    simp only [Cursor.take?] at h
    split at h
    · obtain rfl := Option.some.inj h
      simp [Cursor.position]
    · exact absurd h nofun

/-- A character that is there is taken. -/
theorem search_code_cons (c : Char) (before rest : List Char) (groups : List (Nat × List Char))
    (follow : Cursor → Option Cursor) :
    (Regex.code c.toNat).search {} ⟨before, c :: rest, groups⟩ follow =
      follow ⟨c :: before, rest, groups⟩ := by
  have htake : (Cursor.mk before (c :: rest) groups).take? (· == c) =
      some ⟨c :: before, rest, groups⟩ := take?_cons (beq_self_eq_true c) before rest groups
  exact (isStep_code c _ follow).trans (congrArg (Option.bind · follow) htake)

theorem search_code_eq_none {c : Char} {s : Cursor} (h : s.after.head? ≠ some c)
    (follow : Cursor → Option Cursor) : (Regex.code c.toNat).search {} s follow = none := by
  have htake : s.take? (· == c) = none := take?_eq_none fun d hd => by
    have hne : d ≠ c := fun heq => h (heq ▸ hd)
    simpa using hne
  exact (isStep_code c s follow).trans (congrArg (Option.bind · follow) htake)

/-- Characters that pass a test are so many steps. -/
theorem steps_take? {test : Char → Bool} {text rest : List Char} (htext : ∀ c ∈ text, test c = true)
    (hrest : ∀ c ∈ rest.head?, test c = false) (before : List Char)
    (groups : List (Nat × List Char)) :
    Steps (·.take? test) text.length ⟨before, text ++ rest, groups⟩
      ⟨text.reverse ++ before, rest, groups⟩ := by
  induction text generalizing before with
  | nil => exact .done (take?_eq_none hrest)
  | cons c cs ih =>
    obtain ⟨hc, hcs⟩ := List.forall_mem_cons.mp htext
    rw [List.reverse_cons, List.append_assoc]
    exact .more (take?_cons hc before (cs ++ rest) groups) (ih hcs (c :: before))

end RouteTree.Regex
