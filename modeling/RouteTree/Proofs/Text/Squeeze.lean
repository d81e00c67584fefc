import RouteTree.Template.Token
import RouteTree.Proofs.Text.Scanning

/-!
# Runs of one character

`squeeze c` writes every run of `c` once. It goes through the text character by character and is
what replacing the runs that a scan finds comes to (`replaceFinds_run`), whether the scan looks for
runs of one or of two: a run of one is written as it is.

A part of a text may be squeezed before the whole is (`squeeze_append_squeeze`), and any other
character divides the squeezed text as it divides the text (`squeeze_append_cons`,
`exists_of_squeeze_eq_append_cons`).
-/

namespace RouteTree.Text

open Template

/-- The text with every run of `c` written once. -/
def squeeze (c : Char) : List Char → List Char
  | x :: y :: rest =>
    if x = c ∧ y = c then squeeze c (y :: rest) else x :: squeeze c (y :: rest)
  | cs => cs

@[simp] theorem squeeze_nil (c : Char) : squeeze c [] = [] := rfl

theorem squeeze_cons_cons_self (c : Char) (rest : List Char) :
    squeeze c (c :: c :: rest) = squeeze c (c :: rest) := by
  simp [squeeze]

/-- A character that is not `c`, or has no `c` behind it, stays. -/
theorem squeeze_cons {c x : Char} {rest : List Char} (h : x = c → rest.head? ≠ some c) :
    squeeze c (x :: rest) = x :: squeeze c rest := by
  cases rest with
  | nil => rfl
  | cons y rest =>
    have hxy : ¬ (x = c ∧ y = c) := fun ⟨hx, hy⟩ => h hx (by rw [hy]; rfl)
    rw [squeeze, if_neg hxy]

/-- Induction along a squeeze: the first character stays, or it is a `c` that another one follows. -/
theorem squeeze_induction (c : Char) {motive : List Char → Prop} (nil : motive [])
    (kept : ∀ x rest, (x = c → rest.head? ≠ some c) → motive rest → motive (x :: rest))
    (again : ∀ rest, motive (c :: rest) → motive (c :: c :: rest)) (cs : List Char) : motive cs := by
  induction cs with
  | nil => exact nil
  | cons x rest ih =>
    by_cases hx : x = c → rest.head? ≠ some c
    · exact kept x rest hx ih
    · obtain ⟨rfl, hhead⟩ : x = c ∧ rest.head? = some c := by simpa using hx
      obtain ⟨tail, rfl⟩ := List.head?_eq_some_iff.mp hhead
      exact again tail ih

theorem squeeze_replicate_append {c : Char} {rest : List Char} (h : rest.head? ≠ some c)
    (n : Nat) : squeeze c (List.replicate (n + 1) c ++ rest) = c :: squeeze c rest := by
  induction n with
  | zero => exact squeeze_cons fun _ => h
  | succ n ih =>
    rw [List.replicate_succ, List.replicate_succ, List.cons_append, List.cons_append,
      squeeze_cons_cons_self]
    exact ih

/-- A text without two `c` side by side is left as it is. -/
theorem squeeze_eq_self {c : Char} {cs : List Char} (h : ¬ [c, c] <:+: cs) :
    squeeze c cs = cs := by
  induction cs with
  | nil => rfl
  | cons x rest ih =>
    have hrest : ¬ [c, c] <:+: rest := fun hin => h (hin.trans (List.suffix_cons x rest).isInfix)
    have hx : x = c → rest.head? ≠ some c := by
      rintro rfl hhead
      obtain ⟨ys, rfl⟩ := List.head?_eq_some_iff.mp hhead
      exact h ⟨[], ys, rfl⟩
    rw [squeeze_cons hx, ih hrest]

theorem head?_squeeze (c : Char) (cs : List Char) : (squeeze c cs).head? = cs.head? := by
  induction cs using squeeze_induction c with
  | nil => rfl
  | kept x rest hx _ =>
    rw [squeeze_cons hx]
    rfl
  | again rest ih =>
    rw [squeeze_cons_cons_self, ih]
    rfl

theorem mem_of_mem_squeeze {c d : Char} {cs : List Char} (h : d ∈ squeeze c cs) : d ∈ cs := by
  induction cs using squeeze_induction c with
  | nil => exact h
  | kept x rest hx ih =>
    rw [squeeze_cons hx, List.mem_cons] at h
    exact List.mem_cons.mpr (h.imp_right ih)
  | again rest ih =>
    rw [squeeze_cons_cons_self] at h
    exact List.mem_cons_of_mem _ (ih h)

/-- No other character is taken away. -/
theorem count_squeeze_of_ne {c d : Char} (h : d ≠ c) (cs : List Char) :
    (squeeze c cs).count d = cs.count d := by
  induction cs using squeeze_induction c with
  | nil => rfl
  | kept x rest hx ih => rw [squeeze_cons hx, List.count_cons, List.count_cons, ih]
  | again rest ih =>
    rw [squeeze_cons_cons_self, ih, List.count_cons_of_ne (Ne.symm h),
      List.count_cons_of_ne (Ne.symm h), List.count_cons_of_ne (Ne.symm h)]

/-- Nowhere are two `c` left side by side. -/
theorem not_infix_squeeze (c : Char) (cs : List Char) : ¬ [c, c] <:+: squeeze c cs := by
  induction cs using squeeze_induction c with
  | nil => simp
  | kept x rest hx ih =>
    rw [squeeze_cons hx, List.infix_cons_iff, List.cons_prefix_cons]
    rintro (⟨rfl, hprefix⟩ | hin)
    · obtain ⟨ys, hys⟩ := hprefix
      refine hx rfl ?_
      rw [← head?_squeeze c rest, ← hys]
      rfl
    · exact ih hin
  | again rest ih =>
    rw [squeeze_cons_cons_self]
    exact ih

/-- But for `c`, the text is the same. -/
theorem filter_squeeze (c : Char) (cs : List Char) :
    (squeeze c cs).filter (· ≠ c) = cs.filter (· ≠ c) := by
  induction cs using squeeze_induction c with
  | nil => rfl
  | kept x rest hx ih => rw [squeeze_cons hx, List.filter_cons, List.filter_cons, ih]
  | again rest ih =>
    rw [squeeze_cons_cons_self, ih, List.filter_cons, List.filter_cons, List.filter_cons]
    simp

/-- One more `c` at the end makes a difference unless there is one already. -/
theorem squeeze_concat_self (c : Char) (cs : List Char) :
    squeeze c (cs ++ [c]) =
      if cs.getLast? = some c then squeeze c cs else squeeze c cs ++ [c] := by
  induction cs using squeeze_induction c with
  | nil => rfl
  | kept x rest hx ih =>
    cases rest with
    | nil => by_cases hxc : x = c <;> simp [squeeze, hxc]
    | cons y rest =>
      have hx' : x = c → (y :: rest ++ [c]).head? ≠ some c := hx
      rw [List.cons_append, squeeze_cons hx', ih, squeeze_cons hx, List.getLast?_cons_cons]
      split <;> rfl
  | again rest ih =>
    rw [List.cons_append, List.cons_append, squeeze_cons_cons_self, squeeze_cons_cons_self,
      List.getLast?_cons_cons]
    exact ih

theorem squeeze_eq_self_iff {c : Char} {cs : List Char} :
    squeeze c cs = cs ↔ ¬ [c, c] <:+: cs := by
  refine ⟨fun h => ?_, squeeze_eq_self⟩
  rw [← h]
  exact not_infix_squeeze c cs

/-! ## Squeezing a part -/

theorem squeeze_cons_of_ne {c x : Char} (h : x ≠ c) (rest : List Char) :
    squeeze c (x :: rest) = x :: squeeze c rest :=
  squeeze_cons fun hx => absurd hx h

/-- What is squeezed stays as it is. -/
theorem squeeze_squeeze (c : Char) (cs : List Char) : squeeze c (squeeze c cs) = squeeze c cs :=
  squeeze_eq_self (not_infix_squeeze c cs)

theorem squeeze_cons_squeeze (c x : Char) (cs : List Char) :
    squeeze c (x :: squeeze c cs) = squeeze c (x :: cs) := by
  by_cases hx : x = c → cs.head? ≠ some c
  · have hx' : x = c → (squeeze c cs).head? ≠ some c := by
      rw [head?_squeeze]
      exact hx
    rw [squeeze_cons hx, squeeze_cons hx', squeeze_squeeze]
  · obtain ⟨rfl, hhead⟩ : x = c ∧ cs.head? = some c := by simpa using hx
    obtain ⟨tail, rfl⟩ := List.head?_eq_some_iff.mp hhead
    -- the squeezed text begins with the character again
    obtain ⟨tail', htail'⟩ := List.head?_eq_some_iff.mp ((head?_squeeze x (x :: tail)).trans rfl)
    rw [squeeze_cons_cons_self, htail', squeeze_cons_cons_self, ← htail', squeeze_squeeze]

/-- A part of a text may be squeezed first. -/
theorem squeeze_append_squeeze (c : Char) (xs ys : List Char) :
    squeeze c (xs ++ squeeze c ys) = squeeze c (xs ++ ys) := by
  induction xs with
  | nil => exact squeeze_squeeze c ys
  | cons x xs ih =>
    rw [List.cons_append, List.cons_append, ← squeeze_cons_squeeze c x (xs ++ squeeze c ys), ih,
      squeeze_cons_squeeze]

theorem squeeze_squeeze_append (c : Char) (xs ys : List Char) :
    squeeze c (squeeze c xs ++ ys) = squeeze c (xs ++ ys) := by
  induction xs using squeeze_induction c with
  | nil => rfl
  | kept x rest hx ih =>
    rw [squeeze_cons hx, List.cons_append, List.cons_append, ← squeeze_cons_squeeze, ih,
      squeeze_cons_squeeze]
  | again rest ih =>
    rw [squeeze_cons_cons_self, ih, List.cons_append, List.cons_append, List.cons_append,
      squeeze_cons_cons_self]

/-- A text without the character is passed over. -/
theorem squeeze_append_of_not_mem {c : Char} {xs : List Char} (h : c ∉ xs) (ys : List Char) :
    squeeze c (xs ++ ys) = xs ++ squeeze c ys := by
  induction xs with
  | nil => rfl
  | cons x xs ih =>
    rw [List.mem_cons, not_or] at h
    rw [List.cons_append, squeeze_cons_of_ne (Ne.symm h.1), ih h.2, List.cons_append]

/-- Another character keeps the runs on its sides apart. -/
theorem squeeze_append_cons {c d : Char} (hd : d ≠ c) (xs ys : List Char) :
    squeeze c (xs ++ d :: ys) = squeeze c xs ++ d :: squeeze c ys := by
  induction xs using squeeze_induction c with
  | nil => exact squeeze_cons_of_ne hd ys
  | kept x rest hx ih =>
    have hx' : x = c → (rest ++ d :: ys).head? ≠ some c := by
      intro hxc
      cases rest with
      | nil => simpa using hd
      | cons y rest => exact hx hxc
    rw [List.cons_append, squeeze_cons hx', ih, squeeze_cons hx, List.cons_append]
  | again rest ih =>
    rw [List.cons_append, List.cons_append, squeeze_cons_cons_self, squeeze_cons_cons_self]
    exact ih

/-- A front without the character is the front of the text. -/
theorem exists_of_squeeze_eq_append {c : Char} {xs : List Char} (hxs : c ∉ xs) {cs ys : List Char}
    (h : squeeze c cs = xs ++ ys) : ∃ ys', cs = xs ++ ys' ∧ squeeze c ys' = ys := by
  induction xs generalizing cs with
  | nil => exact ⟨cs, rfl, h⟩
  | cons x xs ih =>
    rw [List.mem_cons, not_or] at hxs
    have hhead : cs.head? = some x := by
      rw [← head?_squeeze c cs, h]
      rfl
    obtain ⟨tail, rfl⟩ := List.head?_eq_some_iff.mp hhead
    rw [squeeze_cons_of_ne (Ne.symm hxs.1)] at h
    obtain ⟨ys', rfl, hys⟩ := ih hxs.2 (List.cons.inj h).2
    exact ⟨ys', rfl, hys⟩

/-- A squeezed text is divided where the text is. -/
theorem exists_of_squeeze_eq_append_cons {c d : Char} (hd : d ≠ c) {cs xs ys : List Char}
    (h : squeeze c cs = xs ++ d :: ys) :
    ∃ xs' ys', cs = xs' ++ d :: ys' ∧ squeeze c xs' = xs ∧ squeeze c ys' = ys := by
  induction cs using squeeze_induction c generalizing xs with
  | nil => simp at h
  | kept x rest hx ih =>
    rw [squeeze_cons hx] at h
    cases xs with
    | nil =>
      obtain ⟨rfl, rfl⟩ := List.cons.inj h
      exact ⟨[], rest, rfl, rfl, rfl⟩
    | cons x' xs =>
      obtain ⟨rfl, hrest⟩ := List.cons.inj h
      obtain ⟨xs', ys', rfl, rfl, hys⟩ := ih hrest
      have hx' : x = c → xs'.head? ≠ some c := by
        intro hxc hhead
        obtain ⟨tail, rfl⟩ := List.head?_eq_some_iff.mp hhead
        exact hx hxc rfl
      exact ⟨x :: xs', ys', rfl, squeeze_cons hx', hys⟩
  | again rest ih =>
    rw [squeeze_cons_cons_self] at h
    obtain ⟨xs', ys', hrest, hxs, hys⟩ := ih h
    cases xs' with
    | nil => exact absurd (List.cons.inj hrest).1 (Ne.symm hd)
    | cons x xs' =>
      obtain ⟨rfl, rfl⟩ := List.cons.inj hrest
      exact ⟨c :: c :: xs', ys', rfl, by rw [squeeze_cons_cons_self, hxs], hys⟩

/-- Rewriting characters one by one, and the squeezed one as itself, does not need the runs. -/
theorem squeeze_map_squeeze {c : Char} {f : Char → Char} (hf : f c = c) (cs : List Char) :
    squeeze c ((squeeze c cs).map f) = squeeze c (cs.map f) := by
  induction cs using squeeze_induction c with
  | nil => rfl
  | kept x rest hx ih =>
    rw [squeeze_cons hx, List.map_cons, List.map_cons, ← squeeze_cons_squeeze, ih,
      squeeze_cons_squeeze]
  | again rest ih =>
    rw [squeeze_cons_cons_self, ih, List.map_cons, List.map_cons, List.map_cons, hf,
      squeeze_cons_cons_self]

/-! ## The runs that a scan finds -/

/-- Replacing the runs of `c` by one `c` is squeezing them. -/
theorem replaceFinds_run {c : Char} {least : Nat} (h1 : 1 ≤ least) (h2 : least ≤ 2)
    (cs : List Char) :
    replaceFinds (fun _ => [c]) (pieces (run c least) cs) = squeeze c cs := by
  induction hn : cs.length using Nat.strongRecOn generalizing cs with
  | ind n ih =>
    have hsplit : (cs.takeWhile (· == c)) ++ cs.dropWhile (· == c) = cs :=
      List.takeWhile_append_dropWhile
    have hhead : (cs.dropWhile (· == c)).head? ≠ some c := by
      intro hc
      have hnot := List.head?_dropWhile_not (· == c) cs
      simp [hc] at hnot
    obtain ⟨k, hk⟩ : ∃ k, cs.takeWhile (· == c) = List.replicate k c := by
      refine ⟨_, List.eq_replicate_of_mem fun x hx => ?_⟩
      have hall := List.all_eq_true.mp (List.all_takeWhile (p := (· == c)) (l := cs)) x hx
      simpa using hall
    -- the text is its first run, which may be empty, and a rest that does not begin with `c`
    generalize hrest : cs.dropWhile (· == c) = rest at hsplit hhead
    rw [hk] at hsplit
    have hrun : run c least cs = if least ≤ k then some ((), rest) else none := by
      simp [run, hk, hrest]
    cases k with
    | zero =>
      -- no run begins here
      simp only [List.replicate_zero, List.nil_append] at hsplit
      subst hsplit
      cases rest with
      | nil => rfl
      | cons x xs =>
        have hx : x ≠ c := fun hxc => hhead (by rw [hxc]; rfl)
        have hnone : run c least (x :: xs) = none := by rw [hrun, if_neg (by omega)]
        rw [pieces_cons_of_none hnone, replaceFinds_other, squeeze_cons fun hxc => absurd hxc hx,
          ih xs.length (by rw [← hn, List.length_cons]; omega) xs rfl]
    | succ k =>
      have hlen : rest.length < n := by
        rw [← hn, ← hsplit, List.length_append, List.length_replicate]
        omega
      rw [← hsplit, squeeze_replicate_append hhead, ← ih rest.length hlen rest rfl]
      by_cases hle : least ≤ k + 1
      · -- the whole run is found
        have hsome : run c least (List.replicate (k + 1) c ++ rest) = some ((), rest) := by
          rw [hsplit, hrun, if_pos hle]
        rw [pieces_append_of_some (by simp) hsome]
        rfl
      · -- a single character where two are wanted
        obtain rfl : k = 0 := by omega
        have hnone : run c least (c :: rest) = none := by
          rw [show c :: rest = cs from hsplit, hrun, if_neg hle]
        rw [show List.replicate (0 + 1) c ++ rest = c :: rest from rfl,
          pieces_cons_of_none hnone]
        rfl

theorem collapseBackslashes_eq (cs : List Char) : collapseBackslashes cs = squeeze '\\' cs :=
  replaceFinds_run (by omega) (by omega) cs

theorem collapseSlashes_eq (cs : List Char) : collapseSlashes cs = squeeze '/' cs :=
  replaceFinds_run (by omega) (by omega) cs

end RouteTree.Text
