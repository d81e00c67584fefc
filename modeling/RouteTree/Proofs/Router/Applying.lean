import RouteTree.Router.Basic

/-!
# Handing routes over

A node hands over its own routes and then has its groups do the same, each with a look of its own
whether there is a host. The receiver counts its calls across all of them, and a refusal in any group
ends the whole (`applyNode`). **That comes to handing over the routes of the subtree in one sweep**
(`applyNode_of_lazy`), as a sweep over two lists is one over the first and then one over the second
from the count that is reached (`handOver_append`).

So a lazy router hands over exactly the first routes of a subtree up to the one that is refused, or all
of them (`handsOver_of_lazy`), and an eager one hands over nothing (`handsOver_of_eager`).
-/

namespace RouteTree

/-- The route that is handed over, if one is. -/
def Effect.handed? : Effect → Option Entry
  | .handed entry => some entry
  | _ => none

namespace Router

variable {r : Router} {refusal : Nat → Option Fault}

/-! ## One sweep -/

theorem handOver_append (refusal : Nat → Option Fault) (count : Nat) (entries more : List Entry) :
    handOver refusal count (entries ++ more) =
      (handOver refusal count entries).andThen fun count => handOver refusal count more := by
  induction entries generalizing count with
  | nil => exact (Attempt.succeed_andThen _ _).symm
  | cons entry rest ih =>
    simp only [List.cons_append, handOver, Attempt.bind_eq_andThen, Attempt.andThen_assoc]
    cases refusal count with
    | some fault => simp only [Attempt.fail_andThen]
    | none => simp only [Attempt.andThen_assoc, ih]

mutual

/-- **A lazy node hands its subtree over in one sweep.** -/
theorem applyNode_of_lazy (h : r.isLazy = true) (n : Node) (count : Nat) :
    r.applyNode refusal n count = handOver refusal count n.entries := by
  match n with
  | ⟨_, routes, groups⟩ =>
    rw [applyNode, if_pos h, Node.entries, handOver_append]
    exact congrArg (Attempt.andThen _) (funext (applyNodes_of_lazy h groups))
termination_by structural n

theorem applyNodes_of_lazy (h : r.isLazy = true) (ns : List Node) (count : Nat) :
    r.applyNodes refusal ns count = handOver refusal count (Node.entriesOf ns) := by
  match ns with
  | [] => rfl
  | n :: ns =>
    rw [applyNodes, applyNode_of_lazy h n count, Node.entriesOf, handOver_append]
    exact congrArg (Attempt.andThen _) (funext (applyNodes_of_lazy h ns))
termination_by structural ns

end

/-- An eager node only says that there is nothing to hand over, and does not go into its groups. -/
theorem applyNode_of_eager (h : r.isLazy = false) (n : Node) (count : Nat) :
    r.applyNode refusal n count = (Attempt.notice .debug
      "Routes already registered with host, nothing to apply").andThen fun _ => .succeed count := by
  obtain ⟨_, routes, groups⟩ := n
  rw [applyNode, if_neg (by simp [h])]
  rfl

/-! ## Up to the first refusal -/

/-- A receiver that refuses none of the routes gets them all, in order. -/
theorem handOver_taken {count : Nat} {entries : List Entry}
    (h : ∀ k, k < entries.length → refusal (count + k) = none) :
    (handOver refusal count entries).outcome = .ok (count + entries.length) ∧
      (handOver refusal count entries).effects.filterMap (·.handed?) = entries := by
  induction entries generalizing count with
  | nil => exact ⟨rfl, rfl⟩
  | cons entry rest ih =>
    have hfirst : refusal count = none := h 0 (Nat.zero_lt_succ _)
    obtain ⟨houtcome, hhanded⟩ := @ih (count + 1) fun k hk => by
      rw [Nat.add_assoc, Nat.add_comm 1]
      exact h (k + 1) (Nat.succ_lt_succ hk)
    rw [Nat.add_assoc, Nat.add_comm 1] at houtcome
    rw [handOver, hfirst]
    refine ⟨houtcome, ?_⟩
    change entry :: (handOver refusal (count + 1) rest).effects.filterMap (·.handed?) = _
    rw [hhanded]

/-- The route that is refused is the last one handed over. -/
theorem handOver_refused {fault : Fault} (count more : Nat) {entries : List Entry}
    (hlt : more < entries.length) (hbefore : ∀ k, k < more → refusal (count + k) = none)
    (hrefusal : refusal (count + more) = some fault) :
    (handOver refusal count entries).outcome = .error fault ∧
      (handOver refusal count entries).effects.filterMap (·.handed?) =
        entries.take (more + 1) := by
  induction entries generalizing count more with
  | nil => exact absurd hlt (Nat.not_lt_zero _)
  | cons entry rest ih =>
    cases more with
    | zero =>
      have hfirst : refusal count = some fault := hrefusal
      rw [handOver, hfirst]
      exact ⟨rfl, rfl⟩
    | succ more =>
      have hfirst : refusal count = none := hbefore 0 (Nat.zero_lt_succ _)
      obtain ⟨houtcome, hhanded⟩ := ih (count + 1) more (Nat.lt_of_succ_lt_succ hlt)
        (fun k hk => by
          rw [Nat.add_assoc, Nat.add_comm 1]
          exact hbefore (k + 1) (Nat.succ_lt_succ hk))
        (by rw [Nat.add_assoc, Nat.add_comm 1, hrefusal])
      rw [handOver, hfirst]
      refine ⟨houtcome, ?_⟩
      change entry :: (handOver refusal (count + 1) rest).effects.filterMap (·.handed?) = _
      rw [hhanded, List.take_succ_cons]

/-! ## The subtree at an address -/

/-- To apply an address is to apply its node. -/
theorem apply_of_at? {address : Address} {n : Node} (hn : r.root.at? address = some n) :
    r.apply address refusal = (r.applyNode refusal n 1).andThen fun _ => .succeed () := by
  unfold apply node
  rw [hn]
  exact Attempt.succeed_andThen _ _

/-- What follows without effects adds none. -/
theorem effects_andThen_succeed {α : Type} (x : Attempt α) :
    (x.andThen fun _ => .succeed ()).effects = x.effects := by
  unfold Attempt.andThen
  cases x.outcome with
  | error fault => rfl
  | ok a => exact List.append_nil _

/-- What applying a node comes to, if these routes are left to hand over. -/
structure HandsOver (r : Router) (address : Address) (left : List Entry) : Prop where
  /-- A receiver that refuses none of them gets them all. -/
  taken : ∀ refusal : Nat → Option Fault, (∀ k, 0 < k → k ≤ left.length → refusal k = none) →
    (r.apply address refusal).outcome = .ok () ∧
      (r.apply address refusal).effects.filterMap (·.handed?) = left
  /-- The first refusal ends it; the route that is refused is the last one handed over. -/
  refused : ∀ (refusal : Nat → Option Fault) (count : Nat) (fault : Fault), 0 < count →
    count ≤ left.length → (∀ k, 0 < k → k < count → refusal k = none) →
    refusal count = some fault →
      (r.apply address refusal).outcome = .error fault ∧
        (r.apply address refusal).effects.filterMap (·.handed?) = left.take count

/-- **A lazy router hands over the subtree of a node.** -/
theorem handsOver_of_lazy {address : Address} {n : Node} (h : r.isLazy = true)
    (hn : r.root.at? address = some n) : HandsOver r address n.entries := by
  have happly : ∀ refusal, r.apply address refusal =
      (handOver refusal 1 n.entries).andThen fun _ => .succeed () := by
    intro refusal
    rw [apply_of_at? hn, applyNode_of_lazy h]
  constructor
  · intro refusal htaken
    obtain ⟨houtcome, hhanded⟩ := @handOver_taken refusal 1 n.entries fun k hk =>
      htaken (1 + k) (by omega) (by omega)
    rw [happly, effects_andThen_succeed, hhanded]
    refine ⟨?_, rfl⟩
    rw [Attempt.andThen, houtcome]
    rfl
  · intro refusal count fault hpos hle hbefore hrefusal
    obtain ⟨more, rfl⟩ : ∃ more, count = 1 + more := ⟨count - 1, by omega⟩
    obtain ⟨houtcome, hhanded⟩ := @handOver_refused refusal fault 1 more n.entries (by omega)
      (fun k hk => hbefore (1 + k) (by omega) (by omega)) hrefusal
    rw [happly, effects_andThen_succeed, hhanded, Nat.add_comm 1 more]
    refine ⟨?_, rfl⟩
    rw [Attempt.andThen, houtcome]

/-- An eager router hands over nothing, whatever the receiver does. -/
theorem handed_apply_of_eager (h : r.isLazy = false) (address : Address)
    (refusal : Nat → Option Fault) :
    (r.apply address refusal).effects.filterMap (·.handed?) = [] := by
  cases hn : r.root.at? address with
  | none =>
    unfold apply node
    rw [hn]
    rfl
  | some n =>
    rw [apply_of_at? hn, applyNode_of_eager h]
    rfl

/-- **An eager router hands over nothing.** -/
theorem handsOver_of_eager {address : Address} {n : Node} (h : r.isLazy = false)
    (hn : r.root.at? address = some n) : HandsOver r address [] := by
  constructor
  · intro refusal _
    refine ⟨?_, handed_apply_of_eager h address refusal⟩
    rw [apply_of_at? hn, applyNode_of_eager h]
    rfl
  · intro refusal count fault hpos hle
    exact absurd hle (Nat.not_le_of_gt hpos)

end Router

end RouteTree
