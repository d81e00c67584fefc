import RouteTree.Proofs.Router.Runs

/-!
# The entries of a tree and the entries of a run

A tree keeps its routes node by node; a history tells them in the order in which they were defined.
**Both tell the same routes, each as often as it was defined** (`entries_run`): an operation that
succeeds adds the route it returns at its node, and none elsewhere (`Event.entries_after`).
-/

namespace RouteTree

/-- A change at one place that adds something to what is collected there adds it to the whole. -/
theorem flatMap_modify_perm {α β : Type} {l : List α} {i : Nat} {x : α} {f : α → List β}
    {g : α → α} {added : List β} (hx : l[i]? = some x) (h : (f (g x)).Perm (f x ++ added)) :
    ((l.modify i g).flatMap f).Perm (l.flatMap f ++ added) := by
  induction l generalizing i with
  | nil => exact absurd hx nofun
  | cons y rest ih =>
    cases i with
    | zero =>
      obtain rfl : y = x := by simpa using hx
      rw [List.modify_zero_cons, List.flatMap_cons, List.flatMap_cons]
      refine (h.append_right _).trans ?_
      rw [List.append_assoc, List.append_assoc]
      exact List.perm_append_comm.append_left _
    | succ i =>
      rw [List.modify_succ_cons, List.flatMap_cons, List.flatMap_cons, List.append_assoc]
      exact (ih (by simpa using hx)).append_left _

namespace Node

/-- What a change adds to the subtree at its address, it adds to the whole tree. -/
theorem entries_modifyAt_perm {n m : Node} {f : Node → Node} {added : List Entry} {a : Address}
    (h : n.at? a = some m) (hf : (f m).entries.Perm (m.entries ++ added)) :
    (n.modifyAt f a).entries.Perm (n.entries ++ added) := by
  induction a generalizing n with
  | nil =>
    obtain rfl := Option.some.inj h
    exact hf
  | cons i a ih =>
    obtain ⟨child, hchild, hm⟩ := Option.bind_eq_some_iff.mp h
    rw [modifyAt, entries_eq, entries_eq, List.append_assoc]
    exact (flatMap_modify_perm hchild (ih hm)).append_left _

theorem entries_addRoute_perm (n : Node) (entry : Entry) :
    (n.addRoute entry).entries.Perm (n.entries ++ [entry]) := by
  rw [entries_eq, entries_eq, addRoute, List.append_assoc, List.append_assoc]
  exact List.perm_append_comm.append_left _

theorem entries_addGroup_leaf (n : Node) (settings : Settings) :
    (n.addGroup (leaf settings)).entries = n.entries := by
  rw [entries_eq, entries_eq, addGroup, List.flatMap_append, List.flatMap_singleton, entries_leaf,
    List.append_nil]

theorem entries_withConstraints (n : Node) (constraints : Constraints) :
    (n.withConstraints constraints).entries = n.entries := by
  rw [entries_eq, entries_eq]
  rfl

end Node

namespace Router

variable [CharacterNames]

namespace Event

/-- The route that the operation returned, wherever it was defined. -/
def defined? (e : Event) : Option Entry :=
  match e.outcome with
  | .ok (.entry entry) => some entry
  | _ => none

theorem defined?_of_entry {e : Event} {entry : Entry} (h : e.outcome = .ok (.entry entry)) :
    e.defined? = some entry := by
  rw [defined?, h]

theorem defined?_of_group {e : Event} {address : Address} (h : e.outcome = .ok (.group address)) :
    e.defined? = none := by
  rw [defined?, h]

theorem defined?_of_error {e : Event} {fault : Fault} (h : e.outcome = .error fault) :
    e.defined? = none := by
  rw [defined?, h]

/-- **An operation adds the route it returns**, and no other. -/
theorem entries_after (e : Event) :
    e.after.root.entries.Perm (e.before.root.entries ++ e.defined?.toList) := by
  cases hout : e.outcome with
  | error fault =>
    rw [after_of_error hout, defined?_of_error hout, Option.toList_none, List.append_nil]
  | ok made =>
    cases succeeds_of_ok hout with
    | group hparent hread houtcome hafter =>
      rw [hafter, root_modifyNode, defined?_of_group houtcome]
      refine Node.entries_modifyAt_perm hparent ?_
      rw [Node.entries_addGroup_leaf, Option.toList_none, List.append_nil]
    | @route r address options more action n d hn houtcome hafter =>
      rw [hafter, d.root_placed, defined?_of_entry houtcome]
      refine Node.entries_modifyAt_perm hn ?_
      have hadd := Node.entries_addRoute_perm (n.withConstraints d.kept) d.entry
      rwa [Node.entries_withConstraints] at hadd
    | serve d hn houtcome hafter =>
      rw [hafter, root_modifyNode, defined?_of_entry houtcome]
      exact Node.entries_modifyAt_perm hn (Node.entries_addRoute_perm _ _)

end Event

/-- **A run leaves in the tree what was there and the routes that it returned.** -/
theorem entries_run (r : Router) (operations : List Operation) :
    (run r operations).root.entries.Perm
      (r.root.entries ++ (history r operations).filterMap (·.defined?)) := by
  induction operations generalizing r with
  | nil => rw [history, List.filterMap_nil, List.append_nil, run]
  | cons operation rest ih =>
    refine (ih _).trans ?_
    refine ((Event.entries_after ⟨r, operation⟩).append_right _).trans ?_
    rw [history, List.append_assoc]
    cases hentry : Event.defined? ⟨r, operation⟩ with
    | none => rw [List.filterMap_cons_none hentry, Option.toList_none, List.nil_append]
    | some entry =>
      rw [List.filterMap_cons_some hentry, Option.toList_some, List.singleton_append]

/-- The tree of a run holds the routes that the run returned. -/
theorem entries_run_fresh (name : String) (debug strict : Bool) (host : Option Host)
    (resolver : Resolver) (operations : List Operation) :
    (run (fresh name debug strict host resolver) operations).root.entries.Perm
      ((history (fresh name debug strict host resolver) operations).filterMap (·.defined?)) := by
  have hrun := entries_run (fresh name debug strict host resolver) operations
  have hleaf : (fresh name debug strict host resolver).root.entries = [] := Node.entries_leaf {}
  rwa [hleaf, List.nil_append] at hrun

end Router

end RouteTree
