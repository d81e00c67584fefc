import RouteTree.Router.Node

/-!
# Changes inside a tree

A change at an address shows at that address only, and takes no node away (`at?_modifyAt`). The
change may add subgroups behind those that are there (`Node.Extends`); what is new in the tree is
then under one of them (`at?_of_modifyAt`).

Changes at two addresses come to the same in either order (`modifyAt_comm`), also if one address is
on the way to the other, as long as neither looks at the subgroups (`Node.Shallow`).
-/

namespace RouteTree.Node

/-- The change leaves the subgroups that are there as they are. -/
def Extends (change : Node → Node) : Prop := ∀ n, n.groups <+: (change n).groups

theorem extends_addRoute (entry : Entry) : Extends (·.addRoute entry) := fun n =>
  List.prefix_refl n.groups

theorem extends_addGroup (child : Node) : Extends (·.addGroup child) := fun n =>
  List.prefix_append n.groups [child]

theorem at?_append (n : Node) (a b : Address) : n.at? (a ++ b) = (n.at? a).bind (·.at? b) := by
  induction a generalizing n with
  | nil => rfl
  | cons i a ih =>
    rw [List.cons_append, at?_cons, at?_cons, Option.bind_assoc]
    congr 1
    funext child
    exact ih child

theorem modifyAt_modifyAt (n : Node) (f g : Node → Node) (a : Address) :
    (n.modifyAt f a).modifyAt g a = n.modifyAt (g ∘ f) a := by
  induction a generalizing n with
  | nil => rfl
  | cons i a ih =>
    simp only [modifyAt, List.modify_modify_eq, Function.comp_def, ih]

theorem at?_modifyAt_self {n m : Node} {a : Address} (f : Node → Node) (h : n.at? a = some m) :
    (n.modifyAt f a).at? a = some (f m) := by
  induction a generalizing n with
  | nil =>
    obtain rfl := Option.some.inj h
    rfl
  | cons i a ih =>
    rw [at?_cons] at h
    obtain ⟨child, hchild, hm⟩ := Option.bind_eq_some_iff.mp h
    have hat := ih hm
    simp [modifyAt, hchild, hat]

/-- **A change at one address shows there only.** What belongs to a node besides its subgroups is
what it was, or what the change made of it. -/
theorem at?_modifyAt {f : Node → Node} (hf : Extends f) {n m : Node} {b : Address}
    (h : n.at? b = some m) (a : Address) :
    ∃ m', (n.modifyAt f a).at? b = some m' ∧
      m'.settings = (if b = a then f m else m).settings ∧
      m'.routes = (if b = a then f m else m).routes := by
  -- along the address of the change, which the other address may leave at any point
  induction a generalizing n b with
  | nil =>
    cases b with
    | nil =>
      obtain rfl := Option.some.inj h
      exact ⟨f n, rfl, rfl, rfl⟩
    | cons j b =>
      obtain ⟨child, hchild, hm⟩ := Option.bind_eq_some_iff.mp h
      have hkept : (f n).groups[j]? = some child := by
        obtain ⟨more, hmore⟩ := hf n
        have hlt := (List.getElem?_eq_some_iff.mp hchild).1
        rw [← hmore, List.getElem?_append_left hlt, hchild]
      exact ⟨m, by simp [hkept, hm], rfl, rfl⟩
  | cons i a ih =>
    cases b with
    | nil =>
      obtain rfl := Option.some.inj h
      exact ⟨_, rfl, rfl, rfl⟩
    | cons j b =>
      obtain ⟨child, hchild, hm⟩ := Option.bind_eq_some_iff.mp h
      by_cases hij : i = j
      · subst hij
        obtain ⟨m', hat, hsettings, hroutes⟩ := ih hm
        refine ⟨m', by simp [modifyAt, hchild, hat], ?_, ?_⟩
        · simpa using hsettings
        · simpa using hroutes
      · have hne : j :: b ≠ i :: a := fun heq => hij (List.cons.inj heq).1.symm
        rw [if_neg hne]
        exact ⟨m, by simp [modifyAt, hij, hchild, hm], rfl, rfl⟩

/-- A node of the changed tree was there before, or is under a subgroup that the change added. -/
theorem at?_of_modifyAt {f : Node → Node} (hf : Extends f) {n m' : Node} {a b : Address}
    (h : (n.modifyAt f a).at? b = some m') :
    (∃ m, n.at? b = some m) ∨
      ∃ parent i rest, n.at? a = some parent ∧ b = a ++ i :: rest ∧ parent.groups.length ≤ i ∧
        (f parent).groups[i]?.bind (·.at? rest) = some m' := by
  induction a generalizing n b with
  | nil =>
    cases b with
    | nil => exact .inl ⟨n, rfl⟩
    | cons j b =>
      by_cases hlt : j < n.groups.length
      · -- what was there is where it was
        obtain ⟨more, hmore⟩ := hf n
        have hkept : (f n).groups[j]? = n.groups[j]? := by
          rw [← hmore, List.getElem?_append_left hlt]
        rw [modifyAt_nil, at?_cons, hkept] at h
        exact .inl ⟨m', h⟩
      · exact .inr ⟨n, j, b, rfl, rfl, by omega, h⟩
  | cons i a ih =>
    cases b with
    | nil => exact .inl ⟨n, rfl⟩
    | cons j b =>
      by_cases hij : i = j
      · subst hij
        cases hchild : n.groups[i]? with
        | none => simp [modifyAt, hchild] at h
        | some child =>
          have hat : (child.modifyAt f a).at? b = some m' := by simpa [modifyAt, hchild] using h
          rcases ih hat with ⟨m, hm⟩ | ⟨parent, k, rest, hparent, rfl, hle, hm'⟩
          · exact .inl ⟨m, by simp [hchild, hm]⟩
          · exact .inr ⟨parent, k, rest, by simp [hchild, hparent], rfl, hle, hm'⟩
      · -- the address leads past the change
        have hsame : (n.modifyAt f (i :: a)).at? (j :: b) = n.at? (j :: b) := by
          simp [modifyAt, hij]
        rw [hsame] at h
        exact .inl ⟨m', h⟩

/-- A change that adds no subgroup brings no node. -/
theorem at?_of_modifyAt_of_groups {f : Node → Node} (hf : ∀ n, (f n).groups = n.groups)
    {n m' : Node} {a b : Address} (h : (n.modifyAt f a).at? b = some m') :
    ∃ m, n.at? b = some m := by
  have hextends : Extends f := fun n => ⟨[], by rw [hf n, List.append_nil]⟩
  rcases at?_of_modifyAt hextends h with hold | ⟨parent, i, rest, -, -, hle, hm'⟩
  · exact hold
  · rw [hf parent, List.getElem?_eq_none hle] at hm'
    exact absurd hm' nofun

/-- A subgroup without subgroups is the only node that its addition brings. -/
theorem at?_of_modifyAt_addGroup {n m' : Node} {settings : Settings} {a b : Address}
    (h : (n.modifyAt (·.addGroup (leaf settings)) a).at? b = some m') :
    (∃ m, n.at? b = some m) ∨
      ∃ parent, n.at? a = some parent ∧ b = a ++ [parent.groups.length] ∧ m' = leaf settings := by
  rcases at?_of_modifyAt (extends_addGroup (leaf settings)) h with
    hold | ⟨parent, i, rest, hparent, rfl, hle, hm'⟩
  · exact .inl hold
  · obtain ⟨child, hchild, hat⟩ := Option.bind_eq_some_iff.mp hm'
    rw [addGroup, List.getElem?_append_right hle, List.getElem?_singleton] at hchild
    split at hchild
    · rename_i hi
      obtain rfl := Option.some.inj hchild
      cases rest with
      | nil =>
        refine .inr ⟨parent, hparent, ?_, (Option.some.inj hat).symm⟩
        congr 2
        omega
      | cons j rest => simp [leaf] at hat
    · simp at hchild

theorem at?_modifyAt_addGroup {n parent : Node} {a : Address} (h : n.at? a = some parent)
    (child : Node) :
    (n.modifyAt (·.addGroup child) a).at? (a ++ [parent.groups.length]) = some child := by
  rw [at?_append, at?_modifyAt_self _ h]
  simp [addGroup]

/-! ## Changes at two addresses -/

/-- A node that the change is not made at keeps what it has, but that there may be something new
below it. -/
theorem at?_modifyAt_of_ne {f : Node → Node} (hf : Extends f) {n m : Node} {a b : Address}
    (h : n.at? b = some m) (hne : b ≠ a) :
    ∃ m', (n.modifyAt f a).at? b = some m' ∧ m'.settings = m.settings ∧
      m'.groups.length = m.groups.length := by
  induction b generalizing n a with
  | nil =>
    obtain rfl := Option.some.inj h
    cases a with
    | nil => exact absurd rfl hne
    | cons i a => exact ⟨_, rfl, rfl, List.length_modify _ _ _⟩
  | cons j b ih =>
    obtain ⟨child, hchild, hm⟩ := Option.bind_eq_some_iff.mp h
    cases a with
    | nil =>
      -- the subgroups that are there stay where they are
      obtain ⟨more, hmore⟩ := hf n
      have hkept : (f n).groups[j]? = some child := by
        have hlt := (List.getElem?_eq_some_iff.mp hchild).1
        rw [← hmore, List.getElem?_append_left hlt, hchild]
      exact ⟨m, by simp [hkept, hm], rfl, rfl⟩
    | cons i a =>
      by_cases hij : i = j
      · subst hij
        obtain ⟨m', hat, hsettings, hlength⟩ := ih (a := a) hm fun hba => hne (by rw [hba])
        exact ⟨m', by simp [modifyAt, hchild, hat], hsettings, hlength⟩
      · exact ⟨m, by simp [modifyAt, hij, hchild, hm], rfl, rfl⟩

/-- The change does not look at the subgroups that are there. -/
def Shallow (change : Node → Node) : Prop := ∀ (n : Node) (i : Nat) (inner : Node → Node),
  i < n.groups.length →
    change { n with groups := n.groups.modify i inner } =
      { change n with groups := (change n).groups.modify i inner }

theorem shallow_addRoute (entry : Entry) : Shallow (·.addRoute entry) := fun _ _ _ _ => rfl

theorem modify_append_of_lt {α : Type} {xs : List α} {i : Nat} (h : i < xs.length) (ys : List α)
    (f : α → α) : (xs ++ ys).modify i f = xs.modify i f ++ ys := by
  induction xs generalizing i with
  | nil => exact absurd h (Nat.not_lt_zero i)
  | cons x xs ih =>
    cases i with
    | zero => rfl
    | succ i =>
      rw [List.cons_append, List.modify_succ_cons, List.modify_succ_cons, List.cons_append,
        ih (Nat.lt_of_succ_lt_succ h)]

theorem shallow_addGroup (child : Node) : Shallow (·.addGroup child) := fun n i inner h => by
  simp only [addGroup, modify_append_of_lt h]

theorem modify_congr {α : Type} {l : List α} {i : Nat} {x : α} {f g : α → α} (hx : l[i]? = some x)
    (h : f x = g x) : l.modify i f = l.modify i g := by
  refine List.ext_getElem? fun j => ?_
  rw [List.getElem?_modify, List.getElem?_modify]
  by_cases hij : i = j
  · subst hij
    simp [hx, h]
  · simp [hij]

/-- **Changes at two addresses come to the same in either order.** -/
theorem modifyAt_comm {f g : Node → Node} (hf : Shallow f) (hg : Shallow g) {n m m' : Node}
    {a b : Address} (ha : n.at? a = some m) (hb : n.at? b = some m') (hne : a ≠ b) :
    (n.modifyAt f a).modifyAt g b = (n.modifyAt g b).modifyAt f a := by
  -- along both addresses, until one of them ends or they part
  induction a generalizing n b with
  | nil =>
    cases b with
    | nil => exact absurd rfl hne
    | cons j b =>
      obtain ⟨child, hchild, -⟩ := Option.bind_eq_some_iff.mp hb
      exact (hf n j _ (List.getElem?_eq_some_iff.mp hchild).1).symm
  | cons i a ih =>
    obtain ⟨child, hchild, hm⟩ := Option.bind_eq_some_iff.mp ha
    cases b with
    | nil => exact hg n i _ (List.getElem?_eq_some_iff.mp hchild).1
    | cons j b =>
      by_cases hij : i = j
      · subst hij
        have hm' : child.at? b = some m' := by simpa [hchild] using hb
        have hchanged := ih hm hm' fun hab => hne (by rw [hab])
        simp only [modifyAt, List.modify_modify_eq]
        congr 1
        exact modify_congr hchild hchanged
      · simp only [modifyAt]
        congr 1
        exact List.modify_modify_ne _ _ _ hij

end RouteTree.Node
