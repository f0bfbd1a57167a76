/-
# Sentential.Proofs.Formula.Walks -- loops over a tree stop and do what recursion does

Both walks keep the formulas that they have still to visit on a stack. A turn takes one formula off
and puts its operands on, so the nodes in all formulas of the stack are one less than before; the
walk stops when there are none left, which is after as many turns as the tree has nodes. What is to
come of the stack and the result so far together never changes, and at the end it is the result.

A fold over the listing takes from its stack only values that nodes of the same formula have pushed.
So it finds as many as it takes at every node, and leaves one.
-/
import Sentential.Formula.Evaluation

namespace Sentential

/-! ## Loops -/

/-- From `s` a loop takes that many turns and stops in `t`. -/
inductive StopsAfter {σ : Type} (turn : σ → Option σ) : Nat → σ → σ → Prop where
  | done {s : σ} : turn s = none → StopsAfter turn 0 s s
  | turn {turns : Nat} {s s' t : σ} : turn s = some s' → StopsAfter turn turns s' t →
      StopsAfter turn (turns + 1) s t

namespace StopsAfter

variable {σ : Type} {turn : σ → Option σ}

/-- If every turn takes one off a measure that is zero at the end, the measure counts the turns. -/
theorem of_measure (measure : σ → Nat) (hdone : ∀ s, turn s = none → measure s = 0)
    (hturn : ∀ s s', turn s = some s' → measure s = measure s' + 1) (s : σ) :
    ∃ t, StopsAfter turn (measure s) s t := by
  -- on the measure, since the state after a turn is no part of the one before
  generalize hmeasure : measure s = turns
  induction turns generalizing s with
  | zero =>
      cases hs : turn s with
      | none => exact ⟨s, .done hs⟩
      | some s' =>
          have := hturn s s' hs
          omega
  | succ turns ih =>
      cases hs : turn s with
      | none =>
          have := hdone s hs
          omega
      | some s' =>
          have := hturn s s' hs
          obtain ⟨t, ht⟩ := ih s' (by omega)
          exact ⟨t, .turn hs ht⟩

/-- The state in which a loop stops allows no further turn. -/
theorem turn_eq_none {turns : Nat} {s t : σ} (h : StopsAfter turn turns s t) : turn t = none := by
  induction h with
  | done hs => exact hs
  | turn _ _ ih => exact ih

/-- What no turn changes is at the end as it was in the beginning. -/
theorem keeps {ρ : Type} (observe : σ → ρ)
    (hkeeps : ∀ s s', turn s = some s' → observe s' = observe s) {turns : Nat} {s t : σ}
    (h : StopsAfter turn turns s t) : observe t = observe s := by
  induction h with
  | done => rfl
  | turn hs _ ih => rw [ih, hkeeps _ _ hs]

/-- A walk has a stack and a result. If every turn takes one off the size of the stack, and what is
to come of stack and result together stays the same, there are as many turns as that size, and the
walk comes to that. -/
theorem of_walk {α ρ : Type} {turn : List α × ρ → Option (List α × ρ)} (size : List α → Nat)
    (outcome : List α → ρ → ρ) (hsize : size [] = 0)
    (houtcome : ∀ result, outcome [] result = result) (hdone : ∀ s, turn s = none → s.1 = [])
    (hturn : ∀ s s', turn s = some s' →
      size s.1 = size s'.1 + 1 ∧ outcome s'.1 s'.2 = outcome s.1 s.2)
    (stack : List α) (result : ρ) :
    StopsAfter turn (size stack) (stack, result) ([], outcome stack result) := by
  obtain ⟨⟨rest, last⟩, hstops⟩ : ∃ t, StopsAfter turn (size stack) (stack, result) t :=
    of_measure (fun s => size s.1) (fun s hs => by rw [hdone s hs, hsize])
      (fun s s' hs => (hturn s s' hs).1) (stack, result)
  obtain rfl : rest = [] := hdone _ hstops.turn_eq_none
  have hlast : outcome [] last = outcome stack result :=
    hstops.keeps (fun s => outcome s.1 s.2) fun s s' hs => (hturn s s' hs).2
  rw [houtcome] at hlast
  rw [← hlast]
  exact hstops

end StopsAfter

namespace Formula

/-! ## The walks -/

/-- One turn of the children-first walk: the first formula of the stack goes to the front of the
order, and its operands onto the stack. -/
def listTurn : List Formula × List Formula → Option (List Formula × List Formula)
  | ([], _) => none
  | (.var name :: stack, order) => some (stack, .var name :: order)
  | (.neg f :: stack, order) => some (f :: stack, .neg f :: order)
  | (.binary op l r :: stack, order) => some (r :: l :: stack, .binary op l r :: order)

/-- One turn of the walk for the lowest leaf: the depth of the first formula of the stack counts,
and its operands stand one deeper. -/
def deepestTurn : List (Formula × Nat) × Nat → Option (List (Formula × Nat) × Nat)
  | ([], _) => none
  | ((.var _, depth) :: stack, deepest) => some (stack, max deepest depth)
  | ((.neg f, depth) :: stack, deepest) => some ((f, depth + 1) :: stack, max deepest depth)
  | ((.binary _ l r, depth) :: stack, deepest) =>
    some ((r, depth + 1) :: (l, depth + 1) :: stack, max deepest depth)

/-- A turn of the children-first walk takes one node off the stack, and does not change what the
walk returns in the end. -/
theorem of_listTurn {s s' : List Formula × List Formula} (h : listTurn s = some s') :
    totalSize s.1 = totalSize s'.1 + 1 ∧ listOnto s'.1 s'.2 = listOnto s.1 s.2 := by
  obtain ⟨_ | ⟨_ | _ | _, stack⟩, order⟩ := s
  · exact absurd h (by simp [listTurn])
  all_goals
    obtain rfl := Option.some.inj h
    refine ⟨?_, by rw [listOnto]⟩
    simp only [totalSize, size]
    omega

theorem stack_of_listTurn {s : List Formula × List Formula} (h : listTurn s = none) :
    s.1 = [] := by
  obtain ⟨_ | ⟨_ | _ | _, stack⟩, order⟩ := s
  · rfl
  all_goals exact absurd h (by simp [listTurn])

/-- The children-first walk takes a turn for every node on its stack. -/
theorem listOnto_stopsAfter (stack order : List Formula) :
    StopsAfter listTurn (totalSize stack) (stack, order) ([], listOnto stack order) := by
  apply StopsAfter.of_walk totalSize listOnto rfl
  · intro order
    rw [listOnto]
  · intro s
    exact stack_of_listTurn
  · intro s s'
    exact of_listTurn

/-- A turn of the walk for the lowest leaf takes one node off the stack, and does not change what
the walk returns in the end. -/
theorem of_deepestTurn {s s' : List (Formula × Nat) × Nat} (h : deepestTurn s = some s') :
    totalSize (s.1.map Prod.fst) = totalSize (s'.1.map Prod.fst) + 1 ∧
      deepestOf s'.1 s'.2 = deepestOf s.1 s.2 := by
  obtain ⟨_ | ⟨⟨_ | _ | _, depth⟩, stack⟩, deepest⟩ := s
  · exact absurd h (by simp [deepestTurn])
  all_goals
    obtain rfl := Option.some.inj h
    refine ⟨?_, by rw [deepestOf]⟩
    simp only [List.map_cons, totalSize, size]
    omega

theorem stack_of_deepestTurn {s : List (Formula × Nat) × Nat} (h : deepestTurn s = none) :
    s.1 = [] := by
  obtain ⟨_ | ⟨⟨_ | _ | _, depth⟩, stack⟩, deepest⟩ := s
  · rfl
  all_goals exact absurd h (by simp [deepestTurn])

/-- The walk for the lowest leaf takes a turn for every node on its stack. -/
theorem deepestOf_stopsAfter (stack : List (Formula × Nat)) (deepest : Nat) :
    StopsAfter deepestTurn (totalSize (stack.map Prod.fst)) (stack, deepest)
      ([], deepestOf stack deepest) := by
  apply StopsAfter.of_walk (fun stack => totalSize (stack.map Prod.fst)) deepestOf rfl
  · intro deepest
    rw [deepestOf]
  · intro s
    exact stack_of_deepestTurn
  · intro s s'
    exact of_deepestTurn

/-- How many values a node takes. -/
def arity : Formula → Nat
  | .var _ => 0
  | .neg _ => 1
  | .binary _ _ _ => 2

end Formula

/-! ## Folds over the listing -/

/-- A place in two lists one behind the other is a place in the first or in the second. -/
theorem split_of_append_eq {α : Type} {xs ys before after : List α} {x : α}
    (h : xs ++ ys = before ++ x :: after) :
    (∃ rest, xs = before ++ x :: rest) ∨ ∃ rest, before = xs ++ rest ∧ ys = rest ++ x :: after := by
  rcases List.append_eq_append_iff.mp h with ⟨rest, hbefore, hys⟩ | ⟨rest, hxs, hrest⟩
  · exact .inr ⟨rest, hbefore, hys⟩
  · cases rest with
    | nil => exact .inr ⟨[], by simpa using hxs.symm, hrest.symm⟩
    | cons y rest =>
        obtain ⟨rfl, -⟩ := List.cons.inj hrest
        exact .inl ⟨rest, hxs⟩

/-- In a list of one there is one place. -/
theorem eq_of_singleton_eq {α : Type} {before after : List α} {x y : α}
    (h : [y] = before ++ x :: after) : before = [] ∧ y = x := by
  obtain ⟨hbefore, hx⟩ | ⟨-, hx⟩ := List.append_eq_singleton_iff.mp h.symm
  · exact ⟨hbefore, (List.cons.inj hx).1.symm⟩
  · exact absurd hx (by simp)

namespace Fold

variable {ε β : Type}

/-- Whatever comes behind the nodes of a formula starts with one value more on the stack. -/
theorem exists_of_exec_nodes {fold : Fold ε β} {f : Formula} {stack found : List β}
    {rest : List Formula} (h : fold.exec stack (f.nodes ++ rest) = .ok found) :
    ∃ value, fold.exec (value :: stack) rest = .ok found := by
  rw [exec_nodes] at h
  cases hvalue : fold.onTree f with
  | ok value =>
      rw [hvalue] at h
      exact ⟨value, h⟩
  | error e =>
      rw [hvalue] at h
      exact absurd h (by simp)

/-- Every node of a formula finds as many values as it takes on top of those that were on the stack
before the formula. -/
theorem arity_le {fold : Fold ε β} {f : Formula} {stack found : List β}
    {before after : List Formula} {node : Formula} (hnodes : f.nodes = before ++ node :: after)
    (hexec : fold.exec stack before = .ok found) : stack.length + node.arity ≤ found.length := by
  induction f generalizing stack before after with
  | var name =>
      obtain ⟨rfl, rfl⟩ := eq_of_singleton_eq hnodes
      obtain rfl := Except.ok.inj hexec
      exact Nat.le_refl _
  | neg f ih =>
      rcases split_of_append_eq hnodes with ⟨rest, hf⟩ | ⟨rest, rfl, hroot⟩
      · exact ih hf hexec
      · obtain ⟨rfl, rfl⟩ := eq_of_singleton_eq hroot
        obtain ⟨value, hvalue⟩ := exists_of_exec_nodes hexec
        obtain rfl := Except.ok.inj hvalue
        exact Nat.le_refl _
  | binary op l r ihl ihr =>
      rcases split_of_append_eq hnodes with ⟨rest, hoperands⟩ | ⟨rest, rfl, hroot⟩
      · rcases split_of_append_eq hoperands with ⟨rest, hl⟩ | ⟨rest, rfl, hr⟩
        · exact ihl hl hexec
        · -- the left operand has left one value below those of the right one
          obtain ⟨left, hleft⟩ := exists_of_exec_nodes hexec
          have hfound := ihr hr hleft
          rw [List.length_cons] at hfound
          omega
      · obtain ⟨rfl, rfl⟩ := eq_of_singleton_eq hroot
        rw [List.append_nil] at hexec
        obtain ⟨left, hleft⟩ := exists_of_exec_nodes hexec
        rw [← List.append_nil r.nodes] at hleft
        obtain ⟨right, hright⟩ := exists_of_exec_nodes hleft
        obtain rfl := Except.ok.inj hright
        exact Nat.le_refl _

/-- Over the listing of a formula a fold comes to one value, that of the recursion, or to the fault
of a leaf. -/
theorem exec_postorder (fold : Fold ε β) (f : Formula) :
    fold.exec [] f.postorder = (fold.onTree f).map fun value => [value] := by
  have h := fold.exec_nodes f [] []
  rw [List.append_nil] at h
  rw [Formula.postorder_eq_nodes, h]
  cases fold.onTree f <;> rfl

/-- The recursion fails only where a leaf is refused. -/
theorem exists_leaf_of_onTree {fold : Fold ε β} {f : Formula} {e : ε}
    (h : fold.onTree f = .error e) : ∃ name ∈ f.leaves, fold.leaf name = .error e := by
  induction f with
  | var name => exact ⟨name, List.mem_singleton_self name, h⟩
  | neg f ih =>
      rw [onTree] at h
      cases hf : fold.onTree f with
      | ok value =>
          rw [hf] at h
          exact absurd h (by simp [Except.map])
      | error e' =>
          rw [hf] at h
          obtain rfl := Except.error.inj h
          exact ih hf
  | binary op l r ihl ihr =>
      rw [onTree] at h
      cases hl : fold.onTree l with
      | error e' =>
          rw [hl] at h
          obtain rfl := Except.error.inj h
          obtain ⟨name, hname, hleaf⟩ := ihl hl
          exact ⟨name, List.mem_append_left _ hname, hleaf⟩
      | ok left =>
          rw [hl] at h
          cases hr : fold.onTree r with
          | ok right =>
              simp only [hr] at h
              exact absurd h (by simp [Except.map])
          | error e' =>
              simp only [hr] at h
              obtain rfl := Except.error.inj h
              obtain ⟨name, hname, hleaf⟩ := ihr hr
              exact ⟨name, List.mem_append_right _ hname, hleaf⟩

end Fold

/-! ## Walks and folds together -/

/-- Both walks over a formula stop after as many turns as it has nodes. The children-first walk has
then listed every node, each after its operands and left before right, and the other has found the
height. In a fold over the listing every node finds at least as many values as it takes. If no leaf
is refused there is one value left at the end, which is that of the recursion; if one is, machine
and recursion fail alike, with the fault of a leaf. -/
theorem walks_and_folds_follow_recursion (f : Formula) :
    StopsAfter Formula.listTurn f.size ([f], []) ([], f.postorder) ∧
    f.postorder = f.nodes ∧ f.postorder.length = f.size ∧
    StopsAfter Formula.deepestTurn f.size ([(f, 1)], 0) ([], f.walkedHeight) ∧
    f.walkedHeight = f.height ∧
    ∀ {ε β : Type} (fold : Fold ε β),
      (∀ before node after found, f.postorder = before ++ node :: after →
        fold.exec [] before = .ok found → node.arity ≤ found.length) ∧
      ((∀ name ∈ f.leaves, ∃ value, fold.leaf name = .ok value) →
        ∃ value, fold.onTree f = .ok value ∧ fold.exec [] f.postorder = .ok [value] ∧
          fold.run f.postorder = .ok value) ∧
      ∀ e, fold.exec [] f.postorder = .error e ↔
        fold.onTree f = .error e ∧ ∃ name ∈ f.leaves, fold.leaf name = .error e := by
  have hlists := Formula.listOnto_stopsAfter [f] []
  have hdeepest := Formula.deepestOf_stopsAfter [(f, 1)] 0
  refine ⟨hlists, f.postorder_eq_nodes, ?_, hdeepest, f.walkedHeight_eq_height, ?_⟩
  · rw [f.postorder_eq_nodes, f.length_nodes]
  · intro ε β fold
    refine ⟨?_, ?_, ?_⟩
    · intro before node after found hnodes hexec
      rw [f.postorder_eq_nodes] at hnodes
      have := Fold.arity_le hnodes hexec
      rwa [List.length_nil, Nat.zero_add] at this
    · intro haccepted
      rw [fold.exec_postorder, f.postorder_eq_nodes, fold.run_nodes]
      cases hvalue : fold.onTree f with
      | ok value => exact ⟨value, rfl, rfl, rfl⟩
      | error e =>
          obtain ⟨name, hname, hrefused⟩ := Fold.exists_leaf_of_onTree hvalue
          obtain ⟨value, hleaf⟩ := haccepted name hname
          exact absurd (hleaf.symm.trans hrefused) (by simp)
    · intro e
      rw [fold.exec_postorder]
      cases hvalue : fold.onTree f with
      | ok value => simp [Except.map]
      | error e' =>
          constructor
          · intro h
            obtain rfl := Except.error.inj h
            exact ⟨rfl, Fold.exists_leaf_of_onTree hvalue⟩
          · rintro ⟨h, -⟩
            exact congrArg _ (Except.error.inj h)

/-- An implication with a negated disjunction on its right: six turns, four nodes high, and two
values for the root to take, of which the right one is on top. Without a value for the name in the
middle the machine fails for this name. -/
theorem implication_finds_both_values :
    let f : Formula := .binary .implies (.var "A") (.neg (.binary .or (.var "B") (.var "A")))
    let total := Formula.evaluation (⟨[("A", true), ("B", false)]⟩ : Assignment Bool)
    let lacking := Formula.evaluation (⟨[("A", true)]⟩ : Assignment Bool)
    StopsAfter Formula.listTurn 6 ([f], []) ([], f.postorder) ∧ f.walkedHeight = 4 ∧
    f.postorder = f.nodes.take 5 ++ [f] ∧ total.exec [] (f.nodes.take 5) = .ok [false, true] ∧
    f.arity ≤ [false, true].length ∧ total.exec [] f.postorder = .ok [false] ∧
    lacking.exec [] f.postorder = .error (.unboundVariable "B") := by
  intro f total lacking
  obtain ⟨hlists, hnodes, -, -, hheight, hfolds⟩ := walks_and_folds_follow_recursion f
  have hsplit : f.postorder = f.nodes.take 5 ++ [f] := hnodes
  have hbefore : total.exec [] (f.nodes.take 5) = .ok [false, true] := rfl
  obtain ⟨htakes, hvalue, -⟩ := hfolds total
  obtain ⟨-, -, hfails⟩ := hfolds lacking
  have haccepted : ∀ name ∈ f.leaves, ∃ value, total.leaf name = .ok value := by
    intro name hname
    have hcases : name = "A" ∨ name = "B" ∨ name = "A" := by simpa [f, Formula.leaves] using hname
    rcases hcases with rfl | rfl | rfl
    · exact ⟨true, rfl⟩
    · exact ⟨false, rfl⟩
    · exact ⟨true, rfl⟩
  obtain ⟨value, htree, hexec, -⟩ := hvalue haccepted
  obtain rfl : false = value := Except.ok.inj htree
  refine ⟨hlists, hheight, hsplit, hbefore, htakes _ _ _ _ hsplit hbefore, hexec, ?_⟩
  exact (hfails (.unboundVariable "B")).mpr ⟨rfl, "B", by simp [f, Formula.leaves], rfl⟩

end Sentential
