/-
# Sentential.Proofs.Formula.Variables -- the sorted list of names

The variables of a formula are listed in ascending order and each of them once, so the list is
fixed by which names it has: formulas with the same names at their leaves have the same list.
-/
import Mathlib.Data.Finset.Card
import Std.Data.TreeSet.Lemmas
import Sentential.Formula.Variables

namespace Sentential.Formula

/-! ## Sorted names -/

theorem mem_foldl_insert {names : List String} {found : Std.TreeSet String} {name : String} :
    name ∈ names.foldl (fun found name => found.insert name) found ↔
      name ∈ found ∨ name ∈ names := by
  induction names generalizing found with
  | nil => simp
  | cons first rest ih =>
      rw [List.foldl_cons, ih, Std.TreeSet.mem_insert, Std.LawfulEqOrd.compare_eq_iff_eq,
        List.mem_cons]
      constructor
      · rintro ((rfl | hfound) | hrest)
        · exact .inr (.inl rfl)
        · exact .inl hfound
        · exact .inr (.inr hrest)
      · rintro (hfound | rfl | hrest)
        · exact .inl (.inr hfound)
        · exact .inl (.inl rfl)
        · exact .inr hrest

/-- Sorting keeps the names. -/
theorem mem_sortedNames {names : List String} {name : String} :
    name ∈ sortedNames names ↔ name ∈ names := by
  rw [sortedNames, Std.TreeSet.mem_toList, mem_foldl_insert]
  simp

/-- Sorted names ascend strictly, in the order of their characters. -/
theorem sortedNames_ascending (names : List String) :
    (sortedNames names).Pairwise fun first second => first < second := by
  have hordered := Std.TreeSet.ordered_toList
    (t := names.foldl (fun found name => found.insert name) (∅ : Std.TreeSet String))
  refine hordered.imp ?_
  intro first second hlt
  exact compareOfLessAndEq_eq_lt.mp hlt

theorem nodup_of_ascending {names : List String}
    (h : names.Pairwise fun first second => first < second) : names.Nodup := by
  refine h.imp ?_
  rintro first second hlt rfl
  exact String.lt_irrefl _ hlt

/-- Two strictly ascending lists of the same names are the same list. -/
theorem eq_of_ascending {us vs : List String}
    (hus : us.Pairwise fun first second => first < second)
    (hvs : vs.Pairwise fun first second => first < second) (h : ∀ name, name ∈ us ↔ name ∈ vs) :
    us = vs := by
  have hperm : us.Perm vs :=
    (List.perm_ext_iff_of_nodup (nodup_of_ascending hus) (nodup_of_ascending hvs)).mpr h
  refine hperm.eq_of_pairwise ?_ hus hvs
  intro first second _ _ hlt hgt
  exact absurd (String.lt_trans hlt hgt) (String.lt_irrefl _)

/-! ## The variables of a formula -/

theorem filterMap_nodes (f : Formula) : f.nodes.filterMap name? = f.leaves := by
  induction f with
  | var name => rfl
  | neg f ih =>
      rw [nodes, List.filterMap_append, ih]
      exact List.append_nil _
  | binary op l r ihl ihr =>
      rw [nodes, List.filterMap_append, List.filterMap_append, ihl, ihr]
      exact List.append_nil _

theorem vars_eq (f : Formula) : f.vars = sortedNames f.leaves := by
  rw [vars, postorder_eq_nodes, filterMap_nodes]

/-- The variables of a formula are the names at its leaves. -/
theorem mem_vars {f : Formula} {name : String} : name ∈ f.vars ↔ name ∈ f.leaves := by
  rw [vars_eq, mem_sortedNames]

theorem vars_ascending (f : Formula) : f.vars.Pairwise fun first second => first < second := by
  rw [vars_eq]
  exact sortedNames_ascending f.leaves

/-- There are as many variables as there are different names at the leaves. -/
theorem length_vars (f : Formula) : f.vars.length = f.leaves.toFinset.card := by
  have hsame : f.vars.toFinset = f.leaves.toFinset := by
    ext name
    rw [List.mem_toFinset, List.mem_toFinset, mem_vars]
  rw [← hsame, List.toFinset_card_of_nodup (nodup_of_ascending f.vars_ascending)]

/-- A strictly ascending list of the names at the leaves is the list of variables. -/
theorem vars_eq_of_ascending {f : Formula} {names : List String}
    (hnames : names.Pairwise fun first second => first < second)
    (h : ∀ name, name ∈ f.leaves ↔ name ∈ names) : f.vars = names := by
  refine eq_of_ascending f.vars_ascending hnames ?_
  intro name
  rw [mem_vars, h]

theorem leaves_ne_nil (f : Formula) : f.leaves ≠ [] := by
  induction f with
  | var name => exact List.cons_ne_nil _ _
  | neg f ih => exact ih
  | binary op l r ihl _ => exact fun h => ihl (List.append_eq_nil_iff.mp h).1

/-- Every formula has a variable. -/
theorem vars_ne_nil (f : Formula) : f.vars ≠ [] := by
  obtain ⟨name, hname⟩ := List.exists_mem_of_ne_nil _ f.leaves_ne_nil
  exact List.ne_nil_of_mem (mem_vars.mpr hname)

end Sentential.Formula
