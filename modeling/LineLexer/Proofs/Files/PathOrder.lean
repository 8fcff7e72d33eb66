import LineLexer.Files.Path
import Mathlib.Data.List.Basic

/-!
# The order of paths

Paths stand in the order of their keys, and the key of a path tells its components
(`Component.map_orderKey_injective`). So the order is total, and it parts any two paths with different
components (`Path.components_eq_of_le`).
-/

namespace LineLexer.Files

theorem Component.toList_orderKey (component : Component) :
    component.orderKey.toList = match component with
      | root => ['0']
      | current => ['1']
      | parent => ['2']
      | name text => '3' :: text.toList := by
  cases component with
  | root | current | parent => rfl
  | name text =>
    rw [orderKey, String.toList_append]
    rfl

theorem Component.orderKey_injective : Function.Injective orderKey := by
  intro a b hkey
  have hchars := congrArg String.toList hkey
  rw [toList_orderKey, toList_orderKey] at hchars
  cases a <;> cases b <;> first
    | rfl
    | exact congrArg name (String.toList_inj.mp (List.cons.inj hchars).2)
    | cases hchars

/-- The keys of paths tell their components. -/
theorem Component.map_orderKey_injective : Function.Injective (List.map orderKey) :=
  List.map_injective_iff.mpr orderKey_injective

namespace Path

/-- The order of lists of words, given by its instance. -/
abbrev KeysOrdered (a b : List String) : Prop := @LE.le (List String) List.instLE a b

theorem keysLe_iff {a b : List String} : le.keysLe a b = true ↔ KeysOrdered a b := by
  induction a generalizing b with
  | nil => exact iff_of_true (by rw [le.keysLe]) (List.nil_le b)
  | cons key keys ih =>
    cases b with
    | nil => exact iff_of_false Bool.false_ne_true fun hle => hle (List.nil_lt_cons key keys)
    | cons key' keys' =>
      rw [le.keysLe, KeysOrdered, List.cons_le_cons_iff, Bool.or_eq_true, Bool.and_eq_true,
        decide_eq_true_iff, beq_iff_eq, ih]

variable {a b c : Path}

theorem le_iff : a.le b = true ↔ KeysOrdered a.orderKey b.orderKey := keysLe_iff

theorem le_trans (hab : a.le b = true) (hbc : b.le c = true) : a.le c = true :=
  le_iff.mpr (List.le_trans (le_iff.mp hab) (le_iff.mp hbc))

theorem le_total (a b : Path) : (a.le b || b.le a) = true := by
  rw [Bool.or_eq_true, le_iff, le_iff]
  exact List.le_total a.orderKey b.orderKey

/-- Items that were sorted by their paths. -/
theorem pairwise_mergeSort {α : Type} (key : α → Path) (items : List α) :
    (items.mergeSort fun a b => (key a).le (key b)).Pairwise
      fun a b => (key a).le (key b) = true := by
  refine @List.pairwise_mergeSort α (fun a b => (key a).le (key b)) (fun a b c hab hbc => ?_)
    (fun a b => ?_) items
  · exact le_trans hab hbc
  · exact le_total (key a) (key b)

/-- Paths that the order does not part have the same components. -/
theorem components_eq_of_le (hab : a.le b = true) (hba : b.le a = true) :
    a.components = b.components := by
  have hkey : a.orderKey = b.orderKey := List.le_antisymm (le_iff.mp hab) (le_iff.mp hba)
  exact Component.map_orderKey_injective hkey

end Path

end LineLexer.Files
