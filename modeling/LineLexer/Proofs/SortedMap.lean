import LineLexer.SortedMap
import Mathlib.Data.List.Nodup

/-!
# Entries of sorted maps

A key has one value at most (`eq_of_mem_entries`), so its entry is what a look-up finds
(`find?_eq_some_iff`), and look-ups alone tell a map but for the order of its entries
(`entries_perm`). What is left when keys are erased are the entries with other keys
(`entries_foldl_erase`). A map that is made of entries with different keys has just these entries
(`entries_ofList_perm`).
-/

namespace LineLexer.SortedMap

variable {κ β : Type} [LT κ] [DecidableLT κ] [DecidableEq κ] [KeyOrder κ]

omit [DecidableLT κ] [DecidableEq κ] in
theorem nodup_keys (m : SortedMap κ β) : m.keys.Nodup := by
  rw [keys, List.Nodup, List.pairwise_map]
  exact m.sorted.imp fun {a b} (hlt : a.1 < b.1) (heq : a.1 = b.1) =>
    KeyOrder.irrefl b.1 (heq ▸ hlt)

omit [DecidableLT κ] [DecidableEq κ] in
/-- A key has one value. -/
theorem eq_of_mem_entries {m : SortedMap κ β} {key : κ} {value value' : β}
    (h : (key, value) ∈ m.entries) (h' : (key, value') ∈ m.entries) : value = value' :=
  (Prod.mk.inj (List.inj_on_of_nodup_map m.nodup_keys h h' rfl)).2

omit [DecidableLT κ] in
theorem find?_eq_some_iff {m : SortedMap κ β} {key : κ} {value : β} :
    m.find? key = some value ↔ (key, value) ∈ m.entries := by
  have hmem {found : β} (h : m.find? key = some found) : (key, found) ∈ m.entries := by
    obtain ⟨⟨key', value'⟩, hentry, rfl⟩ := Option.map_eq_some_iff.mp h
    have hkey := List.find?_some hentry
    rw [decide_eq_true_iff] at hkey
    exact hkey ▸ List.mem_of_find?_eq_some hentry
  refine ⟨hmem, fun h => ?_⟩
  cases hfind : m.find? key with
  | some found => rw [eq_of_mem_entries (hmem hfind) h]
  | none =>
    rw [find?, Option.map_eq_none_iff, List.find?_eq_none] at hfind
    exact absurd (decide_eq_true rfl) (hfind _ h)

omit [DecidableLT κ] in
theorem mem_values_of_find? {m : SortedMap κ β} {key : κ} {value : β}
    (h : m.find? key = some value) : value ∈ m.values :=
  List.mem_map.mpr ⟨(key, value), find?_eq_some_iff.mp h, rfl⟩

omit [DecidableLT κ] in
theorem mem_keys_iff {m : SortedMap κ β} {key : κ} :
    key ∈ m.keys ↔ ∃ value, m.find? key = some value := by
  rw [keys, List.mem_map]
  constructor
  · rintro ⟨⟨key, value⟩, hentry, rfl⟩
    exact ⟨value, find?_eq_some_iff.mpr hentry⟩
  · rintro ⟨value, hfind⟩
    exact ⟨(key, value), find?_eq_some_iff.mp hfind, rfl⟩

omit [DecidableLT κ] [KeyOrder κ] in
/-- An erased key is gone, and the others stay. -/
theorem find?_erase (m : SortedMap κ β) (key key' : κ) :
    (m.erase key).find? key' = if key' = key then none else m.find? key' := by
  rw [find?, erase, List.find?_filter]
  split
  · rename_i heq
    rw [heq, Option.map_eq_none_iff, List.find?_eq_none]
    simp
  · rename_i hne
    rw [find?]
    refine congrArg (Option.map (·.2)) (congrArg (List.find? · m.entries) (funext fun entry => ?_))
    by_cases hkey : entry.1 = key'
    · simp [hkey, hne]
    · simp [hkey]

theorem find?_insert (m : SortedMap κ β) (key key' : κ) (value : β) :
    (m.insert key value).find? key' = if key' = key then some value else m.find? key' := by
  split
  · rename_i heq
    rw [heq, find?_insert_self]
  · rename_i hne
    exact find?_insert_of_ne m hne value

omit [DecidableLT κ] in
/-- A map that has the values of some items under their keys, and no other keys, has the entries of
these items. -/
theorem entries_perm {α : Type} {m : SortedMap κ β} {items : List α} {key : α → κ} {value : α → β}
    (hdistinct : (items.map key).Nodup)
    (hfind : ∀ item ∈ items, m.find? (key item) = some (value item))
    (hkeys : ∀ {k v}, m.find? k = some v → k ∈ items.map key) :
    m.entries.Perm (items.map fun item => (key item, value item)) := by
  have hentries : m.entries.Nodup := m.nodup_keys.of_map _
  have hitems : (items.map fun item => (key item, value item)).Nodup := by
    refine List.Nodup.of_map Prod.fst ?_
    rwa [List.map_map]
  refine (List.perm_ext_iff_of_nodup hentries hitems).mpr fun (k, v) => ?_
  rw [← find?_eq_some_iff, List.mem_map]
  constructor
  · intro h
    obtain ⟨item, hitem, rfl⟩ := List.mem_map.mp (hkeys h)
    rw [hfind item hitem] at h
    exact ⟨item, hitem, by rw [Option.some.inj h]⟩
  · rintro ⟨item, hitem, heq⟩
    cases heq
    exact hfind item hitem

omit [DecidableLT κ] [KeyOrder κ] in
theorem entries_foldl_erase (keys : List κ) (m : SortedMap κ β) :
    (keys.foldl erase m).entries = m.entries.filter fun entry => decide (entry.1 ∉ keys) := by
  induction keys generalizing m with
  | nil => simp
  | cons key keys ih =>
    rw [List.foldl_cons, ih, erase, List.filter_filter]
    refine List.filter_congr fun entry _ => ?_
    by_cases h : entry.1 = key <;> simp [h]

omit [KeyOrder κ] in
/-- A new key brings one more entry. -/
theorem insertEntry_perm {key : κ} (value : β) {entries : List (κ × β)}
    (hkey : key ∉ entries.map Prod.fst) :
    (insertEntry key value entries).Perm ((key, value) :: entries) := by
  induction entries with
  | nil => exact .refl _
  | cons entry rest ih =>
    obtain ⟨key', value'⟩ := entry
    rw [List.map_cons, List.mem_cons, not_or] at hkey
    rw [insertEntry]
    split
    · exact .refl _
    · rw [if_neg hkey.1]
      exact ((ih hkey.2).cons _).trans (.swap ..)

theorem foldl_insert_perm {entries : List (κ × β)} (m : SortedMap κ β)
    (hdistinct : (m.keys ++ entries.map Prod.fst).Nodup) :
    (entries.foldl (fun m e => m.insert e.1 e.2) m).entries.Perm (m.entries ++ entries) := by
  induction entries generalizing m with
  | nil => rw [List.append_nil]; exact .refl _
  | cons entry rest ih =>
    obtain ⟨key, value⟩ := entry
    rw [List.map_cons] at hdistinct
    have hkey : key ∉ m.entries.map Prod.fst := fun hmem =>
      (List.nodup_append.mp hdistinct).2.2 key hmem key List.mem_cons_self rfl
    have hinsert : (m.insert key value).entries.Perm ((key, value) :: m.entries) :=
      insertEntry_perm value hkey
    have hkeys : ((m.insert key value).keys ++ rest.map Prod.fst).Nodup := by
      refine (((hinsert.map Prod.fst).append_right _).trans ?_).nodup_iff.mpr hdistinct
      exact List.perm_middle.symm
    exact (ih _ hkeys).trans ((hinsert.append_right rest).trans List.perm_middle.symm)

/-- Entries with distinct keys are those of the map that they make, but for their order. -/
theorem entries_ofList_perm {entries : List (κ × β)} (hdistinct : (entries.map Prod.fst).Nodup) :
    (ofList entries).entries.Perm entries :=
  foldl_insert_perm empty hdistinct

theorem find?_ofList_eq_some_iff {entries : List (κ × β)}
    (hdistinct : (entries.map Prod.fst).Nodup) {key : κ} {value : β} :
    (ofList entries).find? key = some value ↔ (key, value) ∈ entries := by
  rw [find?_eq_some_iff, (entries_ofList_perm hdistinct).mem_iff]

/-- A map is made of its entries. -/
theorem ofList_entries (m : SortedMap κ β) : ofList m.entries = m := by
  refine ext ((entries_ofList_perm m.nodup_keys).eq_of_pairwise ?_ (ofList m.entries).sorted m.sorted)
  intro a b _ _ hab hba
  exact absurd (KeyOrder.trans hab hba) (KeyOrder.irrefl a.1)

end LineLexer.SortedMap
