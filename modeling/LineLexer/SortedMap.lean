/-!
# Sorted maps

A map whose entries stand in the order of their keys, each key once. The order is part of the type,
so two maps with the same entries are equal and a walk through a map is a walk in order.
-/

namespace LineLexer

/-- The laws that the order of the keys obeys. -/
class KeyOrder (κ : Type) [LT κ] : Prop where
  trans : ∀ {a b c : κ}, a < b → b < c → a < c
  irrefl : ∀ a : κ, ¬a < a
  connex : ∀ {a b : κ}, ¬a < b → a ≠ b → b < a

instance : KeyOrder String where
  trans := String.lt_trans
  irrefl := String.lt_irrefl
  connex {a b} hlt hne := by
    have h := Std.Trichotomous.trichotomous (r := fun x y : String => x < y) a b hlt
    exact Decidable.byContradiction fun hba => hne (h hba)

instance : KeyOrder (List String) where
  trans := List.lt_trans
  irrefl := List.lt_irrefl
  connex {a b} hlt hne := by
    have h := Std.Trichotomous.trichotomous (r := fun x y : List String => x < y) a b hlt
    exact Decidable.byContradiction fun hba => hne (h hba)

/-- Entries in the order of their keys, each key once. -/
structure SortedMap (κ β : Type) [LT κ] where
  entries : List (κ × β)
  sorted : entries.Pairwise (fun a b => a.1 < b.1)

namespace SortedMap

variable {κ β γ : Type} [LT κ] [DecidableLT κ] [DecidableEq κ] [KeyOrder κ]

omit [DecidableLT κ] [DecidableEq κ] [KeyOrder κ] in
@[ext] theorem ext {m n : SortedMap κ β} (h : m.entries = n.entries) : m = n := by
  cases m; cases n; cases h; rfl

instance [DecidableEq β] : DecidableEq (SortedMap κ β) := fun m n =>
  if h : m.entries = n.entries then isTrue (ext h) else isFalse fun e => h (e ▸ rfl)

instance [Repr κ] [Repr β] : Repr (SortedMap κ β) := ⟨fun m => reprPrec m.entries⟩

/-- Puts an entry into its place, over one with the same key. -/
def insertEntry (key : κ) (value : β) : List (κ × β) → List (κ × β)
  | [] => [(key, value)]
  | (key', value') :: rest =>
    if key < key' then (key, value) :: (key', value') :: rest
    else if key = key' then (key, value) :: rest
    else (key', value') :: insertEntry key value rest

omit [KeyOrder κ] in
theorem mem_insertEntry {key : κ} {value : β} {e : κ × β} {l : List (κ × β)}
    (h : e ∈ insertEntry key value l) : e = (key, value) ∨ e ∈ l := by
  induction l with
  | nil => simp_all [insertEntry]
  | cons head rest ih =>
    obtain ⟨key', value'⟩ := head
    rw [insertEntry] at h
    split at h
    · simpa using h
    · split at h
      · rcases List.mem_cons.1 h with h | h
        · exact Or.inl h
        · exact Or.inr (List.mem_cons_of_mem _ h)
      · rcases List.mem_cons.1 h with h | h
        · exact Or.inr (h ▸ List.mem_cons_self)
        · exact (ih h).imp_right (List.mem_cons_of_mem _)

theorem insertEntry_sorted {key : κ} {value : β} {l : List (κ × β)}
    (h : l.Pairwise (fun a b => a.1 < b.1)) :
    (insertEntry key value l).Pairwise (fun a b => a.1 < b.1) := by
  induction l with
  | nil => simp [insertEntry]
  | cons head rest ih =>
    obtain ⟨key', value'⟩ := head
    have hrest := List.pairwise_cons.1 h
    rw [insertEntry]
    split
    · rename_i hlt
      refine List.pairwise_cons.2 ⟨fun e he => ?_, h⟩
      rcases List.mem_cons.1 he with he | he
      · exact he ▸ hlt
      · exact KeyOrder.trans hlt (hrest.1 e he)
    · rename_i hlt
      split
      · rename_i heq
        exact List.pairwise_cons.2 ⟨fun e he => heq ▸ hrest.1 e he, hrest.2⟩
      · rename_i hne
        refine List.pairwise_cons.2 ⟨fun e he => ?_, ih hrest.2⟩
        rcases mem_insertEntry he with he | he
        · exact he ▸ KeyOrder.connex hlt hne
        · exact hrest.1 e he

def empty : SortedMap κ β := ⟨[], .nil⟩

instance : Inhabited (SortedMap κ β) := ⟨empty⟩

/-- Gives a key a value, in place of an older one. -/
def insert (m : SortedMap κ β) (key : κ) (value : β) : SortedMap κ β :=
  ⟨insertEntry key value m.entries, insertEntry_sorted m.sorted⟩

/-- Later entries take the place of earlier ones with the same key. -/
def ofList (entries : List (κ × β)) : SortedMap κ β :=
  entries.foldl (fun m e => m.insert e.1 e.2) empty

def find? (m : SortedMap κ β) (key : κ) : Option β :=
  (m.entries.find? fun e => decide (e.1 = key)).map (·.2)

def contains (m : SortedMap κ β) (key : κ) : Bool := (m.find? key).isSome

def erase (m : SortedMap κ β) (key : κ) : SortedMap κ β :=
  ⟨m.entries.filter fun e => decide (e.1 ≠ key), m.sorted.filter _⟩

def keys (m : SortedMap κ β) : List κ := m.entries.map (·.1)

def values (m : SortedMap κ β) : List β := m.entries.map (·.2)

def size (m : SortedMap κ β) : Nat := m.entries.length

def isEmpty (m : SortedMap κ β) : Bool := m.entries.isEmpty

/-- Changes every value and no key. -/
def mapValues (f : β → γ) (m : SortedMap κ β) : SortedMap κ γ :=
  ⟨m.entries.map fun e => (e.1, f e.2), m.sorted.map _ fun _ _ h => h⟩

/-! ## Look-ups after changes -/

omit [KeyOrder κ] in
theorem find?_insertEntry_self (key : κ) (value : β) (l : List (κ × β)) :
    (insertEntry key value l).find? (fun e => decide (e.1 = key)) = some (key, value) := by
  induction l with
  | nil => simp [insertEntry]
  | cons head rest ih =>
    obtain ⟨key', value'⟩ := head
    rw [insertEntry]
    split
    · simp
    · split
      · simp
      · rename_i hne
        simp [Ne.symm hne, ih]

omit [KeyOrder κ] in
theorem find?_insertEntry_of_ne {key key' : κ} (h : key' ≠ key) (value : β) (l : List (κ × β)) :
    (insertEntry key value l).find? (fun e => decide (e.1 = key'))
      = l.find? (fun e => decide (e.1 = key')) := by
  induction l with
  | nil => simp [insertEntry, Ne.symm h]
  | cons head rest ih =>
    obtain ⟨key₀, value₀⟩ := head
    rw [insertEntry]
    split
    · simp [Ne.symm h]
    · split
      · rename_i heq
        subst heq
        simp [Ne.symm h]
      · simp only [List.find?_cons, ih]

omit [DecidableLT κ] [KeyOrder κ] in
@[simp] theorem find?_empty (key : κ) : (empty : SortedMap κ β).find? key = none := rfl

@[simp] theorem find?_insert_self (m : SortedMap κ β) (key : κ) (value : β) :
    (m.insert key value).find? key = some value := by
  simp [find?, insert, find?_insertEntry_self]

theorem find?_insert_of_ne (m : SortedMap κ β) {key key' : κ} (h : key' ≠ key) (value : β) :
    (m.insert key value).find? key' = m.find? key' := by
  simp [find?, insert, find?_insertEntry_of_ne h]

end SortedMap

end LineLexer
