/-!
A finite map that lists its entries in the order in which their keys were first inserted. Keys are
told apart by their own equality test, so a key that is equal to an older one without being the same
keeps the older spelling.
-/

namespace ShapeFlow

/-- The entries after storing `value` under `key`: an equal key keeps its place and spelling. -/
def upsert {κ ν : Type} [BEq κ] (key : κ) (value : ν) : List (κ × ν) → List (κ × ν)
  | [] => [(key, value)]
  | entry :: rest =>
    if entry.1 == key then (entry.1, value) :: rest else entry :: upsert key value rest

theorem mem_upsert {κ ν : Type} [BEq κ] {key : κ} {value : ν} {entries : List (κ × ν)}
    {entry : κ × ν} (h : entry ∈ upsert key value entries) :
    entry = (key, value) ∨ ∃ old ∈ entries, old.1 = entry.1 := by
  induction entries with
  | nil => simp_all [upsert]
  | cons head rest ih =>
    unfold upsert at h
    split at h
    · rcases List.mem_cons.1 h with rfl | h
      · exact .inr ⟨head, by simp, rfl⟩
      · exact .inr ⟨entry, by simp [h], rfl⟩
    · rcases List.mem_cons.1 h with rfl | h
      · exact .inr ⟨entry, by simp, rfl⟩
      · rcases ih h with h | ⟨old, hold, heq⟩
        · exact .inl h
        · exact .inr ⟨old, by simp [hold], heq⟩

theorem pairwise_upsert {κ ν : Type} [BEq κ] (key : κ) (value : ν) {entries : List (κ × ν)}
    (h : entries.Pairwise fun a b => (a.1 == b.1) = false) :
    (upsert key value entries).Pairwise fun a b => (a.1 == b.1) = false := by
  induction entries with
  | nil => simp [upsert]
  | cons head rest ih =>
    obtain ⟨hhead, hrest⟩ := List.pairwise_cons.1 h
    unfold upsert
    split
    · exact List.pairwise_cons.2 ⟨hhead, hrest⟩
    · next hne =>
      refine List.pairwise_cons.2 ⟨fun entry hentry => ?_, ih hrest⟩
      rcases mem_upsert hentry with rfl | ⟨old, hold, heq⟩
      · simpa using hne
      · exact heq ▸ hhead old hold

structure Table (κ ν : Type) [BEq κ] where
  entries : List (κ × ν)
  distinct : entries.Pairwise fun a b => (a.1 == b.1) = false

namespace Table

variable {κ ν : Type} [BEq κ]

instance [DecidableEq κ] [DecidableEq ν] : DecidableEq (Table κ ν) := fun a b =>
  decidable_of_iff (a.entries = b.entries) (by cases a; cases b; simp)

def empty : Table κ ν := ⟨[], .nil⟩

def insert (table : Table κ ν) (key : κ) (value : ν) : Table κ ν :=
  ⟨upsert key value table.entries, pairwise_upsert key value table.distinct⟩

/-- The stored key that is equal to `key`, with its value. -/
def find? (table : Table κ ν) (key : κ) : Option (κ × ν) :=
  table.entries.find? fun entry => entry.1 == key

def get? (table : Table κ ν) (key : κ) : Option ν :=
  (table.find? key).map Prod.snd

def contains (table : Table κ ν) (key : κ) : Bool :=
  (table.find? key).isSome

def keys (table : Table κ ν) : List κ :=
  table.entries.map Prod.fst

def size (table : Table κ ν) : Nat :=
  table.entries.length

def isEmpty (table : Table κ ν) : Bool :=
  table.entries.isEmpty

@[simp] theorem find?_empty (key : κ) : (empty : Table κ ν).find? key = none := rfl

@[simp] theorem get?_empty (key : κ) : (empty : Table κ ν).get? key = none := rfl

private theorem find?_upsert [EquivBEq κ] (key other : κ) (value : ν) (entries : List (κ × ν)) :
    ((upsert key value entries).find? fun entry => entry.1 == other).map Prod.snd =
      if key == other then some value
      else (entries.find? fun entry => entry.1 == other).map Prod.snd := by
  induction entries with
  | nil => by_cases h : key == other <;> simp [upsert, h]
  | cons head rest ih =>
    unfold upsert
    by_cases hkey : head.1 == key
    · by_cases hother : key == other
      · simp [hkey, hother, BEq.trans hkey hother]
      · have hne : (head.1 == other) = false := by
          by_cases hc : head.1 == other
          · exact absurd (BEq.trans (BEq.symm hkey) hc) hother
          · simpa using hc
        simp [hkey, hother, hne]
    · by_cases hhead : head.1 == other
      · have hother : (key == other) = false := by
          by_cases hc : key == other
          · exact absurd (BEq.trans hhead (BEq.symm hc)) hkey
          · simpa using hc
        simp [hkey, hhead, hother]
      · simp [hkey, hhead, ih]

theorem contains_eq (table : Table κ ν) (key : κ) :
    table.contains key = (table.get? key).isSome := by
  simp [contains, get?]

theorem get?_insert [EquivBEq κ] (table : Table κ ν) (key other : κ) (value : ν) :
    (table.insert key value).get? other = if key == other then some value else table.get? other :=
  find?_upsert key other value table.entries

end Table

end ShapeFlow
