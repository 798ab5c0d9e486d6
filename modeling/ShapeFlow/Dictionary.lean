/-!
A finite map from names to values, kept in the order of the names' code points. Two dictionaries
with the same look-ups are the same dictionary.
-/

namespace ShapeFlow

/-- The entries after storing `value` under `key` at its place in the order. -/
def placeInOrder {ν : Type} (key : String) (value : ν) : List (String × ν) → List (String × ν)
  | [] => [(key, value)]
  | entry :: rest =>
    if key < entry.1 then (key, value) :: entry :: rest
    else if key = entry.1 then (key, value) :: rest
    else entry :: placeInOrder key value rest

theorem mem_placeInOrder {ν : Type} {key : String} {value : ν} {entries : List (String × ν)}
    {entry : String × ν} (h : entry ∈ placeInOrder key value entries) :
    entry = (key, value) ∨ entry ∈ entries := by
  induction entries with
  | nil => simp_all [placeInOrder]
  | cons head rest ih =>
    unfold placeInOrder at h
    split at h
    · simpa using h
    · split at h
      · rcases List.mem_cons.1 h with h | h
        · exact .inl h
        · exact .inr (by simp [h])
      · rcases List.mem_cons.1 h with h | h
        · exact .inr (by simp [h])
        · rcases ih h with h | h
          · exact .inl h
          · exact .inr (by simp [h])

theorem lt_of_not_lt_of_ne {a b : String} (hlt : ¬ a < b) (hne : a ≠ b) : b < a :=
  String.not_le.1 fun hle => hne (String.le_antisymm hle (String.not_lt.1 hlt))

theorem pairwise_placeInOrder {ν : Type} (key : String) (value : ν) {entries : List (String × ν)}
    (h : entries.Pairwise fun a b => a.1 < b.1) :
    (placeInOrder key value entries).Pairwise fun a b => a.1 < b.1 := by
  induction entries with
  | nil => simp [placeInOrder]
  | cons head rest ih =>
    obtain ⟨hhead, hrest⟩ := List.pairwise_cons.1 h
    unfold placeInOrder
    split
    · next hlt =>
      refine List.pairwise_cons.2 ⟨fun entry hentry => ?_, h⟩
      rcases List.mem_cons.1 hentry with rfl | hentry
      · exact hlt
      · exact String.lt_trans hlt (hhead entry hentry)
    · next hlt =>
      split
      · next heq => exact List.pairwise_cons.2 ⟨fun entry hentry => heq ▸ hhead entry hentry, hrest⟩
      · next hne =>
        refine List.pairwise_cons.2 ⟨fun entry hentry => ?_, ih hrest⟩
        rcases mem_placeInOrder hentry with rfl | hentry
        · exact lt_of_not_lt_of_ne hlt hne
        · exact hhead entry hentry

structure Dictionary (ν : Type) where
  entries : List (String × ν)
  sorted : entries.Pairwise fun a b => a.1 < b.1

namespace Dictionary

variable {ν : Type}

instance [DecidableEq ν] : DecidableEq (Dictionary ν) := fun a b =>
  decidable_of_iff (a.entries = b.entries) (by cases a; cases b; simp)

def empty : Dictionary ν := ⟨[], .nil⟩

def insert (dictionary : Dictionary ν) (key : String) (value : ν) : Dictionary ν :=
  ⟨placeInOrder key value dictionary.entries, pairwise_placeInOrder key value dictionary.sorted⟩

/-- The dictionary of a list of entries; of two entries with one name the later one counts. -/
def ofList (entries : List (String × ν)) : Dictionary ν :=
  entries.foldl (fun dictionary entry => dictionary.insert entry.1 entry.2) empty

def get? (dictionary : Dictionary ν) (key : String) : Option ν :=
  dictionary.entries.lookup key

def values (dictionary : Dictionary ν) : List ν :=
  dictionary.entries.map Prod.snd

def size (dictionary : Dictionary ν) : Nat :=
  dictionary.entries.length

def isEmpty (dictionary : Dictionary ν) : Bool :=
  dictionary.entries.isEmpty

def map {μ : Type} (dictionary : Dictionary ν) (change : ν → μ) : Dictionary μ :=
  ⟨dictionary.entries.map fun entry => (entry.1, change entry.2),
    List.pairwise_map.2 dictionary.sorted⟩

@[simp] theorem get?_empty (key : String) : (empty : Dictionary ν).get? key = none := rfl

end Dictionary

end ShapeFlow
