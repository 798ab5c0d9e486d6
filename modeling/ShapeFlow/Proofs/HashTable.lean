import Mathlib.Data.List.FinRange
import Mathlib.Data.List.Perm.Basic
import Mathlib.Logic.Function.Basic
import ShapeFlow.Proofs.Outcome
import ShapeFlow.Proofs.Table

/-!
Tables whose entries are kept in buckets by the hash of their key. Only the bucket of a key is searched for
it, so that a key is found only if keys that are equal have the same hash; with such a hash, no matter
which, a hash table does what a table does, through every growth.
-/

namespace ShapeFlow

/-- Buckets in which the entries are kept by the hash of their key. -/
structure HashTable (κ ν : Type) where
  size : Nat
  bucket : Fin (size + 1) → List (κ × ν)

namespace HashTable

variable {κ ν : Type}

def empty (size : Nat) : HashTable κ ν := ⟨size, fun _ => []⟩

def entries (table : HashTable κ ν) : List (κ × ν) :=
  (List.finRange (table.size + 1)).flatMap table.bucket

variable (hash : κ → Nat)

/-- The bucket of a key, among `size` and one more. -/
def place (size : Nat) (key : κ) : Fin (size + 1) :=
  Fin.ofNat (size + 1) (hash key)

/-- Deals the entries out to other buckets. -/
def resize (table : HashTable κ ν) (size : Nat) : HashTable κ ν :=
  ⟨size, fun slot => table.entries.filter fun entry => place hash size entry.1 == slot⟩

variable [BEq κ]

def find? (table : HashTable κ ν) (key : κ) : Option (κ × ν) :=
  (table.bucket (place hash table.size key)).find? fun entry => entry.1 == key

def get? (table : HashTable κ ν) (key : κ) : Option ν :=
  (table.find? hash key).map Prod.snd

def store (table : HashTable κ ν) (key : κ) (value : ν) : HashTable κ ν :=
  let slot := place hash table.size key
  { table with bucket := Function.update table.bucket slot (upsert key value (table.bucket slot)) }

variable (growth : Nat → Nat → Nat)

/-- Stores a value and returns the one that it replaces. Before that the table may grow, to a number of
buckets that depends on how many entries and buckets there are. -/
def insert (table : HashTable κ ν) (key : κ) (value : ν) : Option ν × HashTable κ ν :=
  let grown := table.resize hash (growth table.entries.length table.size)
  (grown.get? hash key, grown.store hash key value)

/-- Stores a value after others, and lists what each of them has replaced. -/
def insertNext (state : List (Option ν) × HashTable κ ν) (addition : κ × ν) :
    List (Option ν) × HashTable κ ν :=
  let inserted := state.2.insert hash growth addition.1 addition.2
  (state.1 ++ [inserted.1], inserted.2)

/-- Stores values in turn. -/
def insertAll (table : HashTable κ ν) (additions : List (κ × ν)) : List (Option ν) × HashTable κ ν :=
  additions.foldl (insertNext hash growth) ([], table)

/-! ### Buckets as parts of a table -/

/-- Keys that are equal have the same hash. -/
def Coherent : Prop := ∀ a b : κ, (a == b) = true → hash a = hash b

/-- The buckets hold the entries of the table, each of them those with its hash. -/
def Spreads (table : Table κ ν) (buckets : HashTable κ ν) : Prop :=
  ∀ slot, (buckets.bucket slot).Perm
    (table.entries.filter fun entry => place hash buckets.size entry.1 == slot)

/-- Items that are dealt out by a number are all dealt out. -/
theorem perm_flatMap_filter {α : Type} {count : Nat} (number : α → Fin count) (items : List α) :
    ((List.finRange count).flatMap fun slot => items.filter fun item => number item == slot).Perm
      items := by
  suffices ∀ slots : List (Fin count), slots.Nodup → ∀ items : List α,
      (∀ item ∈ items, number item ∈ slots) →
      (slots.flatMap fun slot => items.filter fun item => number item == slot).Perm items from
    this _ (List.nodup_finRange count) items fun _ _ => List.mem_finRange _
  intro slots
  induction slots with
  | nil =>
    intro _ items hitems
    cases items with
    | nil => exact .nil
    | cons item rest => cases hitems item List.mem_cons_self
  | cons slot rest ih =>
    intro hnodup items hitems
    obtain ⟨hslot, hrest⟩ := List.nodup_cons.1 hnodup
    -- what is not in the first bucket is dealt out to the others
    have hothers : (rest.flatMap fun other => items.filter fun item => number item == other) =
        rest.flatMap fun other => (items.filter fun item => !(number item == slot)).filter
          fun item => number item == other := by
      refine List.flatMap_congr fun other hother => ?_
      rw [List.filter_filter]
      refine List.filter_congr fun item _ => ?_
      by_cases hitem : number item = other
      · have hne : number item ≠ slot := fun heq => hslot (heq ▸ hitem ▸ hother)
        simp [hitem, hitem ▸ hne]
      · simp [hitem]
    have hdealt := ih hrest (items.filter fun item => !(number item == slot)) fun item hitem => by
      obtain ⟨hmem, hne⟩ := List.mem_filter.1 hitem
      refine (List.mem_cons.1 (hitems item hmem)).resolve_left ?_
      simpa using hne
    rw [List.flatMap_cons, hothers]
    exact (hdealt.append_left _).trans (List.filter_append_perm _ items)

section

variable {hash} {table : Table κ ν} {buckets : HashTable κ ν}

theorem spreads_empty (size : Nat) : Spreads hash (.empty : Table κ ν) (empty size) :=
  fun _ => .nil

namespace Spreads

theorem perm_entries (h : Spreads hash table buckets) : buckets.entries.Perm table.entries :=
  (List.Perm.flatMap_left _ fun slot _ => h slot).trans (perm_flatMap_filter _ _)

theorem resize (h : Spreads hash table buckets) (size : Nat) :
    Spreads hash table (buckets.resize hash size) :=
  fun _ => h.perm_entries.filter _

variable [EquivBEq κ]

theorem find?_eq (h : Spreads hash table buckets) (hhash : Coherent hash) (key : κ) :
    buckets.find? hash key = table.find? key := by
  cases hfind : buckets.find? hash key with
  | some entry =>
    have hmem := (h _).subset (List.mem_of_find?_eq_some hfind)
    have hkey := List.find?_some hfind
    exact (Table.find?_of_mem (List.mem_filter.1 hmem).1 hkey).symm
  | none =>
    refine (List.find?_eq_none.2 fun entry hmem hkey => ?_).symm
    -- an entry with the key would be in the bucket that has been searched
    have hslot : (place hash buckets.size entry.1 == place hash buckets.size key) = true := by
      rw [place, hhash _ _ hkey]
      exact beq_self_eq_true _
    have hbucket := (h _).symm.subset (List.mem_filter.2 ⟨hmem, hslot⟩)
    exact List.find?_eq_none.1 hfind entry hbucket hkey

theorem get?_eq (h : Spreads hash table buckets) (hhash : Coherent hash) (key : κ) :
    buckets.get? hash key = table.get? key := by
  rw [HashTable.get?, h.find?_eq hhash, Table.get?]

theorem store (h : Spreads hash table buckets) (hhash : Coherent hash) (key : κ) (value : ν) :
    Spreads hash (table.insert key value) (buckets.store hash key value) := by
  intro (slot : Fin (buckets.size + 1))
  have hplace : ∀ a b : κ, (a == b) = true →
      (place hash buckets.size a == slot) = (place hash buckets.size b == slot) := fun a b hab => by
    rw [place, hhash a b hab, place]
  have hentries : (table.insert key value).entries.filter
      (fun entry => place hash buckets.size entry.1 == slot) = _ :=
    filter_upsert (place hash buckets.size · == slot) hplace
  change (Function.update buckets.bucket _ _ slot).Perm ((table.insert key value).entries.filter
    fun entry => place hash buckets.size entry.1 == slot)
  rw [hentries]
  by_cases hslot : place hash buckets.size key = slot
  · subst hslot
    rw [Function.update_self, if_pos (beq_self_eq_true _)]
    exact (perm_upsert (table.distinct.filter _) (h _).symm).symm
  · rw [Function.update_of_ne (Ne.symm hslot), if_neg (mt beq_iff_eq.1 hslot)]
    exact h slot

theorem insert (h : Spreads hash table buckets) (hhash : Coherent hash) (growth : Nat → Nat → Nat)
    (key : κ) (value : ν) : (buckets.insert hash growth key value).1 = table.get? key ∧
      Spreads hash (table.insert key value) (buckets.insert hash growth key value).2 := by
  have hgrown := h.resize (growth buckets.entries.length buckets.size)
  exact ⟨hgrown.get?_eq hhash key, hgrown.store hhash key value⟩

end Spreads

variable [EquivBEq κ]

/-- While values are stored in turn, each of them replaces what a table would find under its key at that
time, and the buckets stay those of the table. -/
theorem spreads_insertAll (hhash : Coherent hash) (growth : Nat → Nat → Nat) (size : Nat)
    (additions : List (κ × ν)) :
    ((empty size).insertAll hash growth additions).1 = additions.mapIdx (fun position addition =>
        (Table.ofList (additions.take position)).get? addition.1) ∧
      Spreads hash (.ofList additions) ((empty size).insertAll hash growth additions).2 := by
  refine foldl_invariant (fun done (state : List (Option ν) × HashTable κ ν) =>
    state.1 = done.mapIdx (fun position addition =>
        (Table.ofList (additions.take position)).get? addition.1) ∧
      Spreads hash (.ofList done) state.2) ?_ ?_
  · exact ⟨rfl, spreads_empty size⟩
  · intro done addition rest state hadditions hstate
    obtain ⟨hprevious, hnext⟩ := hstate.2.insert hhash growth addition.1 addition.2
    have hdone : additions.take done.length = done := by rw [hadditions, List.take_left]
    refine ⟨?_, Table.ofList_append_singleton done addition ▸ hnext⟩
    rw [insertNext, hprevious, hstate.1, List.mapIdx_concat, hdone]

end

end HashTable

end ShapeFlow
