import Mathlib.Data.List.Sort
import ShapeFlow.Dictionary

/-!
Dictionaries by their look-ups: what is found after entries were stored, one or several in turn, and
that dictionaries with the same look-ups are the same.
-/

namespace ShapeFlow

variable {ν : Type}

theorem lookup_cons_eq_ite (entry : String × ν) (rest : List (String × ν)) (key : String) :
    (entry :: rest).lookup key = if key = entry.1 then some entry.2 else rest.lookup key := by
  obtain ⟨first, value⟩ := entry
  rw [List.lookup_cons]
  by_cases heq : key = first
  · simp [heq]
  · rw [beq_false_of_ne heq, if_neg heq]

theorem lookup_placeInOrder (key other : String) (value : ν) (entries : List (String × ν)) :
    (placeInOrder key value entries).lookup other =
      if other = key then some value else entries.lookup other := by
  induction entries with
  | nil => rw [placeInOrder, lookup_cons_eq_ite]
  | cons entry rest ih =>
    unfold placeInOrder
    split
    · rw [lookup_cons_eq_ite]
    · split
      · next hsame =>
        rw [lookup_cons_eq_ite, lookup_cons_eq_ite, ← hsame]
        split <;> rfl
      · next hne =>
        rw [lookup_cons_eq_ite, lookup_cons_eq_ite, ih]
        by_cases heq : other = key
        · subst heq
          simp only [if_neg hne, if_true]
        · simp only [if_neg heq]

namespace Dictionary

theorem get?_insert (dictionary : Dictionary ν) (key other : String) (value : ν) :
    (dictionary.insert key value).get? other =
      if other = key then some value else dictionary.get? other :=
  lookup_placeInOrder key other value dictionary.entries

/-- Of several entries stored under one name the last one is found. -/
theorem get?_foldl_insert (dictionary : Dictionary ν) (entries : List (String × ν)) (key : String) :
    (entries.foldl (fun made entry => made.insert entry.1 entry.2) dictionary).get? key =
      (entries.reverse.lookup key).or (dictionary.get? key) := by
  induction entries generalizing dictionary with
  | nil => rfl
  | cons entry rest ih =>
    rw [List.foldl_cons, ih, get?_insert, List.reverse_cons, List.lookup_append, Option.or_assoc,
      lookup_cons_eq_ite]
    by_cases heq : key = entry.1
    · rw [if_pos heq, if_pos heq, Option.some_or]
    · rw [if_neg heq, if_neg heq, List.lookup_nil, Option.none_or]

theorem get?_eq_some_iff {dictionary : Dictionary ν} {entry : String × ν} :
    dictionary.get? entry.1 = some entry.2 ↔ entry ∈ dictionary.entries := by
  rw [get?, List.lookup_eq_some_iff]
  constructor
  · rintro ⟨before, after, hentries, -⟩
    rw [hentries]
    exact List.mem_append_right _ List.mem_cons_self
  · intro hentry
    obtain ⟨before, after, hentries⟩ := List.append_of_mem hentry
    have hsorted := dictionary.sorted
    rw [hentries, List.pairwise_append] at hsorted
    refine ⟨before, after, hentries, fun other hother => bne_iff_ne.2 ?_⟩
    exact (String.ne_of_lt (hsorted.2.2 other hother entry List.mem_cons_self)).symm

theorem eq_of_get? {a b : Dictionary ν} (h : ∀ key, a.get? key = b.get? key) : a = b := by
  have hmem : ∀ entry, entry ∈ a.entries ↔ entry ∈ b.entries := fun entry => by
    rw [← get?_eq_some_iff, ← get?_eq_some_iff, h]
  have hperm : a.entries.Perm b.entries :=
    (List.perm_ext_iff_of_nodup (a.sorted.imp fun hlt heq => String.ne_of_lt hlt (congrArg _ heq))
      (b.sorted.imp fun hlt heq => String.ne_of_lt hlt (congrArg _ heq))).2 hmem
  have hentries : a.entries = b.entries := hperm.eq_of_pairwise
    (fun _ _ _ _ hlt hgt => absurd hgt (String.lt_asymm hlt)) a.sorted b.sorted
  cases a
  cases b
  cases hentries
  rfl

end Dictionary

end ShapeFlow
