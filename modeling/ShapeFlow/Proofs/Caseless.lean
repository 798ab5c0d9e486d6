import Mathlib.Data.List.Basic
import Mathlib.Data.List.Induction
import ShapeFlow.Caseless
import ShapeFlow.Proofs.Table

/-!
Names without regard to case, in the order in which they come. Of the names that are equal the first one
gives the spelling and the place; a table that is filled by name has the value that is stored last.
-/

namespace ShapeFlow

theorem Caseless.eq_refl (a : String) : Caseless.eq a a = true :=
  beq_self_eq_true _

theorem Caseless.eq_comm (a b : String) : Caseless.eq a b = Caseless.eq b a := by
  rw [Caseless.eq, Caseless.eq, Bool.beq_comm]

theorem Caseless.eq_trans {a b c : String} (hab : Caseless.eq a b = true)
    (hbc : Caseless.eq b c = true) : Caseless.eq a c = true := by
  rw [Caseless.eq, beq_iff_eq] at *
  exact hab.trans hbc

/-! ### First spellings -/

/-- The names that no name before them equals without regard to case. -/
def firstSpellings : List String → List String
  | [] => []
  | name :: rest => name :: (firstSpellings rest).filter fun other => !Caseless.eq name other

theorem pairwise_firstSpellings (names : List String) :
    (firstSpellings names).Pairwise fun a b => Caseless.eq a b = false := by
  induction names with
  | nil => exact .nil
  | cons name rest ih =>
    refine List.pairwise_cons.2 ⟨fun other hother => ?_, ih.sublist List.filter_sublist⟩
    simpa using (List.mem_filter.1 hother).2

theorem mem_of_mem_firstSpellings {name : String} {names : List String}
    (h : name ∈ firstSpellings names) : name ∈ names := by
  induction names with
  | nil => exact h
  | cons first rest ih =>
    rcases List.mem_cons.1 h with rfl | hrest
    · exact List.mem_cons_self
    · exact List.mem_cons_of_mem _ (ih (List.mem_filter.1 hrest).1)

theorem exists_mem_firstSpellings {name : String} {names : List String} (h : name ∈ names) :
    ∃ first ∈ firstSpellings names, Caseless.eq first name = true := by
  induction names with
  | nil => cases h
  | cons head rest ih =>
    by_cases heq : Caseless.eq head name = true
    · exact ⟨head, List.mem_cons_self, heq⟩
    · rcases List.mem_cons.1 h with rfl | hrest
      · exact absurd (Caseless.eq_refl name) heq
      · obtain ⟨first, hfirst, hname⟩ := ih hrest
        have hne : Caseless.eq head first = false := by
          rw [← Bool.not_eq_true]
          exact fun hhead => heq (Caseless.eq_trans hhead hname)
        exact ⟨first, List.mem_cons_of_mem _ (List.mem_filter.2 ⟨hfirst, by simp [hne]⟩), hname⟩

theorem firstSpellings_eq_self {names : List String}
    (h : names.Pairwise fun a b => Caseless.eq a b = false) : firstSpellings names = names := by
  induction names with
  | nil => rfl
  | cons name rest ih =>
    obtain ⟨hname, hrest⟩ := List.pairwise_cons.1 h
    rw [firstSpellings, ih hrest, List.filter_eq_self.2 fun other hother => by simp [hname other hother]]

/-- A further name is one of the first spellings unless it is equal to a name before it. -/
theorem firstSpellings_append_singleton (names : List String) (name : String) :
    firstSpellings (names ++ [name]) = if names.any (Caseless.eq · name) then firstSpellings names
      else firstSpellings names ++ [name] := by
  induction names with
  | nil => rfl
  | cons head rest ih =>
    rw [List.cons_append, firstSpellings, ih, List.any_cons, firstSpellings]
    by_cases hrest : rest.any (Caseless.eq · name) = true
    · rw [if_pos hrest, hrest, Bool.or_true, if_pos rfl]
    · rw [if_neg hrest, Bool.not_eq_true] at *
      rw [hrest, Bool.or_false, List.filter_append]
      cases hhead : Caseless.eq head name <;> simp [hhead]

/-! ### Tables that are filled by name -/

section

variable {ν : Type}

/-- The value that comes last under a name, in any spelling. -/
def latest? (additions : List (String × ν)) (name : String) : Option ν :=
  (additions.reverse.find? fun addition => Caseless.eq addition.1 name).map Prod.snd

def Caseless.keyed (addition : String × ν) : Caseless.Key × ν :=
  (⟨addition.1⟩, addition.2)

/-- A table in which values are stored in turn by name. -/
def Table.ofAdditions (additions : List (String × ν)) : Table Caseless.Key ν :=
  .ofList (additions.map Caseless.keyed)

variable {additions : List (String × ν)} {name : String} {value : ν}

theorem latest?_append_singleton (additions : List (String × ν)) (addition : String × ν)
    (name : String) : latest? (additions ++ [addition]) name =
      if Caseless.eq addition.1 name then some addition.2 else latest? additions name := by
  rw [latest?, List.reverse_concat, List.find?_cons]
  cases Caseless.eq addition.1 name <;> rfl

theorem latest?_eq_some_iff : latest? additions name = some value ↔
    ∃ before typeName after, additions = before ++ (typeName, value) :: after ∧
      Caseless.eq typeName name = true ∧ ∀ later ∈ after, Caseless.eq later.1 name = false := by
  simp only [latest?, Option.map_eq_some_iff, List.find?_eq_some_iff_append]
  constructor
  · rintro ⟨⟨typeName, _⟩, ⟨hname, after, before, hreverse, hafter⟩, rfl⟩
    refine ⟨before.reverse, typeName, after.reverse, ?_, hname, fun later hlater => ?_⟩
    · rw [← List.reverse_inj, hreverse]
      simp
    · simpa using hafter later (List.mem_reverse.1 hlater)
  · rintro ⟨before, typeName, after, rfl, hname, hafter⟩
    refine ⟨(typeName, value), ⟨hname, after.reverse, before.reverse, by simp, ?_⟩, rfl⟩
    intro later hlater
    simpa using hafter later (List.mem_reverse.1 hlater)

theorem latest?_eq_none_iff : latest? additions name = none ↔
    ∀ addition ∈ additions, Caseless.eq addition.1 name = false := by
  simp [latest?]

theorem isSome_latest? (additions : List (String × ν)) (name : String) :
    (latest? additions name).isSome = (additions.map Prod.fst).any (Caseless.eq · name) := by
  rw [latest?, Option.isSome_map, Bool.eq_iff_iff, List.find?_isSome, List.any_map, List.any_eq_true]
  simp only [List.mem_reverse, Function.comp]

namespace Table

theorem ofAdditions_append_singleton (additions : List (String × ν)) (addition : String × ν) :
    ofAdditions (additions ++ [addition]) =
      (ofAdditions additions).insert ⟨addition.1⟩ addition.2 := by
  rw [ofAdditions, List.map_append, List.map_singleton, ofList_append_singleton]
  rfl

theorem get?_ofAdditions (additions : List (String × ν)) (name : String) :
    (ofAdditions additions).get? ⟨name⟩ = latest? additions name := by
  induction additions using List.reverseRecOn with
  | nil => rfl
  | append_singleton before addition ih =>
    rw [ofAdditions_append_singleton, get?_insert, ih, latest?_append_singleton]
    rfl

theorem contains_ofAdditions (additions : List (String × ν)) (name : String) :
    (ofAdditions additions).contains ⟨name⟩ = (additions.map Prod.fst).any (Caseless.eq · name) := by
  rw [contains_eq, get?_ofAdditions, isSome_latest?]

theorem keys_ofAdditions (additions : List (String × ν)) :
    (ofAdditions additions).keys.map Caseless.Key.spelling =
      firstSpellings (additions.map Prod.fst) := by
  induction additions using List.reverseRecOn with
  | nil => rfl
  | append_singleton before addition ih =>
    rw [ofAdditions_append_singleton, List.map_append, List.map_singleton,
      firstSpellings_append_singleton, ← contains_ofAdditions]
    split
    · next hthere => rw [keys_insert_of_contains hthere, ih]
    · next hfresh =>
      rw [Bool.not_eq_true] at hfresh
      rw [keys, entries_insert_of_fresh hfresh, List.map_append, List.map_append, ← ih]
      rfl

/-- One entry for each first spelling, with the value that is stored last. -/
theorem entries_ofAdditions (additions : List (String × ν)) :
    (ofAdditions additions).entries = (firstSpellings (additions.map Prod.fst)).filterMap fun name =>
      (latest? additions name).map (⟨name⟩, ·) := by
  rw [← keys_ofAdditions, keys, List.map_map, List.filterMap_map]
  refine (List.filterMap_some).symm.trans (List.filterMap_congr fun entry hentry => ?_)
  have hfound : latest? additions entry.1.spelling = some entry.2 := by
    rw [← get?_ofAdditions]
    exact get?_of_mem hentry BEq.rfl
  rw [Function.comp, Function.comp, hfound]
  rfl

end Table

end

end ShapeFlow
