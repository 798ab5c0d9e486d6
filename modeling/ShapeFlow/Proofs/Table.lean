import ShapeFlow.Table

/-!
Tables by their entries: which one a key finds, and where an insertion puts its own. A table stores under
an equal key in place and under a new key at the end, so that the order of the entries is the order of the
first insertions.
-/

namespace ShapeFlow

section

variable {κ ν : Type} [BEq κ] {key : κ} {value : ν} {entries : List (κ × ν)}

/-- A new key comes last. -/
theorem upsert_of_fresh (h : ∀ entry ∈ entries, ¬(entry.1 == key) = true) :
    upsert key value entries = entries ++ [(key, value)] := by
  induction entries with
  | nil => rfl
  | cons head rest ih =>
    obtain ⟨hhead, hrest⟩ := List.forall_mem_cons.1 h
    rw [upsert, if_neg hhead, ih hrest, List.cons_append]

theorem map_fst_upsert_of_mem {entry : κ × ν} (hmem : entry ∈ entries)
    (hkey : (entry.1 == key) = true) : (upsert key value entries).map Prod.fst = entries.map Prod.fst := by
  induction entries with
  | nil => cases hmem
  | cons head rest ih =>
    unfold upsert
    split
    · rfl
    · next hne =>
      have hrest : entry ∈ rest := by
        rcases List.mem_cons.1 hmem with rfl | hrest
        · exact absurd hkey hne
        · exact hrest
      rw [List.map_cons, List.map_cons, ih hrest]

/-- A choice among the keys that does not tell equal ones apart is not disturbed by storing a value. -/
theorem filter_upsert (chosen : κ → Bool)
    (hchosen : ∀ a b : κ, (a == b) = true → chosen a = chosen b) :
    (upsert key value entries).filter (fun entry => chosen entry.1) =
      if chosen key then upsert key value (entries.filter fun entry => chosen entry.1)
      else entries.filter fun entry => chosen entry.1 := by
  induction entries with
  | nil => cases hkey : chosen key <;> simp [upsert, hkey]
  | cons head rest ih =>
    rw [upsert]
    split
    · next hsame =>
      have hhead := hchosen head.1 key hsame
      cases hkey : chosen key <;> rw [hkey] at hhead <;> simp [upsert, hhead, hsame]
    · next hne =>
      rw [List.filter_cons, ih, List.filter_cons]
      cases hkey : chosen key <;> cases hhead : chosen head.1 <;> simp [upsert, hne]

variable [EquivBEq κ]

/-- A key that is there keeps its place and its spelling. -/
theorem upsert_of_mem (hdistinct : entries.Pairwise fun a b => (a.1 == b.1) = false)
    {entry : κ × ν} (hmem : entry ∈ entries) (hkey : (entry.1 == key) = true) :
    upsert key value entries =
      entries.map fun other => if other.1 == key then (other.1, value) else other := by
  induction entries with
  | nil => cases hmem
  | cons head rest ih =>
    obtain ⟨hhead, hrest⟩ := List.pairwise_cons.1 hdistinct
    unfold upsert
    split
    · next hsame =>
      have hothers : ∀ other ∈ rest, (if other.1 == key then (other.1, value) else other) = other := by
        intro other hother
        refine if_neg fun hother' => ?_
        have hne := hhead other hother
        rw [BEq.trans hsame (BEq.symm hother')] at hne
        cases hne
      rw [List.map_cons, if_pos hsame, List.map_congr_left hothers, List.map_id']
    · next hne =>
      rcases List.mem_cons.1 hmem with rfl | hmem
      · exact absurd hkey hne
      · rw [List.map_cons, if_neg hne, ih hrest hmem]

/-- In which order the entries stand makes no difference to where a value is stored. -/
theorem perm_upsert {others : List (κ × ν)}
    (hdistinct : entries.Pairwise fun a b => (a.1 == b.1) = false) (h : entries.Perm others) :
    (upsert key value entries).Perm (upsert key value others) := by
  have hdistinct' : others.Pairwise fun a b => (a.1 == b.1) = false :=
    (h.pairwise_iff fun {a b} hne => by rwa [BEq.comm]).1 hdistinct
  by_cases hthere : ∃ entry ∈ entries, (entry.1 == key) = true
  · obtain ⟨entry, hmem, hkey⟩ := hthere
    rw [upsert_of_mem hdistinct hmem hkey, upsert_of_mem hdistinct' (h.subset hmem) hkey]
    exact h.map _
  · have hfresh : ∀ entry ∈ entries, ¬(entry.1 == key) = true :=
      fun entry hmem hkey => hthere ⟨entry, hmem, hkey⟩
    rw [upsert_of_fresh hfresh, upsert_of_fresh fun entry hmem => hfresh entry (h.symm.subset hmem)]
    exact h.append_right _

end

namespace Table

variable {κ ν : Type} [BEq κ] {table : Table κ ν} {key : κ} {value : ν} {entry : κ × ν}

/-- A table in which values are stored in turn. -/
def ofList (additions : List (κ × ν)) : Table κ ν :=
  additions.foldl (fun table addition => table.insert addition.1 addition.2) .empty

theorem ofList_append_singleton (additions : List (κ × ν)) (addition : κ × ν) :
    ofList (additions ++ [addition]) = (ofList additions).insert addition.1 addition.2 :=
  List.foldl_append ..

theorem fresh_of_contains (h : table.contains key = false) :
    ∀ entry ∈ table.entries, ¬(entry.1 == key) = true := by
  rwa [contains, find?, Option.isSome_eq_false_iff, Option.isNone_iff_eq_none, List.find?_eq_none] at h

theorem entries_insert_of_fresh (h : table.contains key = false) :
    (table.insert key value).entries = table.entries ++ [(key, value)] :=
  upsert_of_fresh (fresh_of_contains h)

theorem keys_insert_of_contains (h : table.contains key = true) :
    (table.insert key value).keys = table.keys := by
  obtain ⟨entry, hfind⟩ := Option.isSome_iff_exists.1 h
  have hkey := List.find?_some hfind
  exact map_fst_upsert_of_mem (List.mem_of_find?_eq_some hfind) hkey

theorem find?_of_mem [EquivBEq κ] (hmem : entry ∈ table.entries) (hkey : (entry.1 == key) = true) :
    table.find? key = some entry := by
  obtain ⟨before, after, hentries⟩ := List.append_of_mem hmem
  have hbefore : ∀ other ∈ before, ¬ (other.1 == key) = true := by
    intro other hother hsame
    have hdistinct := table.distinct
    rw [hentries, List.pairwise_append] at hdistinct
    have hne := hdistinct.2.2 other hother entry List.mem_cons_self
    rw [BEq.trans hsame (BEq.symm hkey)] at hne
    cases hne
  have hhere : (entry :: after).find? (fun other => other.1 == key) = some entry :=
    List.find?_cons_of_pos hkey
  rw [find?, hentries, List.find?_append, List.find?_eq_none.2 hbefore, Option.none_or, hhere]

theorem get?_of_mem [EquivBEq κ] (hmem : entry ∈ table.entries) (hkey : (entry.1 == key) = true) :
    table.get? key = some entry.2 := by
  rw [get?, find?_of_mem hmem hkey, Option.map_some]

theorem exists_entry_of_get? (h : table.get? key = some value) :
    ∃ entry ∈ table.entries, (entry.1 == key) = true ∧ entry.2 = value := by
  unfold get? find? at h
  obtain ⟨entry, hfind, hvalue⟩ := Option.map_eq_some_iff.1 h
  have hkey := List.find?_some hfind
  exact ⟨entry, List.mem_of_find?_eq_some hfind, hkey, hvalue⟩

theorem contains_insert [EquivBEq κ] (table : Table κ ν) (key other : κ) (value : ν) :
    (table.insert key value).contains other = (key == other || table.contains other) := by
  rw [contains_eq, get?_insert, contains_eq]
  cases key == other <;> rfl

theorem contains_congr [EquivBEq κ] (table : Table κ ν) {key other : κ} (h : (key == other) = true) :
    table.contains key = table.contains other := by
  simp only [contains, find?, BEq.congr_right h]

theorem get?_congr [EquivBEq κ] (table : Table κ ν) {key other : κ} (h : (key == other) = true) :
    table.get? key = table.get? other := by
  simp only [get?, find?, BEq.congr_right h]

end Table

end ShapeFlow
