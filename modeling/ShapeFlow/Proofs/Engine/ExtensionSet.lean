import ShapeFlow.Proofs.Engine.RegistryHistory

/-!
Extensions that are filled one rule at a time. Such a set lists its types in the order and in the spelling
of their first insertion and supplies the rule inserted last, for every spelling. So a registry never finds
it without a rule, and once it has accepted it, it has those rules.
-/

namespace ShapeFlow.ExtensionSet

/-- A list of rules by type with one more: the first entry whose type is equal takes the rule and keeps
its spelling; without such an entry the type comes last. -/
def place (rules : List (String × Rule)) (addition : String × Rule) : List (String × Rule) :=
  match rules.findIdx? fun entry => Caseless.eq entry.1 addition.1 with
  | some slot => rules.modify slot fun entry => (entry.1, addition.2)
  | none => rules ++ [addition]

theorem upsert_eq_place (rules : List (String × Rule)) (addition : String × Rule) :
    upsert ⟨addition.1⟩ addition.2 (rules.map Caseless.keyed) =
      (place rules addition).map Caseless.keyed := by
  induction rules with
  | nil => rfl
  | cons entry rest ih =>
    have hkey : ((Caseless.keyed entry).1 == ⟨addition.1⟩) = Caseless.eq entry.1 addition.1 := rfl
    rw [List.map_cons, upsert, hkey, place, List.findIdx?_cons]
    split
    · rfl
    · rw [ih, place]
      cases rest.findIdx? fun entry => Caseless.eq entry.1 addition.1 <;> rfl

/-- The set that has the rules inserted in turn. -/
def ofAdditions (additions : List (String × Rule)) : ExtensionSet :=
  additions.foldl (fun set addition => set.insert addition.1 addition.2) .empty

section

variable (additions : List (String × Rule))

theorem rules_ofAdditions : (ofAdditions additions).rules = .ofAdditions additions := by
  induction additions using List.reverseRecOn with
  | nil => rfl
  | append_singleton before addition ih =>
    rw [Table.ofAdditions_append_singleton, ← ih, ofAdditions, List.foldl_append]
    rfl

theorem entries_ofAdditions_eq_place : (ofAdditions additions).rules.entries =
    (additions.foldl place []).map Caseless.keyed := by
  induction additions using List.reverseRecOn with
  | nil => rfl
  | append_singleton before addition ih =>
    rw [List.foldl_append, List.foldl_cons, List.foldl_nil, ← upsert_eq_place, ← ih, ofAdditions,
      List.foldl_append]
    rfl

theorem types_ofAdditions : (ofAdditions additions).types = firstSpellings (additions.map Prod.fst) := by
  rw [types, rules_ofAdditions, Table.keys_ofAdditions]

/-- A type is inserted in two spellings. -/
example : (ofAdditions [("Scale", Rule.source), ("Crop", Rule.source), ("SCALE", Rule.identity)]).types =
    ["Scale", "Crop"] := by
  decide +kernel

theorem rule?_ofAdditions (name : String) :
    (ofAdditions additions).toExtension.rule? name = latest? additions name := by
  change (ofAdditions additions).rules.get? ⟨name⟩ = _
  rw [rules_ofAdditions, Table.get?_ofAdditions]

end

section

variable {set : ExtensionSet} {typeName name : String} {rule : Rule}

/-- A set has one rule for all spellings of a type that it lists. -/
theorem exists_rule_of_mem_types (h : typeName ∈ set.types) :
    ∃ rule, ∀ name, Caseless.eq typeName name = true → set.toExtension.rule? name = some rule := by
  obtain ⟨key, hkey, rfl⟩ := List.mem_map.1 h
  obtain ⟨entry, hentry, rfl⟩ := List.mem_map.1 hkey
  exact ⟨entry.2, fun name heq => Table.get?_of_mem hentry heq⟩

theorem exists_mem_types_of_rule? (h : set.toExtension.rule? name = some rule) :
    ∃ typeName ∈ set.types, Caseless.eq typeName name = true := by
  obtain ⟨entry, hentry, heq, -⟩ := Table.exists_entry_of_get? h
  exact ⟨_, List.mem_map_of_mem (List.mem_map_of_mem hentry), heq⟩

end

/-! ### Sets in a registry -/

section

variable (set : ExtensionSet) (registry : Registry)

/-- The types of a set are told apart, so that a registry drops none of them. -/
theorem firstSpellings_types : firstSpellings set.toExtension.types = set.types := by
  refine firstSpellings_eq_self ?_
  rw [toExtension, types, Table.keys, List.map_map, List.pairwise_map]
  exact set.rules.distinct

theorem lacking?_toExtension : set.toExtension.lacking? = none := by
  rw [Extension.lacking?, firstSpellings_types, List.find?_eq_none]
  intro typeName htype
  obtain ⟨rule, hrule⟩ := exists_rule_of_mem_types htype
  simp [Extension.lacks, hrule typeName (Caseless.eq_refl typeName)]

theorem conflicts_toExtension :
    registry.conflicts set.toExtension = set.types.filter registry.contains := by
  rw [Registry.conflicts, firstSpellings_types]

/-- A set is refused for types that are registered already and for nothing else. -/
theorem outcome_addExtension : (registry.addExtension set.toExtension).outcome =
    if set.types.filter registry.contains = [] then .ok (set.types, registry.extend set.toExtension)
    else .error (.duplicateType (set.types.filter registry.contains)) := by
  rw [Registry.outcome_addExtension, conflicts_toExtension, firstSpellings_types, lacking?_toExtension]

/-- A look-up after a set is accepted finds the rule of the set, whatever the spelling. -/
theorem lookup_extend (h : set.types.filter registry.contains = []) (name : String) :
    (registry.extend set.toExtension).lookup name =
      match set.toExtension.rule? name with
      | some rule => .ok rule
      | none => registry.lookup name := by
  rw [← conflicts_toExtension] at h
  rw [Registry.lookup, Registry.get?_extend h set.lacking?_toExtension, firstSpellings_types]
  cases hfind : set.types.find? (Caseless.eq · name) with
  | some typeName =>
    obtain ⟨rule, hrule⟩ := exists_rule_of_mem_types (List.mem_of_find?_eq_some hfind)
    have heq : Caseless.eq typeName name = true := by simpa using List.find?_some hfind
    simp only [hrule typeName (Caseless.eq_refl typeName), hrule name heq]
  | none =>
    have hnone : set.toExtension.rule? name = none := by
      refine Option.eq_none_iff_forall_ne_some.2 fun rule hrule => ?_
      obtain ⟨typeName, htype, heq⟩ := exists_mem_types_of_rule? hrule
      exact List.find?_eq_none.1 hfind typeName htype heq
    rw [hnone]
    rfl

end

/-- Whether a registry has one of the types does not depend on the spelling that the set lists. -/
theorem filter_contains_ofAdditions (registry : Registry) (additions : List (String × Rule)) :
    (ofAdditions additions).types.filter registry.contains = [] ↔
      ∀ addition ∈ additions, registry.contains addition.1 = false := by
  rw [types_ofAdditions, List.filter_eq_nil_iff]
  constructor
  · intro h addition hmem
    obtain ⟨typeName, htype, heq⟩ := exists_mem_firstSpellings (List.mem_map_of_mem hmem)
    have hsame : registry.contains typeName = registry.contains addition.1 :=
      registry.rules.contains_congr heq
    rw [← hsame]
    simpa using h typeName htype
  · intro h typeName htype
    obtain ⟨addition, hmem, rfl⟩ := List.mem_map.1 (mem_of_mem_firstSpellings htype)
    simp [h addition hmem]

/-- After every sequence of insertions a set lists the first spelling of each inserted type, in the order
in which the types came, and has for every spelling of a type the rule inserted last. A registry that has
none of the types accepts the set and has these rules from then on; no registry finds a type without a
rule. -/
theorem ofAdditions_supplies (additions : List (String × Rule)) :
    let set := ofAdditions additions
    set.rules.entries = (additions.foldl place []).map Caseless.keyed ∧
    (set.types = firstSpellings (additions.map Prod.fst) ∧
      set.types.Pairwise (fun a b => Caseless.eq a b = false) ∧
      ∀ addition ∈ additions, ∃ typeName ∈ set.types, Caseless.eq typeName addition.1 = true) ∧
    (∀ name rule, set.toExtension.rule? name = some rule ↔
      ∃ before typeName after, additions = before ++ (typeName, rule) :: after ∧
        Caseless.eq typeName name = true ∧ ∀ later ∈ after, Caseless.eq later.1 name = false) ∧
    (∀ name, set.toExtension.rule? name = none ↔
      ∀ addition ∈ additions, Caseless.eq addition.1 name = false) ∧
    ∀ registry : Registry,
      (∀ name, (registry.addExtension set.toExtension).outcome ≠ .error (.implementationNotFound name)) ∧
      ((∃ accepted, (registry.addExtension set.toExtension).outcome = .ok accepted) ↔
        ∀ addition ∈ additions, registry.contains addition.1 = false) ∧
      ∀ types next, (registry.addExtension set.toExtension).outcome = .ok (types, next) →
        types = set.types ∧ ∀ name, next.lookup name =
          match set.toExtension.rule? name with
          | some rule => .ok rule
          | none => registry.lookup name := by
  intro set
  have htypes : set.types = firstSpellings (additions.map Prod.fst) := types_ofAdditions additions
  refine ⟨entries_ofAdditions_eq_place additions, ⟨htypes, ?_, fun addition hmem => ?_⟩,
    fun name rule => ?_, fun name => ?_, fun registry => ⟨fun name => ?_, ?_, fun types next hadd => ?_⟩⟩
  · rw [htypes]
    exact pairwise_firstSpellings _
  · rw [htypes]
    exact exists_mem_firstSpellings (List.mem_map_of_mem hmem)
  · rw [rule?_ofAdditions, latest?_eq_some_iff]
  · rw [rule?_ofAdditions, latest?_eq_none_iff]
  · rw [outcome_addExtension]
    split <;> simp
  · rw [← filter_contains_ofAdditions, outcome_addExtension]
    split
    · next hconflicts => exact iff_of_true ⟨_, rfl⟩ hconflicts
    · next hconflicts => exact iff_of_false (fun ⟨_, haccepted⟩ => nomatch haccepted) hconflicts
  · rw [outcome_addExtension] at hadd
    split at hadd
    · next hconflicts =>
      cases hadd
      exact ⟨rfl, lookup_extend set registry hconflicts⟩
    · cases hadd

end ShapeFlow.ExtensionSet
