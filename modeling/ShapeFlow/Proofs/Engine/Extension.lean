import ShapeFlow.Engine.Registry
import ShapeFlow.Proofs.Caseless
import ShapeFlow.Proofs.Outcome

/-!
What an extension adds to a registry: its types, each in the spelling that comes first, behind those
that are registered already. It is refused for the types that are registered, or else for the first
type that has no rule.
-/

namespace ShapeFlow

namespace Extension

variable {extension : Extension} {typeName : String}

/-- Types that are collected in a table come behind those collected before. -/
private theorem keys_collect (types : List String) (seen : Table Caseless.Key Unit) :
    (types.foldl (fun (seen : Table Caseless.Key Unit) typeName =>
        if seen.contains ⟨typeName⟩ then seen else seen.insert ⟨typeName⟩ ()) seen).keys.map
          Caseless.Key.spelling =
      seen.keys.map Caseless.Key.spelling ++
        (firstSpellings types).filter fun typeName => !seen.contains ⟨typeName⟩ := by
  induction types generalizing seen with
  | nil => simp [firstSpellings]
  | cons typeName rest ih =>
    rw [List.foldl_cons, ih]
    by_cases hseen : seen.contains ⟨typeName⟩ = true
    · have hcovered : ∀ other, (!seen.contains ⟨other⟩ && !Caseless.eq typeName other) =
          !seen.contains ⟨other⟩ := by
        intro other
        by_cases heq : Caseless.eq typeName other = true
        · have hkey : ((⟨typeName⟩ : Caseless.Key) == ⟨other⟩) = true := heq
          rw [seen.contains_congr hkey] at hseen
          simp [hseen]
        · simp [heq]
      simp [hseen, firstSpellings, List.filter_filter, hcovered]
    · rw [Bool.not_eq_true] at hseen
      have hcontains : ∀ other, (seen.insert ⟨typeName⟩ ()).contains ⟨other⟩ =
          (Caseless.eq typeName other || seen.contains ⟨other⟩) :=
        fun other => seen.contains_insert ⟨typeName⟩ ⟨other⟩ ()
      simp [hseen, firstSpellings, List.filter_filter, hcontains, Table.keys,
        Table.entries_insert_of_fresh hseen, Bool.and_comm]

theorem distinctTypes_eq (extension : Extension) :
    extension.distinctTypes = firstSpellings extension.types := by
  have hcollect := keys_collect extension.types .empty
  simpa [distinctTypes, Table.keys, Table.empty, Table.contains, Table.find?] using hcollect

def lacks (extension : Extension) (typeName : String) : Bool :=
  (extension.rule? typeName).isNone

/-- The first type without a rule. -/
def lacking? (extension : Extension) : Option String :=
  (firstSpellings extension.types).find? extension.lacks

/-- The types that have a rule, with it. -/
def rules (extension : Extension) : List (String × Rule) :=
  (firstSpellings extension.types).filterMap fun typeName =>
    (extension.rule? typeName).map (typeName, ·)

theorem resolve_eq (extension : Extension) (types : List String) : extension.resolve types =
    match types.find? extension.lacks with
    | some typeName => .error (.implementationNotFound typeName)
    | none => .ok (types.filterMap fun typeName => (extension.rule? typeName).map (typeName, ·)) := by
  induction types with
  | nil => rfl
  | cons typeName rest ih =>
    rw [resolve, List.find?_cons, lacks]
    cases hrule : extension.rule? typeName with
    | none => rfl
    | some rule =>
      dsimp only [Option.isNone_some]
      rw [ih]
      cases rest.find? extension.lacks with
      | some missing => rfl
      | none => simp [hrule]

theorem mem_rules_iff {rule : String × Rule} : rule ∈ extension.rules ↔
    rule.1 ∈ firstSpellings extension.types ∧ extension.rule? rule.1 = some rule.2 := by
  obtain ⟨typeName, found⟩ := rule
  simp only [rules, List.mem_filterMap, Option.map_eq_some_iff, Prod.mk.injEq]
  constructor
  · rintro ⟨other, hmem, rule, hrule, rfl, rfl⟩
    exact ⟨hmem, hrule⟩
  · rintro ⟨hmem, hrule⟩
    exact ⟨typeName, hmem, found, hrule, rfl, rfl⟩

theorem pairwise_rules (extension : Extension) :
    extension.rules.Pairwise fun a b => Caseless.eq a.1 b.1 = false := by
  refine (pairwise_firstSpellings extension.types).filterMap _ fun a b hne rule hrule rule' hrule' => ?_
  obtain ⟨_, -, rfl⟩ := Option.map_eq_some_iff.1 hrule
  obtain ⟨_, -, rfl⟩ := Option.map_eq_some_iff.1 hrule'
  exact hne

/-- An extension that lacks no rule has one for each of its types. -/
theorem map_fst_rules (h : extension.lacking? = none) :
    extension.rules.map Prod.fst = firstSpellings extension.types := by
  rw [lacking?, List.find?_eq_none] at h
  rw [rules]
  generalize firstSpellings extension.types = types at h
  induction types with
  | nil => rfl
  | cons typeName rest ih =>
    obtain ⟨hhead, hrest⟩ := List.forall_mem_cons.1 h
    rw [lacks, Option.isNone_iff_eq_none] at hhead
    obtain ⟨rule, hrule⟩ := Option.ne_none_iff_exists'.1 hhead
    rw [List.filterMap_cons, hrule, Option.map_some, List.map_cons, ih hrest]

end Extension

/-! ### Look-up in a registry -/

namespace Registry

section

variable {registry next : Registry} {typeName other : String} {rule : Rule}

theorem get?_congr (registry : Registry) (h : Caseless.eq typeName other = true) :
    registry.get? typeName = registry.get? other :=
  registry.rules.get?_congr h

theorem get?_insert (registry : Registry) (typeName other : String) (rule : Rule) :
    (registry.insert typeName rule).get? other =
      if Caseless.eq typeName other then some rule else registry.get? other :=
  Table.get?_insert registry.rules ⟨typeName⟩ ⟨other⟩ rule

theorem contains_insert (registry : Registry) (typeName other : String) (rule : Rule) :
    (registry.insert typeName rule).contains other =
      (Caseless.eq typeName other || registry.contains other) :=
  registry.rules.contains_insert ⟨typeName⟩ ⟨other⟩ rule

theorem get?_of_entry {entry : Caseless.Key × Rule} (hmem : entry ∈ registry.rules.entries)
    (heq : Caseless.eq entry.1.spelling other = true) : registry.get? other = some entry.2 :=
  Table.get?_of_mem hmem heq

/-- What is registered stays registered with its rule. -/
theorem get?_of_entries {registry later : Registry}
    (h : registry.rules.entries <+: later.rules.entries) {name : String} {rule : Rule}
    (hget : registry.get? name = some rule) : later.get? name = some rule := by
  obtain ⟨entry, hmem, hname, rfl⟩ := Table.exists_entry_of_get? hget
  exact get?_of_entry (h.subset hmem) hname

/-- A registered type comes last. -/
theorem entries_of_register (h : registry.register typeName rule = .ok next) :
    next.rules.entries = registry.rules.entries ++ [(⟨typeName⟩, rule)] := by
  unfold register at h
  split at h
  · cases h
  · next hfresh =>
    cases h
    refine Table.entries_insert_of_fresh ?_
    rw [Table.contains, hfresh, Option.isSome_none]

end

/-! ### The extended registry -/

variable {registry next : Registry} {extension : Extension} {name : String} {rule : String × Rule}

/-- The types of an extension that are registered already. -/
def conflicts (registry : Registry) (extension : Extension) : List String :=
  (firstSpellings extension.types).filter registry.contains

def extend (registry : Registry) (extension : Extension) : Registry :=
  extension.rules.foldl (fun registry rule => registry.insert rule.1 rule.2) registry

/-- An extension is refused as a whole, or added as a whole. -/
theorem outcome_addExtension (registry : Registry) (extension : Extension) :
    (registry.addExtension extension).outcome =
      if registry.conflicts extension = [] then
        match extension.lacking? with
        | some typeName => .error (.implementationNotFound typeName)
        | none => .ok (firstSpellings extension.types, registry.extend extension)
      else .error (.duplicateType (registry.conflicts extension)) := by
  simp only [addExtension, extension.distinctTypes_eq, extension.resolve_eq]
  change (if !(registry.conflicts extension).isEmpty then _ else _ : Journal _ _).outcome = _
  by_cases hconflicts : registry.conflicts extension = []
  · rw [if_pos hconflicts, if_neg (by simp [hconflicts])]
    simp only [Journal.outcome_bind, Journal.outcome_lift, Journal.outcome_note,
      Journal.outcome_pure, Extension.lacking?]
    cases (firstSpellings extension.types).find? extension.lacks <;> rfl
  · rw [if_neg hconflicts, if_pos (by simpa using hconflicts), Journal.outcome_refuse]
    rfl

theorem addExtension_eq_ok_iff {types : List String} :
    (registry.addExtension extension).outcome = .ok (types, next) ↔
      registry.conflicts extension = [] ∧ extension.lacking? = none ∧
        types = firstSpellings extension.types ∧ next = registry.extend extension := by
  rw [outcome_addExtension]
  by_cases hconflicts : registry.conflicts extension = []
  · rw [if_pos hconflicts]
    cases extension.lacking? with
    | some typeName => simp
    | none => simp [hconflicts, @eq_comm _ types, @eq_comm _ next]
  · simp [hconflicts]

theorem entries_foldl_insert {rules : List (String × Rule)}
    (hdistinct : rules.Pairwise fun a b => Caseless.eq a.1 b.1 = false)
    (hfresh : ∀ rule ∈ rules, registry.contains rule.1 = false) :
    (rules.foldl (fun registry rule => registry.insert rule.1 rule.2) registry).rules.entries =
      registry.rules.entries ++ rules.map fun rule => (⟨rule.1⟩, rule.2) := by
  induction rules generalizing registry with
  | nil => simp
  | cons rule rest ih =>
    obtain ⟨hfirst, hrest⟩ := List.pairwise_cons.1 hdistinct
    obtain ⟨hnew, hothers⟩ := List.forall_mem_cons.1 hfresh
    have hinserted : (registry.insert rule.1 rule.2).rules.entries =
        registry.rules.entries ++ [(⟨rule.1⟩, rule.2)] := Table.entries_insert_of_fresh hnew
    rw [List.foldl_cons, ih hrest, hinserted, List.map_cons, List.append_assoc, List.singleton_append]
    intro other hother
    rw [contains_insert, hfirst other hother, hothers other hother, Bool.or_false]

theorem not_contains_of_conflicts (h : registry.conflicts extension = [])
    (hname : name ∈ firstSpellings extension.types) : registry.contains name = false := by
  rw [conflicts, List.filter_eq_nil_iff] at h
  simpa using h name hname

/-- The types of an extension come behind those that were registered. -/
theorem entries_extend (h : registry.conflicts extension = []) :
    (registry.extend extension).rules.entries =
      registry.rules.entries ++ extension.rules.map fun rule => (⟨rule.1⟩, rule.2) :=
  entries_foldl_insert extension.pairwise_rules fun _ hmem =>
    not_contains_of_conflicts h (Extension.mem_rules_iff.1 hmem).1

theorem get?_extend_of_mem (h : registry.conflicts extension = []) (hmem : rule ∈ extension.rules)
    (heq : Caseless.eq rule.1 name = true) : (registry.extend extension).get? name = some rule.2 := by
  refine @get?_of_entry _ _ (⟨rule.1⟩, rule.2) ?_ heq
  rw [entries_extend h]
  exact List.mem_append_right _ (List.mem_map.2 ⟨rule, hmem, rfl⟩)

theorem get?_extend_of_not_mem (h : ∀ rule ∈ extension.rules, Caseless.eq rule.1 name = false) :
    (registry.extend extension).get? name = registry.get? name := by
  refine foldl_invariant (fun _ (state : Registry) => state.get? name = registry.get? name) rfl ?_
  intro done rule rest state hrules hstate
  rw [get?_insert, h rule (by simp [hrules])]
  exact hstate

end Registry

end ShapeFlow
