import ShapeFlow.Proofs.Engine.Extension
import ShapeFlow.Proofs.InPlace

/-!
Registries over histories of calls. A refused call leaves the registry as it was, and an accepted one
adds types behind those that are there, so that a type keeps its spelling and its rule from the call
that registers it to the end of every history.
-/

namespace ShapeFlow.Registry

/-- A call on a registry in place. What it has written stays written if it is refused later on. -/
abbrev Call := InPlace EngineError Registry

namespace Call

open InPlace

def register (typeName : String) (rule : Rule) : Call Unit := do
  match (← get).rules.find? ⟨typeName⟩ with
  | some entry => throw (.duplicateType [entry.1.spelling])
  | none => modify fun registry => registry.insert typeName rule

def write : List (String × Rule) → Call Unit
  | [] => return
  | rule :: rest => do
    modify fun registry => registry.insert rule.1 rule.2
    write rest

/-- The rules are written one by one, after all of them have been resolved. -/
def addExtension (extension : Extension) : Call (List String) := do
  let types := extension.distinctTypes
  let conflicts := types.filter (← get).contains
  refuseIf (!conflicts.isEmpty) (.duplicateType conflicts)
  let resolved ← of (extension.resolve types)
  write resolved
  return types

section

variable (registry : Registry)

theorem run_register (typeName : String) (rule : Rule) : (register typeName rule).run registry =
    settle registry (((), ·) <$> registry.register typeName rule) := by
  simp only [register, Registry.register, run_get_bind]
  cases registry.rules.find? ⟨typeName⟩ <;> rfl

theorem run_write (rules : List (String × Rule)) : (write rules).run registry =
    .ok () (rules.foldl (fun registry rule => registry.insert rule.1 rule.2) registry) := by
  induction rules generalizing registry with
  | nil => rfl
  | cons rule rest ih =>
    rw [write, EStateM.run_bind, EStateM.run_modify]
    exact ih _

theorem run_addExtension (extension : Extension) : (addExtension extension).run registry =
    settle registry (registry.addExtension extension).outcome := by
  simp only [addExtension, Registry.addExtension, run_get_bind, run_refuseIf_bind]
  split
  · rfl
  · simp only [run_of_bind, Journal.outcome_bind, Journal.outcome_lift, Journal.outcome_note,
      Journal.outcome_pure]
    cases extension.resolve extension.distinctTypes with
    | error cause => rfl
    | ok resolved =>
      dsimp only
      rw [EStateM.run_bind, run_write]
      rfl

end

end Call

/-- A call that adds to the registry. -/
inductive Edit where
  | register (typeName : String) (rule : Rule)
  | addExtension (extension : Extension)

namespace Edit

def perform : Edit → Call Unit
  | .register typeName rule => Call.register typeName rule
  | .addExtension extension => do
    let _ ← Call.addExtension extension
    return

/-- The registry after the edit, or why the edit is refused. -/
def outcome (registry : Registry) : Edit → Except EngineError Registry
  | .register typeName rule => registry.register typeName rule
  | .addExtension extension => Prod.snd <$> (registry.addExtension extension).outcome

/-- The registry that an edit leaves. -/
def after (registry : Registry) (edit : Edit) : Registry :=
  leftBy (edit.perform.run registry)

section

variable {registry next : Registry} (edit : Edit)

theorem run_perform : edit.perform.run registry = settle registry (((), ·) <$> edit.outcome registry) := by
  cases edit with
  | register typeName rule => exact Call.run_register registry typeName rule
  | addExtension extension =>
    rw [perform, EStateM.run_bind, Call.run_addExtension, outcome]
    cases (registry.addExtension extension).outcome <;> rfl

theorem after_eq : edit.after registry = (edit.outcome registry).toOption.getD registry := by
  rw [after, run_perform, leftBy_settle]

/-- An accepted edit adds behind what is registered. -/
theorem entries_outcome {edit : Edit} (hout : edit.outcome registry = .ok next) :
    registry.rules.entries <+: next.rules.entries := by
  cases edit with
  | register typeName rule =>
    exact entries_of_register hout ▸ List.prefix_append _ _
  | addExtension extension =>
    obtain ⟨⟨types, _⟩, hadd, rfl⟩ := map_eq_ok_iff.1 hout
    obtain ⟨hconflicts, -, -, rfl⟩ := addExtension_eq_ok_iff.1 hadd
    exact entries_extend hconflicts ▸ List.prefix_append _ _

theorem entries_after : registry.rules.entries <+: (edit.after registry).rules.entries := by
  rw [after_eq]
  cases hout : edit.outcome registry with
  | ok next => exact entries_outcome hout
  | error cause => exact List.prefix_rfl

end

end Edit

/-- The registry after a history of edits that starts with the built-in rules or with none; a refused
edit does not end it. -/
def history (builtIns : Bool) (edits : List Edit) : Registry :=
  edits.foldl Edit.after (if builtIns then builtIn else empty)

theorem entries_foldl_after (registry : Registry) (edits : List Edit) :
    registry.rules.entries <+: (edits.foldl Edit.after registry).rules.entries :=
  foldl_invariant (fun _ (state : Registry) => registry.rules.entries <+: state.rules.entries)
    List.prefix_rfl fun _ edit _ _ _ hstate => hstate.trans edit.entries_after

theorem lookup_eq_ok_iff {registry : Registry} {name : String} {rule : Rule} :
    registry.lookup name = .ok rule ↔ registry.get? name = some rule := by
  unfold lookup
  cases registry.get? name <;> simp

/-! ### What holds after any history -/

/-- The laws of a registry, whatever has been done to it. -/
structure Lawful (registry : Registry) : Prop where
  /-- No two registered names are equal without regard to case. -/
  distinct : registry.types.Pairwise fun a b => Caseless.eq a b = false
  /-- A name is looked up like its case variants; a refusal names what was asked for. -/
  lookup_eq : ∀ {name other : String}, Caseless.eq name other = true →
    registry.contains name = registry.contains other ∧ registry.lookup other =
      match registry.lookup name with
      | .ok rule => .ok rule
      | .error _ => .error (.notFound other)
  /-- A call in place ends with the registry and the types that are accepted, or with the refusal. -/
  run_register : ∀ typeName rule, (Call.register typeName rule).run registry =
    settle registry (((), ·) <$> registry.register typeName rule)
  run_addExtension : ∀ extension, (Call.addExtension extension).run registry =
    settle registry (registry.addExtension extension).outcome
  run_edit : ∀ edit : Edit, edit.perform.run registry =
    settle registry (((), ·) <$> edit.outcome registry)
  /-- A refused call leaves the registry as it was. -/
  refused : ∀ {edit : Edit} {cause : EngineError} {left : Registry},
    edit.perform.run registry = .error cause left → left = registry
  /-- An accepted extension returns and adds its types, each in the spelling that comes first and with the
  rule supplied for that spelling, and nothing else. -/
  accepted : ∀ {extension : Extension} {types : List String} {next : Registry},
    (Call.addExtension extension).run registry = .ok types next →
      types = firstSpellings extension.types ∧
      (∃ added, next.rules.entries = registry.rules.entries ++ added ∧
        added.map (fun entry => entry.1.spelling) = types ∧
        ∀ entry ∈ added, extension.rule? entry.1.spelling = some entry.2) ∧
      ∀ name, next.get? name = match types.find? (Caseless.eq · name) with
        | some typeName => extension.rule? typeName
        | none => registry.get? name
  /-- An extension is refused for its types that are registered, or else for the first one that it has
  no rule for. -/
  refused_iff : ∀ {extension : Extension} {cause : EngineError} {left : Registry},
    (Call.addExtension extension).run registry = .error cause left ↔ left = registry ∧
      (((firstSpellings extension.types).filter registry.contains ≠ [] ∧
        cause = .duplicateType ((firstSpellings extension.types).filter registry.contains)) ∨
      ((firstSpellings extension.types).filter registry.contains = [] ∧ ∃ typeName,
        (firstSpellings extension.types).find? (fun name => (extension.rule? name).isNone) =
          some typeName ∧ cause = .implementationNotFound typeName))

theorem pairwise_types (registry : Registry) :
    registry.types.Pairwise fun a b => Caseless.eq a b = false := by
  have hkeys : (registry.rules.keys.map Caseless.Key.spelling).Pairwise
      fun a b => Caseless.eq a b = false := by
    rw [Table.keys, List.map_map, List.pairwise_map]
    exact registry.rules.distinct
  refine ((List.mergeSort_perm _ _).pairwise_iff fun {a b} hne => ?_).2 hkeys
  rwa [Caseless.eq_comm]

theorem lookup_of_eq (registry : Registry) {name other : String}
    (h : Caseless.eq name other = true) :
    registry.lookup other = match registry.lookup name with
      | .ok rule => .ok rule
      | .error _ => .error (.notFound other) := by
  unfold lookup
  rw [registry.get?_congr h]
  cases registry.get? other <;> rfl

/-- A look-up after an extension finds what the extension supplies for the type it lists, if any. -/
theorem get?_extend {registry : Registry} {extension : Extension}
    (hconflicts : registry.conflicts extension = []) (hlacking : extension.lacking? = none)
    (name : String) : (registry.extend extension).get? name =
      match (firstSpellings extension.types).find? (Caseless.eq · name) with
      | some typeName => extension.rule? typeName
      | none => registry.get? name := by
  cases hfind : (firstSpellings extension.types).find? (Caseless.eq · name) with
  | some typeName =>
    have hmem := List.mem_of_find?_eq_some hfind
    have heq : Caseless.eq typeName name = true := by simpa using List.find?_some hfind
    rw [← Extension.map_fst_rules hlacking] at hmem
    obtain ⟨rule, hrule, rfl⟩ := List.mem_map.1 hmem
    rw [get?_extend_of_mem hconflicts hrule heq]
    exact (Extension.mem_rules_iff.1 hrule).2.symm
  | none =>
    rw [List.find?_eq_none] at hfind
    refine get?_extend_of_not_mem fun rule hrule => ?_
    simpa using hfind rule.1 (Extension.mem_rules_iff.1 hrule).1

theorem lawful (registry : Registry) : registry.Lawful where
  distinct := registry.pairwise_types
  lookup_eq := by
    intro name other h
    have hcontains : registry.contains name = registry.contains other :=
      registry.rules.contains_congr h
    exact ⟨hcontains, registry.lookup_of_eq h⟩
  run_register := Call.run_register registry
  run_addExtension := Call.run_addExtension registry
  run_edit := Edit.run_perform
  refused := by
    intro edit cause left hrun
    rw [edit.run_perform, settle_eq_error_iff] at hrun
    exact hrun.2.symm
  accepted := by
    intro extension types next hrun
    rw [Call.run_addExtension, settle_eq_ok_iff, addExtension_eq_ok_iff] at hrun
    obtain ⟨hconflicts, hlacking, rfl, rfl⟩ := hrun
    refine ⟨rfl, ⟨_, entries_extend hconflicts, ?_, fun entry hentry => ?_⟩,
      get?_extend hconflicts hlacking⟩
    · rw [List.map_map]
      exact Extension.map_fst_rules hlacking
    · obtain ⟨rule, hrule, rfl⟩ := List.mem_map.1 hentry
      exact (Extension.mem_rules_iff.1 hrule).2
  refused_iff := by
    intro extension cause left
    rw [Call.run_addExtension, settle_eq_error_iff, and_comm, @eq_comm _ registry, outcome_addExtension]
    refine and_congr_right fun _ => ?_
    change _ ↔ (registry.conflicts extension ≠ [] ∧ _) ∨
      (registry.conflicts extension = [] ∧ ∃ typeName, extension.lacking? = some typeName ∧ _)
    by_cases hconflicts : registry.conflicts extension = []
    · cases hlacking : extension.lacking? with
      | none => simp [hconflicts]
      | some typeName => simp [hconflicts, @eq_comm _ cause]
    · simp only [hconflicts, if_false, ne_eq, not_false_iff, true_and, false_and, or_false,
        Except.error.injEq, @eq_comm _ cause]
      rfl

/-- After every history the registry obeys its laws, and whatever follows changes and removes none of
its types; the next edit is made where the history has left off. -/
theorem history_lawful (builtIns : Bool) (edits : List Edit) :
    (history builtIns edits).Lawful ∧
    (∀ edit : Edit, history builtIns (edits ++ [edit]) =
      leftBy (edit.perform.run (history builtIns edits))) ∧
    ∀ later : List Edit,
      (history builtIns edits).rules.entries <+: (history builtIns (edits ++ later)).rules.entries ∧
      ∀ name rule, (history builtIns edits).lookup name = .ok rule →
        (history builtIns (edits ++ later)).lookup name = .ok rule := by
  refine ⟨(history builtIns edits).lawful, fun edit => List.foldl_append .., fun later => ?_⟩
  have hentries : (history builtIns edits).rules.entries <+:
      (history builtIns (edits ++ later)).rules.entries := by
    rw [history, history, List.foldl_append]
    exact entries_foldl_after _ later
  refine ⟨hentries, fun name rule hlookup => ?_⟩
  rw [lookup_eq_ok_iff] at hlookup ⊢
  exact get?_of_entries hentries hlookup

/-- A type is listed twice, one is registered already, and one has no rule. -/
example : (history false [.addExtension ⟨["Scale", "SCALE", "Crop"], fun _ => some Rule.source⟩,
    .register "crop" Rule.identity, .addExtension ⟨["Tile", "scale"], fun _ => some Rule.source⟩,
    .addExtension ⟨["Tile"], fun _ => none⟩]).rules.keys.map Caseless.Key.spelling =
      ["Scale", "Crop"] := by
  decide +kernel

end ShapeFlow.Registry
