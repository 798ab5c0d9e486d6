import ShapeFlow.Proofs.Engine.Extension

/-!
Registries only grow. An accepted registration or extension leaves the rules that were there, so that
a registry that started with the rules of its own still has them.
-/

namespace ShapeFlow.Registry

section

variable {registry next : Registry} {typeName other : String} {rule found : Rule}

theorem get?_of_register (hregister : registry.register typeName rule = .ok next)
    (h : registry.get? other = some found) : next.get? other = some found :=
  get?_of_entries (entries_of_register hregister ▸ List.prefix_append _ _) h

theorem get?_of_addExtension {extension : Extension} {types : List String}
    (hadd : (registry.addExtension extension).outcome = .ok (types, next))
    (h : registry.get? other = some found) : next.get? other = some found := by
  obtain ⟨hconflicts, -, -, rfl⟩ := addExtension_eq_ok_iff.1 hadd
  exact get?_of_entries (entries_extend hconflicts ▸ List.prefix_append _ _) h

/-- The registries that start with the built-in rules. -/
inductive Extended : Registry → Prop
  | builtIn : Extended Registry.builtIn
  | register {registry next : Registry} {typeName : String} {rule : Rule} (h : Extended registry)
      (hregister : registry.register typeName rule = .ok next) : Extended next
  | addExtension {registry next : Registry} {extension : Extension} {types : List String}
      (h : Extended registry)
      (hadd : (registry.addExtension extension).outcome = .ok (types, next)) : Extended next

theorem Extended.get?_eq (h : Extended registry) (hrule : Registry.builtIn.get? other = some found) :
    registry.get? other = some found := by
  induction h with
  | builtIn => exact hrule
  | register _ hregister ih => exact get?_of_register hregister ih
  | addExtension _ hadd ih => exact get?_of_addExtension hadd ih

/-! ### The rules of the start -/

theorem builtIn?_congr (h : Caseless.eq typeName other = true) :
    Rule.builtIn? typeName = Rule.builtIn? other := by
  rw [Caseless.eq, beq_iff_eq] at h
  rw [Rule.builtIn?, Rule.builtIn?, h]

theorem mem_of_builtInOfLower (h : Rule.builtInOfLower typeName = some rule) :
    typeName ∈ Rule.builtInTypes.map Caseless.lower := by
  have hidentity : ∀ name ∈ Rule.identityTypes, name ∈ Rule.builtInTypes.map Caseless.lower := by
    decide
  unfold Rule.builtInOfLower at h
  split at h
  · next hmem => exact hidentity typeName hmem
  · split at h <;> first | decide | cases h

/-- The rules a registry starts with are those of the built-in types, in any spelling. -/
theorem get?_builtIn (typeName : String) : builtIn.get? typeName = Rule.builtIn? typeName := by
  have hstored : builtIn.get? typeName =
      if Rule.builtInTypes.any (Caseless.eq · typeName) then Rule.builtIn? typeName else none := by
    refine foldl_invariant (fun done (registry : Registry) => registry.get? typeName =
      if done.any (Caseless.eq · typeName) then Rule.builtIn? typeName else none) rfl ?_
    intro done name rest registry _ hregistry
    have hsame : Caseless.eq name typeName = true →
        Rule.builtIn? typeName = Rule.builtIn? name := fun heq => (builtIn?_congr heq).symm
    cases hrule : Rule.builtIn? name with
    | none =>
      by_cases heq : Caseless.eq name typeName = true
      · simp [hregistry, heq, hsame heq, hrule]
      · simp [hregistry, heq]
    | some found =>
      by_cases heq : Caseless.eq name typeName = true
      · simp [get?_insert, heq, hsame heq, hrule]
      · simp [get?_insert, hregistry, heq]
  rw [hstored]
  split
  · rfl
  · next hnone =>
    cases hrule : Rule.builtIn? typeName with
    | none => rfl
    | some found =>
      obtain ⟨name, hmem, hname⟩ := List.mem_map.1 (mem_of_builtInOfLower hrule)
      refine absurd (List.any_eq_true.2 ⟨name, hmem, ?_⟩) hnone
      rw [Caseless.eq, hname, beq_self_eq_true]

end

end ShapeFlow.Registry
