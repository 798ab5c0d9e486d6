import ShapeFlow.Proofs.Engine.Consistency

/-!
What a refused run leaves. A refusal before the write-back leaves the network as it is. The write-back
itself is refused at a launcher that has no shape for one of its outputs, which is the case for an
input layer with two outputs of one name; the layers before it have been written by then.
-/

namespace ShapeFlow

/-- An input layer with two outputs of one name, of which only the first one gets a shape. -/
def Launcher.Ambiguous (launcher : Launcher) : Prop :=
  launcher.kind = .input ∧ ¬ launcher.outputNames.Nodup

namespace Reshaper

def AmbiguousAt (reshaper : Reshaper) (name : String) : Prop :=
  ∃ launcher, reshaper.launcher name = .ok launcher ∧ launcher.Ambiguous

/-- The write-back would give the layer other shapes than it has. -/
def Changes (set : LauncherSet) (network : Network) (entry : String × LayerId) : Prop :=
  ∃ launcher layer changed, set.get entry.1 = .ok launcher ∧
    network.layers[entry.2]? = some layer ∧ launcher.applyChanges layer = .ok changed ∧
      changed ≠ layer

/-- All shapes can be computed, but the first layer with an ambiguous launcher comes after one that the
write-back changes. -/
def Torn (reshaper : Reshaper) (network : Network) (overrides : Overrides) : Prop :=
  ∃ before entry after set,
    (reshaper.compute network overrides).outcome = .ok (before ++ entry :: after, set) ∧
      reshaper.AmbiguousAt entry.1 ∧ (∀ other ∈ before, ¬ reshaper.AmbiguousAt other.1) ∧
        ∃ other ∈ before, Changes set network other

section

variable {network other next : Network} {reshaper : Reshaper} {overrides : Overrides}
  {located : List (String × LayerId)} {set : LauncherSet}

/-- The outputs of a layer are complete at the end unless its launcher is ambiguous. -/
theorem Final.exists_outputs_iff {layer : Layer} {launcher final : Launcher} {inputs : List Shape}
    (h : Final overrides set layer launcher final inputs) (hmadeFor : launcher.MadeFor network layer) :
    (∃ shapes, final.outputs = .ok shapes) ↔ ¬ launcher.Ambiguous := by
  have hgives := h.gives
  unfold Launcher.Ambiguous
  rw [hmadeFor.outputNames_eq, ← Layer.Unambiguous]
  cases hkind : launcher.kind with
  | input =>
    rw [hkind] at hgives
    obtain ⟨hcomplete, hincomplete⟩ := hgives
    by_cases hunambiguous : layer.Unambiguous
    · simp [hunambiguous, hcomplete hunambiguous]
    · obtain ⟨cause, hcause⟩ := hincomplete hunambiguous
      simp [hunambiguous, hcause]
  | ordinary rule =>
    rw [hkind] at hgives
    obtain ⟨outputs, -, -, houtputs⟩ := hgives
    simp [houtputs]
  | _ =>
    rw [hkind] at hgives
    simp [hgives]

theorem applyChanges_of_located (hnetwork : network.WellFormed) (hother : other.WellFormed)
    (hmade : reshaper.MadeFor network) (hlocated : Located reshaper other located)
    {seeded : LauncherSet} (hseeded : Seeded reshaper overrides reshaper.inputLayers seeded)
    (hpulled : Pulled seeded reshaper.sortedLayers set) {entry : String × LayerId}
    (hentry : entry ∈ located) :
    ∃ final before, set.get entry.1 = .ok final ∧ other.layers[entry.2]? = some before ∧
      ((∃ changed, final.applyChanges before = .ok changed) ↔ ¬ reshaper.AmbiguousAt entry.1) := by
  obtain ⟨name, id'⟩ := entry
  obtain ⟨id, layer, hlayer, rfl⟩ := hlocated.exists_layer hnetwork hmade hentry
  obtain ⟨before, hbefore, hmatches⟩ :=
    hlocated.matches_of_mem hnetwork hother hmade hlayer hentry
  obtain ⟨launcher, hget⟩ := hmade.launchers.exists_get hlayer
  obtain ⟨final, inputs, hfinal⟩ := exists_final hnetwork hmade hseeded hpulled hlayer hget
  have hmadeFor := hmade.launchers.madeFor_layer hnetwork hlayer hget
  have hambiguous : reshaper.AmbiguousAt layer.name ↔ launcher.Ambiguous := by
    constructor
    · rintro ⟨launcher', hget', h⟩
      rw [Reshaper.launcher, hget] at hget'
      cases hget'
      exact h
    · exact fun h => ⟨launcher, hget, h⟩
  refine ⟨final, before, hfinal.get_eq, hbefore, ?_⟩
  rw [hambiguous, ← hfinal.exists_outputs_iff hmadeFor]
  have hfinalFor := hmadeFor.of_reset hfinal.reset_eq
  have hname : before.name = final.layerName := by
    rw [hfinalFor.layerName_eq, hmatches.name_eq]
  have hcount : before.outputs.length = final.outShapes.length := by
    simpa [hfinalFor.length_outShapes] using congrArg List.length hmatches.names_outputs
  simp only [Launcher.applyChanges_eq_ok_iff]
  cases hkind : final.kind with
  | passThrough =>
    have hgives := hfinal.gives
    rw [← Launcher.kind_of_reset hfinal.reset_eq, hkind] at hgives
    simp [hgives]
  | _ => simp [hname, hcount]

theorem writable_of_located (hnetwork : network.WellFormed) (hother : other.WellFormed)
    (hmade : reshaper.MadeFor network) (hlocated : Located reshaper other located)
    {seeded : LauncherSet} (hseeded : Seeded reshaper overrides reshaper.inputLayers seeded)
    (hpulled : Pulled seeded reshaper.sortedLayers set) {entry : String × LayerId}
    (hentry : entry ∈ located) (hunambiguous : ¬ reshaper.AmbiguousAt entry.1) :
    Writable set other entry := by
  obtain ⟨final, layer, hget, hlayer, hiff⟩ :=
    applyChanges_of_located hnetwork hother hmade hlocated hseeded hpulled hentry
  obtain ⟨changed, hchanged⟩ := hiff.2 hunambiguous
  exact ⟨final, layer, changed, hget, hlayer, hchanged⟩

theorem eq_iff_of_written (hwritten : Written set located other next) :
    next = other ↔ ∀ entry ∈ located, ¬ Changes set other entry := by
  constructor
  · rintro rfl ⟨name, id⟩ hentry ⟨launcher, layer, changed, hget, hlayer, hchanged, hne⟩
    obtain ⟨launcher', changed', hget', hchanged', hafter⟩ := hwritten.written hentry hlayer
    rw [hget] at hget'
    cases hget'
    rw [hchanged] at hchanged'
    cases hchanged'
    rw [hlayer] at hafter
    exact hne (Option.some.inj hafter).symm
  · intro hsame
    refine Network.eq_of_skeleton hwritten.skeleton_eq (List.ext_getElem? fun id => ?_)
    by_cases hid : id ∈ located.map Prod.snd
    · obtain ⟨⟨name, id⟩, hentry, rfl⟩ := List.mem_map.1 hid
      cases hlayer : other.layers[id]? with
      | none =>
        rw [List.getElem?_eq_none_iff] at hlayer ⊢
        rwa [Network.length_layers_of_skeleton hwritten.skeleton_eq]
      | some layer =>
        obtain ⟨launcher, changed, hget, hchanged, hafter⟩ := hwritten.written hentry hlayer
        have heq : changed = layer := by
          by_contra hne
          exact hsame _ hentry ⟨launcher, layer, changed, hget, hlayer, hchanged, hne⟩
        exact hafter.trans (congrArg some heq)
    · exact hwritten.kept hid

theorem writeBack_of_ambiguous (hnetwork : network.WellFormed) (hother : other.WellFormed)
    (hmade : reshaper.MadeFor network) {before after : List (String × LayerId)}
    {entry : String × LayerId}
    (hcompute : (reshaper.compute other overrides).outcome = .ok (before ++ entry :: after, set))
    (hentry : reshaper.AmbiguousAt entry.1)
    (hbefore : ∀ other ∈ before, ¬ reshaper.AmbiguousAt other.1) :
    (∃ cause, (reshaper.run other overrides).journal.outcome = .error cause) ∧
      Written set before other (reshaper.run other overrides).network := by
  obtain ⟨hlocated, seeded, hseeded, hpulled⟩ := pulled_of_compute hnetwork hother hmade hcompute
  have hnodup := hlocated.nodup_ids hnetwork hmade
  have hwritable : ∀ earlier ∈ before, Writable set other earlier := fun earlier hearlier =>
    writable_of_located hnetwork hother hmade hlocated hseeded hpulled
      (List.mem_append_left _ hearlier) (hbefore earlier hearlier)
  obtain ⟨final, layer, hget, hlayer, hiff⟩ := applyChanges_of_located hnetwork hother hmade
    hlocated hseeded hpulled (List.mem_append_right before List.mem_cons_self)
  cases hchanged : final.applyChanges layer with
  | ok changed => exact absurd hentry (hiff.1 ⟨changed, hchanged⟩)
  | error cause =>
    obtain ⟨next, hnext, hwritten⟩ :=
      writeBack_of_error hnodup hwritable hget hlayer hchanged
    have hrun : reshaper.run other overrides =
        ⟨next, (reshaper.compute other overrides).entries, .error cause⟩ := by
      simp [run, hcompute, hnext]
    rw [hrun]
    exact ⟨⟨cause, rfl⟩, hwritten⟩

theorem outcome_run_of_unambiguous (hnetwork : network.WellFormed) (hother : other.WellFormed)
    (hmade : reshaper.MadeFor network)
    (hcompute : (reshaper.compute other overrides).outcome = .ok (located, set))
    (hall : ∀ entry ∈ located, ¬ reshaper.AmbiguousAt entry.1) :
    (reshaper.run other overrides).journal.outcome = .ok () := by
  obtain ⟨hlocated, seeded, hseeded, hpulled⟩ := pulled_of_compute hnetwork hother hmade hcompute
  have hwritable : ∀ entry ∈ located, Writable set other entry := fun entry hentry =>
    writable_of_located hnetwork hother hmade hlocated hseeded hpulled hentry (hall entry hentry)
  obtain ⟨next, hnext, -⟩ := writeBack_of_writable (hlocated.nodup_ids hnetwork hmade) hwritable
  simp [run, hcompute, hnext]

open Classical in
theorem exists_first_ambiguous (reshaper : Reshaper) (located : List (String × LayerId)) :
    (∀ entry ∈ located, ¬ reshaper.AmbiguousAt entry.1) ∨ ∃ before entry after,
      located = before ++ entry :: after ∧ reshaper.AmbiguousAt entry.1 ∧
        ∀ other ∈ before, ¬ reshaper.AmbiguousAt other.1 := by
  cases hfind : located.find? fun entry => decide (reshaper.AmbiguousAt entry.1) with
  | none => exact .inl (by simpa using hfind)
  | some entry =>
    obtain ⟨hentry, before, after, hlocated, hbefore⟩ := List.find?_eq_some_iff_append.1 hfind
    exact .inr ⟨before, entry, after, hlocated, by simpa using hentry, by simpa using hbefore⟩

/-- A refused run leaves the network as it was, unless it is torn. -/
theorem run_atomic_iff (hnetwork : network.Built) (hreshaper : Of network reshaper)
    (hother : other.Built) (overrides : Overrides) :
    ((∃ cause, (reshaper.run other overrides).journal.outcome = .error cause) →
      (reshaper.run other overrides).network = other) ↔ ¬ Torn reshaper other overrides := by
  have hmade := hreshaper.madeFor hnetwork.wellFormed
  constructor
  · rintro hatomic ⟨before, entry, after, set, hcompute, hentry, hbefore, earlier, hearlier, hchanges⟩
    obtain ⟨hrefused, hwritten⟩ := writeBack_of_ambiguous hnetwork.wellFormed hother.wellFormed hmade
      hcompute hentry hbefore
    exact (eq_iff_of_written hwritten).1 (hatomic hrefused) earlier hearlier hchanges
  · intro hnot hrefused
    cases hcompute : (reshaper.compute other overrides).outcome with
    | error cause => simp [run, hcompute]
    | ok result =>
      obtain ⟨located, set⟩ := result
      rcases exists_first_ambiguous reshaper located with
        hnone | ⟨before, entry, after, rfl, hentry, hbefore⟩
      · obtain ⟨cause, hcause⟩ := hrefused
        rw [outcome_run_of_unambiguous hnetwork.wellFormed hother.wellFormed hmade hcompute
          hnone] at hcause
        cases hcause
      · obtain ⟨-, hwritten⟩ := writeBack_of_ambiguous hnetwork.wellFormed hother.wellFormed hmade
          hcompute hentry hbefore
        exact (eq_iff_of_written hwritten).2 fun earlier hearlier hchanges =>
          hnot ⟨before, entry, after, set, hcompute, hentry, hbefore, earlier, hearlier, hchanges⟩

end

theorem sample_run_atomic_iff : ∃ reshaper, Of .sample reshaper ∧
    (((∃ cause, (reshaper.run .sample Network.sampleRequest).journal.outcome = .error cause) →
      (reshaper.run .sample Network.sampleRequest).network = .sample) ↔
        ¬ Torn reshaper .sample Network.sampleRequest) := by
  have hbuilt : (build .sample .builtIn).outcome.toOption.isSome = true := by decide +kernel
  obtain ⟨reshaper, hbuild⟩ := Option.isSome_iff_exists.1 hbuilt
  have hreshaper : Of .sample reshaper := .build (toOption_eq_some_iff.1 hbuild)
  exact ⟨reshaper, hreshaper,
    run_atomic_iff Network.built_sample hreshaper Network.built_sample Network.sampleRequest⟩

/-- Two inputs, the first of them with two outputs of one name. -/
def twins : Network where
  name := "twins"
  layers := [⟨0, "twins", "Input", [], [⟨"x", [1]⟩, ⟨"x", [1]⟩], .empty, .empty, false⟩,
    ⟨1, "single", "Input", [], [⟨"single", [1]⟩], .empty, .empty, false⟩]
  connections := []
  names := (Table.empty.insert "twins" 0).insert "single" 1
  producers := .empty
  consumers := .empty

theorem built_twins : twins.Built := by
  have hfirst : (Network.empty "twins").addLayer
      ⟨0, "twins", "Input", [], [⟨"x", [1]⟩, ⟨"x", [1]⟩], .empty, .empty, false⟩ =
        .ok (0, _) := rfl
  exact @Network.Built.addLayer _ _
    ⟨0, "single", "Input", [], [⟨"single", [1]⟩], .empty, .empty, false⟩ 1
    (.addLayer (.empty "twins") hfirst) rfl

/-- The layer `single` is written before the run is refused at the layer `twins`. -/
theorem twins_run_torn : twins.Built ∧ ∃ reshaper, Of twins reshaper ∧
    (reshaper.run twins (Dictionary.empty.insert "single" [2])).journal.outcome =
        .error (.shapeNotComputed "twins" 1) ∧
      (reshaper.run twins (Dictionary.empty.insert "single" [2])).network ≠ twins := by
  have hrefused : ((build twins .builtIn).outcome.toOption.map fun reshaper =>
      (reshaper.run twins (Dictionary.empty.insert "single" [2])).journal.outcome) =
        some (.error (.shapeNotComputed "twins" 1)) := by
    decide +kernel
  have hwritten : ((build twins .builtIn).outcome.toOption.map fun reshaper =>
      decide ((reshaper.run twins (Dictionary.empty.insert "single" [2])).network = twins)) =
        some false := by
    decide +kernel
  obtain ⟨reshaper, hbuild, hrun⟩ := Option.map_eq_some_iff.1 hrefused
  rw [hbuild, Option.map_some, Option.some.injEq, decide_eq_false_iff_not] at hwritten
  exact ⟨built_twins, reshaper, .build (toOption_eq_some_iff.1 hbuild), hrun, hwritten⟩

end Reshaper

end ShapeFlow
