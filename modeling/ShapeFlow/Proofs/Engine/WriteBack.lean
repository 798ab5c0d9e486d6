import ShapeFlow.Engine.Reshaper
import ShapeFlow.Proofs.Engine.Launcher
import ShapeFlow.Proofs.Network.WellFormed

/-!
The last phase of a run: the shapes of the launchers are written layer by layer. Writing changes
shapes only, and stops at the first launcher that lacks a shape with the layers before it written.
-/

namespace ShapeFlow.Reshaper

theorem writeLayer_eq_ok_iff {set : LauncherSet} {network next : Network}
    {entry : String × LayerId} : writeLayer set network entry = .ok next ↔
      ∃ launcher layer changed, set.get entry.1 = .ok launcher ∧
        network.layers[entry.2]? = some layer ∧ launcher.applyChanges layer = .ok changed ∧
          next = { network with layers := network.layers.set entry.2 changed } := by
  simp only [writeLayer, bind_eq_ok_iff, EngineError.ofNetwork_eq_ok_iff, Network.layer_eq_ok_iff,
    exists_and_left]
  refine exists_congr fun launcher => and_congr_right fun _ => exists_congr fun layer =>
    and_congr_right fun hget => exists_congr fun changed => and_congr_right fun _ => ?_
  simp only [Network.modifyLayer, Network.layer_eq_ok_iff.2 hget, ok_bind, Except.ok.injEq,
    @eq_comm _ next]

/-- What a completed write-back leaves: the layers listed are as their launchers make them, all
others as they were. -/
structure Written (set : LauncherSet) (entries : List (String × LayerId)) (network next : Network) :
    Prop where
  skeleton_eq : next.skeleton = network.skeleton
  written : ∀ {name : String} {id : LayerId} {layer : Layer}, (name, id) ∈ entries →
    network.layers[id]? = some layer → ∃ launcher changed, set.get name = .ok launcher ∧
      launcher.applyChanges layer = .ok changed ∧ next.layers[id]? = some changed
  kept : ∀ {id : LayerId}, id ∉ entries.map Prod.snd → next.layers[id]? = network.layers[id]?

/-- The launcher of an entry has a shape for every output of the layer. -/
def Writable (set : LauncherSet) (network : Network) (entry : String × LayerId) : Prop :=
  ∃ launcher layer changed, set.get entry.1 = .ok launcher ∧
    network.layers[entry.2]? = some layer ∧ launcher.applyChanges layer = .ok changed

section

variable {set : LauncherSet} {network next : Network} {entry : String × LayerId}
  {entries : List (String × LayerId)}

theorem writable_iff : Writable set network entry ↔ ∃ next, writeLayer set network entry = .ok next := by
  simp only [writeLayer_eq_ok_iff, Writable]
  constructor
  · rintro ⟨launcher, layer, changed, hget, hlayer, hchanged⟩
    exact ⟨_, launcher, layer, changed, hget, hlayer, hchanged, rfl⟩
  · rintro ⟨_, launcher, layer, changed, hget, hlayer, hchanged, -⟩
    exact ⟨launcher, layer, changed, hget, hlayer, hchanged⟩

theorem Written.nil : Written set [] network network where
  skeleton_eq := rfl
  written := by simp
  kept := by simp

theorem skeleton_writeLayer (h : writeLayer set network entry = .ok next) :
    next.skeleton = network.skeleton := by
  obtain ⟨launcher, layer, changed, -, hlayer, hchanged, rfl⟩ := writeLayer_eq_ok_iff.1 h
  have hmodify : network.modifyLayer entry.2 (fun _ => changed) =
      .ok { network with layers := network.layers.set entry.2 changed } := by
    simp [Network.modifyLayer, Network.layer_eq_ok_iff.2 hlayer]
  refine Network.skeleton_modifyLayer ?_ hmodify
  intro old hold
  rw [hlayer] at hold
  cases hold
  exact Launcher.skeleton_of_applyChanges hchanged

theorem Written.cons {middle : Network} (hfresh : entry.2 ∉ entries.map Prod.snd)
    (hfirst : writeLayer set network entry = .ok middle) (hrest : Written set entries middle next) :
    Written set (entry :: entries) network next := by
  have hskeleton := skeleton_writeLayer hfirst
  obtain ⟨launcher, layer, changed, hget, hlayer, hchanged, rfl⟩ := writeLayer_eq_ok_iff.1 hfirst
  obtain ⟨hlt, -⟩ := List.getElem?_eq_some_iff.1 hlayer
  refine ⟨hrest.skeleton_eq.trans hskeleton, ?_, ?_⟩
  · intro name id old hmem hold
    rcases List.mem_cons.1 hmem with heq | hmem
    · subst heq
      rw [hlayer] at hold
      cases hold
      refine ⟨launcher, changed, hget, hchanged, ?_⟩
      rw [hrest.kept hfresh, List.getElem?_set_self hlt]
    · have hne : entry.2 ≠ id := by
        rintro rfl
        exact hfresh (List.mem_map.2 ⟨_, hmem, rfl⟩)
      exact hrest.written hmem (by rwa [List.getElem?_set_ne hne])
  · intro id hid
    simp only [List.map_cons, List.mem_cons, not_or] at hid
    rw [hrest.kept hid.2, List.getElem?_set_ne (Ne.symm hid.1)]

/-- Writing a layer does not disturb what can be written to the others. -/
theorem writable_of_writeLayer {other : String × LayerId} (hne : other.2 ≠ entry.2)
    (hfirst : writeLayer set network entry = .ok next) :
    Writable set next other ↔ Writable set network other := by
  obtain ⟨launcher, layer, changed, -, -, -, rfl⟩ := writeLayer_eq_ok_iff.1 hfirst
  simp only [Writable, List.getElem?_set_ne (Ne.symm hne)]

theorem writeBack_cons_of_ok {middle : Network} {rest : List (String × LayerId)}
    (hfirst : writeLayer set network entry = .ok middle) :
    writeBack set network (entry :: rest) = writeBack set middle rest := by
  simp only [writeBack, hfirst]

theorem written_of_writeBack (hnodup : (entries.map Prod.snd).Nodup)
    (h : writeBack set network entries = (next, .ok ())) : Written set entries network next := by
  induction entries generalizing network with
  | nil =>
    cases h
    exact .nil
  | cons entry rest ih =>
    obtain ⟨hfresh, hnodup⟩ := List.nodup_cons.1 hnodup
    unfold writeBack at h
    split at h
    · next middle hmiddle => exact .cons hfresh hmiddle (ih hnodup h)
    · cases h

theorem writeBack_of_writable (hnodup : (entries.map Prod.snd).Nodup)
    (hall : ∀ entry ∈ entries, Writable set network entry) :
    ∃ next, writeBack set network entries = (next, .ok ()) ∧ Written set entries network next := by
  induction entries generalizing network with
  | nil => exact ⟨network, rfl, .nil⟩
  | cons entry rest ih =>
    obtain ⟨hfresh, hnodup⟩ := List.nodup_cons.1 hnodup
    obtain ⟨middle, hmiddle⟩ := writable_iff.1 (hall entry (by simp))
    have hrest : ∀ other ∈ rest, Writable set middle other := by
      intro other hother
      have hne : other.2 ≠ entry.2 := fun heq => hfresh (heq ▸ List.mem_map_of_mem hother)
      exact (writable_of_writeLayer hne hmiddle).2 (hall other (List.mem_cons_of_mem _ hother))
    obtain ⟨next, hnext, hwritten⟩ := ih hnodup hrest
    exact ⟨next, by rw [writeBack_cons_of_ok hmiddle, hnext], .cons hfresh hmiddle hwritten⟩

/-- The first launcher that lacks a shape stops the writing, and the layers before it are written. -/
theorem writeBack_of_error {before after : List (String × LayerId)} {launcher : Launcher}
    {layer : Layer} {cause : EngineError}
    (hnodup : ((before ++ entry :: after).map Prod.snd).Nodup)
    (hall : ∀ other ∈ before, Writable set network other) (hget : set.get entry.1 = .ok launcher)
    (hlayer : network.layers[entry.2]? = some layer)
    (hcause : launcher.applyChanges layer = .error cause) :
    ∃ next, writeBack set network (before ++ entry :: after) = (next, .error cause) ∧
      Written set before network next := by
  induction before generalizing network with
  | nil =>
    refine ⟨network, ?_, .nil⟩
    have hwrite : writeLayer set network entry = .error cause := by
      simp [writeLayer, hget, Network.layer_eq_ok_iff.2 hlayer, EngineError.ofNetwork, hcause]
    rw [List.nil_append, writeBack, hwrite]
  | cons first rest ih =>
    obtain ⟨hfresh, hnodup⟩ := List.nodup_cons.1 hnodup
    obtain ⟨middle, hmiddle⟩ := writable_iff.1 (hall first (by simp))
    have hne : ∀ other ∈ rest ++ entry :: after, other.2 ≠ first.2 := fun other hother heq =>
      hfresh (heq ▸ List.mem_map_of_mem hother)
    have hrest : ∀ other ∈ rest, Writable set middle other := fun other hother =>
      (writable_of_writeLayer (hne other (by simp [hother])) hmiddle).2 (hall other (by simp [hother]))
    have hkept : middle.layers[entry.2]? = some layer := by
      obtain ⟨_, _, _, -, -, -, rfl⟩ := writeLayer_eq_ok_iff.1 hmiddle
      rwa [List.getElem?_set_ne (Ne.symm (hne entry (by simp)))]
    obtain ⟨next, hnext, hwritten⟩ := ih hnodup hrest hkept
    have hrestFresh : first.2 ∉ rest.map Prod.snd := fun hmem => hfresh (by simp_all)
    exact ⟨next, by rw [List.cons_append, writeBack_cons_of_ok hmiddle, hnext],
      .cons hrestFresh hmiddle hwritten⟩

/-- Whatever is written, and wherever the writing stops, only shapes change. -/
theorem skeleton_writeBack (set : LauncherSet) (network : Network)
    (entries : List (String × LayerId)) :
    (writeBack set network entries).1.skeleton = network.skeleton := by
  induction entries generalizing network with
  | nil => rfl
  | cons entry rest ih =>
    unfold writeBack
    split
    · next written hwrite => exact (ih written).trans (skeleton_writeLayer hwrite)
    · rfl

theorem getElem?_writeBack {id : LayerId} (hid : id ∉ entries.map Prod.snd) :
    (writeBack set network entries).1.layers[id]? = network.layers[id]? := by
  induction entries generalizing network with
  | nil => rfl
  | cons entry rest ih =>
    rw [List.map_cons, List.mem_cons, not_or] at hid
    unfold writeBack
    split
    · next written hwrite =>
      obtain ⟨_, _, _, -, -, -, rfl⟩ := writeLayer_eq_ok_iff.1 hwrite
      rw [ih hid.2, List.getElem?_set_ne (Ne.symm hid.1)]
    · rfl

theorem skeleton_run (reshaper : Reshaper) (network : Network) (overrides : Overrides) :
    (reshaper.run network overrides).network.skeleton = network.skeleton := by
  unfold run
  dsimp only
  split
  · rfl
  · exact skeleton_writeBack _ _ _

end

end ShapeFlow.Reshaper
