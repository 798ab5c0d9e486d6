import ShapeFlow.Proofs.Engine.LauncherHistory

/-!
Sets of launchers over histories of calls. A layer keeps the slot that it is given with its first launcher.
A reshape reads the launchers of its sources and writes the slot of its own layer only, so that a launcher
is what the calls for its own layer have made of it; a refused reshape writes nothing.
-/

namespace ShapeFlow

/-! ### Calls in place -/

/-- The launcher of a layer, with its slot looked up by position. -/
def LauncherSet.launcherAt (set : LauncherSet) (layerName : String) :
    Except (Fault EngineError) Launcher :=
  match set.index.get? layerName with
  | some slot => itemAt set.launchers slot
  | none => .error (.refused (.launcherNotFound layerName))

/-- The shapes at the inputs of a launcher, with all slots looked up by position. -/
def Launcher.inputShapesAt (launcher : Launcher) (set : LauncherSet) :
    Except (Fault EngineError) (List Shape) :=
  (launcher.sources.zip launcher.declaredInputs).mapM fun pair =>
    match pair.1 with
    | none => .ok pair.2
    | some source => do (← set.launcherAt source.layer).shapeAt source.port

namespace LauncherSet

def gather (set : LauncherSet) (layerName : String) : Except (Fault EngineError) (List Shape) := do
  (← set.launcherAt layerName).inputShapesAt set

/-- A call on a set of launchers in place. What it has written stays written if it is refused later on. -/
abbrev Call := InPlace (Fault EngineError) LauncherSet

namespace Call

open InPlace

def store (slot : Nat) (launcher : Launcher) : Call Unit :=
  modify fun set => { set with launchers := set.launchers.set slot launcher }

/-- A new name is given the next slot before the launcher is put there. -/
def insert (launcher : Launcher) : Call Unit := do
  match (← MonadState.get).index.get? launcher.layerName with
  | some slot =>
    let _ ← of (itemAt (← MonadState.get).launchers slot)
    store slot launcher
  | none =>
    modify fun set => { set with index := set.index.insert launcher.layerName set.launchers.length }
    modify fun set => { set with launchers := set.launchers ++ [launcher] }

/-- A call on a launcher in its slot. What it has written to the launcher stays in the set if it is
refused. -/
def inSlot (slot : Nat) (launcher : Launcher) (call : Launcher.Call Unit) : Call Unit :=
  match call.run launcher with
  | .ok _ next => store slot next
  | .error fault left => do
    store slot left
    throw fault

def reshape (layerName : String) : Call Unit := do
  let inputs ← of ((← MonadState.get).gather layerName)
  match (← MonadState.get).index.get? layerName with
  | none => throw (.refused (.launcherNotFound layerName))
  | some slot =>
    let launcher ← of (itemAt (← MonadState.get).launchers slot)
    inSlot slot launcher (Launcher.Call.reshape inputs)

end Call

/-! ### Names and slots -/

/-- The names of the layers in the order of their slots. -/
def names (set : LauncherSet) : List String :=
  set.launchers.map Launcher.layerName

section

variable {set : LauncherSet} {name : String} {slot : Nat} {launcher : Launcher}

theorem insert_of_index (h : set.index.get? launcher.layerName = some slot) :
    set.insert launcher = { set with launchers := set.launchers.set slot launcher } := by
  rw [insert, h]

/-- Storing a launcher again that is there changes nothing. -/
theorem insert_self (h : set.get launcher.layerName = .ok launcher) : set.insert launcher = set := by
  obtain ⟨slot, hslot, hlauncher⟩ := get_eq_ok_iff.1 h
  obtain ⟨hlt, rfl⟩ := List.getElem?_eq_some_iff.1 hlauncher
  rw [insert_of_index hslot, List.set_getElem_self]

theorem mem_of_get (h : set.get name = .ok launcher) : launcher ∈ set.launchers := by
  obtain ⟨slot, -, hlauncher⟩ := get_eq_ok_iff.1 h
  exact List.mem_of_getElem? hlauncher

theorem mem_insert {other : Launcher} (h : other ∈ (set.insert launcher).launchers) :
    other = launcher ∨ other ∈ set.launchers := by
  unfold insert at h
  split at h
  · exact (List.mem_or_eq_of_mem_set h).symm
  · rcases List.mem_append.1 h with hold | hnew
    · exact .inr hold
    · exact .inl (List.mem_singleton.1 hnew)

namespace WellFormed

theorem getElem?_names (h : set.WellFormed) :
    set.names[slot]? = some name ↔ set.index.get? name = some slot := by
  rw [h.index_iff, names, List.getElem?_map, Option.map_eq_some_iff]

theorem nodup_names (h : set.WellFormed) : set.names.Nodup := by
  rw [List.nodup_iff_getElem?_ne_getElem?]
  intro slot other hlt hother hsame
  have hslot : set.index.get? set.names[other] = some other :=
    h.getElem?_names.1 (List.getElem?_eq_getElem hother)
  have hslot' : set.index.get? set.names[other] = some slot := by
    rw [← h.getElem?_names, hsame, List.getElem?_eq_getElem hother]
  rw [hslot, Option.some.injEq] at hslot'
  omega

theorem index_eq_none_iff (h : set.WellFormed) : set.index.get? name = none ↔ name ∉ set.names := by
  simp only [Option.eq_none_iff_forall_ne_some, List.mem_iff_getElem?, h.getElem?_names, ne_eq,
    not_exists]

theorem exists_get (h : set.WellFormed) (hindex : set.index.get? name = some slot) :
    ∃ launcher, set.launchers[slot]? = some launcher ∧ set.get name = .ok launcher := by
  obtain ⟨launcher, hlauncher, -⟩ := h.index_iff.1 hindex
  exact ⟨launcher, hlauncher, get_eq_ok_iff.2 ⟨slot, hindex, hlauncher⟩⟩

theorem get_eq_error_iff (h : set.WellFormed) {cause : EngineError} :
    set.get name = .error cause ↔ name ∉ set.names ∧ cause = .launcherNotFound name := by
  rw [← h.index_eq_none_iff]
  cases hindex : set.index.get? name with
  | none => simp [get, hindex, eq_comm]
  | some slot =>
    obtain ⟨launcher, -, hget⟩ := h.exists_get hindex
    simp [hget]

/-- No name leads to a slot beyond the launchers. -/
theorem launcherAt_eq (h : set.WellFormed) (name : String) :
    set.launcherAt name = (set.get name).mapError .refused := by
  unfold launcherAt
  cases hindex : set.index.get? name with
  | none => simp [get, hindex, Except.mapError]
  | some slot =>
    obtain ⟨launcher, hlauncher, hget⟩ := h.exists_get hindex
    rw [hget]
    exact itemAt_eq_ok hlauncher

theorem mem_names (h : set.WellFormed) (hget : set.get name = .ok launcher) : name ∈ set.names :=
  h.layerName_eq hget ▸ List.mem_map_of_mem (mem_of_get hget)

theorem names_insert (h : set.WellFormed) (launcher : Launcher) : (set.insert launcher).names =
    if launcher.layerName ∈ set.names then set.names else set.names ++ [launcher.layerName] := by
  cases hindex : set.index.get? launcher.layerName with
  | some slot =>
    have hname := h.getElem?_names.2 hindex
    obtain ⟨hlt, heq⟩ := List.getElem?_eq_some_iff.1 hname
    rw [if_pos (List.mem_of_getElem? hname), insert_of_index hindex, names, List.map_set, ← names]
    rw [← heq, List.set_getElem_self]
  | none =>
    rw [if_neg (h.index_eq_none_iff.1 hindex), LauncherSet.insert, hindex, names, List.map_append]
    rfl

/-- A layer keeps its slot. -/
theorem index_insert (h : set.WellFormed) (launcher : Launcher)
    (hindex : set.index.get? name = some slot) :
    (set.insert launcher).index.get? name = some slot := by
  rw [← h.getElem?_names] at hindex
  rw [← (h.insert launcher).getElem?_names, h.names_insert]
  split
  · exact hindex
  · rw [List.getElem?_append_left (List.getElem?_eq_some_iff.1 hindex).1, hindex]

end WellFormed

end

/-! ### Calls stay in range -/

section

variable {set : LauncherSet}

theorem exists_get_of_gather (h : set.WellFormed) {name : String} {inputs : List Shape}
    (hgather : set.gather name = .ok inputs) :
    ∃ slot launcher, set.index.get? name = some slot ∧ set.launchers[slot]? = some launcher ∧
      set.get name = .ok launcher := by
  obtain ⟨launcher, hlauncher, -⟩ := bind_eq_ok_iff.1 hgather
  unfold launcherAt at hlauncher
  split at hlauncher
  · next slot hindex =>
    obtain ⟨launcher, hslot, hget⟩ := h.exists_get hindex
    exact ⟨slot, launcher, hindex, hslot, hget⟩
  · cases hlauncher

namespace Call

open InPlace

theorem run_insert (h : set.WellFormed) (launcher : Launcher) :
    (insert launcher).run set = .ok () (set.insert launcher) := by
  simp only [insert, LauncherSet.insert, run_get_bind]
  cases hindex : set.index.get? launcher.layerName with
  | some slot =>
    obtain ⟨old, hold, -⟩ := h.exists_get hindex
    dsimp only
    rw [run_get_bind, run_itemAt_bind _ (List.getElem?_eq_some_iff.1 hold).1]
    rfl
  | none => rfl

/-- A call that leaves a refused launcher as it was leaves the set as it was. -/
theorem run_inSlot {slot : Nat} {launcher : Launcher} (hslot : set.launchers[slot]? = some launcher)
    {call : Launcher.Call Unit} {outcome : Except EngineError Launcher}
    (hcall : call.run launcher = ending launcher outcome) :
    (inSlot slot launcher call).run set = ending set
      ((fun next => { set with launchers := set.launchers.set slot next }) <$> outcome) := by
  rw [inSlot, hcall]
  cases outcome with
  | ok next => rfl
  | error cause =>
    obtain ⟨hlt, rfl⟩ := List.getElem?_eq_some_iff.1 hslot
    have hstored : set.launchers.set slot set.launchers[slot] = set.launchers := List.set_getElem_self hlt
    change EStateM.Result.error _ { set with launchers := set.launchers.set slot _ } = _
    rw [hstored]
    rfl

/-- Once the inputs are gathered the launcher of the layer is there. -/
theorem run_reshape (h : set.WellFormed) (name : String) : (reshape name).run set =
    match set.gather name with
    | .error fault => .error fault set
    | .ok inputs =>
      ending set (set.get name >>= fun launcher => set.insert <$> launcher.reshape inputs) := by
  simp only [reshape, run_get_bind, run_of_bind]
  cases hgather : set.gather name with
  | error fault => rfl
  | ok inputs =>
    obtain ⟨slot, launcher, hindex, hslot, hget⟩ := exists_get_of_gather h hgather
    obtain ⟨hlt, hlauncher⟩ := List.getElem?_eq_some_iff.1 hslot
    simp only [hindex, run_get_bind, run_itemAt_bind _ hlt, hlauncher, hget, ok_bind]
    rw [run_inSlot hslot (Launcher.Call.run_reshape launcher inputs)]
    cases hreshape : launcher.reshape inputs with
    | error cause => rfl
    | ok next =>
      have hname : next.layerName = name :=
        (Launcher.layerName_of_reshape hreshape).trans (h.layerName_eq hget)
      rw [map_ok, map_ok, insert_of_index (hname ▸ hindex)]

end Call

/-- All launchers of the set have a slot for every declared output. -/
def Slotted (set : LauncherSet) : Prop :=
  ∀ launcher ∈ set.launchers, launcher.Slotted

namespace Slotted

theorem launcher (hslotted : set.Slotted) {name : String} {launcher : Launcher}
    (hget : set.get name = .ok launcher) : launcher.Slotted :=
  hslotted launcher (mem_of_get hget)

theorem insert (hslotted : set.Slotted) {launcher : Launcher} (h : launcher.Slotted) :
    (set.insert launcher).Slotted := by
  intro other hother
  rcases mem_insert hother with rfl | hother
  · exact h
  · exact hslotted other hother

theorem inputShapesAt_eq (hslotted : set.Slotted) (h : set.WellFormed) (launcher : Launcher) :
    launcher.inputShapesAt set = (launcher.inputShapes set).mapError .refused := by
  rw [Launcher.inputShapesAt, Launcher.inputShapes, ← mapM_mapError]
  refine mapM_congr fun pair _ => ?_
  cases pair.1 with
  | none => rfl
  | some source =>
    dsimp only
    rw [h.launcherAt_eq]
    cases hget : set.get source.layer with
    | error cause => rfl
    | ok feeding => exact Launcher.shapeAt_eq (hslotted.launcher hget) source.port

theorem gather_eq (hslotted : set.Slotted) (h : set.WellFormed) (name : String) :
    set.gather name = (set.get name >>= (·.inputShapes set)).mapError .refused := by
  rw [gather, h.launcherAt_eq]
  cases set.get name with
  | error cause => rfl
  | ok launcher => exact hslotted.inputShapesAt_eq h launcher

theorem run_reshape (hslotted : set.Slotted) (h : set.WellFormed) (name : String) :
    (Call.reshape name).run set = InPlace.ending set (set.reshape name) := by
  rw [Call.run_reshape h, hslotted.gather_eq h, LauncherSet.reshape]
  cases set.get name with
  | error cause => rfl
  | ok launcher =>
    simp only [ok_bind]
    cases launcher.inputShapes set with
    | error cause => rfl
    | ok inputs => cases launcher.reshape inputs <;> rfl

end Slotted

end

end LauncherSet

/-! ### A launcher that is reshaped -/

namespace Launcher

theorem after_reshape (launcher : Launcher) (inputs : List Shape) :
    (Use.reshape inputs).after launcher = (launcher.reshape inputs).toOption.getD launcher := by
  rw [Use.after, Use.perform, Call.run_reshape]
  cases launcher.reshape inputs <;> rfl

theorem layerName_after_reshape (launcher : Launcher) (inputs : List Shape) :
    ((Use.reshape inputs).after launcher).layerName = launcher.layerName := by
  rw [after_reshape]
  cases hreshape : launcher.reshape inputs with
  | ok next => exact layerName_of_reshape hreshape
  | error cause => rfl

theorem Slotted.after_reshape {launcher : Launcher} (h : launcher.Slotted) (inputs : List Shape) :
    ((Use.reshape inputs).after launcher).Slotted := by
  rw [Launcher.after_reshape]
  cases hreshape : launcher.reshape inputs with
  | error cause => exact h
  | ok next =>
    obtain ⟨-, -, -, -, -, -, hnames, -, hdeclared, hslots⟩ :=
      reset_eq_iff.1 (reset_of_reshape h.length_outShapes hreshape)
    change next.Slotted
    refine ⟨?_, ?_⟩
    · rw [hslots, hdeclared, h.length_outShapes]
    · rw [hdeclared, hnames, h.length_declaredOutputs]

end Launcher

/-! ### Histories -/

namespace LauncherSet

/-- A call that changes a set of launchers. -/
inductive Use where
  | insert (launcher : Launcher)
  | reshape (layerName : String)

namespace Use

def perform : Use → Call Unit
  | .insert launcher => Call.insert launcher
  | .reshape layerName => Call.reshape layerName

/-- The set after the use, or why the use is refused. -/
def outcome (set : LauncherSet) : Use → Except EngineError LauncherSet
  | .insert launcher => .ok (set.insert launcher)
  | .reshape layerName => set.reshape layerName

/-- The set that a use leaves. -/
def after (set : LauncherSet) (use : Use) : LauncherSet :=
  leftBy (use.perform.run set)

def inserted? : Use → Option String
  | .insert launcher => some launcher.layerName
  | .reshape _ => none

/-- The inputs that a use hands to the launcher of a layer. -/
def handed? (name : String) (set : LauncherSet) : Use → Option (List Shape)
  | .insert _ => none
  | .reshape layerName => if layerName = name then (set.gather name).toOption else none

end Use

/-- The set after a history of uses that starts without launchers; a refused use does not end it. -/
def history (uses : List Use) : LauncherSet :=
  uses.foldl Use.after .empty

/-- The names that are inserted in a history, as often as they are. -/
def inserted (uses : List Use) : List String :=
  uses.filterMap Use.inserted?

/-- The inputs that the launcher of a layer is handed in a history. -/
def handed (name : String) (set : LauncherSet) : List Use → List (List Shape)
  | [] => []
  | use :: rest => (use.handed? name set).toList ++ handed name (use.after set) rest

section

variable {set : LauncherSet}

namespace Use

/-- Only a reshape is refused, and the set is then as it was. -/
theorem run_eq_error (h : set.WellFormed) {use : Use} {fault : Fault EngineError} {left : LauncherSet}
    (hrun : use.perform.run set = .error fault left) : left = set ∧ ∃ name, use = .reshape name := by
  cases use with
  | insert launcher =>
    rw [perform, Call.run_insert h] at hrun
    cases hrun
  | reshape name =>
    refine ⟨?_, name, rfl⟩
    rw [perform, Call.run_reshape h] at hrun
    split at hrun
    · cases hrun
      rfl
    · exact (InPlace.ending_eq_error_iff.1 hrun).1

theorem run_perform (hslotted : set.Slotted) (h : set.WellFormed) (use : Use) :
    use.perform.run set = InPlace.ending set (use.outcome set) := by
  cases use with
  | insert launcher => exact Call.run_insert h launcher
  | reshape name => exact hslotted.run_reshape h name

theorem after_insert (h : set.WellFormed) (launcher : Launcher) :
    (Use.insert launcher).after set = set.insert launcher := by
  rw [after, perform, Call.run_insert h]
  rfl

/-- What a reshape leaves is the set with the launcher of the layer as its own reshape leaves it. -/
theorem after_reshape (h : set.WellFormed) {name : String} {launcher : Launcher} {inputs : List Shape}
    (hget : set.get name = .ok launcher) (hgather : set.gather name = .ok inputs) :
    (Use.reshape name).after set = set.insert ((Launcher.Use.reshape inputs).after launcher) := by
  rw [after, perform, Call.run_reshape h, hgather, hget, Launcher.Use.after, Launcher.Use.perform,
    Launcher.Call.run_reshape]
  simp only [ok_bind]
  cases launcher.reshape inputs with
  | ok next => rfl
  | error cause => exact (insert_self (h.layerName_eq hget ▸ hget)).symm

theorem after_reshape_of_error (h : set.WellFormed) {name : String} {fault : Fault EngineError}
    (hgather : set.gather name = .error fault) : (Use.reshape name).after set = set := by
  rw [after, perform, Call.run_reshape h, hgather]
  rfl

/-- A use stores a launcher, or the launcher of a layer as a reshape leaves it, or nothing. -/
theorem after_cases (h : set.WellFormed) (use : Use) :
    (∃ launcher, use = .insert launcher ∧ use.after set = set.insert launcher) ∨
    (∃ name launcher inputs, use = .reshape name ∧ set.get name = .ok launcher ∧
      set.gather name = .ok inputs ∧
      use.after set = set.insert ((Launcher.Use.reshape inputs).after launcher)) ∨
    ∃ name fault, use = .reshape name ∧ set.gather name = .error fault ∧ use.after set = set := by
  cases use with
  | insert launcher => exact .inl ⟨launcher, rfl, after_insert h launcher⟩
  | reshape name =>
    cases hgather : set.gather name with
    | ok inputs =>
      obtain ⟨-, launcher, -, -, hget⟩ := exists_get_of_gather h hgather
      exact .inr (.inl ⟨name, launcher, inputs, rfl, hget, hgather, after_reshape h hget hgather⟩)
    | error fault => exact .inr (.inr ⟨name, fault, rfl, hgather, after_reshape_of_error h hgather⟩)

/-- What every insertion keeps is kept by every use. -/
theorem after_of_insert {P : LauncherSet → Prop} (h : set.WellFormed) (use : Use) (hset : P set)
    (hinsert : ∀ launcher, P (set.insert launcher)) : P (use.after set) := by
  rcases after_cases h use with
    ⟨launcher, -, hafter⟩ | ⟨_, launcher, inputs, -, -, -, hafter⟩ | ⟨_, _, -, -, hafter⟩
  · rw [hafter]
    exact hinsert launcher
  · rw [hafter]
    exact hinsert _
  · rw [hafter]
    exact hset

theorem wellFormed_after (h : set.WellFormed) (use : Use) : (use.after set).WellFormed :=
  after_of_insert h use h h.insert

theorem index_after (h : set.WellFormed) (use : Use) {name : String} {slot : Nat}
    (hindex : set.index.get? name = some slot) : (use.after set).index.get? name = some slot :=
  after_of_insert (P := fun set => set.index.get? name = some slot) h use hindex
    fun launcher => h.index_insert launcher hindex

theorem slotted_after (hslotted : set.Slotted) (h : set.WellFormed) {use : Use}
    (hinserted : ∀ launcher, use = .insert launcher → launcher.Slotted) : (use.after set).Slotted := by
  rcases after_cases h use with
    ⟨launcher, huse, hafter⟩ | ⟨_, launcher, inputs, -, hget, -, hafter⟩ | ⟨_, _, -, -, hafter⟩
  · rw [hafter]
    exact hslotted.insert (hinserted launcher huse)
  · rw [hafter]
    exact hslotted.insert ((hslotted.launcher hget).after_reshape inputs)
  · rw [hafter]
    exact hslotted

/-- Only the insertion of a new name adds a name, behind those that are there. -/
theorem names_after (h : set.WellFormed) (use : Use) : (use.after set).names =
    match use.inserted? with
    | some name => if name ∈ set.names then set.names else set.names ++ [name]
    | none => set.names := by
  rcases after_cases h use with
    ⟨launcher, rfl, hafter⟩ | ⟨name, launcher, inputs, rfl, hget, -, hafter⟩ | ⟨_, _, rfl, -, hafter⟩
  · rw [hafter]
    exact h.names_insert launcher
  · have hname := h.layerName_eq hget
    rw [hafter, h.names_insert, Launcher.layerName_after_reshape, hname, if_pos (h.mem_names hget)]
    rfl
  · rw [hafter]
    rfl

/-- A use does to the launcher of a layer what the inputs do that it hands over, unless it replaces it. -/
theorem get_after (h : set.WellFormed) {use : Use} {name : String} {launcher : Launcher}
    (hget : set.get name = .ok launcher) (hnot : use.inserted? ≠ some name) :
    (use.after set).get name =
      .ok (launcher.history ((use.handed? name set).toList.map .reshape)) := by
  rcases after_cases h use with
    ⟨other, rfl, hafter⟩ | ⟨layer, other, inputs, rfl, hother, hgather, hafter⟩ |
      ⟨layer, fault, rfl, hgather, hafter⟩
  · have hne : name ≠ other.layerName := fun heq => hnot (congrArg some heq.symm)
    rw [hafter, h.get_insert, if_neg hne, hget]
    rfl
  · rw [hafter, h.get_insert, Launcher.layerName_after_reshape, h.layerName_eq hother, handed?]
    by_cases heq : name = layer
    · subst heq
      rw [hget] at hother
      cases hother
      rw [if_pos rfl, if_pos rfl, hgather]
      rfl
    · rw [if_neg heq, if_neg (Ne.symm heq), hget]
      rfl
  · rw [hafter, hget, handed?]
    by_cases heq : layer = name
    · subst heq
      rw [if_pos rfl, hgather]
      rfl
    · rw [if_neg heq]
      rfl

end Use

/-! ### Whole histories -/

theorem history_append (before later : List Use) :
    history (before ++ later) = later.foldl Use.after (history before) :=
  List.foldl_append ..

theorem wellFormed_history (uses : List Use) : (history uses).WellFormed :=
  foldl_invariant (fun _ (state : LauncherSet) => state.WellFormed) .empty
    fun _ use _ _ _ hstate => Use.wellFormed_after hstate use

theorem index_foldl_after (h : set.WellFormed) {name : String} {slot : Nat}
    (hindex : set.index.get? name = some slot) (uses : List Use) :
    (uses.foldl Use.after set).index.get? name = some slot :=
  (foldl_invariant (fun _ (state : LauncherSet) =>
    state.WellFormed ∧ state.index.get? name = some slot) ⟨h, hindex⟩ fun _ use _ _ _ hstate =>
      ⟨Use.wellFormed_after hstate.1 use, Use.index_after hstate.1 use hstate.2⟩).2

theorem slotted_history {uses : List Use}
    (h : ∀ launcher, Use.insert launcher ∈ uses → launcher.Slotted) : (history uses).Slotted := by
  refine (foldl_invariant (fun _ (state : LauncherSet) => state.WellFormed ∧ state.Slotted)
    ⟨.empty, fun launcher hmem => nomatch hmem⟩ ?_).2
  rintro done use rest state huses ⟨hstate, hslotted⟩
  refine ⟨Use.wellFormed_after hstate use, Use.slotted_after hslotted hstate ?_⟩
  rintro launcher rfl
  exact h launcher (by simp [huses])

theorem eraseDups_append_singleton (names : List String) (name : String) :
    (names ++ [name]).eraseDups =
      if name ∈ names then names.eraseDups else names.eraseDups ++ [name] := by
  rw [List.eraseDups_append]
  split <;> simp [List.removeAll, List.eraseDups_cons, *]

theorem names_history (uses : List Use) : (history uses).names = (inserted uses).eraseDups := by
  refine (foldl_invariant (fun done (state : LauncherSet) =>
    state.WellFormed ∧ state.names = (inserted done).eraseDups) ⟨.empty, rfl⟩ ?_).2
  rintro done use rest state - ⟨hstate, hnames⟩
  refine ⟨Use.wellFormed_after hstate use, ?_⟩
  rw [Use.names_after hstate, inserted, List.filterMap_append, ← inserted]
  cases hname : use.inserted? with
  | none => simp [hname, hnames]
  | some name => simp [hname, hnames, eraseDups_append_singleton]

theorem inserted_cons (use : Use) (rest : List Use) :
    inserted (use :: rest) = use.inserted?.toList ++ inserted rest := by
  cases use <;> rfl

/-- The launcher of a layer is what the inputs have made of it that it has been handed. -/
theorem get_foldl_after (h : set.WellFormed) {name : String} {launcher : Launcher}
    (hget : set.get name = .ok launcher) {uses : List Use} (hnot : name ∉ inserted uses) :
    (uses.foldl Use.after set).get name =
      .ok (launcher.history ((handed name set uses).map .reshape)) := by
  induction uses generalizing set launcher with
  | nil => exact hget
  | cons use rest ih =>
    rw [inserted_cons, List.mem_append, Option.mem_toList, not_or] at hnot
    obtain ⟨hfirst, hrest⟩ := hnot
    rw [List.foldl_cons, ih (Use.wellFormed_after h use) (Use.get_after h hget hfirst) hrest, handed,
      List.map_append, Launcher.history, Launcher.history, Launcher.history, List.foldl_append]

/-- Since its last insertion a launcher has been changed by what it has been handed only. -/
theorem get_history (before : List Use) (launcher : Launcher) {later : List Use}
    (hnot : launcher.layerName ∉ inserted later) :
    (history (before ++ .insert launcher :: later)).get launcher.layerName =
      .ok (launcher.history ((handed launcher.layerName
        (history (before ++ [.insert launcher])) later).map .reshape)) := by
  have hbefore := wellFormed_history before
  have hinserted : (history (before ++ [.insert launcher])).get launcher.layerName = .ok launcher := by
    rw [history_append, List.foldl_cons, List.foldl_nil, Use.after_insert hbefore, hbefore.get_insert,
      if_pos rfl]
  rw [List.append_cons, history_append]
  exact get_foldl_after (wellFormed_history _) hinserted hnot

end

/-- After every history the index leads from the names of the stored launchers to their slots and from no
other name; no name is stored twice, and the slots stand in the order in which the names were first
inserted, where they stay. A layer has the launcher that was inserted last, as it has been reshaped
since with the inputs that were gathered for that layer. A refused reshape leaves the set as it was, and
launchers that have a slot for every declared output are never looked up out of range. -/
theorem history_stable (uses : List Use) :
    let set := history uses
    (∀ name slot, set.index.get? name = some slot ↔
      ∃ launcher, set.launchers[slot]? = some launcher ∧ launcher.layerName = name) ∧
    set.names.Nodup ∧
    set.names = (inserted uses).eraseDups ∧
    (∀ later name slot, set.index.get? name = some slot →
      (history (uses ++ later)).index.get? name = some slot) ∧
    (∀ name cause, set.get name = .error cause ↔
      name ∉ inserted uses ∧ cause = .launcherNotFound name) ∧
    (∀ before launcher later, uses = before ++ .insert launcher :: later →
      launcher.layerName ∉ inserted later →
        set.get launcher.layerName = .ok (launcher.history ((handed launcher.layerName
          (history (before ++ [.insert launcher])) later).map .reshape))) ∧
    (∀ (use : Use) fault left, use.perform.run set = .error fault left →
      left = set ∧ ∃ name, use = .reshape name) ∧
    ((∀ launcher, Use.insert launcher ∈ uses → launcher.Slotted) →
      ∀ use : Use, use.perform.run set = InPlace.ending set (use.outcome set)) := by
  intro set
  have hset : set.WellFormed := wellFormed_history uses
  refine ⟨fun name slot => hset.index_iff, hset.nodup_names, names_history uses,
    fun later name slot hindex => ?_, fun name cause => ?_, fun before launcher later huses hnot => ?_,
    fun use fault left => Use.run_eq_error hset,
    fun hslotted => Use.run_perform (slotted_history hslotted) hset⟩
  · rw [history_append]
    exact index_foldl_after hset hindex later
  · rw [hset.get_eq_error_iff, names_history, List.mem_eraseDups]
  · subst huses
    exact get_history before launcher hnot

end LauncherSet

end ShapeFlow
