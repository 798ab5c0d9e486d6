import Mathlib.Logic.Relation
import ShapeFlow.Proofs.Network.Built
import ShapeFlow.Proofs.Network.Order

/-!
When there is no order. An unfinished layer leads to all that lies above it on the stack, so that a
layer which finishes while one that it feeds is unfinished closes a cycle. The layer that is blamed
lies on such a cycle, and a graph without cycles is never refused.
-/

namespace ShapeFlow.Network

/-- One layer feeds another, directly or through others. -/
abbrev LeadsTo (links : List (LayerId × LayerId)) : LayerId → LayerId → Prop :=
  Relation.TransGen fun source target => (source, target) ∈ links

namespace Search

variable {links : List (LayerId × LayerId)} {count : Nat} {search next last : Search}

/-- The layer has been seen and not yet left; `upper` is what lies above its topmost entry. -/
structure Unfinished (search : Search) (upper : List LayerId) (id : LayerId) : Prop where
  stack_eq : ∃ lower, search.stack = upper ++ id :: lower
  topmost : id ∉ upper
  discovered : id ∈ search.discovered
  unfinished : id ∉ search.finished

/-- How the links run while the search runs: an unfinished layer leads to all above it, what it feeds
has been seen or lies above it, and a finished layer feeds none that finished later, unless that one
leads back to it. -/
structure Traced (links : List (LayerId × LayerId)) (search : Search) : Prop where
  above : ∀ {upper id}, search.Unfinished upper id → ∀ other ∈ upper, LeadsTo links id other
  fed : ∀ {upper id}, search.Unfinished upper id → ∀ other, (id, other) ∈ links →
    other ∈ search.discovered ∨ other ∈ upper
  finished : ∀ {later id earlier}, search.finished = later ++ id :: earlier →
    ∀ other, (id, other) ∈ links → other ∈ earlier ∨ LeadsTo links other id

section

variable {top : LayerId} {rest upper : List LayerId} {id : LayerId}

theorem Unfinished.of_leave (hstack : search.stack = top :: rest)
    (h : (search.leave top rest).Unfinished upper id) : search.Unfinished (top :: upper) id := by
  obtain ⟨⟨lower, hlower⟩, htopmost, hseen, hnot⟩ := h
  have hne : id ≠ top ∧ id ∉ search.finished := by
    dsimp only [leave] at hnot
    split at hnot
    · next hdone => exact ⟨fun heq => hnot (heq ▸ hdone), hnot⟩
    · exact ⟨fun heq => hnot (heq ▸ List.mem_cons_self), fun hmem => hnot (List.mem_cons_of_mem _ hmem)⟩
  refine ⟨⟨lower, ?_⟩, ?_, hseen, hne.2⟩
  · rw [hstack, List.cons_append]
    exact congrArg (top :: ·) hlower
  · simp [hne.1, htopmost]

/-- A layer that is unfinished after the first visit of another was so before; the layer visited and
those it feeds now lie above it. -/
theorem Unfinished.of_enter (hstack : search.stack = top :: rest) (hne : id ≠ top)
    (h : (enter links search top rest).Unfinished upper id) :
    ∃ between, search.Unfinished (top :: between) id ∧ upper =
      ((successors links top).filter fun id => !(top :: search.discovered).contains id) ++
        top :: between := by
  obtain ⟨⟨lower, hlower⟩, htopmost, hentered, hnot⟩ := h
  have hseen : id ∈ search.discovered := by simpa [enter, hne] using hentered
  have hold : id ∉ (successors links top).filter fun id =>
      !(top :: search.discovered).contains id := by
    simp [hseen]
  rcases List.append_eq_append_iff.1 hlower with ⟨between, rfl, hrest⟩ | ⟨between, hpushed, hrest⟩
  · rcases List.cons_eq_append_iff.1 hrest with ⟨-, heq⟩ | ⟨between, rfl, rfl⟩
    · cases heq
      exact absurd rfl hne
    · refine ⟨between, ⟨⟨lower, hstack⟩, ?_, hseen, hnot⟩, rfl⟩
      exact fun hmem => htopmost (List.mem_append_right _ hmem)
  · rcases List.cons_eq_append_iff.1 hrest with ⟨-, heq⟩ | ⟨between, rfl, -⟩
    · cases heq
      exact absurd rfl hne
    · exact absurd (hpushed ▸ by simp) hold

/-- The layer just seen lies below the unseen layers that it feeds. -/
theorem Unfinished.upper_eq (h : (enter links search top rest).Unfinished upper top) :
    upper = (successors links top).filter fun id => !(top :: search.discovered).contains id := by
  obtain ⟨⟨lower, hlower⟩, htopmost, -, -⟩ := h
  dsimp only [enter] at hlower
  have hfresh : top ∉ (successors links top).filter fun id =>
      !(top :: search.discovered).contains id := by
    simp
  have hlength := congrArg (List.idxOf top) hlower
  rw [List.idxOf_append_of_notMem hfresh, List.idxOf_append_of_notMem htopmost,
    List.idxOf_cons_self, List.idxOf_cons_self] at hlength
  exact (List.append_inj_left hlower hlength).symm

theorem Traced.enter (h : Traced links search) (hstack : search.stack = top :: rest) :
    Traced links (enter links search top rest) := by
  refine ⟨fun {upper id} hopen other hother => ?_, fun {upper id} hopen other hlink => ?_, h.finished⟩
  · by_cases heq : id = top
    · subst heq
      rw [hopen.upper_eq] at hother
      exact .single (mem_successors_iff.1 (List.mem_filter.1 hother).1)
    · obtain ⟨between, hbefore, rfl⟩ := hopen.of_enter hstack heq
      rcases List.mem_append.1 hother with hpushed | hkept
      · have hlink := mem_successors_iff.1 (List.mem_filter.1 hpushed).1
        exact (h.above hbefore top List.mem_cons_self).tail hlink
      · exact h.above hbefore other hkept
  · by_cases heq : id = top
    · subst heq
      by_cases hseen : other ∈ id :: search.discovered
      · exact .inl hseen
      · rw [hopen.upper_eq]
        exact .inr (List.mem_filter.2 ⟨mem_successors_iff.2 hlink, by simpa using hseen⟩)
    · obtain ⟨between, hbefore, rfl⟩ := hopen.of_enter hstack heq
      rcases h.fed hbefore other hlink with hseen | hkept
      · exact .inl (List.mem_cons_of_mem _ hseen)
      · exact .inr (List.mem_append_right _ hkept)

/-- When a layer is left, all it feeds has been seen, and what of that is unfinished leads to it. -/
theorem finished_or_leadsTo (hsound : Sound links count search) (h : Traced links search)
    (hstack : search.stack = top :: rest) (hseen : top ∈ search.discovered)
    (hnot : top ∉ search.finished) {other : LayerId} (hlink : (top, other) ∈ links) :
    other ∈ search.finished ∨ LeadsTo links other top := by
  have htop : search.Unfinished [] top := ⟨⟨rest, hstack⟩, by simp, hseen, hnot⟩
  have hother : other ∈ search.discovered := by simpa using h.fed htop other hlink
  refine or_iff_not_imp_left.2 fun hopen => ?_
  have hne : other ≠ top := by
    rintro rfl
    exact hsound.no_loop _ hseen hlink
  have hplace : other ∈ rest := by
    have hplace := (hsound.seen other hother).resolve_left hopen
    simpa [hstack, hne] using hplace
  obtain ⟨upper, lower, hrest, hfirst⟩ := List.eq_append_cons_of_mem hplace
  have hbelow : search.Unfinished (top :: upper) other :=
    ⟨⟨lower, by simp [hstack, hrest]⟩, by simp [hne, hfirst], hother, hopen⟩
  exact h.above hbelow top List.mem_cons_self

theorem Traced.leave (hsound : Sound links count search) (h : Traced links search)
    (hstack : search.stack = top :: rest) (hseen : top ∈ search.discovered) :
    Traced links (search.leave top rest) := by
  refine ⟨fun {upper id} hopen other hother => ?_, fun {upper id} hopen other hlink => ?_,
    fun {later id earlier} heq other hlink => ?_⟩
  · exact h.above (hopen.of_leave hstack) other (List.mem_cons_of_mem _ hother)
  · rcases h.fed (hopen.of_leave hstack) other hlink with hother | hother
    · exact .inl hother
    · rcases List.mem_cons.1 hother with rfl | hother
      · exact .inl hseen
      · exact .inr hother
  · dsimp only [Search.leave] at heq
    split at heq
    · exact h.finished heq other hlink
    · next hnot =>
      rcases List.cons_eq_append_iff.1 heq with ⟨-, heq⟩ | ⟨later, -, heq⟩
      · cases heq
        exact finished_or_leadsTo hsound h hstack hseen hnot hlink
      · exact h.finished heq other hlink

theorem visit_traced (hsound : Sound links count search) (h : Traced links search)
    (hstack : search.stack = top :: rest) (hvisit : visit links top rest search = .ok next) :
    Traced links next := by
  rcases visit_eq_ok_iff.1 hvisit with ⟨hseen, rfl⟩ | ⟨-, -, rfl⟩
  · exact h.leave hsound hstack hseen
  · exact h.enter hstack

theorem loop_of_visit (h : visit links top rest search = .error id) : (id, id) ∈ links := by
  unfold visit at h
  split at h
  · cases h
  · split at h
    · next hloop =>
      cases h
      exact mem_successors_iff.1 hloop
    · cases h

end

theorem run_traced (hlinks : ∀ link ∈ links, link.2 < count) (fuel : Nat)
    (hsound : Sound links count search) (h : Traced links search)
    (hrun : run links fuel search = .ok last) : Traced links last := by
  induction fuel generalizing search with
  | zero =>
    cases hrun
    exact h
  | succ fuel ih =>
    unfold run at hrun
    split at hrun
    · cases hrun
      exact h
    · next top rest hstack =>
      obtain ⟨next, hvisit, hrun⟩ := bind_eq_ok_iff.1 hrun
      exact ih (visit_sound hlinks hsound hstack hvisit).1 (visit_traced hsound h hstack hvisit) hrun

theorem loop_of_run {fuel : Nat} {id : LayerId} (h : run links fuel search = .error id) :
    (id, id) ∈ links := by
  induction fuel generalizing search with
  | zero => cases h
  | succ fuel ih =>
    unfold run at h
    split at h
    · cases h
    · next top rest hstack =>
      rcases bind_eq_error_iff.1 h with hvisit | ⟨next, -, hrun⟩
      · exact loop_of_visit hvisit
      · exact ih hrun

theorem start_traced (hlinks : ∀ link ∈ links, link.2 < count) {id : LayerId} (hid : id < count)
    (hsound : Sound links count search) (hempty : search.stack = []) (h : Traced links search)
    (hstart : start links count search id = .ok last) : Traced links last := by
  unfold start at hstart
  split at hstart
  · cases hstart
    exact h
  · next hfresh =>
    -- nothing is unfinished between two starts
    have hnone : ∀ {upper other}, ¬ ({ search with stack := [id] } : Search).Unfinished upper other := by
      rintro upper other ⟨⟨lower, hlower⟩, -, hseen, -⟩
      rcases List.cons_eq_append_iff.1 hlower with ⟨-, heq⟩ | ⟨between, -, heq⟩
      · cases heq
        exact hfresh hseen
      · simp at heq
    exact run_traced hlinks _ (hsound.restart hid hempty)
      ⟨fun hopen => absurd hopen hnone, fun hopen => absurd hopen hnone, h.finished⟩ hstart

theorem loop_of_start {id other : LayerId} (h : start links count search id = .error other) :
    (other, other) ∈ links := by
  unfold start at h
  split at h
  · cases h
  · exact loop_of_run h

theorem traced_of_foldlM (hlinks : ∀ link ∈ links, link.2 < count)
    (h : (List.range count).foldlM (start links count) ⟨[], [], []⟩ = .ok search) :
    Traced links search := by
  refine (foldlM_invariant (fun _ search => Sound links count search ∧ search.stack = [] ∧
    Traced links search) ⟨by constructor <;> simp, rfl, ?_⟩ ?_ h).2.2
  · exact ⟨fun hopen => by simpa using hopen.discovered, fun hopen => by simpa using hopen.discovered,
      by simp⟩
  · rintro done id rest state next hitems ⟨hsound, hempty, htraced⟩ hnext
    have hid : id < count := List.mem_range.1 (hitems ▸ by simp)
    obtain ⟨hsound', hempty', -, -⟩ := start_sound hlinks hid hsound hempty hnext
    exact ⟨hsound', hempty', start_traced hlinks hid hsound hempty htraced hnext⟩

end Search

section

variable {links : List (LayerId × LayerId)} {count : Nat}

/-- The layer blamed by the check feeds a layer listed before it. -/
theorem exists_of_checkOrder_error {before order : List LayerId} {other : LayerId}
    (h : checkOrder links before order = .error other) : other ∉ before ∧
    ∃ done id rest, order = done ++ id :: rest ∧ (other, id) ∈ links ∧ other ∉ done ++ [id] := by
  induction order generalizing before with
  | nil => cases h
  | cons head tail ih =>
    unfold checkOrder at h
    split at h
    · next found hfind =>
      cases h
      have hlink := mem_predecessors_iff.1 (List.mem_of_find?_eq_some hfind)
      have hnot : other ≠ head ∧ other ∉ before := by simpa using List.find?_some hfind
      exact ⟨hnot.2, [], head, tail, rfl, hlink, by simp [hnot.1]⟩
    · obtain ⟨hnot, done, id, rest, rfl, hlink, hlater⟩ := ih h
      rw [List.mem_cons, not_or] at hnot
      exact ⟨hnot.2, head :: done, id, rest, rfl, hlink, by simp_all⟩

/-- A layer that is blamed lies on a cycle. -/
theorem leadsTo_of_sortLinks_error (hsources : ∀ link ∈ links, link.1 < count)
    (htargets : ∀ link ∈ links, link.2 < count) {id : LayerId}
    (h : sortLinks links count = .error id) : LeadsTo links id id := by
  rcases bind_eq_error_iff.1 h with hsearch | ⟨search, hsearch, hcheck⟩
  · obtain ⟨start, -, state, hstart⟩ := exists_refusal_of_foldlM hsearch
    exact .single (Search.loop_of_start hstart)
  · rcases bind_eq_error_iff.1 hcheck with hcheck | ⟨-, -, hdone⟩
    · obtain ⟨hsound, hall⟩ := Search.sound_of_foldlM htargets hsearch
      obtain ⟨-, done, fed, rest, hfinished, hlink, hlater⟩ := exists_of_checkOrder_error hcheck
      have hmem : id ∈ rest := by
        have hmem := hall id (hsources _ hlink)
        rw [hfinished, List.append_cons, List.mem_append] at hmem
        exact hmem.resolve_left hlater
      obtain ⟨between, earlier, rfl⟩ := List.append_of_mem hmem
      have hsplit : search.finished = (done ++ fed :: between) ++ id :: earlier := by
        simp [hfinished]
      -- the layer that is fed finished after the one that feeds it
      have hfresh : fed ∉ earlier := by
        have hnodup := hsound.finished_nodup
        rw [hsplit, List.nodup_append] at hnodup
        exact fun hmem => hnodup.2.2 fed (by simp) fed (by simp [hmem]) rfl
      have hback := ((Search.traced_of_foldlM htargets hsearch).finished hsplit fed hlink).resolve_left
        hfresh
      exact .head hlink hback
    · cases hdone

end

/-! ### The check as a search against the links -/

/-- The topmost unseen layer of a stack, and the stack after its visit: the unseen layers that feed it
have taken its place. -/
def nextAgainst (links : List (LayerId × LayerId)) (discovered : List LayerId) :
    List LayerId → Option (LayerId × List LayerId)
  | [] => none
  | top :: rest =>
    if top ∈ discovered then nextAgainst links discovered rest
    else
      let unseen := (predecessors links top).filter fun id => !(top :: discovered).contains id
      some (top, unseen ++ rest)

/-- Searches from each layer against the links. A search that comes to a second layer is refused with
that layer. -/
def retrace (links : List (LayerId × LayerId)) (discovered : List LayerId) :
    List LayerId → Except LayerId Unit
  | [] => .ok ()
  | id :: rest =>
    match nextAgainst links discovered [id] with
    | none => retrace links discovered rest
    | some (first, stack) =>
      match nextAgainst links (first :: discovered) stack with
      | none => retrace links (first :: discovered) rest
      | some (second, _) => .error second

section

variable {links : List (LayerId × LayerId)}

/-- The check of an order looks for the layers that searches against the links come to. -/
theorem checkOrder_eq_retrace {before order : List LayerId} (hnodup : order.Nodup)
    (hfresh : ∀ id ∈ order, id ∉ before) :
    checkOrder links before order = retrace links before order := by
  induction order generalizing before with
  | nil => rfl
  | cons id rest ih =>
    obtain ⟨hid, hrest⟩ := List.nodup_cons.1 hnodup
    have hfirst : nextAgainst links before [id] =
        some (id, (predecessors links id).filter fun other => !(id :: before).contains other) := by
      simp [nextAgainst, hfresh id List.mem_cons_self]
    have hnext : checkOrder links (id :: before) rest = retrace links (id :: before) rest := by
      refine ih hrest fun other hother => ?_
      rw [List.mem_cons, not_or]
      exact ⟨fun heq => hid (heq ▸ hother), hfresh other (List.mem_cons_of_mem _ hother)⟩
    rw [checkOrder, retrace, hfirst]
    dsimp only
    rw [← List.head?_filter]
    cases hunseen : (predecessors links id).filter fun other => !(id :: before).contains other with
    | nil => exact hnext
    | cons other more =>
      have hnew : other ∉ id :: before := by
        have hmem : other ∈ (predecessors links id).filter fun other =>
            !(id :: before).contains other := hunseen ▸ List.mem_cons_self
        simpa using (List.mem_filter.1 hmem).2
      rw [nextAgainst, if_neg hnew]
      rfl

/-- The order is that of two searches: along the links for the order, and against them for cycles. -/
theorem sortLinks_eq_searches {count : Nat} (htargets : ∀ link ∈ links, link.2 < count) :
    sortLinks links count = (do
      let search ← (List.range count).foldlM (Search.start links count) ⟨[], [], []⟩
      retrace links [] search.finished
      .ok search.finished) := by
  unfold sortLinks
  cases hsearch : (List.range count).foldlM (Search.start links count) ⟨[], [], []⟩ with
  | error id => rfl
  | ok search =>
    have hnodup := (Search.sound_of_foldlM htargets hsearch).1.finished_nodup
    rw [ok_bind, ok_bind, checkOrder_eq_retrace hnodup (by simp)]

end

/-! ### Orders and cycles of a network -/

/-- A connection leads from the one layer to the other. -/
def Feeds (network : Network) (source target : LayerId) : Prop :=
  ∃ connection ∈ network.connections,
    connection.source.layer = source ∧ connection.target.layer = target

/-- Connections lead from the layer back to it. -/
def OnCycle (network : Network) (id : LayerId) : Prop :=
  Relation.TransGen network.Feeds id id

theorem leadsTo_links (network : Network) : LeadsTo network.links = Relation.TransGen network.Feeds := by
  unfold LeadsTo
  congr 1
  funext source target
  exact propext mem_links_iff

theorem Sorts.idxOf_lt {network : Network} {order : List LayerId} (h : network.Sorts order)
    {source target : LayerId} (hfeeds : network.Feeds source target)
    (htarget : target < network.layers.length) : order.idxOf source < order.idxOf target := by
  obtain ⟨connection, hmem, rfl, rfl⟩ := hfeeds
  obtain ⟨done, rest, horder⟩ := List.append_of_mem (h.mem_iff.2 htarget)
  have hsource := h.source_mem horder connection hmem rfl
  have hfresh := h.not_mem_done horder
  rw [horder, List.idxOf_append_of_mem hsource, List.idxOf_append_of_notMem hfresh]
  simpa using List.idxOf_lt_length_of_mem hsource

section

variable {network : Network} {order : List LayerId} {id : LayerId}

theorem WellFormed.lt_of_feeds (h : network.WellFormed) {source target : LayerId}
    (hfeeds : network.Feeds source target) :
    source < network.layers.length ∧ target < network.layers.length := by
  obtain ⟨connection, hmem, rfl, rfl⟩ := hfeeds
  obtain ⟨feeding, hfeeding, -⟩ := h.source_exists connection hmem
  obtain ⟨fed, hfed, -⟩ := h.target_exists connection hmem
  exact ⟨(List.getElem?_eq_some_iff.1 hfeeding).1, (List.getElem?_eq_some_iff.1 hfed).1⟩

theorem Sorts.not_onCycle (hnetwork : network.WellFormed) (h : network.Sorts order) :
    ¬ network.OnCycle id := by
  have hlt : ∀ {source target : LayerId}, Relation.TransGen network.Feeds source target →
      order.idxOf source < order.idxOf target := by
    intro source target hleads
    induction hleads with
    | single hfeeds => exact h.idxOf_lt hfeeds (hnetwork.lt_of_feeds hfeeds).2
    | tail _ hfeeds ih => exact Nat.lt_trans ih (h.idxOf_lt hfeeds (hnetwork.lt_of_feeds hfeeds).2)
  exact fun hcycle => Nat.lt_irrefl _ (hlt hcycle)

theorem WellFormed.onCycle_of_error (h : network.WellFormed) {cause : NetworkError}
    (hcause : network.topologicalOrder = .error cause) :
    ∃ id layer, network.layers[id]? = some layer ∧ network.OnCycle id ∧ cause = .cycle layer.name := by
  unfold topologicalOrder at hcause
  split at hcause
  · cases hcause
  · next id hsort =>
    cases hcause
    have hlt : ∀ link ∈ network.links,
        link.1 < network.layers.length ∧ link.2 < network.layers.length := by
      rintro ⟨source, target⟩ hmem
      exact h.lt_of_feeds (mem_links_iff.1 hmem)
    have hcycle := leadsTo_of_sortLinks_error (fun link hmem => (hlt link hmem).1)
      (fun link hmem => (hlt link hmem).2) hsort
    rw [leadsTo_links] at hcycle
    obtain ⟨next, hfeeds, -⟩ := Relation.TransGen.head'_iff.1 hcycle
    have hlayer := List.getElem?_eq_getElem (h.lt_of_feeds hfeeds).1
    exact ⟨id, _, hlayer, hcycle, by rw [nameOf_eq hlayer]⟩

theorem WellFormed.exists_order_iff (h : network.WellFormed) :
    (∃ order, network.topologicalOrder = .ok order) ↔ ∀ id, ¬ network.OnCycle id := by
  constructor
  · rintro ⟨order, horder⟩ id
    exact (h.sorts horder).not_onCycle h
  · intro hacyclic
    cases horder : network.topologicalOrder with
    | ok order => exact ⟨order, rfl⟩
    | error cause =>
      obtain ⟨id, -, -, hcycle, -⟩ := h.onCycle_of_error horder
      exact absurd hcycle (hacyclic id)

end

/-- A network has an order exactly if no layer lies on a cycle. The order lists every layer once, each
after those that feed it; a refusal names a layer on a cycle. -/
theorem topologicalOrder_complete {network : Network} (h : network.Built) :
    ((∃ order, network.topologicalOrder = .ok order) ↔ ∀ id, ¬ network.OnCycle id) ∧
    (∀ order, network.topologicalOrder = .ok order → order.Nodup ∧
      (∀ id, id ∈ order ↔ id < network.layers.length) ∧
      ∀ connection ∈ network.connections,
        order.idxOf connection.source.layer < order.idxOf connection.target.layer) ∧
    ∀ cause, network.topologicalOrder = .error cause → ∃ id layer,
      network.layers[id]? = some layer ∧ network.OnCycle id ∧ cause = .cycle layer.name := by
  have hnetwork := h.wellFormed
  refine ⟨hnetwork.exists_order_iff, ?_, fun cause => hnetwork.onCycle_of_error⟩
  intro order horder
  have hsorts := hnetwork.sorts horder
  refine ⟨hsorts.nodup, fun _ => hsorts.mem_iff, fun connection hmem => ?_⟩
  have hfeeds : network.Feeds connection.source.layer connection.target.layer :=
    ⟨connection, hmem, rfl, rfl⟩
  exact hsorts.idxOf_lt hfeeds (hnetwork.lt_of_feeds hfeeds).2

/-- Two layers that feed each other. -/
def ring : Network where
  name := "ring"
  layers := [⟨0, "a", "ReLU", [⟨"in", [1]⟩], [⟨"out", [1]⟩], .empty, .empty, false⟩,
    ⟨1, "b", "ReLU", [⟨"in", [1]⟩], [⟨"out", [1]⟩], .empty, .empty, false⟩]
  connections := [⟨⟨0, 0⟩, ⟨1, 0⟩⟩, ⟨⟨1, 0⟩, ⟨0, 0⟩⟩]
  names := (Table.empty.insert "a" 0).insert "b" 1
  producers := (Table.empty.insert ⟨1, 0⟩ ⟨0, 0⟩).insert ⟨0, 0⟩ ⟨1, 0⟩
  consumers := (Table.empty.insert ⟨0, 0⟩ [⟨1, 0⟩]).insert ⟨1, 0⟩ [⟨0, 0⟩]

theorem built_ring : ring.Built := by
  have hfirst := @Built.addLayer _ _
    ⟨0, "a", "ReLU", [⟨"in", [1]⟩], [⟨"out", [1]⟩], .empty, .empty, false⟩ 0 (.empty "ring") rfl
  have hsecond := @Built.addLayer _ _
    ⟨0, "b", "ReLU", [⟨"in", [1]⟩], [⟨"out", [1]⟩], .empty, .empty, false⟩ 1 hfirst rfl
  have hforth := @Built.connectPorts _ _ ⟨0, 0⟩ ⟨1, 0⟩ hsecond rfl
  exact @Built.connectPorts _ _ ⟨1, 0⟩ ⟨0, 0⟩ hforth rfl

/-- An input that feeds an activation has an order; a ring has none. -/
theorem sample_and_ring : (∀ id, ¬ sample.OnCycle id) ∧ ∃ id layer,
    ring.layers[id]? = some layer ∧ ring.OnCycle id ∧
      ring.topologicalOrder = .error (.cycle layer.name) := by
  have hsample : sample.topologicalOrder = .ok [0, 1] := by decide +kernel
  have hring : ring.topologicalOrder = .error (.cycle "b") := by decide +kernel
  obtain ⟨id, layer, hlayer, hcycle, hcause⟩ :=
    (topologicalOrder_complete built_ring).2.2 _ hring
  exact ⟨(topologicalOrder_complete built_sample).1.1 ⟨_, hsample⟩,
    id, layer, hlayer, hcycle, hring.trans (congrArg Except.error hcause)⟩

end ShapeFlow.Network
