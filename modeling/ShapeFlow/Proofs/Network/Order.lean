import Mathlib.Data.List.Nodup
import ShapeFlow.Network.Order
import ShapeFlow.Proofs.Network.WellFormed

/-!
An order that the search returns lists every layer once and every layer after those that feed it. The
search visits every layer because its fuel covers the work that is left: the layers not yet seen, the
links that leave them and the entries of the stack.
-/

namespace ShapeFlow.Network

theorem mem_links_iff {network : Network} {source target : LayerId} :
    (source, target) ∈ network.links ↔ ∃ connection ∈ network.connections,
      connection.source.layer = source ∧ connection.target.layer = target := by
  simp [links, List.mem_eraseDups]

theorem mem_successors_iff {links : List (LayerId × LayerId)} {id other : LayerId} :
    other ∈ successors links id ↔ (id, other) ∈ links := by
  simp [successors]

theorem mem_predecessors_iff {links : List (LayerId × LayerId)} {id other : LayerId} :
    other ∈ predecessors links id ↔ (other, id) ∈ links := by
  simp [predecessors]

namespace Search

variable {links : List (LayerId × LayerId)} {count : Nat} {search next last : Search}

/-- What holds while the search runs: a layer that has been seen is finished or on the stack, and
feeds others only. -/
structure Sound (links : List (LayerId × LayerId)) (count : Nat) (search : Search) : Prop where
  stack_lt : ∀ id ∈ search.stack, id < count
  discovered_lt : ∀ id ∈ search.discovered, id < count
  seen : ∀ id ∈ search.discovered, id ∈ search.finished ∨ id ∈ search.stack
  finished_subset : ∀ id ∈ search.finished, id ∈ search.discovered
  finished_nodup : search.finished.Nodup
  no_loop : ∀ id ∈ search.discovered, (id, id) ∉ links

/-- What is left to do: layers not yet seen, links that leave them, and entries of the stack. -/
def work (links : List (LayerId × LayerId)) (count : Nat) (search : Search) : Nat :=
  ((List.range count).filter fun id => !search.discovered.contains id).length +
    (links.filter fun link => !search.discovered.contains link.1).length + search.stack.length

private theorem length_unseen_lt {discovered : List LayerId} {top : LayerId} (htop : top < count)
    (hnot : top ∉ discovered) :
    ((List.range count).filter fun id => !(top :: discovered).contains id).length <
      ((List.range count).filter fun id => !discovered.contains id).length := by
  have hsub : (List.range count).filter (fun id => !(top :: discovered).contains id) =
      ((List.range count).filter fun id => !discovered.contains id).filter (· ≠ top) := by
    rw [List.filter_filter]
    congr 1
    funext id
    by_cases h : id = top <;> simp [h]
  rw [hsub]
  refine List.length_filter_lt_length_iff_exists.2 ⟨top, ?_, by simp⟩
  simp [htop, hnot]

private theorem length_links_eq {discovered : List LayerId} {top : LayerId}
    (hnot : top ∉ discovered) (links : List (LayerId × LayerId)) :
    (links.filter fun link => !discovered.contains link.1).length =
      (successors links top).length +
        (links.filter fun link => !(top :: discovered).contains link.1).length := by
  induction links with
  | nil => rfl
  | cons link rest ih =>
    simp only [successors, List.length_map] at ih
    by_cases heq : link.1 = top
    · simp [successors, heq, hnot] at ih ⊢
      omega
    · by_cases hseen : link.1 ∈ discovered
      · simp [successors, heq, hseen] at ih ⊢
        omega
      · simp [successors, heq, hseen] at ih ⊢
        omega

/-- The search after the second visit of the layer on top. -/
def leave (search : Search) (top : LayerId) (rest : List LayerId) : Search :=
  { search with
    stack := rest
    finished := if top ∈ search.finished then search.finished else top :: search.finished }

/-- The search after the first visit of the layer on top. -/
def enter (links : List (LayerId × LayerId)) (search : Search) (top : LayerId)
    (rest : List LayerId) : Search :=
  { search with
    stack := ((successors links top).filter fun id => !(top :: search.discovered).contains id) ++
      top :: rest
    discovered := top :: search.discovered }

section

variable {top : LayerId} {rest : List LayerId}

theorem visit_eq_ok_iff : visit links top rest search = .ok next ↔
    (top ∈ search.discovered ∧ next = search.leave top rest) ∨
      (top ∉ search.discovered ∧ (top, top) ∉ links ∧ next = enter links search top rest) := by
  unfold visit leave enter
  by_cases hseen : top ∈ search.discovered
  · simp [hseen, @eq_comm _ next]
  · by_cases hloop : (top, top) ∈ links
    · simp [hseen, mem_successors_iff, hloop]
    · simp [hseen, mem_successors_iff, hloop, @eq_comm _ next]

theorem Sound.leave (h : Sound links count search) (hstack : search.stack = top :: rest)
    (hseen : top ∈ search.discovered) : Sound links count (search.leave top rest) := by
  refine ⟨?_, h.discovered_lt, ?_, ?_, ?_, h.no_loop⟩
  · intro id hid
    exact h.stack_lt id (hstack ▸ List.mem_cons_of_mem _ hid)
  · intro id hid
    have hplace := h.seen id hid
    rw [hstack, List.mem_cons] at hplace
    dsimp only [Search.leave]
    split <;> grind
  · intro id hid
    dsimp only [Search.leave] at hid
    split at hid
    · exact h.finished_subset id hid
    · rcases List.mem_cons.1 hid with rfl | hid
      · exact hseen
      · exact h.finished_subset id hid
  · dsimp only [Search.leave]
    split
    · exact h.finished_nodup
    · next hnot => exact List.nodup_cons.2 ⟨hnot, h.finished_nodup⟩

theorem Sound.enter (h : Sound links count search) (hstack : search.stack = top :: rest)
    (hlinks : ∀ link ∈ links, link.2 < count) (hloop : (top, top) ∉ links) :
    Sound links count (enter links search top rest) := by
  refine ⟨?_, ?_, ?_, ?_, h.finished_nodup, ?_⟩
  · intro id hid
    rcases List.mem_append.1 hid with hid | hid
    · exact hlinks _ (mem_successors_iff.1 (List.mem_filter.1 hid).1)
    · exact h.stack_lt id (hstack ▸ hid)
  · intro id hid
    rcases List.mem_cons.1 hid with rfl | hid
    · exact h.stack_lt id (hstack ▸ List.mem_cons_self)
    · exact h.discovered_lt id hid
  · intro id hid
    rcases List.mem_cons.1 hid with rfl | hid
    · exact .inr (List.mem_append_right _ List.mem_cons_self)
    · rcases h.seen id hid with hid | hid
      · exact .inl hid
      · exact .inr (List.mem_append_right _ (hstack ▸ hid))
  · intro id hid
    exact List.mem_cons_of_mem _ (h.finished_subset id hid)
  · intro id hid
    rcases List.mem_cons.1 hid with rfl | hid
    · exact hloop
    · exact h.no_loop id hid

theorem work_leave_lt (hstack : search.stack = top :: rest) :
    (search.leave top rest).work links count < search.work links count := by
  simp [work, leave, hstack]

/-- The layer and the links that leave it are no longer left; the stack gets no more entries than
there are such links. -/
theorem work_enter_lt (htop : top < count) (hstack : search.stack = top :: rest)
    (hnot : top ∉ search.discovered) :
    (enter links search top rest).work links count < search.work links count := by
  have hunseen := length_unseen_lt htop hnot
  have hleft := length_links_eq hnot links
  have hpushed := List.length_filter_le
    (fun id => !(top :: search.discovered).contains id) (successors links top)
  simp only [work, enter, hstack, List.length_append, List.length_cons]
  omega

/-- One visit keeps the invariant, forgets no layer and leaves less to do. -/
theorem visit_sound (hlinks : ∀ link ∈ links, link.2 < count) (h : Sound links count search)
    (hstack : search.stack = top :: rest) (hvisit : visit links top rest search = .ok next) :
    Sound links count next ∧
      (∀ id, id ∈ search.discovered ∨ id ∈ search.stack →
        id ∈ next.discovered ∨ id ∈ next.stack) ∧
      next.work links count < search.work links count := by
  rcases visit_eq_ok_iff.1 hvisit with ⟨hseen, rfl⟩ | ⟨hnot, hloop, rfl⟩
  · refine ⟨h.leave hstack hseen, ?_, work_leave_lt hstack⟩
    intro id hid
    rw [hstack, List.mem_cons] at hid
    rcases hid with hid | rfl | hid
    · exact .inl hid
    · exact .inl hseen
    · exact .inr hid
  · have htop : top < count := h.stack_lt top (hstack ▸ List.mem_cons_self)
    refine ⟨h.enter hstack hlinks hloop, ?_, work_enter_lt htop hstack hnot⟩
    rintro id (hid | hid)
    · exact .inl (List.mem_cons_of_mem _ hid)
    · exact .inr (List.mem_append_right _ (hstack ▸ hid))

end

/-- With enough fuel a run ends with an empty stack, and has seen all it knew of. -/
theorem run_sound (hlinks : ∀ link ∈ links, link.2 < count) (fuel : Nat)
    (h : Sound links count search) (hfuel : search.work links count ≤ fuel)
    (hrun : run links fuel search = .ok last) :
    Sound links count last ∧ last.stack = [] ∧
      ∀ id, id ∈ search.discovered ∨ id ∈ search.stack → id ∈ last.discovered := by
  induction fuel generalizing search with
  | zero =>
    have hstack : search.stack = [] := List.length_eq_zero_iff.1 (by unfold work at hfuel; omega)
    cases hrun
    exact ⟨h, hstack, fun id hid => by simpa [hstack] using hid⟩
  | succ fuel ih =>
    unfold run at hrun
    split at hrun
    · next hstack =>
      cases hrun
      exact ⟨h, hstack, fun id hid => by simpa [hstack] using hid⟩
    · next top rest hstack =>
      obtain ⟨next, hvisit, hrun⟩ := bind_eq_ok_iff.1 hrun
      obtain ⟨hnext, hknown, hwork⟩ := visit_sound hlinks h hstack hvisit
      obtain ⟨hlast, hempty, hseen⟩ := ih hnext (by omega) hrun
      exact ⟨hlast, hempty, fun id hid => hseen id (hknown id hid)⟩

theorem Sound.restart (h : Sound links count search) {id : LayerId} (hid : id < count)
    (hempty : search.stack = []) : Sound links count { search with stack := [id] } where
  stack_lt := by simpa using hid
  discovered_lt := h.discovered_lt
  seen := fun other hother => .inl (by simpa [hempty] using h.seen other hother)
  finished_subset := h.finished_subset
  finished_nodup := h.finished_nodup
  no_loop := h.no_loop

theorem start_sound (hlinks : ∀ link ∈ links, link.2 < count) {id : LayerId} (hid : id < count)
    (h : Sound links count search) (hempty : search.stack = [])
    (hstart : start links count search id = .ok last) :
    Sound links count last ∧ last.stack = [] ∧ id ∈ last.discovered ∧
      ∀ other ∈ search.discovered, other ∈ last.discovered := by
  unfold start at hstart
  split at hstart
  · next hseen =>
    cases hstart
    exact ⟨h, hempty, hseen, fun _ hother => hother⟩
  · have hfuel : work links count { search with stack := [id] } ≤ count + links.length + 1 := by
      have hunseen := List.length_filter_le (fun id => !search.discovered.contains id)
        (List.range count)
      have hleft := List.length_filter_le (fun link => !search.discovered.contains link.1) links
      simp only [work, List.length_singleton, List.length_range] at hunseen ⊢
      omega
    obtain ⟨hlast, hstack, hseen⟩ := run_sound hlinks _ (h.restart hid hempty) hfuel hstart
    exact ⟨hlast, hstack, hseen id (by simp), fun other hother => hseen other (.inl hother)⟩

end Search

theorem checkOrder_eq_ok_iff {links : List (LayerId × LayerId)} {before order : List LayerId} :
    checkOrder links before order = .ok () ↔ ∀ done id rest, order = done ++ id :: rest →
      ∀ other, (other, id) ∈ links → other = id ∨ other ∈ done ∨ other ∈ before := by
  induction order generalizing before with
  | nil => simp [checkOrder]
  | cons head tail ih =>
    unfold checkOrder
    split
    · next other hfind =>
      have hmem := mem_predecessors_iff.1 (List.mem_of_find?_eq_some hfind)
      have hnot := List.find?_some hfind
      simp only [reduceCtorEq, false_iff]
      intro hall
      have := hall [] head tail rfl other hmem
      simp_all
    · next hfind =>
      rw [ih]
      simp only [List.find?_eq_none, mem_predecessors_iff] at hfind
      constructor
      · intro hall done id rest heq other hother
        rcases List.cons_eq_append_iff.1 heq with ⟨rfl, heq⟩ | ⟨done', rfl, rfl⟩
        · cases heq
          have := hfind other hother
          simp only [Bool.not_eq_true', Bool.not_eq_false, List.contains_iff_mem,
            List.mem_cons] at this
          tauto
        · have := hall done' id rest rfl other hother
          grind
      · intro hall done id rest heq other hother
        have := hall (head :: done) id rest (by simp [heq]) other hother
        grind

/-- The order lists every layer once, after all layers that feed it. -/
structure Sorts (network : Network) (order : List LayerId) : Prop where
  nodup : order.Nodup
  mem_iff : ∀ {id : LayerId}, id ∈ order ↔ id < network.layers.length
  source_mem : ∀ {done id rest}, order = done ++ id :: rest →
    ∀ connection ∈ network.connections, connection.target.layer = id →
      connection.source.layer ∈ done

theorem Sorts.exists_layer {network : Network} {order : List LayerId} (h : network.Sorts order)
    {id : LayerId} (hid : id ∈ order) : ∃ layer, network.layers[id]? = some layer :=
  ⟨_, List.getElem?_eq_getElem (h.mem_iff.1 hid)⟩

theorem Sorts.mem_of_layer {network : Network} {order : List LayerId} (h : network.Sorts order)
    {id : LayerId} {layer : Layer} (hlayer : network.layers[id]? = some layer) : id ∈ order :=
  h.mem_iff.2 (List.getElem?_eq_some_iff.1 hlayer).1

theorem Sorts.not_mem_done {network : Network} {order done rest : List LayerId} {id : LayerId}
    (h : network.Sorts order) (horder : order = done ++ id :: rest) : id ∉ done := by
  have hnodup := h.nodup
  rw [horder, List.nodup_append] at hnodup
  exact fun hdone => hnodup.2.2 id hdone id (by simp) rfl

/-- A layer feeds neither itself nor a layer before it. -/
theorem Sorts.target_not_mem {network : Network} {order done rest : List LayerId} {id : LayerId}
    (h : network.Sorts order) (horder : order = done ++ id :: rest) {connection : Connection}
    (hmem : connection ∈ network.connections) (hsource : connection.source.layer = id) :
    connection.target.layer ∉ done ++ [id] := by
  have hfresh := h.not_mem_done horder
  intro htarget
  rw [List.mem_append, List.mem_singleton] at htarget
  rcases htarget with hbefore | hself
  · obtain ⟨first, second, hdone⟩ := List.append_of_mem hbefore
    have hsplit : order = first ++ connection.target.layer :: (second ++ id :: rest) := by
      simp [horder, hdone]
    have hearlier := h.source_mem hsplit connection hmem rfl
    exact hfresh (hdone ▸ List.mem_append_left _ (hsource ▸ hearlier))
  · exact hfresh (hsource ▸ h.source_mem horder connection hmem hself)

theorem Search.sound_of_foldlM {links : List (LayerId × LayerId)} {count : Nat} {search : Search}
    (hlinks : ∀ link ∈ links, link.2 < count)
    (h : (List.range count).foldlM (Search.start links count) ⟨[], [], []⟩ = .ok search) :
    Search.Sound links count search ∧ ∀ id < count, id ∈ search.finished := by
  have hstarted := foldlM_invariant
    (fun done search => Search.Sound links count search ∧ search.stack = [] ∧
      ∀ id ∈ done, id ∈ search.discovered) ⟨by constructor <;> simp, rfl, by simp⟩ ?_ h
  · obtain ⟨hsound, hempty, hseen⟩ := hstarted
    refine ⟨hsound, fun id hid => ?_⟩
    simpa [hempty] using hsound.seen id (hseen id (List.mem_range.2 hid))
  · rintro done id rest state next hitems ⟨hstate, hempty, hdone⟩ hnext
    have hid : id < count := List.mem_range.1 (hitems ▸ by simp)
    obtain ⟨hnext, hstack, hseen, hkept⟩ := Search.start_sound hlinks hid hstate hempty hnext
    refine ⟨hnext, hstack, fun other hother => ?_⟩
    rcases List.mem_append.1 hother with hother | hother
    · exact hkept other (hdone other hother)
    · exact List.mem_singleton.1 hother ▸ hseen

/-- The order of the layers of a graph lists each of them once, after those that feed it. -/
theorem sorted_of_sortLinks {links : List (LayerId × LayerId)} {count : Nat} {order : List LayerId}
    (hlinks : ∀ link ∈ links, link.2 < count) (h : sortLinks links count = .ok order) :
    order.Nodup ∧ (∀ {id : LayerId}, id ∈ order ↔ id < count) ∧
      ∀ {done id rest}, order = done ++ id :: rest → ∀ other, (other, id) ∈ links →
        other ∈ done := by
  obtain ⟨search, hsearch, hchecked⟩ := bind_eq_ok_iff.1 h
  obtain ⟨⟨⟩, hcheck, hfinished⟩ := bind_eq_ok_iff.1 hchecked
  cases hfinished
  obtain ⟨hsound, hall⟩ := Search.sound_of_foldlM hlinks hsearch
  refine ⟨hsound.finished_nodup, ⟨fun hid => ?_, hall _⟩, fun {done id rest} heq other hlink => ?_⟩
  · exact hsound.discovered_lt _ (hsound.finished_subset _ hid)
  · have hid : id ∈ search.discovered := hsound.finished_subset id (by simp [heq])
    rcases checkOrder_eq_ok_iff.1 hcheck done id rest heq other hlink with hself | hdone | hnone
    · exact absurd (hself ▸ hlink) (hsound.no_loop id hid)
    · exact hdone
    · cases hnone

theorem WellFormed.sorts {network : Network} (h : network.WellFormed) {order : List LayerId}
    (horder : network.topologicalOrder = .ok order) : network.Sorts order := by
  have hlinks : ∀ link ∈ network.links, link.2 < network.layers.length := by
    rintro ⟨source, target⟩ hmem
    obtain ⟨connection, hconnection, -, rfl⟩ := mem_links_iff.1 hmem
    obtain ⟨layer, hlayer, -⟩ := h.target_exists connection hconnection
    exact (List.getElem?_eq_some_iff.1 hlayer).1
  unfold topologicalOrder at horder
  split at horder
  · next sorted hsort =>
    cases horder
    obtain ⟨hnodup, hmem, hbefore⟩ := sorted_of_sortLinks hlinks hsort
    refine ⟨hnodup, hmem, fun {done id rest} heq connection hconnection htarget => ?_⟩
    exact hbefore heq _ (mem_links_iff.2 ⟨connection, hconnection, rfl, htarget⟩)
  · cases horder

end ShapeFlow.Network
