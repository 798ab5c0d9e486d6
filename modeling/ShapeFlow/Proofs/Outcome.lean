import Mathlib.Data.List.Forall2
import ShapeFlow.Journal

/-!
Chains of steps that may be refused. A chain succeeds if every step does, an invariant of the steps
holds of the chain, and two chains whose steps keep a relation end alike: both with related states or
both with the same refusal. A chain is refused for the first fault of its items.
-/

namespace ShapeFlow

variable {ε α β σ τ : Type}

@[simp] theorem ok_bind (value : α) (next : α → Except ε β) : Except.ok value >>= next = next value :=
  rfl

@[simp] theorem error_bind (cause : ε) (next : α → Except ε β) :
    Except.error cause >>= next = .error cause := rfl

@[simp] theorem map_ok (value : α) (change : α → β) :
    change <$> (Except.ok value : Except ε α) = .ok (change value) := rfl

theorem bind_eq_ok_iff {outcome : Except ε α} {next : α → Except ε β} {result : β} :
    outcome >>= next = .ok result ↔ ∃ value, outcome = .ok value ∧ next value = .ok result := by
  cases outcome <;> simp

theorem bind_eq_error_iff {outcome : Except ε α} {next : α → Except ε β} {cause : ε} :
    outcome >>= next = .error cause ↔
      outcome = .error cause ∨ ∃ value, outcome = .ok value ∧ next value = .error cause := by
  cases outcome <;> simp

theorem map_eq_ok_iff {outcome : Except ε α} {change : α → β} {result : β} :
    change <$> outcome = .ok result ↔ ∃ value, outcome = .ok value ∧ change value = result := by
  cases outcome <;> simp [Functor.map, Except.map]

theorem map_eq_self {outcome : Except ε α} {change : α → α}
    (h : ∀ value, outcome = .ok value → change value = value) : change <$> outcome = outcome := by
  cases outcome with
  | error cause => rfl
  | ok value => rw [map_ok, h value rfl]

theorem toOption_eq_some_iff {outcome : Except ε α} {value : α} :
    outcome.toOption = some value ↔ outcome = .ok value := by
  cases outcome <;> simp [Except.toOption]

theorem exists_left_of_forall₂ {related : α → β → Prop} {items : List α} {results : List β}
    (h : List.Forall₂ related items results) {result : β} (hresult : result ∈ results) :
    ∃ item ∈ items, related item result := by
  induction h with
  | nil => cases hresult
  | cons hfirst _ ih =>
    rcases List.mem_cons.1 hresult with rfl | hresult
    · exact ⟨_, List.mem_cons_self, hfirst⟩
    · obtain ⟨item, hitem, hrelated⟩ := ih hresult
      exact ⟨item, List.mem_cons_of_mem _ hitem, hrelated⟩

theorem mapM_eq_some_iff {step : α → Option β} {items : List α} {results : List β} :
    items.mapM step = some results ↔
      List.Forall₂ (fun item result => step item = some result) items results := by
  induction items generalizing results with
  | nil => cases results <;> simp [pure]
  | cons item rest ih =>
    simp only [List.mapM_cons, Option.bind_eq_bind, Option.bind_eq_some_iff, List.forall₂_cons_left_iff, ih]
    constructor
    · rintro ⟨result, hresult, results', hresults, heq⟩
      cases heq
      exact ⟨result, results', hresult, hresults, rfl⟩
    · rintro ⟨result, results', hresult, hresults, rfl⟩
      exact ⟨result, hresult, results', hresults, rfl⟩

theorem exists_item_of_mapM_some {step : α → Option β} {items : List α} {results : List β}
    (h : items.mapM step = some results) {result : β} (hresult : result ∈ results) :
    ∃ item ∈ items, step item = some result :=
  exists_left_of_forall₂ (mapM_eq_some_iff.1 h) hresult

theorem mapM_eq_ok_iff {step : α → Except ε β} {items : List α} {results : List β} :
    items.mapM step = .ok results ↔
      List.Forall₂ (fun item result => step item = .ok result) items results := by
  induction items generalizing results with
  | nil =>
    cases results <;> simp [pure, Except.pure]
  | cons item rest ih =>
    simp only [List.mapM_cons, bind_eq_ok_iff, List.forall₂_cons_left_iff, ih]
    constructor
    · rintro ⟨result, hresult, results', hresults, heq⟩
      cases heq
      exact ⟨result, results', hresult, hresults, rfl⟩
    · rintro ⟨result, results', hresult, hresults, rfl⟩
      exact ⟨result, hresult, results', hresults, rfl⟩

theorem mapM_eq_ok_iff_getElem? {step : α → Except ε β} {items : List α} {results : List β} :
    items.mapM step = .ok results ↔ results.length = items.length ∧
      ∀ (place : Nat) (item : α) (result : β), items[place]? = some item →
        results[place]? = some result → step item = .ok result := by
  rw [mapM_eq_ok_iff, List.forall₂_iff_get, @eq_comm _ items.length]
  refine and_congr_right fun _ => ⟨fun hall place item result hitem hresult => ?_,
    fun hall place hitem hresult => ?_⟩
  · obtain ⟨hlt, rfl⟩ := List.getElem?_eq_some_iff.1 hitem
    obtain ⟨hlt', rfl⟩ := List.getElem?_eq_some_iff.1 hresult
    exact hall place hlt hlt'
  · exact hall place _ _ (List.getElem?_eq_getElem hitem) (List.getElem?_eq_getElem hresult)

theorem mapM_eq_ok_of_forall {step : α → Except ε β} {value : α → β} {items : List α}
    (h : ∀ item ∈ items, step item = .ok (value item)) : items.mapM step = .ok (items.map value) := by
  rw [mapM_eq_ok_iff, List.forall₂_map_right_iff, List.forall₂_same]
  exact h

theorem exists_mapM_of_forall {step : α → Except ε β} {items : List α}
    (h : ∀ item ∈ items, ∃ result, step item = .ok result) :
    ∃ results, items.mapM step = .ok results := by
  induction items with
  | nil => exact ⟨[], rfl⟩
  | cons item rest ih =>
    obtain ⟨⟨result, hresult⟩, hrest⟩ := List.forall_mem_cons.1 h
    obtain ⟨results, hresults⟩ := ih hrest
    exact ⟨result :: results, by rw [List.mapM_cons, hresult, ok_bind, hresults, ok_bind]; rfl⟩

theorem mapM_congr {left right : α → Except ε β} {items : List α}
    (h : ∀ item ∈ items, left item = right item) : items.mapM left = items.mapM right := by
  induction items with
  | nil => rfl
  | cons item rest ih =>
    obtain ⟨hitem, hrest⟩ := List.forall_mem_cons.1 h
    rw [List.mapM_cons, List.mapM_cons, hitem, ih hrest]

/-- What is done to every result can be done at the end. -/
theorem mapM_map_eq {γ : Type} (change : β → γ) (step : α → Except ε β) (items : List α) :
    (items.mapM fun item => change <$> step item) = List.map change <$> items.mapM step := by
  induction items with
  | nil => rfl
  | cons item rest ih =>
    rw [List.mapM_cons, List.mapM_cons, ih]
    cases step item with
    | error cause => rfl
    | ok result => cases rest.mapM step <;> rfl

theorem exists_result_of_mapM {step : α → Except ε β} {items : List α} {results : List β}
    (h : items.mapM step = .ok results) {item : α} (hitem : item ∈ items) :
    ∃ result ∈ results, step item = .ok result :=
  exists_left_of_forall₂ (mapM_eq_ok_iff.1 h).flip hitem

theorem exists_item_of_mapM {step : α → Except ε β} {items : List α} {results : List β}
    (h : items.mapM step = .ok results) {result : β} (hresult : result ∈ results) :
    ∃ item ∈ items, step item = .ok result :=
  exists_left_of_forall₂ (mapM_eq_ok_iff.1 h) hresult

/-- What every step carries over from the item to its result, the chain carries over. -/
theorem map_eq_of_mapM {step : α → Except ε β} {items : List α} {results : List β} {γ : Type}
    (before : α → γ) (after : β → γ)
    (hstep : ∀ item result, step item = .ok result → after result = before item)
    (h : items.mapM step = .ok results) : results.map after = items.map before := by
  have hall := mapM_eq_ok_iff.1 h
  clear h
  induction hall with
  | nil => rfl
  | cons hfirst _ ih => rw [List.map_cons, List.map_cons, hstep _ _ hfirst, ih]

theorem forM_eq_ok_iff {check : α → Except ε Unit} {items : List α} :
    items.forM check = .ok () ↔ ∀ item ∈ items, check item = .ok () := by
  induction items with
  | nil => simp [pure, Except.pure]
  | cons item rest ih =>
    rw [List.forM_eq_forM] at ih ⊢
    rw [List.forM_cons, bind_eq_ok_iff, List.forall_mem_cons, ← ih]
    exact ⟨fun ⟨_, hitem, hrest⟩ => ⟨hitem, hrest⟩, fun ⟨hitem, hrest⟩ => ⟨(), hitem, hrest⟩⟩

/-- A chain whose steps keep an invariant, given the items already done, has it at its end, or at the
step by which it is refused. -/
theorem foldlM_cases {step : σ → α → Except ε σ} (invariant : List α → σ → Prop) {items : List α}
    {start : σ} (hstart : invariant [] start)
    (hstep : ∀ done item rest state next, items = done ++ item :: rest → invariant done state →
      step state item = .ok next → invariant (done ++ [item]) next) :
    (∃ last, items.foldlM step start = .ok last ∧ invariant items last) ∨
      ∃ done item rest state cause, items = done ++ item :: rest ∧ invariant done state ∧
        step state item = .error cause ∧ items.foldlM step start = .error cause := by
  suffices ∀ rest done state, items = done ++ rest → invariant done state →
      (∃ last, rest.foldlM step state = .ok last ∧ invariant items last) ∨
        ∃ done item later reached cause, items = done ++ item :: later ∧ invariant done reached ∧
          step reached item = .error cause ∧ rest.foldlM step state = .error cause from
    this items [] start rfl hstart
  intro rest
  induction rest with
  | nil =>
    intro done state hitems hinv
    exact .inl ⟨state, rfl, by simpa [hitems] using hinv⟩
  | cons item rest ih =>
    intro done state hitems hinv
    rw [List.foldlM_cons]
    cases hnext : step state item with
    | error cause => exact .inr ⟨done, item, rest, state, cause, hitems, hinv, hnext, rfl⟩
    | ok next =>
      exact ih (done ++ [item]) next (by simp [hitems])
        (hstep done item rest state next hitems hinv hnext)

theorem foldlM_invariant {step : σ → α → Except ε σ} (invariant : List α → σ → Prop)
    {items : List α} {start last : σ} (hstart : invariant [] start)
    (hstep : ∀ done item rest state next, items = done ++ item :: rest → invariant done state →
      step state item = .ok next → invariant (done ++ [item]) next)
    (h : items.foldlM step start = .ok last) : invariant items last := by
  rcases foldlM_cases invariant hstart hstep with ⟨_, hlast, hinv⟩ | ⟨_, _, _, _, _, -, -, -, hrefused⟩
  · rw [hlast, Except.ok.injEq] at h
    exact h ▸ hinv
  · rw [hrefused] at h
    cases h

/-- A chain is not refused if its steps keep an invariant under which none of them is. -/
theorem foldlM_total {step : σ → α → Except ε σ} (invariant : List α → σ → Prop) {items : List α}
    {start : σ} (hstart : invariant [] start)
    (hstep : ∀ done item rest state, items = done ++ item :: rest → invariant done state →
      ∃ next, step state item = .ok next ∧ invariant (done ++ [item]) next) :
    ∃ last, items.foldlM step start = .ok last ∧ invariant items last := by
  have hkeeps : ∀ done item rest state next, items = done ++ item :: rest → invariant done state →
      step state item = .ok next → invariant (done ++ [item]) next := by
    intro done item rest state next hitems hinv hnext
    obtain ⟨next', hnext', hinv'⟩ := hstep done item rest state hitems hinv
    rw [hnext, Except.ok.injEq] at hnext'
    exact hnext' ▸ hinv'
  rcases foldlM_cases invariant hstart hkeeps with
    hlast | ⟨done, item, rest, state, cause, hitems, hinv, hrefused, -⟩
  · exact hlast
  · obtain ⟨next, hnext, -⟩ := hstep done item rest state hitems hinv
    rw [hrefused] at hnext
    cases hnext

theorem exists_refusal_of_foldlM_invariant {step : σ → α → Except ε σ}
    (invariant : List α → σ → Prop) {items : List α} {start : σ} {cause : ε}
    (hstart : invariant [] start)
    (hstep : ∀ done item rest state next, items = done ++ item :: rest → invariant done state →
      step state item = .ok next → invariant (done ++ [item]) next)
    (h : items.foldlM step start = .error cause) :
    ∃ done item rest state, items = done ++ item :: rest ∧ invariant done state ∧
      step state item = .error cause := by
  rcases foldlM_cases invariant hstart hstep with
    ⟨last, hlast, -⟩ | ⟨done, item, rest, state, cause', hitems, hinv, hstate, hrefused⟩
  · rw [hlast] at h
    cases h
  · rw [hrefused, Except.error.injEq] at h
    exact ⟨done, item, rest, state, hitems, hinv, h ▸ hstate⟩

theorem exists_refusal_of_foldlM {step : σ → α → Except ε σ} {items : List α} {start : σ} {cause : ε}
    (h : items.foldlM step start = .error cause) :
    ∃ item ∈ items, ∃ state, step state item = .error cause := by
  obtain ⟨done, item, rest, state, hitems, -, hstate⟩ :=
    exists_refusal_of_foldlM_invariant (fun _ _ => True) trivial (fun _ _ _ _ _ _ _ _ => trivial) h
  exact ⟨item, by simp [hitems], state, hstate⟩

theorem exists_refusal_of_mapM {step : α → Except ε β} {items : List α} {cause : ε}
    (h : items.mapM step = .error cause) : ∃ item ∈ items, step item = .error cause := by
  induction items with
  | nil => cases h
  | cons item rest ih =>
    rw [List.mapM_cons, bind_eq_error_iff] at h
    rcases h with hitem | ⟨result, -, hrest⟩
    · exact ⟨item, List.mem_cons_self, hitem⟩
    · rcases bind_eq_error_iff.1 hrest with hrest | ⟨results, -, hpure⟩
      · obtain ⟨other, hother, hrefused⟩ := ih hrest
        exact ⟨other, List.mem_cons_of_mem _ hother, hrefused⟩
      · cases hpure

theorem exists_refusal_of_forM {check : α → Except ε Unit} {items : List α} {cause : ε}
    (h : items.forM check = .error cause) : ∃ item ∈ items, check item = .error cause := by
  induction items with
  | nil => cases h
  | cons item rest ih =>
    rw [List.forM_eq_forM, List.forM_cons, bind_eq_error_iff] at h
    rcases h with hitem | ⟨_, -, hrest⟩
    · exact ⟨item, List.mem_cons_self, hitem⟩
    · obtain ⟨other, hother, hrefused⟩ := ih hrest
      exact ⟨other, List.mem_cons_of_mem _ hother, hrefused⟩

theorem foldl_invariant {step : σ → α → σ} (invariant : List α → σ → Prop) {items : List α}
    {start : σ} (hstart : invariant [] start)
    (hstep : ∀ done item rest state, items = done ++ item :: rest → invariant done state →
      invariant (done ++ [item]) (step state item)) : invariant items (items.foldl step start) := by
  suffices ∀ rest done state, items = done ++ rest → invariant done state →
      invariant items (rest.foldl step state) from this items [] start rfl hstart
  intro rest
  induction rest with
  | nil =>
    intro done state hitems hinv
    simpa [hitems] using hinv
  | cons item rest ih =>
    intro done state hitems hinv
    exact ih (done ++ [item]) _ (by simp [hitems]) (hstep done item rest state hitems hinv)

/-- Two computations end alike: with related results, or with the same refusal. -/
def Alike (related : σ → τ → Prop) (left : Except ε σ) (right : Except ε τ) : Prop :=
  (∃ a b, left = .ok a ∧ right = .ok b ∧ related a b) ∨
    ∃ cause, left = .error cause ∧ right = .error cause

theorem alike_of_map_eq {γ : Type} {left : Except ε σ} {right : Except ε τ} {change : σ → γ}
    {change' : τ → γ} (h : change <$> left = change' <$> right) :
    Alike (fun a b => change a = change' b) left right := by
  cases left with
  | error cause =>
    cases right with
    | error other =>
      cases h
      exact .inr ⟨cause, rfl, rfl⟩
    | ok b => cases h
  | ok a =>
    cases right with
    | error other => cases h
    | ok b => exact .inl ⟨a, b, rfl, rfl, Except.ok.inj h⟩

theorem foldlM_alike {left : σ → α → Except ε σ} {right : τ → α → Except ε τ}
    (related : List α → σ → τ → Prop) {items : List α} {a : σ} {b : τ} (hstart : related [] a b)
    (hstep : ∀ done item rest a b, items = done ++ item :: rest → related done a b →
      Alike (related (done ++ [item])) (left a item) (right b item)) :
    Alike (related items) (items.foldlM left a) (items.foldlM right b) := by
  suffices ∀ rest done a b, items = done ++ rest → related done a b →
      Alike (related items) (rest.foldlM left a) (rest.foldlM right b) from
    this items [] a b rfl hstart
  intro rest
  induction rest with
  | nil =>
    intro done a b hitems hrel
    exact .inl ⟨a, b, rfl, rfl, by simpa [hitems] using hrel⟩
  | cons item rest ih =>
    intro done a b hitems hrel
    rw [List.foldlM_cons, List.foldlM_cons]
    rcases hstep done item rest a b hitems hrel with ⟨a', b', ha, hb, hrel'⟩ | ⟨cause, ha, hb⟩
    · rw [ha, hb]
      exact ih (done ++ [item]) a' b' (by simp [hitems]) hrel'
    · exact .inr ⟨cause, by rw [ha, error_bind], by rw [hb, error_bind]⟩

/-- Two chains are the same if their steps are, in every state that an invariant allows. -/
theorem foldlM_congr {left right : σ → α → Except ε σ} (invariant : List α → σ → Prop)
    {items : List α} {start : σ} (hstart : invariant [] start)
    (hstep : ∀ done item rest state, items = done ++ item :: rest → invariant done state →
      left state item = right state item ∧
        ∀ next, right state item = .ok next → invariant (done ++ [item]) next) :
    items.foldlM left start = items.foldlM right start := by
  have halike : Alike (fun a b => a = b ∧ invariant items a) (items.foldlM left start)
      (items.foldlM right start) := by
    apply foldlM_alike (fun done a b => a = b ∧ invariant done a) ⟨rfl, hstart⟩
    rintro done item rest state _ hitems ⟨rfl, hinv⟩
    obtain ⟨heq, hnext⟩ := hstep done item rest state hitems hinv
    rw [heq]
    cases hright : right state item with
    | error cause => exact .inr ⟨cause, rfl, rfl⟩
    | ok next => exact .inl ⟨next, next, rfl, rfl, rfl, hnext next hright⟩
  rcases halike with ⟨a, b, hleft, hright, rfl, -⟩ | ⟨cause, hleft, hright⟩
  · rw [hleft, hright]
  · rw [hleft, hright]

/-! ### The first fault decides -/

/-- The computation is refused for the first of the faults; without a fault it has a result as
expected. -/
inductive Decided (expected : σ → Prop) : List ε → Except ε σ → Prop
  | refused (cause : ε) (others : List ε) : Decided expected (cause :: others) (.error cause)
  | accepted {value : σ} (h : expected value) : Decided expected [] (.ok value)

/-- The faults of a list of items, each item seen after those before it. -/
def faultsAfter (faults : List α → α → List ε) (done : List α) : List α → List ε
  | [] => []
  | item :: rest => faults done item ++ faultsAfter faults (done ++ [item]) rest

theorem faultsAfter_of_apart (faults : α → List ε) (done items : List α) :
    faultsAfter (fun _ item => faults item) done items = items.flatMap faults := by
  induction items generalizing done with
  | nil => rfl
  | cons item rest ih => rw [faultsAfter, ih, List.flatMap_cons]

theorem faultsAfter_map {faults : List β → β → List ε} (change : α → β) (done items : List α) :
    faultsAfter faults (done.map change) (items.map change) =
      faultsAfter (fun done item => faults (done.map change) (change item)) done items := by
  induction items generalizing done with
  | nil => rfl
  | cons item rest ih => rw [List.map_cons, faultsAfter, faultsAfter, ← ih, List.map_append,
      List.map_singleton]

namespace Decided

variable {expected : σ → Prop} {result : τ → Prop} {faults others : List ε} {outcome : Except ε σ}

theorem bind {next : σ → Except ε τ} (h : Decided expected faults outcome)
    (hnext : ∀ value, expected value → Decided result others (next value)) :
    Decided result (faults ++ others) (outcome >>= next) := by
  cases h with
  | refused cause rest => exact .refused cause (rest ++ others)
  | accepted hvalue => exact hnext _ hvalue

theorem mono {others : σ → Prop} (h : Decided expected faults outcome)
    (hexpected : ∀ value, expected value → others value) : Decided others faults outcome := by
  cases h with
  | refused cause rest => exact .refused cause rest
  | accepted hvalue => exact .accepted (hexpected _ hvalue)

theorem bind_ok {change : σ → τ} (h : Decided expected faults outcome)
    (hchange : ∀ value, expected value → result (change value)) :
    Decided result faults (outcome >>= fun value => .ok (change value)) := by
  rw [← List.append_nil faults]
  exact h.bind fun value hvalue => .accepted (hchange value hvalue)

theorem check {refused : Prop} [Decidable refused] {cause : ε}
    (h : ¬ refused → Decided expected others outcome) :
    Decided expected ((if refused then [cause] else []) ++ others)
      (if refused then .error cause else outcome) := by
  by_cases hrefused : refused
  · rw [if_pos hrefused, if_pos hrefused]
    exact .refused cause others
  · rw [if_neg hrefused, if_neg hrefused]
    exact h hrefused

theorem mapError {δ : Type} (h : Decided expected faults outcome) (change : ε → δ) :
    Decided expected (faults.map change) (outcome.mapError change) := by
  cases h with
  | refused cause rest => exact .refused (change cause) (rest.map change)
  | accepted hvalue => exact .accepted hvalue

theorem foldlM {step : σ → α → Except ε σ} {faults : List α → α → List ε}
    (invariant : List α → σ → Prop) {items : List α} {start : σ} (hstart : invariant [] start)
    (hstep : ∀ done item rest state, items = done ++ item :: rest → invariant done state →
      Decided (invariant (done ++ [item])) (faults done item) (step state item)) :
    Decided (invariant items) (faultsAfter faults [] items) (items.foldlM step start) := by
  suffices ∀ rest done state, items = done ++ rest → invariant done state →
      Decided (invariant items) (faultsAfter faults done rest) (rest.foldlM step state) from
    this items [] start rfl hstart
  intro rest
  induction rest with
  | nil =>
    intro done state hitems hinv
    exact .accepted (by simpa [hitems] using hinv)
  | cons item rest ih =>
    intro done state hitems hinv
    rw [List.foldlM_cons, faultsAfter]
    apply (hstep done item rest state hitems hinv).bind
    intro next hnext
    exact ih (done ++ [item]) next (by simp [hitems]) hnext

theorem mapM {step : α → Except ε β} {expected : α → β → Prop} {faults : α → List ε} {items : List α}
    (h : ∀ item ∈ items, Decided (expected item) (faults item) (step item)) :
    Decided (List.Forall₂ expected items) (items.flatMap faults) (items.mapM step) := by
  induction items with
  | nil => exact .accepted .nil
  | cons item rest ih =>
    obtain ⟨hitem, hrest⟩ := List.forall_mem_cons.1 h
    rw [List.mapM_cons, List.flatMap_cons]
    apply hitem.bind
    intro result hresult
    apply (ih hrest).bind_ok
    exact fun results hresults => .cons hresult hresults

theorem forM {check : α → Except ε Unit} {faults : α → List ε} {items : List α}
    (h : ∀ item ∈ items, Decided (fun _ => True) (faults item) (check item)) :
    Decided (fun _ => True) (items.flatMap faults) (items.forM check) := by
  induction items with
  | nil => exact .accepted trivial
  | cons item rest ih =>
    obtain ⟨hitem, hrest⟩ := List.forall_mem_cons.1 h
    rw [List.forM_eq_forM, List.forM_cons, List.flatMap_cons]
    exact hitem.bind fun _ _ => ih hrest

theorem eq_error_iff (h : Decided expected faults outcome) {cause : ε} :
    outcome = .error cause ↔ faults.head? = some cause := by
  cases h with
  | refused first others => simp
  | accepted hvalue => simp

theorem exists_ok (h : Decided expected ([] : List ε) outcome) :
    ∃ value, outcome = .ok value ∧ expected value := by
  cases h with
  | accepted hvalue => exact ⟨_, rfl, hvalue⟩

theorem eq_nil_of_ok {value : σ} (h : Decided expected faults (.ok value)) : faults = [] := by
  cases h
  rfl

theorem expected_of_ok (h : Decided expected faults outcome) {value : σ} (hok : outcome = .ok value) :
    expected value := by
  cases h with
  | refused cause others => cases hok
  | accepted hvalue =>
    cases hok
    exact hvalue

theorem exists_ok_iff (h : Decided expected faults outcome) :
    (∃ value, outcome = .ok value) ↔ faults = [] := by
  cases h with
  | refused cause others => simp
  | accepted hvalue => simp

end Decided

namespace Journal

theorem outcome_foldlM (step : σ → α → Journal ε σ) (items : List α) (start : σ) :
    (items.foldlM step start).outcome =
      items.foldlM (fun state item => (step state item).outcome) start := by
  induction items generalizing start with
  | nil => rfl
  | cons item rest ih => simp only [List.foldlM_cons, outcome_bind, ih]

theorem lift_map (change : α → β) (outcome : Except ε α) :
    (liftM (change <$> outcome) : Journal ε β) = change <$> (liftM outcome : Journal ε α) := by
  cases outcome <;> rfl

theorem outcome_mapM (step : α → Journal ε β) (items : List α) :
    (items.mapM step).outcome = items.mapM fun item => (step item).outcome := by
  induction items with
  | nil => rfl
  | cons item rest ih => simp only [List.mapM_cons, outcome_bind, ih]; rfl

end Journal

end ShapeFlow
