import ShapeFlow.Proofs.Outcome

/-!
Calls that work on a state in place. What a call has written before it ends stays written, also if it is
refused. Some calls look things up by position: a position beyond the end of a list is not refused, it
breaks the call off.
-/

namespace ShapeFlow

variable {ε σ α β : Type}

/-- A call on a state in place. What it has written stays written if it ends early. -/
abbrev InPlace (ε σ : Type) := EStateM ε σ

/-- The state that a call leaves, also if it ends early. -/
def leftBy : EStateM.Result ε σ α → σ
  | .ok _ state => state
  | .error _ state => state

/-- How a call ends that leaves the state as it was if it is refused. -/
def settle (state : σ) : Except ε (α × σ) → EStateM.Result ε σ α
  | .ok (value, next) => .ok value next
  | .error cause => .error cause state

theorem settle_eq_ok_iff {state next : σ} {outcome : Except ε (α × σ)} {value : α} :
    settle state outcome = .ok value next ↔ outcome = .ok (value, next) := by
  rcases outcome with cause | ⟨value, next⟩ <;> simp [settle]

theorem settle_eq_error_iff {state left : σ} {outcome : Except ε (α × σ)} {cause : ε} :
    settle state outcome = .error cause left ↔ outcome = .error cause ∧ state = left := by
  cases outcome <;> simp [settle]

theorem leftBy_settle (state : σ) (outcome : Except ε σ) :
    leftBy (settle state (((), ·) <$> outcome)) = outcome.toOption.getD state := by
  cases outcome <;> rfl

namespace InPlace

def of (outcome : Except ε α) : InPlace ε σ α :=
  match outcome with
  | .ok value => return value
  | .error cause => throw cause

def ask (query : σ → Except ε α) : InPlace ε σ α := do
  of (query (← get))

def refuseIf (refused : Prop) [Decidable refused] (cause : ε) : InPlace ε σ Unit :=
  if refused then throw cause else return

section

variable (state : σ)

theorem run_get_bind (next : σ → InPlace ε σ α) : (get >>= next).run state = (next state).run state :=
  rfl

theorem run_of_bind (outcome : Except ε α) (next : α → InPlace ε σ β) :
    (of outcome >>= next).run state = match outcome with
      | .ok value => (next value).run state
      | .error cause => .error cause state := by
  cases outcome <;> rfl

theorem run_ask_bind (query : σ → Except ε α) (next : α → InPlace ε σ β) :
    (ask query >>= next).run state = match query state with
      | .ok value => (next value).run state
      | .error cause => .error cause state := by
  simp only [ask, bind_assoc, run_get_bind, run_of_bind]

theorem run_refuseIf_bind (refused : Prop) [Decidable refused] (cause : ε) (next : Unit → InPlace ε σ α) :
    (refuseIf refused cause >>= next).run state =
      if refused then .error cause state else (next ()).run state := by
  unfold refuseIf
  split <;> rfl

end

end InPlace

/-! ### Look-ups by position -/

/-- How a call ends early: it refuses, or it reaches beyond the end of a list. -/
inductive Fault (ε : Type) where
  | refused (cause : ε)
  | outOfRange
  deriving DecidableEq

/-- The item at a position that is taken to be there. -/
def itemAt (items : List α) (position : Nat) : Except (Fault ε) α :=
  match items[position]? with
  | some item => .ok item
  | none => .error .outOfRange

theorem itemAt_eq_ok {items : List α} {position : Nat} {item : α} (h : items[position]? = some item) :
    (itemAt items position : Except (Fault ε) α) = .ok item := by
  rw [itemAt, h]

theorem mapM_mapError {δ : Type} (change : ε → δ) (step : α → Except ε β) (items : List α) :
    (items.mapM fun item => (step item).mapError change) = (items.mapM step).mapError change := by
  induction items with
  | nil => rfl
  | cons item rest ih =>
    rw [List.mapM_cons, List.mapM_cons, ih]
    cases step item with
    | error cause => rfl
    | ok result => cases rest.mapM step <;> rfl

namespace InPlace

/-- How a call ends that stays in range, and that leaves the state as it was if it is refused. -/
def ending (state : σ) (outcome : Except ε σ) : EStateM.Result (Fault ε) σ Unit :=
  settle state (((), ·) <$> outcome.mapError .refused)

@[simp] theorem ending_ok (state next : σ) : ending state (.ok next : Except ε σ) = .ok () next := rfl

@[simp] theorem ending_error (state : σ) (cause : ε) :
    ending state (.error cause) = .error (.refused cause) state := rfl

theorem ending_eq_error_iff {state left : σ} {outcome : Except ε σ} {fault : Fault ε} :
    ending state outcome = .error fault left ↔
      left = state ∧ ∃ cause, outcome = .error cause ∧ fault = .refused cause := by
  cases outcome <;> simp [eq_comm, and_comm]

theorem run_itemAt_bind (state : σ) {items : List α} {position : Nat} (h : position < items.length)
    (next : α → InPlace (Fault ε) σ β) :
    (of (itemAt items position) >>= next).run state = (next items[position]).run state := by
  rw [run_of_bind, itemAt_eq_ok (List.getElem?_eq_getElem h)]

end InPlace

end ShapeFlow
