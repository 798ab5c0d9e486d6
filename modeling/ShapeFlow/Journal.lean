/-!
Computations that may be refused and record what they do. What was recorded before a refusal is
kept.
-/

namespace ShapeFlow

inductive Level where
  | debug
  | info
  | warn
  deriving DecidableEq

def Level.text : Level → String
  | .debug => "DEBUG"
  | .info => "INFO"
  | .warn => "WARN"

structure Entry where
  level : Level
  message : String
  deriving DecidableEq

def Entry.text (entry : Entry) : String :=
  entry.level.text ++ " " ++ entry.message

structure Journal (ε α : Type) where
  entries : List Entry
  outcome : Except ε α

namespace Journal

variable {ε α β : Type}

def bind (journal : Journal ε α) (next : α → Journal ε β) : Journal ε β :=
  match journal.outcome with
  | .error cause => ⟨journal.entries, .error cause⟩
  | .ok value => ⟨journal.entries ++ (next value).entries, (next value).outcome⟩

instance : Monad (Journal ε) where
  pure value := ⟨[], .ok value⟩
  bind := bind

def refuse (cause : ε) : Journal ε α := ⟨[], .error cause⟩

def note (level : Level) (message : String) : Journal ε Unit :=
  ⟨[⟨level, message⟩], .ok ()⟩

instance : MonadLift (Except ε) (Journal ε) where
  monadLift outcome := ⟨[], outcome⟩

@[simp] theorem outcome_pure (value : α) : (pure value : Journal ε α).outcome = .ok value := rfl

@[simp] theorem outcome_refuse (cause : ε) : (refuse cause : Journal ε α).outcome = .error cause :=
  rfl

@[simp] theorem outcome_note (level : Level) (message : String) :
    (note level message : Journal ε Unit).outcome = .ok () := rfl

@[simp] theorem outcome_lift (outcome : Except ε α) :
    (liftM outcome : Journal ε α).outcome = outcome := rfl

@[simp] theorem outcome_bind (journal : Journal ε α) (next : α → Journal ε β) :
    (journal >>= next).outcome = journal.outcome >>= fun value => (next value).outcome := by
  rcases journal with ⟨entries, _ | value⟩ <;> rfl

@[simp] theorem entries_pure (value : α) : (pure value : Journal ε α).entries = [] := rfl

private theorem bind_assoc_of_match {γ : Type} (journal : Journal ε α) (f : α → Journal ε β)
    (g : β → Journal ε γ) : journal >>= f >>= g = journal >>= fun value => f value >>= g := by
  rcases journal with ⟨entries, _ | value⟩
  · rfl
  · simp only [Bind.bind, bind]
    rcases f value with ⟨more, _ | result⟩ <;> simp

instance : LawfulMonad (Journal ε) :=
  LawfulMonad.mk' _ (by rintro α ⟨entries, _ | value⟩ <;> simp [Functor.map, bind])
    (by intros; simp [Bind.bind, bind, pure]) bind_assoc_of_match

end Journal

end ShapeFlow
