import SchemaPolicy.Event

/-! Computations that report events and may fail. What was reported before a failure stays. -/

namespace SchemaPolicy

/-- The events that a computation reports, in order, and what comes of it. -/
structure Traced (ε α : Type) where
  events : List Event
  result : Except ε α

namespace Traced

variable {ε α β : Type}

def report (event : Event) : Traced ε Unit := ⟨[event], .ok ()⟩

/-- A result without any events. -/
def ofExcept (result : Except ε α) : Traced ε α := ⟨[], result⟩

/-- Goes on with the value of a computation; after a failure nothing more is reported. -/
def andThen (first : Traced ε α) (next : α → Traced ε β) : Traced ε β :=
  match first.result with
  | .ok value => ⟨first.events ++ (next value).events, (next value).result⟩
  | .error error => ⟨first.events, .error error⟩

instance : Monad (Traced ε) where
  pure value := ⟨[], .ok value⟩
  bind := andThen

@[simp] theorem events_pure (value : α) : (pure value : Traced ε α).events = [] := rfl

@[simp] theorem result_pure (value : α) : (pure value : Traced ε α).result = .ok value := rfl

theorem bind_eq (first : Traced ε α) (next : α → Traced ε β) :
    first >>= next = andThen first next := rfl

@[simp] theorem bind_ofExcept_ok (value : α) (next : α → Traced ε β) :
    (ofExcept (.ok value) >>= next) = next value := by simp [bind_eq, andThen, ofExcept]

@[simp] theorem bind_ofExcept_error (error : ε) (next : α → Traced ε β) :
    (ofExcept (.error error) >>= next) = ⟨[], .error error⟩ := rfl

end Traced

end SchemaPolicy
