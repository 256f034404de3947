import SchemaPolicy.Proofs.Outcome
import SchemaPolicy.Traced

/-! What comes of a computation that reports events, by its steps. -/

namespace SchemaPolicy.Traced

variable {ε α β : Type}

@[simp] theorem result_bind (first : Traced ε α) (next : α → Traced ε β) :
    (first >>= next).result = first.result >>= fun value => (next value).result := by
  rw [bind_eq, andThen]
  cases first.result <;> rfl

theorem bind_report (event : Event) (next : Unit → Traced ε β) :
    report event >>= next = ⟨event :: (next ()).events, (next ()).result⟩ := rfl

theorem bind_pure_comp (first : Traced ε α) (f : α → β) :
    (first >>= fun value => pure (f value)) = ⟨first.events, first.result.map f⟩ := by
  obtain ⟨events, result⟩ := first
  cases result with
  | ok value => simp [bind_eq, andThen, Except.map]
  | error error => rfl

theorem events_bind_of_ok {first : Traced ε α} {value : α} (h : first.result = .ok value)
    (next : α → Traced ε β) : (first >>= next).events = first.events ++ (next value).events := by
  rw [bind_eq, andThen, h]

theorem events_bind_of_error {first : Traced ε α} {error : ε} (h : first.result = .error error)
    (next : α → Traced ε β) : (first >>= next).events = first.events := by
  rw [bind_eq, andThen, h]

@[simp] theorem result_ofExcept (result : Except ε α) : (ofExcept result).result = result := rfl

end SchemaPolicy.Traced
