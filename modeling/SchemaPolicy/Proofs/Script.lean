import SchemaPolicy.Script

/-! Scripts that may fail, taken apart: a second part runs on the files that the first part leaves,
unless that fails. -/

namespace SchemaPolicy.Script

variable {ε α β : Type}

/-- What comes of a script that goes on with the value of a first one, unless that fails. -/
def Effect.andThen (effect : Effect (Except ε α)) (next : α → FileTree → Effect (Except ε β)) :
    Effect (Except ε β) :=
  match effect.value with
  | .ok value =>
    let rest := next value effect.tree
    ⟨rest.value, rest.tree, effect.events ++ rest.events⟩
  | .error error => ⟨.error error, effect.tree, effect.events⟩

@[simp] theorem andThen_ok (value : α) (tree : FileTree) (events : List Event)
    (next : α → FileTree → Effect (Except ε β)) :
    Effect.andThen ⟨.ok value, tree, events⟩ next =
      ⟨(next value tree).value, (next value tree).tree, events ++ (next value tree).events⟩ := rfl

@[simp] theorem andThen_error (error : ε) (tree : FileTree) (events : List Event)
    (next : α → FileTree → Effect (Except ε β)) :
    Effect.andThen ⟨.error error, tree, events⟩ next = ⟨.error error, tree, events⟩ := rfl

theorem run_bind_except (first : ExceptT ε Script α) (next : α → ExceptT ε Script β)
    (tree : FileTree) :
    (first >>= next).run.run tree =
      (first.run.run tree).andThen fun value middle => (next value).run.run middle := by
  rw [ExceptT.run_bind, run_bind, Effect.andThen]
  cases (first.run.run tree).value with
  | ok value => rfl
  | error error => simp

/-- A script that cannot fail, as a part of one that can. -/
theorem run_liftM (script : Script α) (tree : FileTree) :
    (liftM script : ExceptT ε Script α).run.run tree =
      ⟨.ok (script.run tree).value, (script.run tree).tree, (script.run tree).events⟩ :=
  run_map Except.ok script tree

end SchemaPolicy.Script
