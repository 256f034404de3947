import SchemaPolicy.FileTree.Access
import SchemaPolicy.Traced

/-! Scripts: computations that look at files, write files and report events. A script is a value;
`Script.run` says what it does to a tree of files. -/

namespace SchemaPolicy

/-- A computation step by step: each step has the rest of the computation for every answer. -/
inductive Script (α : Type) where
  | done (value : α)
  | askFile (path : Path) (next : Bool → Script α)
  | askPresent (path : Path) (next : Bool → Script α)
  | fetch (path : Path) (next : Except FileFault String → Script α)
  | store (path : Path) (text : String) (next : Except FileFault Unit → Script α)
  | note (event : Event) (next : Script α)

namespace Script

variable {ε α β : Type}

/-- Goes on with another script when the first one is done. -/
def andThen : Script α → (α → Script β) → Script β
  | done value, rest => rest value
  | askFile path next, rest => .askFile path fun answer => (next answer).andThen rest
  | askPresent path next, rest => .askPresent path fun answer => (next answer).andThen rest
  | fetch path next, rest => .fetch path fun answer => (next answer).andThen rest
  | store path text next, rest => .store path text fun answer => (next answer).andThen rest
  | note event next, rest => .note event (next.andThen rest)

instance : Monad Script where
  pure := done
  bind := andThen

theorem bind_eq (script : Script α) (rest : α → Script β) :
    script >>= rest = script.andThen rest := rfl

theorem andThen_done (script : Script α) : script.andThen done = script := by
  induction script with
  | done value => rfl
  | askFile path next ih | askPresent path next ih | fetch path next ih | store path text next ih =>
    simp only [andThen, ih]
  | note event next ih => simp only [andThen, ih]

theorem andThen_andThen {γ : Type} (script : Script α) (second : α → Script β)
    (third : β → Script γ) :
    (script.andThen second).andThen third = script.andThen fun value =>
      (second value).andThen third := by
  induction script with
  | done value => rfl
  | askFile path next ih | askPresent path next ih | fetch path next ih | store path text next ih =>
    simp only [andThen, ih]
  | note event next ih => simp only [andThen, ih]

instance : LawfulMonad Script :=
  LawfulMonad.mk' Script andThen_done (fun _ _ => rfl) andThen_andThen

/-- Asks whether a path leads to a regular file. -/
def isFile (path : Path) : Script Bool := .askFile path .done

/-- Asks whether a path leads to anything. -/
def isPresent (path : Path) : Script Bool := .askPresent path .done

/-- Reads the text of a file. -/
def read (path : Path) : Script (Except FileFault String) := .fetch path .done

/-- Writes a text to a file, or changes nothing. -/
def write (path : Path) (text : String) : Script (Except FileFault Unit) := .store path text .done

/-- Reports an event. -/
def report (event : Event) : Script Unit := .note event (.done ())

/-- Reports the events of a computation and gives its result. -/
def ofTraced (outcome : Traced ε α) : Script (Except ε α) :=
  outcome.events.foldr .note (.done outcome.result)

/-- What comes of a script: its result, the files as it leaves them, and what it reported. -/
structure Effect (α : Type) where
  value : α
  tree : FileTree
  events : List Event

/-- What a script does to a tree of files. -/
def run : Script α → FileTree → Effect α
  | done value, tree => ⟨value, tree, []⟩
  | askFile path next, tree => (next (tree.isFile path)).run tree
  | askPresent path next, tree => (next (tree.isPresent path)).run tree
  | fetch path next, tree => (next (tree.read path)).run tree
  | store path text next, tree =>
    match tree.write path text with
    | .ok written => (next (.ok ())).run written
    | .error fault => (next (.error fault)).run tree
  | note event next, tree =>
    let rest := next.run tree
    ⟨rest.value, rest.tree, event :: rest.events⟩

@[simp] theorem run_pure (value : α) (tree : FileTree) :
    (pure value : Script α).run tree = ⟨value, tree, []⟩ := rfl

/-- A script that goes on works on the files that its first part leaves. -/
theorem run_bind (script : Script α) (rest : α → Script β) (tree : FileTree) :
    (script >>= rest).run tree =
      ⟨((rest (script.run tree).value).run (script.run tree).tree).value,
        ((rest (script.run tree).value).run (script.run tree).tree).tree,
        (script.run tree).events ++
          ((rest (script.run tree).value).run (script.run tree).tree).events⟩ := by
  rw [bind_eq]
  induction script generalizing tree with
  | done value => rfl
  | askFile path next ih => simp [andThen, run, ih]
  | askPresent path next ih => simp [andThen, run, ih]
  | fetch path next ih => simp [andThen, run, ih]
  | store path text next ih =>
    simp only [andThen, run]
    cases tree.write path text <;> simp [ih]
  | note event next ih => simp [andThen, run, ih]

@[simp] theorem run_map (f : α → β) (script : Script α) (tree : FileTree) :
    (f <$> script).run tree =
      ⟨f (script.run tree).value, (script.run tree).tree, (script.run tree).events⟩ := by
  rw [map_eq_pure_bind, run_bind]
  simp

@[simp] theorem run_isFile (path : Path) (tree : FileTree) :
    (isFile path).run tree = ⟨tree.isFile path, tree, []⟩ := rfl

@[simp] theorem run_isPresent (path : Path) (tree : FileTree) :
    (isPresent path).run tree = ⟨tree.isPresent path, tree, []⟩ := rfl

@[simp] theorem run_read (path : Path) (tree : FileTree) :
    (read path).run tree = ⟨tree.read path, tree, []⟩ := rfl

@[simp] theorem run_report (event : Event) (tree : FileTree) :
    (report event).run tree = ⟨(), tree, [event]⟩ := rfl

@[simp] theorem run_ofTraced (outcome : Traced ε α) (tree : FileTree) :
    (ofTraced outcome).run tree = ⟨outcome.result, tree, outcome.events⟩ := by
  obtain ⟨events, result⟩ := outcome
  induction events with
  | nil => rfl
  | cons event events ih => simp_all [ofTraced, run]

end Script

end SchemaPolicy
