/-! Access patterns: how the documents of a collection are laid out, and which permissions and
switches a declaration gives for them. -/

namespace SchemaPolicy

/-- How the documents of a collection are laid out. -/
inductive AccessPattern where
  /-- Many documents for each tenant, each with a `tenantId` field. -/
  | indexedByTenant
  /-- One document for each tenant, under the tenant's id. -/
  | docPerTenant
  /-- One document for each user, under the user's id. -/
  | docPerUser
deriving DecidableEq, Repr

namespace AccessPattern

/-- All access patterns, in the order in which messages name them. -/
def all : List AccessPattern := [indexedByTenant, docPerTenant, docPerUser]

/-- The word for an access pattern, as schemas and listings write it. -/
def spelling : AccessPattern → String
  | indexedByTenant => "INDEXED_BY_TENANT"
  | docPerTenant => "DOC_PER_TENANT"
  | docPerUser => "DOC_PER_USER"

/-- The access pattern that a word names. -/
def ofSpelling? (word : String) : Option AccessPattern := all.find? (·.spelling = word)

theorem ofSpelling?_eq_some_iff {word : String} {pattern : AccessPattern} :
    ofSpelling? word = some pattern ↔ word = pattern.spelling := by
  constructor
  · intro h
    have := List.find?_some h
    simp_all
  · rintro rfl
    cases pattern <;> decide

end AccessPattern

/-- The permissions that a declaration can ask for. Creating a document takes the one to write. -/
inductive Permission where
  | read
  | write
  | update
  | delete
deriving DecidableEq, Repr

namespace Permission

/-- The argument of a declaration that gives a permission. -/
def argument : Permission → String
  | read => "readPermission"
  | write => "writePermission"
  | update => "updatePermission"
  | delete => "deletePermission"

end Permission

/-- A value for each permission. -/
structure Permissions (α : Type) where
  read : α
  write : α
  update : α
  delete : α
deriving DecidableEq, Repr

namespace Permissions

variable {α : Type}

/-- The value for a permission. -/
def get (values : Permissions α) : Permission → α
  | .read => values.read
  | .write => values.write
  | .update => values.update
  | .delete => values.delete

/-- The values with another one for a permission. -/
def set (values : Permissions α) (permission : Permission) (value : α) : Permissions α :=
  match permission with
  | .read => { values with read := value }
  | .write => { values with write := value }
  | .update => { values with update := value }
  | .delete => { values with delete := value }

@[simp] theorem get_set_self (values : Permissions α) (p : Permission) (value : α) :
    (values.set p value).get p = value := by cases p <;> rfl

theorem get_set_of_ne (values : Permissions α) {p q : Permission} (value : α) (h : q ≠ p) :
    (values.set p value).get q = values.get q := by
  cases p <;> cases q <;> first | rfl | exact absurd rfl h

end Permissions

/-- What a declaration can switch on or off. -/
inductive Switch where
  | publicRead
  | update
  | delete
deriving DecidableEq, Repr

namespace Switch

/-- The argument of a declaration that sets a switch. -/
def argument : Switch → String
  | publicRead => "allowPublicRead"
  | update => "allowUpdate"
  | delete => "allowDelete"

/-- The position of a switch that a declaration does not set. -/
def byDefault : Switch → Bool
  | publicRead => false
  | update => true
  | delete => true

end Switch

/-- A value for each switch. -/
structure Switches (α : Type) where
  publicRead : α
  update : α
  delete : α
deriving DecidableEq, Repr

namespace Switches

variable {α : Type}

/-- The value for a switch. -/
def get (values : Switches α) : Switch → α
  | .publicRead => values.publicRead
  | .update => values.update
  | .delete => values.delete

/-- The values with another one for a switch. -/
def set (values : Switches α) (switch : Switch) (value : α) : Switches α :=
  match switch with
  | .publicRead => { values with publicRead := value }
  | .update => { values with update := value }
  | .delete => { values with delete := value }

@[simp] theorem get_set_self (values : Switches α) (s : Switch) (value : α) :
    (values.set s value).get s = value := by cases s <;> rfl

theorem get_set_of_ne (values : Switches α) {s t : Switch} (value : α) (h : t ≠ s) :
    (values.set s value).get t = values.get t := by
  cases s <;> cases t <;> first | rfl | exact absurd rfl h

end Switches

end SchemaPolicy
