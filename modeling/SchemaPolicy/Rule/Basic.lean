/-! Rules: what one `match` block grants for each operation on the documents of a path. -/

namespace SchemaPolicy

/-- Who may carry out an operation. -/
inductive Access where
  /-- Nothing: the operation gets no line. -/
  | deny
  | always
  /-- Whatever satisfies the condition, which is copied as it stands. -/
  | when (condition : String)
deriving DecidableEq, Repr, Inhabited

namespace Access

/-- Access for everyone, or for no one. -/
def ofBool (granted : Bool) : Access := if granted then always else deny

/-- The condition in the line of an operation; a denied one has no line. -/
def condition? : Access → Option String
  | deny => none
  | always => some "true"
  | when condition => some condition

end Access

/-- The operations on documents that a rule can grant. -/
inductive Operation where
  | create
  | read
  | update
  | delete
deriving DecidableEq, Repr

namespace Operation

/-- All operations, in the order of their lines. -/
def all : List Operation := [create, read, update, delete]

/-- The word for an operation in its line. -/
def keyword : Operation → String
  | create => "create"
  | read => "read"
  | update => "update"
  | delete => "delete"

theorem mem_all (op : Operation) : op ∈ all := by cases op <;> decide

end Operation

/-- The rule of a block: its path, what stands above the operations, and what it grants. -/
structure Rule where
  path : String
  comment? : Option String := none
  /-- Text at the start of the block, such as a function or a nested block. -/
  preamble? : Option String := none
  create : Access := .deny
  read : Access := .deny
  update : Access := .deny
  delete : Access := .deny
deriving DecidableEq, Repr

namespace Rule

/-- What a rule grants for an operation. -/
def access (rule : Rule) : Operation → Access
  | .create => rule.create
  | .read => rule.read
  | .update => rule.update
  | .delete => rule.delete

/-- Grants `access` for an operation and leaves the other operations as they are. -/
def grant (rule : Rule) (op : Operation) (access : Access) : Rule :=
  match op with
  | .create => { rule with create := access }
  | .read => { rule with read := access }
  | .update => { rule with update := access }
  | .delete => { rule with delete := access }

/-- Grants `access` for every operation that changes a document. -/
def grantWrite (rule : Rule) (access : Access) : Rule :=
  { rule with create := access, update := access, delete := access }

end Rule

end SchemaPolicy
