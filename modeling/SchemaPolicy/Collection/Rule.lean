import SchemaPolicy.Collection.Basic
import SchemaPolicy.Rule.Basic

/-! The rule of a collection. Each pattern fixes the path, the comment and the condition of every
operation; only the collection's name and its permissions are filled in. -/

namespace SchemaPolicy

/-- The condition that the caller holds a permission in a tenant. The permission stands between
quotes; the tenant is an expression. -/
def hasPermission (permission tenant : String) : String :=
  "hasPermission('" ++ permission ++ "', " ++ tenant ++ ")"

/-- The function that `hasPermission` conditions call: permissions are listed by tenant in the
caller's token. -/
def permissionHelper : String :=
  "function hasPermission(permission, tenant) \x7b\n" ++
  "  return request.auth != null\n" ++
  "    && tenant in request.auth.token.permissions\n" ++
  "    && permission in request.auth.token.permissions[tenant];\n" ++
  "\x7d"

/-- The condition that the caller is the user whose document it is. -/
def ownerCondition : String := "request.auth != null && request.auth.uid == userId"

namespace AccessPattern

/-- The variable that stands for the id of a document in the path of the rule. -/
def placeholder : AccessPattern → String
  | indexedByTenant => "docId"
  | docPerTenant => "tenantId"
  | docPerUser => "userId"

/-- What the comment above a block says about the layout of the documents. -/
def remark : AccessPattern → String
  | indexedByTenant => "documents indexed by tenant"
  | docPerTenant => "one document per tenant"
  | docPerUser => "one document per user"

/-- What a block starts with: the helper, if a condition of the pattern can call it. -/
def preamble? : AccessPattern → Option String
  | docPerUser => none
  | _ => some permissionHelper

end AccessPattern

namespace Protection

/-- The tenant that a stored document names. -/
def storedTenant : String := "resource.data.tenantId"

/-- The tenant that a document to be stored names. -/
def sentTenant : String := "request.resource.data.tenantId"

/-- What the rule grants for an operation. A document indexed by tenant names its tenant itself: the
stored one or, when it is created, the one to be stored. -/
def access : Protection → Operation → Access
  | indexedByTenant permissions _, .create => .when (hasPermission permissions.write sentTenant)
  | indexedByTenant permissions switches, .read =>
    if switches.publicRead then .always else .when (hasPermission permissions.read storedTenant)
  | indexedByTenant permissions switches, .update =>
    if switches.update then .when (hasPermission permissions.update storedTenant) else .deny
  | indexedByTenant permissions switches, .delete =>
    if switches.delete then .when (hasPermission permissions.delete storedTenant) else .deny
  | docPerTenant read _, .read =>
    .when ("resource == null || " ++ hasPermission read "tenantId")
  | docPerTenant _ write, _ => .when (hasPermission write "tenantId")
  | docPerUser, _ => .when ownerCondition

end Protection

namespace Collection

/-- The path of the documents, with a placeholder for their ids. -/
def path (collection : Collection) : String :=
  "/" ++ collection.name ++ "/\x7b" ++ collection.protection.pattern.placeholder ++ "\x7d"

/-- The rule of a collection. -/
def rule (collection : Collection) : Rule where
  path := collection.path
  comment? := some (collection.name ++ ": " ++ collection.protection.pattern.remark)
  preamble? := collection.protection.pattern.preamble?
  create := collection.protection.access .create
  read := collection.protection.access .read
  update := collection.protection.access .update
  delete := collection.protection.access .delete

@[simp] theorem access_rule (collection : Collection) (op : Operation) :
    collection.rule.access op = collection.protection.access op := by cases op <;> rfl

end Collection

end SchemaPolicy
