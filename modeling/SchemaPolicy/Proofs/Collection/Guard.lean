import SchemaPolicy.Collection.Rule
import SchemaPolicy.Proofs.Declaration.Descriptor
import SchemaPolicy.Proofs.Text.Lines

/-! Guards: the conditions of a collection's rule with the place of the permission marked. The text
around a permission depends on the protection without its permissions only. -/

namespace SchemaPolicy

open Text

/-- A text that stands for itself in a rule: it has no quote, no backslash, no brace and no line
break. -/
def Neutral (text : String) : Prop :=
  Quotable text ∧ ∀ c ∈ text.toList, c ≠ '\x7b' ∧ c ≠ '\x7d'

/-- What guards an operation that is granted. -/
inductive Guard where
  | plain (text : String)
  /-- The caller holds a permission for a tenant, or the condition in front of that is met. -/
  | holds (lead permission tenant : String)
deriving DecidableEq, Repr

namespace Guard

/-- The condition that a guard stands for. -/
def text : Guard → String
  | plain text => text
  | holds lead permission tenant => lead ++ hasPermission permission tenant

/-- The permissions that a guard asks for. -/
def permissions : Guard → List String
  | plain _ => []
  | holds _ permission _ => [permission]

/-- The guard with the empty text for its permission. -/
def erase : Guard → Guard
  | plain text => plain text
  | holds lead _ tenant => holds lead "" tenant

/-- The permission can stand between quotes, and the text around it stands for itself. -/
def WellFormed : Guard → Prop
  | plain text => Neutral text
  | holds lead permission tenant => Neutral lead ∧ Quotable permission ∧ Neutral tenant

end Guard

theorem Operation.neutral_keyword (op : Operation) : Neutral op.keyword := by
  cases op <;> simp [keyword, Neutral, Quotable, isQuotableChar]

namespace Protection

/-- The guard of an operation; one that is switched off has none. -/
def guard? : Protection → Operation → Option Guard
  | indexedByTenant permissions _, .create => some (.holds "" permissions.write sentTenant)
  | indexedByTenant permissions switches, .read =>
    some (if switches.publicRead then .plain "true" else .holds "" permissions.read storedTenant)
  | indexedByTenant permissions switches, .update =>
    if switches.update then some (.holds "" permissions.update storedTenant) else none
  | indexedByTenant permissions switches, .delete =>
    if switches.delete then some (.holds "" permissions.delete storedTenant) else none
  | docPerTenant read _, .read => some (.holds "resource == null || " read "tenantId")
  | docPerTenant _ write, _ => some (.holds "" write "tenantId")
  | docPerUser, _ => some (.plain ownerCondition)

/-- The protection with the empty text for each permission. -/
def erase : Protection → Protection
  | indexedByTenant _ switches => indexedByTenant ⟨"", "", "", ""⟩ switches
  | docPerTenant _ _ => docPerTenant "" ""
  | docPerUser => docPerUser

theorem condition?_access (protection : Protection) (op : Operation) :
    (protection.access op).condition? = (protection.guard? op).map Guard.text := by
  cases protection with
  | indexedByTenant permissions switches =>
    cases op with
    | create => simp [access, guard?, Access.condition?, Guard.text]
    | read =>
      cases h : switches.publicRead <;> simp [access, guard?, Access.condition?, Guard.text, h]
    | update =>
      cases h : switches.update <;> simp [access, guard?, Access.condition?, Guard.text, h]
    | delete =>
      cases h : switches.delete <;> simp [access, guard?, Access.condition?, Guard.text, h]
  | docPerTenant read write =>
    cases op <;> simp [access, guard?, Access.condition?, Guard.text]
  | docPerUser => rfl

theorem guard?_erase (protection : Protection) (op : Operation) :
    protection.erase.guard? op = (protection.guard? op).map Guard.erase := by
  cases protection with
  | indexedByTenant permissions switches =>
    cases op with
    | create => rfl
    | read => cases h : switches.publicRead <;> simp [erase, guard?, Guard.erase, h]
    | update => cases h : switches.update <;> simp [erase, guard?, Guard.erase, h]
    | delete => cases h : switches.delete <;> simp [erase, guard?, Guard.erase, h]
  | docPerTenant read write => cases op <;> rfl
  | docPerUser => rfl

theorem neutral_empty : Neutral "" := by simp [Neutral, Quotable]

theorem neutral_true : Neutral "true" := by simp [Neutral, Quotable, isQuotableChar]

theorem neutral_storedTenant : Neutral storedTenant := by
  simp [storedTenant, Neutral, Quotable, isQuotableChar]

theorem neutral_sentTenant : Neutral sentTenant := by
  simp [sentTenant, Neutral, Quotable, isQuotableChar]

theorem neutral_tenantId : Neutral "tenantId" := by simp [Neutral, Quotable, isQuotableChar]

theorem neutral_absentOr : Neutral "resource == null || " := by
  simp [Neutral, Quotable, isQuotableChar]

theorem neutral_ownerCondition : Neutral ownerCondition := by
  simp [ownerCondition, Neutral, Quotable, isQuotableChar]

/-- A guard is well-formed when the permissions of its protection can stand between quotes. -/
theorem guard?_wellFormed {protection : Protection}
    (h : ∀ permission ∈ protection.permissions, Quotable permission) {op : Operation} {g : Guard}
    (hg : protection.guard? op = some g) : g.WellFormed := by
  cases protection with
  | indexedByTenant permissions switches =>
    have hpermission : ∀ p : Permission, Quotable (permissions.get p) := by
      intro p
      cases p <;> exact h _ (by simp [Protection.permissions, Permissions.get])
    cases op with
    | create =>
      obtain rfl := Option.some.inj hg
      exact ⟨neutral_empty, hpermission .write, neutral_sentTenant⟩
    | read =>
      obtain rfl := Option.some.inj hg
      split
      · exact neutral_true
      · exact ⟨neutral_empty, hpermission .read, neutral_storedTenant⟩
    | update =>
      simp only [guard?, Option.ite_none_right_eq_some] at hg
      obtain rfl := Option.some.inj hg.2
      exact ⟨neutral_empty, hpermission .update, neutral_storedTenant⟩
    | delete =>
      simp only [guard?, Option.ite_none_right_eq_some] at hg
      obtain rfl := Option.some.inj hg.2
      exact ⟨neutral_empty, hpermission .delete, neutral_storedTenant⟩
  | docPerTenant read write =>
    have hread : Quotable read := h _ (by simp [Protection.permissions])
    have hwrite : Quotable write := h _ (by simp [Protection.permissions])
    cases op with
    | read =>
      obtain rfl := Option.some.inj hg
      exact ⟨neutral_absentOr, hread, neutral_tenantId⟩
    | create | update | delete =>
      obtain rfl := Option.some.inj hg
      exact ⟨neutral_empty, hwrite, neutral_tenantId⟩
  | docPerUser =>
    obtain rfl := Option.some.inj hg
    exact neutral_ownerCondition

end Protection

end SchemaPolicy
