import SchemaPolicy.Declaration.Descriptor
import SchemaPolicy.Proofs.Outcome

/-! What the checks of a declaration establish: a descriptor is made exactly when every check
passes, so its name is a segment of a path and its permissions can stand between quotes. -/

namespace SchemaPolicy

open Outcome

theorem pathSegment_iff {name : String} : PathSegment name ↔
    ∀ c ∈ name.toList, c ≠ '/' ∧ c ≠ '\x7b' ∧ c ≠ '\x7d' ∧ Text.isBlank c = false := by
  simp [PathSegment, isSegmentChar, and_assoc]

theorem quotable_iff {text : String} : Quotable text ↔
    ∀ c ∈ text.toList, c ≠ '\'' ∧ c ≠ '\\' ∧ c ≠ '\n' ∧ c ≠ '\r' := by
  simp [Quotable, isQuotableChar, and_assoc]

namespace Declaration

variable {declaration : Declaration} {pattern : AccessPattern}

/-- The declaration gives the permission, and as a text that can stand between quotes. -/
def Names (declaration : Declaration) (permission : Permission) (text : String) : Prop :=
  declaration.permissions.get permission = some text ∧ ¬Text.Blank text.toList ∧ Quotable text

/-- The declaration gives every setting of a protection that the protection uses. -/
def Settles (declaration : Declaration) : Protection → Prop
  | .indexedByTenant permissions switches =>
    (∀ permission, declaration.Names permission (permissions.get permission)) ∧
      ∀ switch, switches.get switch = declaration.position switch
  | .docPerTenant read write => declaration.Names .read read ∧ declaration.Names .write write
  | .docPerUser => True

theorem checkedName_eq_ok_iff {name : String} :
    declaration.checkedName = .ok name ↔
      declaration.name? = some name ∧ ¬Text.Blank name.toList ∧ PathSegment name := by
  unfold checkedName
  cases declaration.name? with
  | none => simp
  | some given =>
    simp only [refusal_eq_ok_iff, Option.some.injEq]
    exact and_congr_right fun h => by rw [h]

theorem checkedPattern_eq_ok_iff :
    declaration.checkedPattern = .ok pattern ↔ declaration.pattern? = some pattern.spelling := by
  unfold checkedPattern
  cases declaration.pattern? with
  | none => simp
  | some word =>
    simp only [Option.some.injEq, ← AccessPattern.ofSpelling?_eq_some_iff]
    cases AccessPattern.ofSpelling? word with
    | none => simp
    | some found => simp

theorem checkedPermission_eq_ok_iff {permission : Permission} {text : String} :
    declaration.checkedPermission pattern permission = .ok text ↔
      declaration.Names permission text := by
  unfold checkedPermission Names
  cases declaration.permissions.get permission with
  | none => simp
  | some given =>
    simp only [refusal_eq_ok_iff, Option.some.injEq]
    exact and_congr_right fun h => by rw [h]

theorem checkedProtection_eq_ok_iff {protection : Protection} :
    declaration.checkedProtection pattern = .ok protection ↔
      protection.pattern = pattern ∧ declaration.Settles protection := by
  cases pattern with
  | indexedByTenant =>
    simp only [checkedProtection, bind_eq_ok_iff, pure_eq_ok_iff, checkedPermission_eq_ok_iff]
    constructor
    · rintro ⟨read, hread, write, hwrite, update, hupdate, delete, hdelete, rfl⟩
      refine ⟨rfl, fun permission => ?_, fun switch => ?_⟩
      · cases permission <;> assumption
      · cases switch <;> rfl
    · rintro ⟨hpattern, hsettles⟩
      cases protection with
      | indexedByTenant permissions switches =>
        obtain ⟨hpermissions, hswitches⟩ := hsettles
        refine ⟨_, hpermissions .read, _, hpermissions .write, _, hpermissions .update, _,
          hpermissions .delete, ?_⟩
        rw [← hswitches .publicRead, ← hswitches .update, ← hswitches .delete]
        rfl
      | docPerTenant read write => cases hpattern
      | docPerUser => cases hpattern
  | docPerTenant =>
    simp only [checkedProtection, bind_eq_ok_iff, pure_eq_ok_iff, checkedPermission_eq_ok_iff]
    constructor
    · rintro ⟨read, hread, write, hwrite, rfl⟩
      exact ⟨rfl, hread, hwrite⟩
    · rintro ⟨hpattern, hsettles⟩
      cases protection with
      | indexedByTenant permissions switches => cases hpattern
      | docPerTenant read write => exact ⟨read, hsettles.1, write, hsettles.2, rfl⟩
      | docPerUser => cases hpattern
  | docPerUser =>
    simp only [checkedProtection, pure_eq_ok_iff]
    cases protection with
    | docPerUser => simp [Protection.pattern, Settles]
    | _ => simp [Protection.pattern]

theorem position_eq_not_byDefault_iff (declaration : Declaration) (s : Switch) :
    declaration.position s = !s.byDefault ↔ declaration.switches.get s = some !s.byDefault := by
  unfold position
  cases declaration.switches.get s with
  | none => simp
  | some value => simp

/-- A declaration gives a descriptor exactly when its name, its pattern and the settings of this
pattern pass their checks. -/
theorem descriptor_eq_ok_iff {d : Descriptor} :
    declaration.descriptor = .ok d ↔
      d.typeName = declaration.typeName ∧
        (declaration.name? = some d.name ∧ ¬Text.Blank d.name.toList ∧ PathSegment d.name) ∧
        declaration.pattern? = some d.protection.pattern.spelling ∧
        declaration.Settles d.protection := by
  simp only [descriptor, checked, mapError_eq_ok_iff, bind_eq_ok_iff, pure_eq_ok_iff,
    checkedName_eq_ok_iff, checkedPattern_eq_ok_iff, checkedProtection_eq_ok_iff]
  constructor
  · rintro ⟨name, hname, pattern, hpattern, protection, ⟨rfl, hsettles⟩, rfl⟩
    exact ⟨rfl, hname, hpattern, hsettles⟩
  · rintro ⟨htype, hname, hpattern, hsettles⟩
    refine ⟨d.name, hname, _, hpattern, d.protection, ⟨rfl, hsettles⟩, ?_⟩
    rw [← htype]

end Declaration

/-! ### Well-formed collections -/

theorem PathSegment.excludes {name : String} (h : PathSegment name) :
    ∀ c ∈ name.toList, c ≠ '/' ∧ c ≠ '\x7b' ∧ c ≠ '\x7d' ∧ Text.isBlank c = false :=
  pathSegment_iff.mp h

/-- The permissions that a protection asks for. -/
def Protection.permissions : Protection → List String
  | indexedByTenant permissions _ =>
    [permissions.read, permissions.write, permissions.update, permissions.delete]
  | docPerTenant read write => [read, write]
  | docPerUser => []

/-- A collection whose name and permissions stay within their places in a rule. -/
structure Collection.WellFormed (collection : Collection) : Prop where
  name_segment : PathSegment collection.name
  quotable : ∀ permission ∈ collection.protection.permissions, Quotable permission

theorem Declaration.Settles.checked {declaration : Declaration} {protection : Protection}
    (h : declaration.Settles protection) :
    ∀ permission ∈ protection.permissions,
      ¬Text.Blank permission.toList ∧ Quotable permission := by
  cases protection with
  | indexedByTenant permissions switches =>
    have hchecked := fun permission => (h.1 permission).2
    simp only [Protection.permissions, List.forall_mem_cons]
    exact ⟨hchecked .read, hchecked .write, hchecked .update, hchecked .delete, by simp⟩
  | docPerTenant read write =>
    simp only [Protection.permissions, List.forall_mem_cons]
    exact ⟨h.1.2, h.2.2, by simp⟩
  | docPerUser => simp [Protection.permissions]

theorem Declaration.wellFormed {declaration : Declaration} {d : Descriptor}
    (h : declaration.descriptor = .ok d) : d.toCollection.WellFormed := by
  obtain ⟨-, ⟨-, -, hsegment⟩, -, hsettles⟩ := descriptor_eq_ok_iff.mp h
  exact ⟨hsegment, fun permission hmem => (hsettles.checked permission hmem).2⟩

end SchemaPolicy
