import SchemaPolicy.Proofs.Declaration.Descriptor

/-! Which descriptors are those of declarations: nothing is asked of them but that their name and
their permissions pass their checks. -/

namespace SchemaPolicy.Descriptor

/-- The descriptor is that of some declaration. -/
def Declared (d : Descriptor) : Prop :=
  ∃ declaration : Declaration, declaration.descriptor = .ok d

/-- A declaration that gives what the descriptor has. -/
def declaration (d : Descriptor) : Declaration where
  typeName := d.typeName
  name? := some d.name
  pattern? := some d.protection.pattern.spelling
  permissions := match d.protection with
    | .indexedByTenant permissions _ =>
      ⟨some permissions.read, some permissions.write, some permissions.update,
        some permissions.delete⟩
    | .docPerTenant read write => ⟨some read, some write, none, none⟩
    | .docPerUser => ⟨none, none, none, none⟩
  switches := match d.protection with
    | .indexedByTenant _ switches =>
      ⟨some switches.publicRead, some switches.update, some switches.delete⟩
    | _ => ⟨none, none, none⟩

theorem declared_iff {d : Descriptor} :
    d.Declared ↔ (¬Text.Blank d.name.toList ∧ PathSegment d.name) ∧
      ∀ permission ∈ d.protection.permissions,
        ¬Text.Blank permission.toList ∧ Quotable permission := by
  constructor
  · rintro ⟨declaration, h⟩
    obtain ⟨-, ⟨-, hname⟩, -, hsettles⟩ := Declaration.descriptor_eq_ok_iff.mp h
    exact ⟨hname, hsettles.checked⟩
  · rintro ⟨hname, hpermissions⟩
    refine ⟨d.declaration, Declaration.descriptor_eq_ok_iff.mpr ⟨rfl, ⟨rfl, hname⟩, rfl, ?_⟩⟩
    unfold declaration
    cases hprotection : d.protection with
    | indexedByTenant permissions switches =>
      rw [hprotection] at hpermissions
      simp only [Protection.permissions, List.forall_mem_cons] at hpermissions
      obtain ⟨hread, hwrite, hupdate, hdelete, -⟩ := hpermissions
      refine ⟨fun permission => ?_, fun switch => ?_⟩
      · cases permission
        exacts [⟨rfl, hread⟩, ⟨rfl, hwrite⟩, ⟨rfl, hupdate⟩, ⟨rfl, hdelete⟩]
      · cases switch <;> rfl
    | docPerTenant read write =>
      rw [hprotection] at hpermissions
      simp only [Protection.permissions, List.forall_mem_cons] at hpermissions
      obtain ⟨hread, hwrite, -⟩ := hpermissions
      exact ⟨⟨rfl, hread⟩, ⟨rfl, hwrite⟩⟩
    | docPerUser => trivial

instance : DecidablePred Declared := fun _ => decidable_of_iff _ declared_iff.symm

end SchemaPolicy.Descriptor
