import SchemaPolicy.Proofs.Collection.Block
import SchemaPolicy.Proofs.Declaration.Arguments

/-! The lines that grant operations, told from the arguments of a directive without a declaration or
a descriptor in between. -/

namespace SchemaPolicy

open Sdl (givenText? givenWord? givenTruth?)

/-- The line that grants an operation to those who hold a permission for a tenant. -/
def holdsLine (op : Operation) (lead permission tenant : String) : String :=
  "allow " ++ op.keyword ++ ": if " ++ lead ++ "hasPermission('" ++ permission ++ "', " ++ tenant ++
    ");"

/-- The line that grants an operation under a condition which asks for no permission. -/
def plainLine (op : Operation) (condition : String) : String :=
  "allow " ++ op.keyword ++ ": if " ++ condition ++ ";"

/-- The lines that grant operations, in order. -/
def grantLines? (arguments : List Sdl.Argument) : Option (List String) := do
  match ← AccessPattern.ofSpelling? (← givenWord? arguments "type") with
  | .indexedByTenant =>
    let read ← givenText? arguments "readPermission"
    let write ← givenText? arguments "writePermission"
    let update ← givenText? arguments "updatePermission"
    let delete ← givenText? arguments "deletePermission"
    return [
        holdsLine .create "" write "request.resource.data.tenantId",
        if givenTruth? arguments "allowPublicRead" = some true then plainLine .read "true"
        else holdsLine .read "" read "resource.data.tenantId"] ++
      (if givenTruth? arguments "allowUpdate" = some false then []
        else [holdsLine .update "" update "resource.data.tenantId"]) ++
      (if givenTruth? arguments "allowDelete" = some false then []
        else [holdsLine .delete "" delete "resource.data.tenantId"])
  | .docPerTenant =>
    let read ← givenText? arguments "readPermission"
    let write ← givenText? arguments "writePermission"
    return [
      holdsLine .create "" write "tenantId",
      holdsLine .read "resource == null || " read "tenantId",
      holdsLine .update "" write "tenantId",
      holdsLine .delete "" write "tenantId"]
  | .docPerUser =>
    return Operation.all.map (plainLine · "request.auth != null && request.auth.uid == userId")

theorem Guard.line_holds_eq (op : Operation) (lead permission tenant : String) :
    (holds lead permission tenant).line op = "      " ++ holdsLine op lead permission tenant := by
  have hallow : "      allow " = "      " ++ "allow " := rfl
  have hend : ");" = ")" ++ ";" := rfl
  unfold line text hasPermission holdsLine
  rw [hallow, hend]
  simp only [String.append_assoc]

theorem Guard.line_plain_eq (op : Operation) (condition : String) :
    (plain condition).line op = "      " ++ plainLine op condition := by
  have hallow : "      allow " = "      " ++ "allow " := rfl
  unfold line text plainLine
  rw [hallow]
  simp only [String.append_assoc]

/-- The lines of a declared collection are those that the arguments call for. -/
theorem Declaration.allowLines_of_given {typeName : String} {arguments : List Sdl.Argument}
    {d : Descriptor} (h : (given typeName arguments).descriptor = .ok d) :
    ∃ grants, grantLines? arguments = some grants ∧
      d.protection.allowLines = grants.map ("      " ++ ·) := by
  obtain ⟨-, -, hpattern, hsettles⟩ := descriptor_eq_ok_iff.mp h
  have hword : givenWord? arguments "type" = some d.protection.pattern.spelling := hpattern
  have hspelling := AccessPattern.ofSpelling?_eq_some_iff.mpr
    (rfl : d.protection.pattern.spelling = d.protection.pattern.spelling)
  unfold grantLines?
  rw [hword, Option.bind_eq_bind, Option.bind_some, hspelling]
  cases hprotection : d.protection with
  | indexedByTenant permissions switches =>
    rw [hprotection] at hsettles
    obtain ⟨hpermissions, hswitches⟩ := hsettles
    have hread : givenText? arguments "readPermission" = some permissions.read :=
      (hpermissions .read).1
    have hwrite : givenText? arguments "writePermission" = some permissions.write :=
      (hpermissions .write).1
    have hupdate : givenText? arguments "updatePermission" = some permissions.update :=
      (hpermissions .update).1
    have hdelete : givenText? arguments "deletePermission" = some permissions.delete :=
      (hpermissions .delete).1
    have hpublic : givenTruth? arguments "allowPublicRead" = some true ↔
        switches.publicRead = true := by
      change _ ↔ switches.get .publicRead = true
      rw [hswitches]
      exact ((given typeName arguments).position_eq_not_byDefault_iff .publicRead).symm
    have hkept : givenTruth? arguments "allowUpdate" = some false ↔ switches.update = false := by
      change _ ↔ switches.get .update = false
      rw [hswitches]
      exact ((given typeName arguments).position_eq_not_byDefault_iff .update).symm
    have hremoved : givenTruth? arguments "allowDelete" = some false ↔ switches.delete = false := by
      change _ ↔ switches.get .delete = false
      rw [hswitches]
      exact ((given typeName arguments).position_eq_not_byDefault_iff .delete).symm
    simp only [Protection.pattern, hread, hwrite, hupdate, hdelete, hpublic, hkept, hremoved,
      Option.bind_eq_bind, Option.bind_some]
    refine ⟨_, rfl, ?_⟩
    unfold Protection.allowLines
    cases hp : switches.publicRead <;> cases hu : switches.update <;>
      cases hd : switches.delete <;>
      simp [Operation.all, Protection.guard?, hp, hu, hd, Guard.line_holds_eq,
        Guard.line_plain_eq, Protection.sentTenant, Protection.storedTenant]
  | docPerTenant read write =>
    rw [hprotection] at hsettles
    have hread : givenText? arguments "readPermission" = some read := hsettles.1.1
    have hwrite : givenText? arguments "writePermission" = some write := hsettles.2.1
    simp only [Protection.pattern, hread, hwrite, Option.bind_eq_bind, Option.bind_some]
    refine ⟨_, rfl, ?_⟩
    simp only [List.map_cons, List.map_nil, ← Guard.line_holds_eq]
    rfl
  | docPerUser =>
    refine ⟨_, rfl, ?_⟩
    rw [List.map_map]
    simp only [Function.comp_def, ← Guard.line_plain_eq]
    rfl

end SchemaPolicy
