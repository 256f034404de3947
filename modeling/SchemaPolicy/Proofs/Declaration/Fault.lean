import SchemaPolicy.Proofs.Declaration.Descriptor

/-! Which declarations declare a collection, and what is wrong with the others: the first check that
fails, in the order name, pattern, permissions. What the pattern does not use is not checked. -/

namespace SchemaPolicy

open Outcome

/-- The permissions that a pattern uses, in the order in which they are checked. -/
def AccessPattern.permissions : AccessPattern → List Permission
  | indexedByTenant => [.read, .write, .update, .delete]
  | docPerTenant => [.read, .write]
  | docPerUser => []

namespace Declaration

/-- A declaration of a collection with some name and pattern that every check lets pass. -/
structure Sound (declaration : Declaration) (name : String) (pattern : AccessPattern) : Prop where
  named : declaration.name? = some name
  name_visible : ¬Text.Blank name.toList
  name_segment : ∀ c ∈ name.toList, c ≠ '/' ∧ c ≠ '\x7b' ∧ c ≠ '\x7d' ∧ Text.isBlank c = false
  patterned : declaration.pattern? = some pattern.spelling
  permitted : ∀ permission ∈ pattern.permissions, ∃ text,
    declaration.permissions.get permission = some text ∧ ¬Text.Blank text.toList ∧
      ∀ c ∈ text.toList, c ≠ '\'' ∧ c ≠ '\\' ∧ c ≠ '\n' ∧ c ≠ '\r'

/-- A declaration gives the settings of a protection: permissions as they stand, and switches as
they stand or by default. -/
def Gives (declaration : Declaration) : Protection → Prop
  | .indexedByTenant permissions switches =>
    (∀ permission, declaration.permissions.get permission = some (permissions.get permission)) ∧
      switches.publicRead = declaration.switches.publicRead.getD false ∧
      switches.update = declaration.switches.update.getD true ∧
      switches.delete = declaration.switches.delete.getD true
  | .docPerTenant read write =>
    declaration.permissions.read = some read ∧ declaration.permissions.write = some write
  | .docPerUser => True

/-- The name is given, and is one segment of a path. -/
def Named (declaration : Declaration) (name : String) : Prop :=
  declaration.name? = some name ∧ ¬Text.Blank name.toList ∧ PathSegment name

/-- What is wrong with a text that has to be given, not blank, and of some form. -/
inductive TextFault (given? : Option String) (form : String → Prop)
    (absent blank : AuthoringMistake) (broken : String → AuthoringMistake) :
    AuthoringMistake → Prop
  | absent (absence : given? = none) : TextFault given? form absent blank broken absent
  | blank {text : String} (given : given? = some text) (blankness : Text.Blank text.toList) :
    TextFault given? form absent blank broken blank
  | broken {text : String} (given : given? = some text) (visible : ¬Text.Blank text.toList)
    (unformed : ¬form text) : TextFault given? form absent blank broken (broken text)

/-- What is wrong with the name of a declaration. -/
def NameFault (declaration : Declaration) : AuthoringMistake → Prop :=
  TextFault declaration.name? PathSegment (.missingArgument .name) .emptyName .invalidName

/-- A permission that is blank counts as missing. -/
def PermissionFault (declaration : Declaration) (pattern : AccessPattern)
    (permission : Permission) : AuthoringMistake → Prop :=
  TextFault (declaration.permissions.get permission) Quotable
    (.missingPermission pattern permission) (.missingPermission pattern permission)
    fun _ => .invalidPermission permission

/-- What is wrong with the word for the access pattern. -/
inductive PatternFault (declaration : Declaration) : AuthoringMistake → Prop
  | missing (absent : declaration.pattern? = none) :
    PatternFault declaration (.missingArgument .pattern)
  | unknown {word : String} (given : declaration.pattern? = some word)
    (unknown : ∀ pattern : AccessPattern, word ≠ pattern.spelling) :
    PatternFault declaration (.unknownAccessPattern word)

/-- What is wrong with a declaration: the fault that comes first, since everything before it is as
it should be. -/
inductive Fault (declaration : Declaration) : AuthoringMistake → Prop
  | name {mistake : AuthoringMistake} (fault : declaration.NameFault mistake) :
    Fault declaration mistake
  | pattern {name : String} {mistake : AuthoringMistake} (named : declaration.Named name)
    (fault : declaration.PatternFault mistake) : Fault declaration mistake
  | permission {name : String} {pattern : AccessPattern} {earlier later : List Permission}
    {permission : Permission} {mistake : AuthoringMistake} (named : declaration.Named name)
    (patterned : declaration.pattern? = some pattern.spelling)
    (order : pattern.permissions = earlier ++ permission :: later)
    (passed : ∀ other ∈ earlier, ∃ text, declaration.Names other text)
    (fault : declaration.PermissionFault pattern permission mistake) : Fault declaration mistake

variable {declaration : Declaration} {pattern : AccessPattern} {mistake : AuthoringMistake}

/-! ### One check -/

theorem textFault_iff {given? : Option String} {form : String → Prop} [DecidablePred form]
    {absent blank : AuthoringMistake} {broken : String → AuthoringMistake}
    {checked : Except AuthoringMistake String} (hnone : given? = none → checked = .error absent)
    (hsome : ∀ text, given? = some text → checked =
      if Text.Blank text.toList then .error blank
      else if form text then .ok text else .error (broken text)) :
    checked = .error mistake ↔ TextFault given? form absent blank broken mistake := by
  constructor
  · intro h
    cases hgiven : given? with
    | none =>
      rw [hnone hgiven] at h
      obtain rfl := Except.error.inj h
      exact .absent rfl
    | some text =>
      rw [hsome text hgiven, refusal_eq_error_iff] at h
      obtain ⟨hblank, rfl⟩ | ⟨hvisible, hunformed, rfl⟩ := h
      · exact .blank rfl hblank
      · exact .broken rfl hvisible hunformed
  · intro h
    cases h with
    | absent absence => exact hnone absence
    | blank given blankness =>
      rw [hsome _ given, refusal_eq_error_iff]
      exact .inl ⟨blankness, rfl⟩
    | broken given visible unformed =>
      rw [hsome _ given, refusal_eq_error_iff]
      exact .inr ⟨visible, unformed, rfl⟩

theorem checkedName_eq_error_iff :
    declaration.checkedName = .error mistake ↔ declaration.NameFault mistake :=
  textFault_iff (fun h => by rw [checkedName, h]) fun _ h => by rw [checkedName, h]

theorem checkedPermission_eq_error_iff {permission : Permission} :
    declaration.checkedPermission pattern permission = .error mistake ↔
      declaration.PermissionFault pattern permission mistake :=
  textFault_iff (fun h => by rw [checkedPermission, h]) fun _ h => by rw [checkedPermission, h]

theorem checkedPattern_eq_error_iff :
    declaration.checkedPattern = .error mistake ↔ declaration.PatternFault mistake := by
  unfold checkedPattern
  cases hpattern : declaration.pattern? with
  | none =>
    constructor
    · intro h
      obtain rfl := Except.error.inj h
      exact .missing hpattern
    · intro h
      cases h with
      | missing absent => rfl
      | unknown given _ =>
        rw [hpattern] at given
        contradiction
  | some word =>
    cases hword : AccessPattern.ofSpelling? word with
    | none =>
      have hunknown : ∀ pattern : AccessPattern, word ≠ pattern.spelling := fun pattern heq => by
        rw [AccessPattern.ofSpelling?_eq_some_iff.mpr heq] at hword
        contradiction
      simp only [hword]
      constructor
      · intro h
        obtain rfl := Except.error.inj h
        exact .unknown hpattern hunknown
      · intro h
        cases h with
        | missing absent =>
          rw [hpattern] at absent
          contradiction
        | unknown given _ => rw [Option.some.inj (hpattern.symm.trans given)]
    | some pattern =>
      simp only [hword, reduceCtorEq, false_iff]
      intro h
      cases h with
      | missing absent =>
        rw [hpattern] at absent
        contradiction
      | unknown given unknown =>
        obtain rfl := Option.some.inj (hpattern.symm.trans given)
        exact unknown pattern (AccessPattern.ofSpelling?_eq_some_iff.mp hword)

/-! ### All checks -/

/-- The permissions of a pattern are checked in order, up to the first that has a fault. -/
theorem checkedProtection_eq_error_iff :
    declaration.checkedProtection pattern = .error mistake ↔
      ∃ earlier permission later, pattern.permissions = earlier ++ permission :: later ∧
        (∀ other ∈ earlier, ∃ text, declaration.Names other text) ∧
        declaration.PermissionFault pattern permission mistake := by
  cases pattern <;>
    simp only [checkedProtection, AccessPattern.permissions, exists_first_cons_iff,
      bind_eq_error_iff, pure_ne_error, checkedPermission_eq_ok_iff,
      checkedPermission_eq_error_iff]
  · simp [← exists_and_right]
  · simp [← exists_and_right]
  · simp

theorem checked_eq_error_iff :
    declaration.checked = .error mistake ↔ declaration.Fault mistake := by
  simp only [checked, bind_eq_error_iff, pure_ne_error, and_false, exists_false, or_false,
    checkedName_eq_ok_iff, checkedName_eq_error_iff, checkedPattern_eq_ok_iff,
    checkedPattern_eq_error_iff, checkedProtection_eq_error_iff]
  constructor
  · rintro (hname | ⟨name, hnamed, hpattern | ⟨pattern, hpatterned, earlier, permission, later,
      horder, hpassed, hpermission⟩⟩)
    · exact .name hname
    · exact .pattern hnamed hpattern
    · exact .permission hnamed hpatterned horder hpassed hpermission
  · intro h
    cases h with
    | name fault => exact .inl fault
    | pattern named fault => exact .inr ⟨_, named, .inl fault⟩
    | permission named patterned order passed fault =>
      exact .inr ⟨_, named, .inr ⟨_, patterned, _, _, _, order, passed, fault⟩⟩

/-- A protection of a pattern can be made of a declaration that names its permissions. -/
theorem exists_checkedProtection_iff :
    (∃ protection, declaration.checkedProtection pattern = .ok protection) ↔
      ∀ permission ∈ pattern.permissions, ∃ text, declaration.Names permission text := by
  cases pattern <;>
    simp only [checkedProtection, AccessPattern.permissions, bind_eq_ok_iff, pure_eq_ok_iff,
      checkedPermission_eq_ok_iff, List.forall_mem_cons]
  case indexedByTenant =>
    constructor
    · rintro ⟨_, read, hread, write, hwrite, update, hupdate, delete, hdelete, -⟩
      exact ⟨⟨read, hread⟩, ⟨write, hwrite⟩, ⟨update, hupdate⟩, ⟨delete, hdelete⟩,
        List.forall_mem_nil _⟩
    · rintro ⟨⟨read, hread⟩, ⟨write, hwrite⟩, ⟨update, hupdate⟩, ⟨delete, hdelete⟩, -⟩
      exact ⟨_, read, hread, write, hwrite, update, hupdate, delete, hdelete, rfl⟩
  case docPerTenant =>
    constructor
    · rintro ⟨_, read, hread, write, hwrite, -⟩
      exact ⟨⟨read, hread⟩, ⟨write, hwrite⟩, List.forall_mem_nil _⟩
    · rintro ⟨⟨read, hread⟩, ⟨write, hwrite⟩, -⟩
      exact ⟨_, read, hread, write, hwrite, rfl⟩
  case docPerUser => exact ⟨fun _ => List.forall_mem_nil _, fun _ => ⟨_, rfl⟩⟩

theorem sound_iff {name : String} : declaration.Sound name pattern ↔
    declaration.Named name ∧ declaration.pattern? = some pattern.spelling ∧
      ∀ permission ∈ pattern.permissions, ∃ text, declaration.Names permission text := by
  simp only [Named, Names, pathSegment_iff, quotable_iff]
  exact ⟨fun h => ⟨⟨h.named, h.name_visible, h.name_segment⟩, h.patterned, h.permitted⟩,
    fun ⟨⟨hnamed, hvisible, hsegment⟩, hpatterned, hpermitted⟩ =>
      ⟨hnamed, hvisible, hsegment, hpatterned, hpermitted⟩⟩

theorem exists_checked_iff :
    (∃ d, declaration.checked = .ok d) ↔ ∃ name pattern, declaration.Sound name pattern := by
  simp only [checked, bind_eq_ok_iff, pure_eq_ok_iff, checkedName_eq_ok_iff,
    checkedPattern_eq_ok_iff, sound_iff, ← exists_checkedProtection_iff]
  constructor
  · rintro ⟨_, name, hnamed, pattern, hpatterned, protection, hprotection, -⟩
    exact ⟨name, pattern, hnamed, hpatterned, protection, hprotection⟩
  · rintro ⟨name, pattern, hnamed, hpatterned, protection, hprotection⟩
    exact ⟨_, name, hnamed, pattern, hpatterned, protection, hprotection, rfl⟩

theorem Settles.gives {protection : Protection} (h : declaration.Settles protection) :
    declaration.Gives protection := by
  cases protection with
  | indexedByTenant permissions switches =>
    obtain ⟨hpermissions, hswitches⟩ := h
    exact ⟨fun permission => (hpermissions permission).1, hswitches .publicRead,
      hswitches .update, hswitches .delete⟩
  | docPerTenant read write => exact ⟨h.1.1, h.2.1⟩
  | docPerUser => trivial

/-- A declaration declares a collection exactly when it is sound. The collection has its name, its
pattern and what it gives of the settings; else the first fault is told, and of which type. -/
theorem descriptor_verdict (declaration : Declaration) :
    ((∃ d, declaration.descriptor = .ok d) ↔ ∃ name pattern, declaration.Sound name pattern) ∧
    (∀ d, declaration.descriptor = .ok d →
      d.typeName = declaration.typeName ∧ declaration.name? = some d.name ∧
        declaration.pattern? = some d.protection.pattern.spelling ∧
        declaration.Gives d.protection) ∧
    ∀ error, declaration.descriptor = .error error ↔
      ∃ mistake, declaration.Fault mistake ∧ error = ⟨declaration.typeName, mistake⟩ := by
  refine ⟨?_, fun d hd => ?_, fun error => ?_⟩
  · simp only [descriptor, mapError_eq_ok_iff, exists_checked_iff]
  · obtain ⟨htype, ⟨hname, -, -⟩, hpattern, hsettles⟩ := descriptor_eq_ok_iff.mp hd
    exact ⟨htype, hname, hpattern, hsettles.gives⟩
  · simp only [descriptor, mapError_eq_error_iff, checked_eq_error_iff]

end Declaration

end SchemaPolicy
