import SchemaPolicy.Declaration.Basic
import SchemaPolicy.Proofs.Outcome

/-! What the arguments of a directive give a declaration: for every parameter the value of the
argument with its word. Arguments are read one after another, and none is given twice. -/

namespace SchemaPolicy

open Outcome

namespace Sdl

variable (arguments : List Argument) (word : String)

/-- The text that is given for a word. -/
def givenText? : Option String :=
  arguments.findSome? fun
    | (name, .string text) => if name = word then some text else none
    | _ => none

/-- The bare name or text that is given for a word. -/
def givenWord? : Option String :=
  arguments.findSome? fun
    | (name, .word text) | (name, .string text) => if name = word then some text else none
    | _ => none

/-- The truth value that is given for a word. -/
def givenTruth? : Option Bool :=
  arguments.findSome? fun
    | (name, .boolean value) => if name = word then some value else none
    | _ => none

end Sdl

namespace Declaration

/-! ### Settings -/

/-- What a declaration has for a parameter. -/
def setting? (declaration : Declaration) : Parameter → Option Setting
  | .name => declaration.name?.map .name
  | .pattern => declaration.pattern?.map .pattern
  | .permission p => (declaration.permissions.get p).map (.permission p)
  | .switch s => (declaration.switches.get s).map (.switch s)

/-- The parameter that a setting sets. -/
def Setting.parameter : Setting → Parameter
  | name _ => .name
  | pattern _ => .pattern
  | permission p _ => .permission p
  | switch s _ => .switch s

/-- The setting of a parameter that an argument gives. -/
def Parameter.given? (p : Parameter) (argument : Sdl.Argument) : Option Setting :=
  if argument.1 = p.argument then p.setting? argument.2 else none

theorem gives_eq (declaration : Declaration) (p : Parameter) :
    declaration.gives p = (declaration.setting? p).isSome := by
  cases p <;> simp [gives, setting?]

theorem Parameter.parameter_of_setting? {p : Parameter} {value : Sdl.Value} {setting : Setting}
    (h : p.setting? value = some setting) : setting.parameter = p := by
  unfold setting? at h
  split at h <;> first | (obtain rfl := Option.some.inj h; rfl) | contradiction

theorem setting?_add (declaration : Declaration) (setting : Setting) (p : Parameter) :
    (declaration.add setting).setting? p =
      if p = setting.parameter then some setting else declaration.setting? p := by
  cases setting with
  | name text => cases p <;> simp [add, setting?, Setting.parameter]
  | pattern word => cases p <;> simp [add, setting?, Setting.parameter]
  | permission q text =>
    cases p with
    | permission p =>
      by_cases h : p = q
      · subst h
        simp [add, setting?, Setting.parameter]
      · simp [add, setting?, Setting.parameter, Permissions.get_set_of_ne _ _ h, h]
    | _ => simp [add, setting?, Setting.parameter]
  | switch t value =>
    cases p with
    | switch s =>
      by_cases h : s = t
      · subst h
        simp [add, setting?, Setting.parameter]
      · simp [add, setting?, Setting.parameter, Switches.get_set_of_ne _ _ h, h]
    | _ => simp [add, setting?, Setting.parameter]

theorem Parameter.argument_inj {p q : Parameter} (h : p.argument = q.argument) : p = q :=
  Option.some.inj ((ofArgument?_eq_some_iff.mpr rfl).symm.trans
    (ofArgument?_eq_some_iff.mpr h))

/-! ### Reading arguments -/

variable {declaration next : Declaration}

theorem Parameter.setting?_null (p : Parameter) : p.setting? .null = none := by
  cases p <;> rfl

theorem read_null (declaration : Declaration) (word : String) :
    declaration.read (word, .null) = .ok declaration := rfl

theorem read_of_unknown {word : String} {value : Sdl.Value} (hnull : value ≠ .null)
    (h : ∀ p : Parameter, word ≠ p.argument) :
    declaration.read (word, value) = .error (.unknownArgument word) := by
  have hword : Parameter.ofArgument? word = none :=
    Option.eq_none_iff_forall_ne_some.mpr fun p hp => h p (Parameter.ofArgument?_eq_some_iff.mp hp)
  unfold read
  split
  · next heq => exact absurd (Prod.mk.inj heq).2 hnull
  · next heq =>
    obtain ⟨rfl, rfl⟩ := Prod.mk.inj heq
    simp only [hword]

theorem read_of_known {p : Parameter} {value : Sdl.Value} (hnull : value ≠ .null) :
    declaration.read (p.argument, value) =
      match p.setting? value with
      | none => .error (.invalidArgument p.argument p.kind)
      | some setting =>
        if (declaration.setting? p).isSome then .error (.repeatedArgument p.argument)
        else .ok (declaration.add setting) := by
  unfold read
  split
  · next heq => exact absurd (Prod.mk.inj heq).2 hnull
  · next heq =>
    obtain ⟨rfl, rfl⟩ := Prod.mk.inj heq
    cases hsetting : p.setting? value with
    | none => simp only [Parameter.ofArgument?_eq_some_iff.mpr rfl, hsetting]
    | some setting => simp only [Parameter.ofArgument?_eq_some_iff.mpr rfl, hsetting, gives_eq]

/-- An argument is read when its value is null, or is of the right kind for a parameter that is not
given yet. -/
theorem read_eq_ok_iff {word : String} {value : Sdl.Value} :
    declaration.read (word, value) = .ok next ↔
      value = .null ∧ next = declaration ∨
      ∃ p setting, word = p.argument ∧ p.setting? value = some setting ∧
        declaration.setting? p = none ∧ next = declaration.add setting := by
  by_cases hnull : value = .null
  · subst hnull
    simp [read_null, Parameter.setting?_null, eq_comm]
  · rw [or_iff_right fun h => hnull h.1]
    by_cases hknown : ∃ p : Parameter, word = p.argument
    · obtain ⟨p, rfl⟩ := hknown
      rw [read_of_known hnull]
      constructor
      · intro h
        split at h
        · contradiction
        · next setting hsetting =>
          split at h
          · contradiction
          · next hfree =>
            rw [Option.not_isSome_iff_eq_none] at hfree
            exact ⟨p, setting, rfl, hsetting, hfree, (Except.ok.inj h).symm⟩
      · rintro ⟨q, setting, hword, hsetting, hfree, rfl⟩
        obtain rfl := Parameter.argument_inj hword
        simp [hsetting, hfree]
    · rw [read_of_unknown hnull (not_exists.mp hknown)]
      simp only [reduceCtorEq, false_iff]
      rintro ⟨p, -, hword, -⟩
      exact hknown ⟨p, hword⟩

/-- An argument settles its own parameter and leaves the others as they are. -/
theorem setting?_of_read {argument : Sdl.Argument} (h : declaration.read argument = .ok next)
    (p : Parameter) : next.setting? p = (declaration.setting? p).or (p.given? argument) := by
  obtain ⟨word, value⟩ := argument
  rcases read_eq_ok_iff.mp h with ⟨rfl, rfl⟩ | ⟨q, setting, rfl, hsetting, hnone, rfl⟩
  · simp [Parameter.given?, Parameter.setting?_null]
  · rw [setting?_add, Parameter.parameter_of_setting? hsetting]
    by_cases hp : p = q
    · subst hp
      simp [Parameter.given?, hsetting, hnone]
    · have hword : q.argument ≠ p.argument := fun h => hp (Parameter.argument_inj h.symm)
      simp [Parameter.given?, hp, hword]

/-- Arguments settle what the first of them with the word of a parameter gives for it. -/
theorem setting?_of_foldlM {arguments : List Sdl.Argument}
    (h : arguments.foldlM read declaration = .ok next) (p : Parameter) :
    next.setting? p = (declaration.setting? p).or (arguments.findSome? p.given?) := by
  induction arguments generalizing declaration with
  | nil =>
    obtain rfl := pure_eq_ok_iff.mp h
    simp
  | cons argument arguments ih =>
    rw [List.foldlM_cons, bind_eq_ok_iff] at h
    obtain ⟨middle, hread, hrest⟩ := h
    rw [ih hrest, setting?_of_read hread, List.findSome?_cons]
    cases declaration.setting? p with
    | some setting => rfl
    | none => cases p.given? argument <;> rfl

/-! ### Declarations -/

section

variable (arguments : List Sdl.Argument)

theorem findSome?_name :
    arguments.findSome? Parameter.name.given? =
      (Sdl.givenText? arguments Parameter.name.argument).map .name := by
  rw [Sdl.givenText?, List.map_findSome?]
  congr 1
  funext ⟨word, value⟩
  by_cases hword : word = Parameter.name.argument <;>
    cases value <;> simp [Parameter.given?, Parameter.setting?, hword]

theorem findSome?_pattern :
    arguments.findSome? Parameter.pattern.given? =
      (Sdl.givenWord? arguments Parameter.pattern.argument).map .pattern := by
  rw [Sdl.givenWord?, List.map_findSome?]
  congr 1
  funext ⟨word, value⟩
  by_cases hword : word = Parameter.pattern.argument <;>
    cases value <;> simp [Parameter.given?, Parameter.setting?, hword]

theorem findSome?_permission (p : Permission) :
    arguments.findSome? (Parameter.permission p).given? =
      (Sdl.givenText? arguments p.argument).map (.permission p) := by
  rw [Sdl.givenText?, List.map_findSome?]
  congr 1
  funext ⟨word, value⟩
  by_cases hword : word = p.argument <;>
    cases value <;> simp [Parameter.given?, Parameter.setting?, Parameter.argument, hword]

theorem findSome?_switch (s : Switch) :
    arguments.findSome? (Parameter.switch s).given? =
      (Sdl.givenTruth? arguments s.argument).map (.switch s) := by
  rw [Sdl.givenTruth?, List.map_findSome?]
  congr 1
  funext ⟨word, value⟩
  by_cases hword : word = s.argument <;>
    cases value <;> simp [Parameter.given?, Parameter.setting?, Parameter.argument, hword]

end

/-- The declaration with what some arguments give for each parameter. -/
def given (typeName : String) (arguments : List Sdl.Argument) : Declaration where
  typeName
  name? := Sdl.givenText? arguments "name"
  pattern? := Sdl.givenWord? arguments "type"
  permissions :=
    { read := Sdl.givenText? arguments "readPermission"
      write := Sdl.givenText? arguments "writePermission"
      update := Sdl.givenText? arguments "updatePermission"
      delete := Sdl.givenText? arguments "deletePermission" }
  switches :=
    { publicRead := Sdl.givenTruth? arguments "allowPublicRead"
      update := Sdl.givenTruth? arguments "allowUpdate"
      delete := Sdl.givenTruth? arguments "allowDelete" }

theorem setting?_given (typeName : String) (arguments : List Sdl.Argument) (p : Parameter) :
    (given typeName arguments).setting? p = arguments.findSome? p.given? := by
  cases p with
  | name => exact (findSome?_name arguments).symm
  | pattern => exact (findSome?_pattern arguments).symm
  | permission p =>
    rw [findSome?_permission]
    cases p <;> rfl
  | switch s =>
    rw [findSome?_switch]
    cases s <;> rfl

theorem eq_of_setting?_eq (htype : declaration.typeName = next.typeName)
    (h : ∀ p, declaration.setting? p = next.setting? p) : declaration = next := by
  have hname : declaration.name? = next.name? :=
    (Option.map_inj_right fun _ _ => Setting.name.inj).mp (h .name)
  have hpattern : declaration.pattern? = next.pattern? :=
    (Option.map_inj_right fun _ _ => Setting.pattern.inj).mp (h .pattern)
  have hpermission : ∀ p, declaration.permissions.get p = next.permissions.get p := fun p =>
    (Option.map_inj_right fun _ _ heq => (Setting.permission.inj heq).2).mp (h (.permission p))
  have hswitch : ∀ s, declaration.switches.get s = next.switches.get s := fun s =>
    (Option.map_inj_right fun _ _ heq => (Setting.switch.inj heq).2).mp (h (.switch s))
  have hpermissions : declaration.permissions = next.permissions := by
    rw [Permissions.mk.injEq]
    exact ⟨hpermission .read, hpermission .write, hpermission .update, hpermission .delete⟩
  have hswitches : declaration.switches = next.switches := by
    rw [Switches.mk.injEq]
    exact ⟨hswitch .publicRead, hswitch .update, hswitch .delete⟩
  rw [Declaration.mk.injEq]
  exact ⟨htype, hname, hpattern, hpermissions, hswitches⟩

theorem typeName_of_read {argument : Sdl.Argument} (h : declaration.read argument = .ok next) :
    next.typeName = declaration.typeName := by
  rcases read_eq_ok_iff.mp h with ⟨-, rfl⟩ | ⟨-, setting, -, -, -, rfl⟩
  · rfl
  · cases setting <;> rfl

theorem typeName_of_foldlM {arguments : List Sdl.Argument}
    (h : arguments.foldlM read declaration = .ok next) : next.typeName = declaration.typeName := by
  induction arguments generalizing declaration with
  | nil => rw [pure_eq_ok_iff.mp h]
  | cons argument arguments ih =>
    rw [List.foldlM_cons, bind_eq_ok_iff] at h
    obtain ⟨middle, hread, hrest⟩ := h
    rw [ih hrest, typeName_of_read hread]

/-- A declaration that arguments make is the one with what they give. -/
theorem eq_given {typeName : String} {arguments : List Sdl.Argument}
    (h : ofArguments typeName arguments = .ok declaration) :
    declaration = given typeName arguments := by
  have hfold := mapError_eq_ok_iff.mp h
  have htype := typeName_of_foldlM hfold
  refine eq_of_setting?_eq htype fun p => ?_
  rw [setting?_of_foldlM hfold, setting?_given]
  cases p with
  | name | pattern => rfl
  | permission p => cases p <;> rfl
  | switch s => cases s <;> rfl

end Declaration

end SchemaPolicy
