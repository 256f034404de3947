import Mathlib.Data.List.Induction
import Mathlib.Data.List.Nodup
import SchemaPolicy.Proofs.Declaration.Arguments

/-! Which arguments a declaration refuses. One with the value null counts for nothing. The others
are read exactly when each has a word of its own and a value of the kind that its word asks for;
else the first that has not is the mistake. In which order they are read does not matter. -/

namespace SchemaPolicy

open Outcome

/-- Whether a value is null, so that its argument counts as absent. -/
def Sdl.Value.isNull : Sdl.Value → Bool
  | .null => true
  | _ => false

/-- The arguments whose value is not null. -/
def Sdl.present (arguments : List Sdl.Argument) : List Sdl.Argument :=
  arguments.filter fun argument => !argument.2.isNull

/-- A value is of a kind. -/
def ValueKind.Admits : ValueKind → Sdl.Value → Prop
  | text, .string _ => True
  | word, .word _ | word, .string _ => True
  | truth, .boolean _ => True
  | _, _ => False

theorem Sdl.Value.isNull_eq_false_iff {value : Sdl.Value} :
    value.isNull = false ↔ value ≠ .null := by
  cases value <;> simp [isNull]

theorem Sdl.mem_present_iff {arguments : List Sdl.Argument} {argument : Sdl.Argument} :
    argument ∈ Sdl.present arguments ↔ argument ∈ arguments ∧ argument.2 ≠ .null := by
  simp [present, Sdl.Value.isNull_eq_false_iff]

namespace Declaration

/-- The words that a declaration knows. -/
def words : List String :=
  ["name", "type", "readPermission", "writePermission", "updatePermission", "deletePermission",
    "allowDelete", "allowUpdate", "allowPublicRead"]

/-- The kind of value that each word asks for. -/
def expectedKind? : String → Option ValueKind
  | "name" => some .text
  | "type" => some .word
  | "readPermission" | "writePermission" | "updatePermission" | "deletePermission" => some .text
  | "allowDelete" | "allowUpdate" | "allowPublicRead" => some .truth
  | _ => none

/-- Arguments with words of their own, each with a value of the kind that its word asks for. -/
structure Readable (arguments : List Sdl.Argument) : Prop where
  fits : ∀ argument ∈ arguments, ∃ kind, expectedKind? argument.1 = some kind ∧
    kind.Admits argument.2
  distinct : (arguments.map (·.1)).Nodup

/-- What is wrong with an argument behind earlier ones. -/
inductive Offends (earlier : List Sdl.Argument) : Sdl.Argument → AuthoringMistake → Prop
  | unknown {word : String} {value : Sdl.Value} (unknown : expectedKind? word = none) :
    Offends earlier (word, value) (.unknownArgument word)
  | unfit {word : String} {value : Sdl.Value} {kind : ValueKind}
    (known : expectedKind? word = some kind) (unfit : ¬kind.Admits value) :
    Offends earlier (word, value) (.invalidArgument word kind)
  | repeated {word : String} {value : Sdl.Value} {kind : ValueKind}
    (known : expectedKind? word = some kind) (fit : kind.Admits value)
    (given : word ∈ earlier.map (·.1)) :
    Offends earlier (word, value) (.repeatedArgument word)

/-- A declaration that has what the arguments say, and nothing else. -/
structure Reflects (declaration : Declaration) (arguments : List Sdl.Argument) : Prop where
  name : ∀ text, declaration.name? = some text ↔ ("name", .string text) ∈ arguments
  pattern : ∀ word, declaration.pattern? = some word ↔
    ("type", .word word) ∈ arguments ∨ ("type", .string word) ∈ arguments
  read : ∀ text, declaration.permissions.read = some text ↔
    ("readPermission", .string text) ∈ arguments
  write : ∀ text, declaration.permissions.write = some text ↔
    ("writePermission", .string text) ∈ arguments
  update : ∀ text, declaration.permissions.update = some text ↔
    ("updatePermission", .string text) ∈ arguments
  delete : ∀ text, declaration.permissions.delete = some text ↔
    ("deletePermission", .string text) ∈ arguments
  allowsPublicRead : ∀ value, declaration.switches.publicRead = some value ↔
    ("allowPublicRead", .boolean value) ∈ arguments
  allowsUpdate : ∀ value, declaration.switches.update = some value ↔
    ("allowUpdate", .boolean value) ∈ arguments
  allowsDelete : ∀ value, declaration.switches.delete = some value ↔
    ("allowDelete", .boolean value) ∈ arguments

variable {declaration next : Declaration} {arguments : List Sdl.Argument} {p : Parameter}

/-! ### One argument -/

theorem expectedKind?_argument (p : Parameter) : expectedKind? p.argument = some p.kind := by
  rcases p with _ | _ | p | s
  · rfl
  · rfl
  · cases p <;> rfl
  · cases s <;> rfl

theorem expectedKind?_eq_some_iff {word : String} {kind : ValueKind} :
    expectedKind? word = some kind ↔ ∃ p : Parameter, word = p.argument ∧ kind = p.kind := by
  constructor
  · intro h
    have hword : ∃ p : Parameter, word = p.argument := by
      unfold expectedKind? at h
      split at h
      · exact ⟨.name, rfl⟩
      · exact ⟨.pattern, rfl⟩
      · exact ⟨.permission .read, rfl⟩
      · exact ⟨.permission .write, rfl⟩
      · exact ⟨.permission .update, rfl⟩
      · exact ⟨.permission .delete, rfl⟩
      · exact ⟨.switch .delete, rfl⟩
      · exact ⟨.switch .update, rfl⟩
      · exact ⟨.switch .publicRead, rfl⟩
      · contradiction
    obtain ⟨p, rfl⟩ := hword
    rw [expectedKind?_argument] at h
    exact ⟨p, rfl, (Option.some.inj h).symm⟩
  · rintro ⟨p, rfl, rfl⟩
    exact expectedKind?_argument p

theorem expectedKind?_eq_none_iff {word : String} :
    expectedKind? word = none ↔ ∀ p : Parameter, word ≠ p.argument := by
  constructor
  · rintro h p rfl
    rw [expectedKind?_argument] at h
    contradiction
  · intro h
    refine Option.eq_none_iff_forall_ne_some.mpr fun kind hkind => ?_
    obtain ⟨p, hword, -⟩ := expectedKind?_eq_some_iff.mp hkind
    exact h p hword

theorem expectedKind?_eq_none_of_notMem {word : String} (h : word ∉ words) :
    expectedKind? word = none := by
  refine expectedKind?_eq_none_iff.mpr ?_
  rintro p rfl
  refine h ?_
  rcases p with _ | _ | p | s
  · decide
  · decide
  · cases p <;> decide
  · cases s <;> decide

/-- A value fits a word when it makes a setting of its parameter. -/
theorem admits_kind_iff {value : Sdl.Value} :
    p.kind.Admits value ↔ ∃ setting, p.setting? value = some setting := by
  rcases p with _ | _ | p | s <;>
    cases value <;> simp [Parameter.kind, Parameter.setting?, ValueKind.Admits]

/-- Behind arguments that gave what the declaration has, an argument is refused for what is wrong
with it. -/
theorem read_eq_error_iff {earlier : List Sdl.Argument} {word : String} {value : Sdl.Value}
    {mistake : AuthoringMistake} (hnull : value ≠ .null)
    (hgiven : ∀ p, (declaration.setting? p).isSome ↔ p.argument ∈ earlier.map (·.1)) :
    declaration.read (word, value) = .error mistake ↔ Offends earlier (word, value) mistake := by
  constructor
  · intro h
    by_cases hknown : ∃ p : Parameter, word = p.argument
    · obtain ⟨p, rfl⟩ := hknown
      have hkind := expectedKind?_argument p
      rw [read_of_known hnull] at h
      split at h
      · next hsetting =>
        obtain rfl := Except.error.inj h
        exact .unfit hkind (by simp [admits_kind_iff, hsetting])
      · next setting hsetting =>
        split at h
        · next hrepeated =>
          obtain rfl := Except.error.inj h
          exact .repeated hkind (admits_kind_iff.mpr ⟨setting, hsetting⟩) ((hgiven p).mp hrepeated)
        · contradiction
    · rw [read_of_unknown hnull (not_exists.mp hknown)] at h
      obtain rfl := Except.error.inj h
      exact .unknown (expectedKind?_eq_none_iff.mpr (not_exists.mp hknown))
  · intro h
    cases h with
    | unknown unknown => exact read_of_unknown hnull (expectedKind?_eq_none_iff.mp unknown)
    | unfit known unfit =>
      obtain ⟨p, rfl, rfl⟩ := expectedKind?_eq_some_iff.mp known
      rw [admits_kind_iff, not_exists, ← Option.eq_none_iff_forall_ne_some] at unfit
      rw [read_of_known hnull, unfit]
    | repeated known fit given =>
      obtain ⟨p, rfl, rfl⟩ := expectedKind?_eq_some_iff.mp known
      obtain ⟨setting, hsetting⟩ := admits_kind_iff.mp fit
      rw [read_of_known hnull, hsetting]
      exact if_pos ((hgiven p).mpr given)

theorem not_exists_offends_iff {earlier : List Sdl.Argument} {word : String} {value : Sdl.Value} :
    (¬∃ mistake, Offends earlier (word, value) mistake) ↔
      (∃ kind, expectedKind? word = some kind ∧ kind.Admits value) ∧
        word ∉ earlier.map (·.1) := by
  constructor
  · intro h
    cases hkind : expectedKind? word with
    | none => exact absurd ⟨_, .unknown hkind⟩ h
    | some kind =>
      have hfit : kind.Admits value := by
        by_contra hunfit
        exact h ⟨_, .unfit hkind hunfit⟩
      exact ⟨⟨kind, rfl, hfit⟩, fun hgiven => h ⟨_, .repeated hkind hfit hgiven⟩⟩
  · rintro ⟨⟨kind, hkind, hfit⟩, hnew⟩ ⟨mistake, h⟩
    cases h with
    | unknown unknown =>
      rw [hkind] at unknown
      contradiction
    | unfit known unfit =>
      obtain rfl := Option.some.inj (hkind.symm.trans known)
      exact unfit hfit
    | repeated known fit given => exact hnew given

theorem readable_concat_iff {argument : Sdl.Argument} :
    Readable (arguments ++ [argument]) ↔
      Readable arguments ∧ ¬∃ mistake, Offends arguments argument mistake := by
  obtain ⟨word, value⟩ := argument
  rw [not_exists_offends_iff]
  constructor
  · rintro ⟨hfits, hdistinct⟩
    rw [List.forall_mem_append, List.forall_mem_singleton] at hfits
    rw [List.map_append, List.map_singleton, ← List.concat_eq_append,
      List.nodup_concat] at hdistinct
    exact ⟨⟨hfits.1, hdistinct.2⟩, hfits.2, hdistinct.1⟩
  · rintro ⟨⟨hfits, hdistinct⟩, hfit, hnew⟩
    refine ⟨?_, ?_⟩
    · rw [List.forall_mem_append, List.forall_mem_singleton]
      exact ⟨hfits, hfit⟩
    · rw [List.map_append, List.map_singleton, ← List.concat_eq_append, List.nodup_concat]
      exact ⟨hnew, hdistinct⟩

/-! ### Arguments one after another -/

/-- What is given after an argument that is read is what was given before it, and its own. -/
theorem isSome_setting?_of_read {argument : Sdl.Argument} (hnull : argument.2 ≠ .null)
    (h : declaration.read argument = .ok next) (p : Parameter) :
    (next.setting? p).isSome ↔ (declaration.setting? p).isSome ∨ p.argument = argument.1 := by
  obtain ⟨word, value⟩ := argument
  rcases read_eq_ok_iff.mp h with ⟨hvalue, -⟩ | ⟨q, setting, rfl, hsetting, -, rfl⟩
  · exact absurd hvalue hnull
  · rw [setting?_add, Parameter.parameter_of_setting? hsetting]
    by_cases hp : p = q
    · simp [hp]
    · have hword : p.argument ≠ q.argument := fun hword => hp (Parameter.argument_inj hword)
      simp [hp, hword]

/-- What is given after arguments that are read is what they have words for. -/
theorem isSome_setting?_of_foldlM (hnull : ∀ argument ∈ arguments, argument.2 ≠ .null)
    (h : arguments.foldlM read declaration = .ok next) (p : Parameter) :
    (next.setting? p).isSome ↔
      (declaration.setting? p).isSome ∨ p.argument ∈ arguments.map (·.1) := by
  induction arguments generalizing declaration with
  | nil =>
    obtain rfl := pure_eq_ok_iff.mp h
    simp
  | cons argument arguments ih =>
    obtain ⟨hfirst, hothers⟩ := List.forall_mem_cons.mp hnull
    rw [List.foldlM_cons, bind_eq_ok_iff] at h
    obtain ⟨middle, hread, hrest⟩ := h
    rw [ih hothers hrest, isSome_setting?_of_read hfirst hread, List.map_cons, List.mem_cons,
      or_assoc]

theorem setting?_empty (typeName : String) (p : Parameter) :
    Declaration.setting? { typeName } p = none := by
  rcases p with _ | _ | p | s
  · rfl
  · rfl
  · cases p <;> rfl
  · cases s <;> rfl

section

variable {typeName : String} (hnull : ∀ argument ∈ arguments, argument.2 ≠ .null)
include hnull

theorem read_eq_error_iff_offends {argument : Sdl.Argument} {mistake : AuthoringMistake}
    (hargument : argument.2 ≠ .null)
    (h : arguments.foldlM read { typeName } = .ok declaration) :
    declaration.read argument = .error mistake ↔ Offends arguments argument mistake := by
  obtain ⟨word, value⟩ := argument
  refine read_eq_error_iff hargument fun p => ?_
  rw [isSome_setting?_of_foldlM hnull h, setting?_empty]
  simp

/-- Arguments without nulls are read exactly when they are readable. The induction takes the last
argument off, since what is wrong with it depends on those before. -/
theorem exists_foldlM_read_iff :
    (∃ next, arguments.foldlM read { typeName } = .ok next) ↔ Readable arguments := by
  induction arguments using List.reverseRecOn with
  | nil => exact ⟨fun _ => ⟨nofun, .nil⟩, fun _ => ⟨_, rfl⟩⟩
  | append_singleton arguments argument ih =>
    rw [List.forall_mem_append, List.forall_mem_singleton] at hnull
    obtain ⟨hearlier, hargument⟩ := hnull
    simp only [List.foldlM_append, List.foldlM_cons, List.foldlM_nil, bind_pure, bind_eq_ok_iff]
    rw [readable_concat_iff, ← ih hearlier]
    constructor
    · rintro ⟨next, middle, hmiddle, hread⟩
      refine ⟨⟨middle, hmiddle⟩, ?_⟩
      rintro ⟨mistake, hoffends⟩
      rw [(read_eq_error_iff_offends hearlier hargument hmiddle).mpr hoffends] at hread
      contradiction
    · rintro ⟨⟨middle, hmiddle⟩, hinnocent⟩
      cases hread : middle.read argument with
      | ok next => exact ⟨next, middle, hmiddle, hread⟩
      | error mistake =>
        exact absurd ⟨_, (read_eq_error_iff_offends hearlier hargument hmiddle).mp hread⟩ hinnocent

/-- Arguments without nulls are refused for the first of them that offends. -/
theorem foldlM_read_eq_error_iff {mistake : AuthoringMistake} :
    arguments.foldlM read { typeName } = .error mistake ↔
      ∃ before argument after, arguments = before ++ argument :: after ∧ Readable before ∧
        Offends before argument mistake := by
  rw [foldlM_eq_error_iff]
  have hparts : ∀ {before argument after}, arguments = before ++ argument :: after →
      (∀ earlier ∈ before, earlier.2 ≠ .null) ∧ argument.2 ≠ .null := by
    rintro before argument after rfl
    exact ⟨fun earlier hmem => hnull earlier (List.mem_append_left _ hmem),
      hnull argument (List.mem_append_right _ List.mem_cons_self)⟩
  constructor
  · rintro ⟨before, argument, after, middle, hsplit, hbefore, hread⟩
    obtain ⟨hearlier, hargument⟩ := hparts hsplit
    exact ⟨before, argument, after, hsplit, (exists_foldlM_read_iff hearlier).mp ⟨_, hbefore⟩,
      (read_eq_error_iff_offends hearlier hargument hbefore).mp hread⟩
  · rintro ⟨before, argument, after, hsplit, hreadable, hoffends⟩
    obtain ⟨hearlier, hargument⟩ := hparts hsplit
    obtain ⟨middle, hbefore⟩ := (exists_foldlM_read_iff hearlier).mpr hreadable
    exact ⟨before, argument, after, middle, hsplit, hbefore,
      (read_eq_error_iff_offends hearlier hargument hbefore).mpr hoffends⟩

end

/-- Arguments with the value null have no part in what is read. -/
theorem foldlM_read_present (arguments : List Sdl.Argument) (declaration : Declaration) :
    (Sdl.present arguments).foldlM read declaration = arguments.foldlM read declaration := by
  induction arguments generalizing declaration with
  | nil => rfl
  | cons argument arguments ih =>
    obtain ⟨word, value⟩ := argument
    rw [Sdl.present, List.filter_cons, List.foldlM_cons]
    by_cases hnull : value = .null
    · subst hnull
      exact ih declaration
    · rw [if_pos (by simp [Sdl.Value.isNull_eq_false_iff, hnull]), List.foldlM_cons]
      exact congrArg _ (funext ih)

/-! ### What is read -/

/-- An argument that is read settles its own parameter, which nothing had settled before. -/
theorem setting?_eq_some_iff_of_read {argument : Sdl.Argument} {setting : Setting}
    (h : declaration.read argument = .ok next) :
    next.setting? p = some setting ↔
      declaration.setting? p = some setting ∨ p.given? argument = some setting := by
  rw [setting?_of_read h]
  cases hbefore : declaration.setting? p with
  | none => simp
  | some before =>
    have hnone : p.given? argument = none := by
      obtain ⟨word, value⟩ := argument
      rcases read_eq_ok_iff.mp h with ⟨rfl, -⟩ | ⟨q, other, rfl, -, hfree, -⟩
      · simp [Parameter.given?, Parameter.setting?_null]
      · have hword : q.argument ≠ p.argument := by
          intro hword
          rw [Parameter.argument_inj hword, hbefore] at hfree
          contradiction
        simp [Parameter.given?, hword]
    simp [hnone]

theorem setting?_eq_some_iff_of_foldlM {setting : Setting}
    (h : arguments.foldlM read declaration = .ok next) :
    next.setting? p = some setting ↔ declaration.setting? p = some setting ∨
      ∃ argument ∈ arguments, p.given? argument = some setting := by
  induction arguments generalizing declaration with
  | nil =>
    obtain rfl := pure_eq_ok_iff.mp h
    simp
  | cons argument arguments ih =>
    rw [List.foldlM_cons, bind_eq_ok_iff] at h
    obtain ⟨middle, hread, hrest⟩ := h
    rw [ih hrest, setting?_eq_some_iff_of_read hread, List.exists_mem_cons_iff, or_assoc]

theorem exists_given?_iff {setting : Setting} :
    (∃ argument ∈ arguments, p.given? argument = some setting) ↔
      ∃ value, (p.argument, value) ∈ arguments ∧ p.setting? value = some setting := by
  constructor
  · rintro ⟨⟨word, value⟩, hmem, hgiven⟩
    unfold Parameter.given? at hgiven
    split at hgiven
    · next hword =>
      subst hword
      exact ⟨value, hmem, hgiven⟩
    · contradiction
  · rintro ⟨value, hmem, hsetting⟩
    exact ⟨_, hmem, by rw [Parameter.given?, if_pos rfl, hsetting]⟩

theorem setting?_eq_some_iff {typeName : String}
    (h : arguments.foldlM read { typeName } = .ok declaration) (p : Parameter)
    (setting : Setting) : declaration.setting? p = some setting ↔
      ∃ value, (p.argument, value) ∈ arguments ∧ p.setting? value = some setting := by
  rw [setting?_eq_some_iff_of_foldlM h, setting?_empty, exists_given?_iff]
  simp

theorem Parameter.setting?_name_iff {value : Sdl.Value} {text : String} :
    name.setting? value = some (.name text) ↔ value = .string text := by
  cases value <;> simp [setting?]

theorem Parameter.setting?_pattern_iff {value : Sdl.Value} {word : String} :
    pattern.setting? value = some (.pattern word) ↔ value = .word word ∨ value = .string word := by
  cases value <;> simp [setting?]

theorem Parameter.setting?_permission_iff {value : Sdl.Value} {q : Permission} {text : String} :
    (permission q).setting? value = some (.permission q text) ↔ value = .string text := by
  cases value <;> simp [setting?]

theorem Parameter.setting?_switch_iff {value : Sdl.Value} {s : Switch} {position : Bool} :
    (switch s).setting? value = some (.switch s position) ↔ value = .boolean position := by
  cases value <;> simp [setting?]

theorem reflects_of_foldlM {typeName : String}
    (h : arguments.foldlM read { typeName } = .ok declaration) :
    declaration.Reflects arguments := by
  have hname (text : String) : declaration.name? = some text ↔
      (Parameter.name.argument, .string text) ∈ arguments := by
    have hsetting := setting?_eq_some_iff h .name (.name text)
    simpa [setting?, Parameter.setting?_name_iff] using hsetting
  have hpattern (word : String) : declaration.pattern? = some word ↔
      (Parameter.pattern.argument, .word word) ∈ arguments ∨
        (Parameter.pattern.argument, .string word) ∈ arguments := by
    have hsetting := setting?_eq_some_iff h .pattern (.pattern word)
    simpa [setting?, Parameter.setting?_pattern_iff, and_or_left, exists_or] using hsetting
  have hpermission (q : Permission) (text : String) : declaration.permissions.get q = some text ↔
      ((Parameter.permission q).argument, .string text) ∈ arguments := by
    have hsetting := setting?_eq_some_iff h (.permission q) (.permission q text)
    simpa [setting?, Parameter.setting?_permission_iff] using hsetting
  have hswitch (s : Switch) (value : Bool) : declaration.switches.get s = some value ↔
      ((Parameter.switch s).argument, .boolean value) ∈ arguments := by
    have hsetting := setting?_eq_some_iff h (.switch s) (.switch s value)
    simpa [setting?, Parameter.setting?_switch_iff] using hsetting
  exact ⟨hname, hpattern, hpermission .read, hpermission .write, hpermission .update,
    hpermission .delete, hswitch .publicRead, hswitch .update, hswitch .delete⟩

/-- The order of arguments has no part in what is read. -/
theorem foldlM_read_perm {typeName : String} {others : List Sdl.Argument}
    (hnull : ∀ argument ∈ arguments, argument.2 ≠ .null) (hperm : others.Perm arguments)
    (h : arguments.foldlM read { typeName } = .ok declaration) :
    others.foldlM read { typeName } = .ok declaration := by
  have hreadable := (exists_foldlM_read_iff hnull).mp ⟨_, h⟩
  have hothers : Readable others :=
    ⟨fun argument hmem => hreadable.fits argument (hperm.mem_iff.mp hmem),
      (hperm.map _).nodup_iff.mpr hreadable.distinct⟩
  obtain ⟨other, hother⟩ : ∃ other, others.foldlM read { typeName } = .ok other :=
    (exists_foldlM_read_iff fun argument hmem =>
      hnull argument (hperm.mem_iff.mp hmem)).mpr hothers
  have heq : other = declaration := by
    refine eq_of_setting?_eq ?_ fun p => Option.ext fun setting => ?_
    · rw [typeName_of_foldlM hother, typeName_of_foldlM h]
    · simp only [setting?_eq_some_iff hother, setting?_eq_some_iff h, hperm.mem_iff]
  rw [hother, heq]

/-- Arguments are read as if those with the value null were left out. The others are read exactly
when they are readable, in any order alike, and what is read is what they say; else the first that
offends is to blame. -/
theorem ofArguments_verdict (typeName : String) (arguments : List Sdl.Argument) :
    ofArguments typeName arguments = ofArguments typeName (Sdl.present arguments) ∧
    ((∀ argument ∈ arguments, argument.2 ≠ .null) →
      ((∃ d, ofArguments typeName arguments = .ok d) ↔ Readable arguments) ∧
      (∀ d, ofArguments typeName arguments = .ok d →
        d.typeName = typeName ∧ d.Reflects arguments ∧
        ∀ others, others.Perm arguments → ofArguments typeName others = .ok d) ∧
      ∀ error, ofArguments typeName arguments = .error error ↔
        ∃ before argument after mistake, arguments = before ++ argument :: after ∧
          Readable before ∧ Offends before argument mistake ∧ error = ⟨typeName, mistake⟩) := by
  simp only [ofArguments, foldlM_read_present, mapError_eq_ok_iff, mapError_eq_error_iff, true_and]
  intro hnull
  refine ⟨exists_foldlM_read_iff hnull, fun d hd => ⟨typeName_of_foldlM hd, reflects_of_foldlM hd,
    fun others hperm => foldlM_read_perm hnull hperm hd⟩, fun error => ?_⟩
  constructor
  · rintro ⟨mistake, hmistake, rfl⟩
    obtain ⟨before, argument, after, hsplit, hbefore, hoffends⟩ :=
      (foldlM_read_eq_error_iff hnull).mp hmistake
    exact ⟨before, argument, after, mistake, hsplit, hbefore, hoffends, rfl⟩
  · rintro ⟨before, argument, after, mistake, hsplit, hbefore, hoffends, rfl⟩
    exact ⟨mistake, (foldlM_read_eq_error_iff hnull).mpr
      ⟨before, argument, after, hsplit, hbefore, hoffends⟩, rfl⟩

example : ofArguments "Post" [("name", .string "posts"), ("owner", .null), ("name", .int 1)] =
    .error ⟨"Post", .invalidArgument "name" .text⟩ := by rfl

end Declaration

end SchemaPolicy
