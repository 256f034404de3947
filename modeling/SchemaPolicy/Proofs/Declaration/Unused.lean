import SchemaPolicy.Proofs.Collection.Faithful
import SchemaPolicy.Proofs.Declaration.Fault

/-! Arguments of a declaration that have no effect: what its pattern does not use is neither checked
nor told of, and a permission that no condition asks for leaves no trace in the rule. -/

namespace SchemaPolicy

open Outcome

theorem AccessPattern.spelling_inj {pattern other : AccessPattern}
    (h : pattern.spelling = other.spelling) : pattern = other :=
  Option.some.inj ((ofSpelling?_eq_some_iff.mpr rfl).symm.trans (ofSpelling?_eq_some_iff.mpr h))

namespace Declaration

/-- Two declarations give the same for all that a pattern uses. -/
structure Matches (pattern : AccessPattern) (a b : Declaration) : Prop where
  permissions : ∀ permission ∈ pattern.permissions,
    a.permissions.get permission = b.permissions.get permission
  switches : pattern = .indexedByTenant → ∀ switch, a.position switch = b.position switch

/-- A permission that no condition of an indexed collection asks for: its operation is open to all,
or is not granted. -/
def Idle (declaration : Declaration) : Permission → Prop
  | .read => declaration.switches.publicRead = some true
  | .write => False
  | .update => declaration.switches.update = some false
  | .delete => declaration.switches.delete = some false

/-- Changes of a declaration that leave no trace in the text of its rule. -/
inductive Untraced (declaration : Declaration) : Declaration → Prop
  | typeName (typeName : String) : Untraced declaration { declaration with typeName }
  | permission {permission : Permission} (given? : Option String)
    (patterned : declaration.pattern? = some "INDEXED_BY_TENANT")
    (idle : declaration.Idle permission) :
    Untraced declaration
      { declaration with permissions := declaration.permissions.set permission given? }
  | switch {switch : Switch} (absent : declaration.switches.get switch = none) :
    Untraced declaration
      { declaration with switches := declaration.switches.set switch (some switch.byDefault) }

variable {a b : Declaration} {d d' : Descriptor}

/-! ### Checks -/

theorem checkedPermission_congr {permission : Permission} (pattern : AccessPattern)
    (h : a.permissions.get permission = b.permissions.get permission) :
    a.checkedPermission pattern permission = b.checkedPermission pattern permission := by
  unfold checkedPermission
  rw [h]

theorem checkedProtection_congr {pattern : AccessPattern} (h : Matches pattern a b) :
    a.checkedProtection pattern = b.checkedProtection pattern := by
  obtain ⟨hpermissions, hswitches⟩ := h
  have hchecked := fun permission hmem =>
    checkedPermission_congr pattern (hpermissions permission hmem)
  cases pattern with
  | indexedByTenant =>
    have hposition := hswitches rfl
    unfold checkedProtection
    simp only [hchecked .read (by decide), hchecked .write (by decide),
      hchecked .update (by decide), hchecked .delete (by decide), hposition]
  | docPerTenant =>
    unfold checkedProtection
    simp only [hchecked .read (by decide), hchecked .write (by decide)]
  | docPerUser => rfl

/-- Declarations that match on what their pattern uses have the same result, be it a descriptor or
an error. -/
theorem descriptor_congr (htype : a.typeName = b.typeName) (hname : a.name? = b.name?)
    (hpattern : a.pattern? = b.pattern?)
    (h : ∀ pattern : AccessPattern, a.pattern? = some pattern.spelling → Matches pattern a b) :
    a.descriptor = b.descriptor := by
  have hcheckedName : a.checkedName = b.checkedName := by
    unfold checkedName
    rw [hname]
  have hcheckedPattern : a.checkedPattern = b.checkedPattern := by
    unfold checkedPattern
    rw [hpattern]
  have hchecked : a.checked = b.checked := by
    unfold checked
    rw [hcheckedName, hcheckedPattern, htype]
    cases hfound : b.checkedPattern with
    | error mistake => rfl
    | ok pattern =>
      rw [← hcheckedPattern] at hfound
      have hprotection := checkedProtection_congr (h pattern (checkedPattern_eq_ok_iff.mp hfound))
      cases b.checkedName with
      | error mistake => rfl
      | ok name =>
        show (a.checkedProtection pattern >>= _) = b.checkedProtection pattern >>= _
        rw [hprotection]
  unfold descriptor
  rw [hchecked, htype]

/-! ### Rules -/

/-- Protections that are settled alike agree, but for permissions that no condition asks for. -/
theorem Settles.agrees {protection other : Protection} (h : a.Settles protection)
    (h' : b.Settles other) (hpattern : protection.pattern = other.pattern)
    (hposition : ∀ switch, a.position switch = b.position switch)
    (hpermission : ∀ permission, a.permissions.get permission = b.permissions.get permission ∨
      protection.pattern = .indexedByTenant ∧ a.Idle permission) : protection.Agrees other := by
  cases protection with
  | indexedByTenant p s =>
    cases other with
    | indexedByTenant q t =>
      obtain ⟨hnames, hswitches⟩ := h
      obtain ⟨hnames', hswitches'⟩ := h'
      have hswitch : ∀ switch, s.get switch = t.get switch := fun switch => by
        rw [hswitches, hswitches', hposition]
      have hsame : ∀ permission, ¬a.Idle permission → p.get permission = q.get permission := by
        intro permission hused
        have hgiven := (hpermission permission).resolve_right fun hidle => hused hidle.2
        rw [(hnames permission).1, (hnames' permission).1] at hgiven
        exact Option.some.inj hgiven
      have hturned : ∀ switch value, a.switches.get switch = some value → s.get switch = value := by
        intro switch value hgiven
        rw [hswitches, position, hgiven, Option.getD_some]
      -- The switch of an idle permission stands against the condition that would ask for it.
      refine ⟨?_, hsame .write id, fun hclosed => hsame .read fun hopen => ?_,
        fun hgranted => hsame .update fun hoff => ?_, fun hgranted => hsame .delete fun hoff => ?_⟩
      · rw [Switches.mk.injEq]
        exact ⟨hswitch .publicRead, hswitch .update, hswitch .delete⟩
      · exact absurd ((hturned .publicRead true hopen).symm.trans hclosed) (by decide)
      · exact absurd ((hturned .update false hoff).symm.trans hgranted) (by decide)
      · exact absurd ((hturned .delete false hoff).symm.trans hgranted) (by decide)
    | docPerTenant _ _ | docPerUser => cases hpattern
  | docPerTenant read write =>
    cases other with
    | docPerTenant read' write' =>
      have hgiven : ∀ permission, a.permissions.get permission = b.permissions.get permission :=
        fun permission => (hpermission permission).resolve_right fun hidle => by cases hidle.1
      have hread := hgiven .read
      have hwrite := hgiven .write
      rw [h.1.1, h'.1.1] at hread
      rw [h.2.1, h'.2.1] at hwrite
      exact ⟨Option.some.inj hread, Option.some.inj hwrite⟩
    | indexedByTenant _ _ | docPerUser => cases hpattern
  | docPerUser =>
    cases other with
    | docPerUser => trivial
    | indexedByTenant _ _ | docPerTenant _ _ => cases hpattern

/-- Declarations with the same name, pattern and switches have the same rule, if they differ at most
in permissions that no condition asks for. -/
theorem rule_eq (h : a.descriptor = .ok d) (h' : b.descriptor = .ok d')
    (hname : a.name? = b.name?) (hpattern : a.pattern? = b.pattern?)
    (hposition : ∀ switch, a.position switch = b.position switch)
    (hpermission : ∀ permission, a.permissions.get permission = b.permissions.get permission ∨
      a.pattern? = some "INDEXED_BY_TENANT" ∧ a.Idle permission) : d.rule = d'.rule := by
  obtain ⟨-, ⟨hgiven, -, hsegment⟩, hword, hsettles⟩ := descriptor_eq_ok_iff.mp h
  obtain ⟨-, ⟨hgiven', -, hsegment'⟩, hword', hsettles'⟩ := descriptor_eq_ok_iff.mp h'
  have hnames : d.name = d'.name :=
    Option.some.inj (hgiven.symm.trans (hname.trans hgiven'))
  have hpatterns : d.protection.pattern = d'.protection.pattern :=
    AccessPattern.spelling_inj (Option.some.inj (hword.symm.trans (hpattern.trans hword')))
  refine (Collection.rule_eq_iff hsegment hsegment').mpr ⟨hnames,
    hsettles.agrees hsettles' hpatterns hposition fun permission => ?_⟩
  refine (hpermission permission).imp_right fun ⟨hindexed, hidle⟩ => ⟨?_, hidle⟩
  exact AccessPattern.spelling_inj (Option.some.inj (hword.symm.trans hindexed))

theorem position_set_byDefault {declaration : Declaration} {switch : Switch}
    (h : declaration.switches.get switch = none) (other : Switch) :
    { declaration with switches :=
        declaration.switches.set switch (some switch.byDefault) }.position other =
      declaration.position other := by
  unfold position
  by_cases hother : other = switch
  · subst hother
    simp [h]
  · simp [Switches.get_set_of_ne _ _ hother]

theorem Untraced.rule_eq (h : a.Untraced b) (ha : a.descriptor = .ok d)
    (hb : b.descriptor = .ok d') : d.rule = d'.rule := by
  cases h with
  | typeName => exact Declaration.rule_eq ha hb rfl rfl (fun _ => rfl) fun _ => .inl rfl
  | @permission permission given? patterned idle =>
    refine Declaration.rule_eq ha hb rfl rfl (fun _ => rfl) fun other => ?_
    by_cases hother : other = permission
    · subst hother
      exact .inr ⟨patterned, idle⟩
    · exact .inl (Permissions.get_set_of_ne _ _ hother).symm
  | switch absent =>
    have hposition := position_set_byDefault absent
    exact Declaration.rule_eq ha hb rfl rfl (fun other => (hposition other).symm) fun _ => .inl rfl

/-- What a declaration gives beyond what its pattern uses has no effect: not on its result, and not
on the text of its rule where a permission is not asked for, where only the type is another or where
a switch is written in its default position. -/
theorem unused_inert (a b : Declaration) :
    (a.typeName = b.typeName → a.name? = b.name? → a.pattern? = b.pattern? →
      (a.pattern? = some "DOC_PER_USER" → a.descriptor = b.descriptor) ∧
      (a.pattern? = some "DOC_PER_TENANT" → a.permissions.read = b.permissions.read →
        a.permissions.write = b.permissions.write → a.descriptor = b.descriptor)) ∧
    ∀ d d', a.descriptor = .ok d → b.descriptor = .ok d' → a.Untraced b →
      d.rule.render = d'.rule.render := by
  refine ⟨fun htype hname hpattern => ⟨fun huser => ?_, fun htenant hread hwrite => ?_⟩,
    fun d d' ha hb huntraced => by rw [huntraced.rule_eq ha hb]⟩
  · refine descriptor_congr htype hname hpattern fun pattern hword => ?_
    obtain rfl : pattern = .docPerUser :=
      AccessPattern.spelling_inj (Option.some.inj (hword.symm.trans huser))
    exact ⟨fun _ hmem => absurd hmem List.not_mem_nil, nofun⟩
  · refine descriptor_congr htype hname hpattern fun pattern hword => ?_
    obtain rfl : pattern = .docPerTenant :=
      AccessPattern.spelling_inj (Option.some.inj (hword.symm.trans htenant))
    refine ⟨fun permission hmem => ?_, nofun⟩
    simp only [AccessPattern.permissions, List.mem_cons, List.not_mem_nil, or_false] at hmem
    rcases hmem with rfl | rfl
    · exact hread
    · exact hwrite

/-- Permissions that no quotes can hold have no effect where they are not used, and one that is
given for reading has none where reading is open to all. -/
theorem unused_inert_invalid :
    (∃ a b : Declaration, a.pattern? = some "DOC_PER_USER" ∧ a.permissions.read = none ∧
      b.permissions.read = some "it's" ∧ a.switches.update = none ∧
      b.switches.update = some false ∧ a.descriptor = b.descriptor) ∧
    (∃ a b : Declaration, a.pattern? = some "DOC_PER_TENANT" ∧ a.permissions.update = none ∧
      b.permissions.update = some "\\" ∧ a.descriptor = b.descriptor) ∧
    ∃ (a b : Declaration) (d d' : Descriptor), a.permissions.read = some "r" ∧
      b.permissions.read = some "s" ∧ a.descriptor = .ok d ∧ b.descriptor = .ok d' ∧
      d.rule.render = d'.rule.render := by
  let user : Declaration :=
    { typeName := "Note", name? := some "notes", pattern? := some "DOC_PER_USER" }
  let tenant : Declaration :=
    { typeName := "Note", name? := some "notes", pattern? := some "DOC_PER_TENANT"
      permissions := ⟨some "r", some "w", none, none⟩ }
  let indexed : Declaration :=
    { typeName := "Note", name? := some "notes", pattern? := some "INDEXED_BY_TENANT"
      permissions := ⟨some "r", some "w", some "u", some "d"⟩, switches := ⟨some true, none, none⟩ }
  let d (read : String) : Descriptor :=
    { typeName := "Note", name := "notes"
      protection := .indexedByTenant ⟨read, "w", "u", "d"⟩ ⟨true, true, true⟩ }
  let user' : Declaration := { user with
    permissions := ⟨some "it's", none, none, none⟩, switches := ⟨none, some false, none⟩ }
  let tenant' : Declaration :=
    { tenant with permissions := tenant.permissions.set .update (some "\\") }
  let indexed' : Declaration :=
    { indexed with permissions := indexed.permissions.set .read (some "s") }
  have huser := ((unused_inert user user').1 rfl rfl rfl).1 rfl
  have htenant := ((unused_inert tenant tenant').1 rfl rfl rfl).2 rfl rfl rfl
  have hindexed := (unused_inert indexed indexed').2 (d "r") (d "s") rfl rfl
    (.permission (some "s") rfl rfl)
  exact ⟨⟨user, user', rfl, rfl, rfl, rfl, rfl, huser⟩, ⟨tenant, tenant', rfl, rfl, rfl, htenant⟩,
    indexed, indexed', d "r", d "s", rfl, rfl, rfl, rfl, hindexed⟩

end Declaration

end SchemaPolicy
