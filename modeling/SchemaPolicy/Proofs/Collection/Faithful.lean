import SchemaPolicy.Proofs.Collection.Reading

/-! The lines of a block determine the rule of the collection, and the rule determines the
collection but for permissions that no condition asks for. -/

namespace SchemaPolicy

open Text

/-! ### Conditions -/

theorem hasPermission_inj {p q tenant : String} :
    hasPermission p tenant = hasPermission q tenant ↔ p = q := by
  unfold hasPermission
  simp only [String.append_left_inj, String.append_right_inj]

theorem Access.eq_of_condition?_eq {a b : Access} (ha : a ≠ .when "true") (hb : b ≠ .when "true")
    (h : a.condition? = b.condition?) : a = b := by
  cases a <;> cases b <;> simp_all [condition?]

namespace Protection

/-- No condition is spelled like the one that lets everything pass. -/
theorem access_ne_when_true (protection : Protection) (op : Operation) :
    protection.access op ≠ .when "true" := by
  have hcall : ∀ p tenant, hasPermission p tenant ≠ "true" := by
    intro p tenant h
    have hhead := congrArg (fun s => s.toList.head?) h
    unfold hasPermission at hhead
    simp at hhead
  have hlead : ∀ p tenant, "resource == null || " ++ hasPermission p tenant ≠ "true" := by
    intro p tenant h
    have hhead := congrArg (fun s => s.toList.head?) h
    simp at hhead
  cases protection with
  | indexedByTenant permissions switches =>
    cases op with
    | create => simp [access, hcall]
    | read => cases h : switches.publicRead <;> simp [access, hcall, h]
    | update => cases h : switches.update <;> simp [access, hcall, h]
    | delete => cases h : switches.delete <;> simp [access, hcall, h]
  | docPerTenant read write => cases op <;> simp [access, hcall, hlead]
  | docPerUser => simp [access, ownerCondition]

end Protection

/-! ### Lines -/

theorem Guard.line_inj {op op' : Operation} {g g' : Guard} (h : g.line op = g'.line op') :
    op = op' ∧ g.text = g'.text := by
  unfold line at h
  simp only [String.append_assoc, String.append_right_inj] at h
  have hop : op = op' := by
    have hhead := congrArg (fun s => s.toList.head?) h
    cases op <;> cases op' <;> first | rfl | (unfold Operation.keyword at hhead; simp at hhead)
  subst hop
  simp only [String.append_left_inj, String.append_right_inj] at h
  exact ⟨rfl, h⟩

namespace Protection

variable {protection other : Protection}

theorem guard?_text_of_allowLines_eq (h : protection.allowLines = other.allowLines)
    {op : Operation} {g : Guard} (hg : protection.guard? op = some g) :
    (other.guard? op).map Guard.text = some g.text := by
  have hline : g.line op ∈ other.allowLines := by
    rw [← h]
    exact mem_allowLines.mpr ⟨op, g, hg, rfl⟩
  obtain ⟨op', g', hg', heq⟩ := mem_allowLines.mp hline
  obtain ⟨rfl, htext⟩ := Guard.line_inj heq
  rw [hg', htext]
  rfl

theorem access_eq_of_allowLines_eq (h : protection.allowLines = other.allowLines)
    (op : Operation) : protection.access op = other.access op := by
  refine Access.eq_of_condition?_eq (access_ne_when_true _ op) (access_ne_when_true _ op) ?_
  rw [condition?_access, condition?_access]
  cases hg : protection.guard? op with
  | some g => exact (guard?_text_of_allowLines_eq h hg).symm
  | none =>
    cases hother : other.guard? op with
    | none => rfl
    | some g =>
      have htext := guard?_text_of_allowLines_eq h.symm hother
      rw [hg] at htext
      contradiction

end Protection

theorem AccessPattern.placeholder_inj {pattern other : AccessPattern}
    (h : pattern.placeholder = other.placeholder) : pattern = other := by
  cases pattern <;> cases other <;> first | rfl | simp [placeholder] at h

namespace Collection

variable {collection other : Collection}

theorem path_inj (h : PathSegment collection.name) (h' : PathSegment other.name)
    (hpath : collection.path = other.path) :
    collection.name = other.name ∧ collection.protection.pattern = other.protection.pattern := by
  have hsplit := congrArg (fun path => path.toList.splitOn '/') hpath
  simp only [splitOn_path h, splitOn_path h', List.cons.injEq, true_and,
    and_true, List.append_cancel_right_eq, String.toList_inj] at hsplit
  exact ⟨hsplit.1, AccessPattern.placeholder_inj hsplit.2⟩

theorem rule_eq_of_blockLines_eq (h : collection.WellFormed) (h' : other.WellFormed)
    (hlines : collection.blockLines = other.blockLines) : collection.rule = other.rule := by
  have hmatch : collection.matchLine = other.matchLine := by
    have hfilter := congrArg (List.filter fun line => opensWith "match " line.toList) hlines
    rw [filter_match, filter_match] at hfilter
    exact List.head_eq_of_cons_eq hfilter
  have hpath : collection.path = other.path := by
    unfold matchLine at hmatch
    simpa only [String.append_left_inj, String.append_right_inj] using hmatch
  have hallow : collection.protection.allowLines = other.protection.allowLines := by
    rw [← filter_allow, ← filter_allow, hlines]
  obtain ⟨hname, hpattern⟩ := path_inj h.name_segment h'.name_segment hpath
  have haccess := Protection.access_eq_of_allowLines_eq hallow
  simp only [rule, hpath, hname, hpattern, haccess]

end Collection

/-! ### Rules -/

/-- Protections that differ at most in permissions that no condition asks for. -/
def Protection.Agrees : Protection → Protection → Prop
  | indexedByTenant p s, indexedByTenant q t =>
    s = t ∧ p.write = q.write ∧ (s.publicRead = false → p.read = q.read) ∧
      (s.update = true → p.update = q.update) ∧ (s.delete = true → p.delete = q.delete)
  | docPerTenant read write, docPerTenant read' write' => read = read' ∧ write = write'
  | docPerUser, docPerUser => True
  | _, _ => False

/-- Protections agree exactly when they have the same pattern and grant the same. -/
theorem Protection.agrees_iff {protection other : Protection} :
    protection.Agrees other ↔
      protection.pattern = other.pattern ∧ ∀ op, protection.access op = other.access op := by
  cases protection with
  | indexedByTenant p s =>
    cases other with
    | indexedByTenant q t =>
      constructor
      · rintro ⟨rfl, hwrite, hread, hupdate, hdelete⟩
        refine ⟨rfl, fun op => ?_⟩
        cases op with
        | create => simp [access, hwrite]
        | read => cases hs : s.publicRead <;> simp [access, hs, hread]
        | update => cases hs : s.update <;> simp [access, hs, hupdate]
        | delete => cases hs : s.delete <;> simp [access, hs, hdelete]
      · rintro ⟨-, haccess⟩
        have hwrite : p.write = q.write := by
          simpa [access, hasPermission_inj] using haccess .create
        have hread : s.publicRead = t.publicRead ∧ (s.publicRead = false → p.read = q.read) := by
          have h := haccess .read
          cases hs : s.publicRead <;> cases ht : t.publicRead <;>
            simp_all [access, hasPermission_inj]
        have hupdate : s.update = t.update ∧ (s.update = true → p.update = q.update) := by
          have h := haccess .update
          cases hs : s.update <;> cases ht : t.update <;> simp_all [access, hasPermission_inj]
        have hdelete : s.delete = t.delete ∧ (s.delete = true → p.delete = q.delete) := by
          have h := haccess .delete
          cases hs : s.delete <;> cases ht : t.delete <;> simp_all [access, hasPermission_inj]
        refine ⟨?_, hwrite, hread.2, hupdate.2, hdelete.2⟩
        rw [Switches.mk.injEq]
        exact ⟨hread.1, hupdate.1, hdelete.1⟩
    | docPerTenant _ _ => simp [Agrees, pattern]
    | docPerUser => simp [Agrees, pattern]
  | docPerTenant read write =>
    cases other with
    | docPerTenant read' write' =>
      constructor
      · rintro ⟨rfl, rfl⟩
        exact ⟨rfl, fun _ => rfl⟩
      · rintro ⟨-, haccess⟩
        have hread := haccess .read
        have hwrite := haccess .create
        simp only [access, Access.when.injEq, String.append_right_inj, hasPermission_inj]
          at hread hwrite
        exact ⟨hread, hwrite⟩
    | indexedByTenant _ _ => simp [Agrees, pattern]
    | docPerUser => simp [Agrees, pattern]
  | docPerUser =>
    cases other with
    | docPerUser => exact ⟨fun _ => ⟨rfl, fun _ => rfl⟩, fun _ => trivial⟩
    | indexedByTenant _ _ => simp [Agrees, pattern]
    | docPerTenant _ _ => simp [Agrees, pattern]

/-- Collections have the same rule exactly when they differ at most in permissions that no condition
asks for. -/
theorem Collection.rule_eq_iff {collection other : Collection} (h : PathSegment collection.name)
    (h' : PathSegment other.name) :
    collection.rule = other.rule ↔
      collection.name = other.name ∧ collection.protection.Agrees other.protection := by
  constructor
  · intro hrule
    obtain ⟨hname, hpattern⟩ := path_inj h h' (congrArg Rule.path hrule)
    refine ⟨hname, Protection.agrees_iff.mpr ⟨hpattern, fun op => ?_⟩⟩
    rw [← access_rule, ← access_rule, hrule]
  · rintro ⟨hname, hagrees⟩
    obtain ⟨hpattern, haccess⟩ := Protection.agrees_iff.mp hagrees
    simp only [rule, path, hname, hpattern, haccess]

end SchemaPolicy
