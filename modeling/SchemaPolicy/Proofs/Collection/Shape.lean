import SchemaPolicy.Proofs.Collection.Reading

/-! The shape of a block: which lines it has, and how many. Names and permissions have no part in
this. -/

namespace SchemaPolicy

open Text

/-- How many lines the block of a collection has. -/
def Protection.lineCount : Protection → Nat
  | indexedByTenant _ switches => 10 + switches.update.toNat + switches.delete.toNat
  | docPerTenant _ _ => 12
  | docPerUser => 7

/-- Whether a line calls the helper outside its literals. -/
def CallsHelper (line : List Char) : Prop := "hasPermission(".toList <:+: code line

/-- The lines of a collection's block: a comment, one `match` line, the helper if it is called, and
a closing brace, with no blank line. -/
structure Collection.Shape (collection : Collection) (ls : List (List Char)) : Prop where
  head : ls.head? = some ("    // " ++ (collection.name ++ ": " ++
    collection.protection.pattern.remark)).toList
  matchLines : ls.filter (opensWith "match ") = [("    match /" ++ collection.name ++ "/\x7b" ++
    collection.protection.pattern.placeholder ++ "\x7d \x7b").toList]
  last : ls.getLast? = some "    \x7d".toList
  not_blank : ∀ line ∈ ls, ¬Blank line
  length : ls.length = collection.protection.lineCount
  helper : (∃ line ∈ ls.filter (opensWith "allow "), CallsHelper line) →
    (ls.filter (opensWith "function hasPermission(")).length = 1
  no_helper : (∀ line ∈ ls.filter (opensWith "allow "), ¬CallsHelper line) →
    ls.filter (opensWith "function hasPermission(") = []

namespace Guard

theorem callsHelper_line_holds (op : Operation) {lead permission tenant : String}
    (h : (holds lead permission tenant).WellFormed) :
    CallsHelper ((holds lead permission tenant).line op).toList := by
  rw [CallsHelper, code_line op h, erase, line_holds]
  exact List.infix_append _ _ _

theorem not_callsHelper_line_owner (op : Operation) :
    ¬CallsHelper ((plain ownerCondition).line op).toList := by
  have hparen : '(' ∉ ((plain ownerCondition).line op).toList := by
    cases op <;> decide
  rw [CallsHelper, code_line op (g := plain ownerCondition) Protection.neutral_ownerCondition]
  exact fun hcalls => hparen (hcalls.subset (by simp))

end Guard

theorem Protection.length_allowLines (protection : Protection) :
    3 + protection.pattern.helperText.length + protection.allowLines.length =
      protection.lineCount := by
  cases protection with
  | indexedByTenant permissions switches =>
    unfold allowLines
    cases hupdate : switches.update <;> cases hdelete : switches.delete <;>
      simp [Operation.all, guard?, hupdate, hdelete, lineCount, pattern, AccessPattern.helperText,
        helperText]
  | docPerTenant read write => rfl
  | docPerUser => rfl

namespace Collection

variable {collection : Collection}

theorem filter_function (collection : Collection) :
    (collection.blockLines.filter fun line => opensWith "function hasPermission(" line.toList) =
      (collection.protection.pattern.helperText.take 1).map ("      " ++ ·) := by
  have hopening : "function hasPermission(".toList.head? = some 'f' := by simp
  have hguards := collection.protection.filter_allowLines_eq_nil hopening (by decide)
  have hhelper : ((collection.protection.pattern.helperText.map ("      " ++ ·)).filter
      fun line => opensWith "function hasPermission(" line.toList) =
      (collection.protection.pattern.helperText.take 1).map ("      " ++ ·) := by
    cases collection.protection.pattern <;> rfl
  have hcomment := opensWith_eq_false hopening collection.lead?_commentLine (by decide)
  have hmatch := opensWith_eq_false hopening collection.lead?_matchLine (by decide)
  have hclosing := opensWith_eq_false hopening lead?_closing (by decide)
  unfold blockLines
  simp only [List.filter_append, hguards, hhelper, List.filter_cons, hcomment, hmatch, hclosing]
  simp

/-- A block has the lines of the helper exactly if one of its guards calls it. -/
theorem exists_callsHelper_iff (h : collection.WellFormed) :
    (∃ line ∈ collection.protection.allowLines, CallsHelper line.toList) ↔
      collection.protection.pattern.helperText ≠ [] := by
  have hwellFormed : ∀ {op g}, collection.protection.guard? op = some g → g.WellFormed :=
    Protection.guard?_wellFormed h.quotable
  have hcreate : ∀ {lead permission tenant},
      collection.protection.guard? .create = some (.holds lead permission tenant) →
      ∃ line ∈ collection.protection.allowLines, CallsHelper line.toList := fun hguard =>
    ⟨_, Protection.mem_allowLines.mpr ⟨.create, _, hguard, rfl⟩,
      Guard.callsHelper_line_holds .create (hwellFormed hguard)⟩
  cases hprotection : collection.protection with
  | indexedByTenant permissions switches =>
    rw [hprotection] at hcreate
    simpa [Protection.pattern, AccessPattern.helperText, helperText] using hcreate rfl
  | docPerTenant read write =>
    rw [hprotection] at hcreate
    simpa [Protection.pattern, AccessPattern.helperText, helperText] using hcreate rfl
  | docPerUser =>
    simp only [Protection.pattern, AccessPattern.helperText, ne_eq, not_true_eq_false, iff_false]
    rintro ⟨line, hline, hcalls⟩
    obtain ⟨op, g, hg, rfl⟩ := Protection.mem_allowLines.mp hline
    obtain rfl := Option.some.inj hg
    exact Guard.not_callsHelper_line_owner op hcalls

theorem exists_line_callsHelper_iff (h : collection.WellFormed) :
    (∃ line ∈ (lines collection.block).filter (opensWith "allow "), CallsHelper line) ↔
      collection.protection.pattern.helperText ≠ [] := by
  rw [← exists_callsHelper_iff h, filter_lines_block h, filter_allow]
  constructor
  · rintro ⟨_, hmem, hcall⟩
    obtain ⟨line, hline, rfl⟩ := List.mem_map.mp hmem
    exact ⟨line, hline, hcall⟩
  · rintro ⟨line, hline, hcall⟩
    exact ⟨_, List.mem_map_of_mem hline, hcall⟩

theorem shape_block (h : collection.WellFormed) : collection.Shape (lines collection.block) := by
  refine ⟨?_, ?_, ?_, ?_, ?_, ?_, ?_⟩
  · rw [lines_block h]
    rfl
  · rw [filter_lines_block h, filter_match]
    unfold matchLine path
    simp
  · rw [lines_block h]
    unfold blockLines
    rw [List.map_append, List.getLast?_append]
    rfl
  · intro line hline
    rw [lines_block h] at hline
    obtain ⟨text, htext, rfl⟩ := List.mem_map.mp hline
    exact (blockLines_solid h text htext).2
  · rw [lines_block h, ← Protection.length_allowLines]
    unfold blockLines
    simp only [List.length_map, List.length_append, List.length_cons, List.length_nil]
    omega
  · intro hexists
    have hhelper := (exists_line_callsHelper_iff h).mp hexists
    rw [filter_lines_block h, filter_function, List.length_map, List.length_map, List.length_take]
    have hpos := List.length_pos_iff.mpr hhelper
    omega
  · intro hnone
    have hhelper : collection.protection.pattern.helperText = [] := by
      refine Decidable.of_not_not fun hne => ?_
      obtain ⟨line, hline, hcall⟩ := (exists_line_callsHelper_iff h).mpr hne
      exact hnone line hline hcall
    rw [filter_lines_block h, filter_function, hhelper]
    rfl

end Collection

end SchemaPolicy
