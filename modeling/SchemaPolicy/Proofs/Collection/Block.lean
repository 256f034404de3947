import SchemaPolicy.Proofs.Collection.Guard
import SchemaPolicy.Proofs.Rule.Lines

/-! The block of a collection in a rules document, line by line. No name and no permission of a
well-formed collection breaks a line or empties one, so the lines are known in advance. -/

namespace SchemaPolicy

open Text

/-- The rule of a collection as it stands in the generated section. -/
def Collection.block (collection : Collection) : List Char := indent 2 collection.rule.render

/-- The lines of the helper. -/
def helperText : List String :=
  ["function hasPermission(permission, tenant) \x7b",
   "  return request.auth != null",
   "    && tenant in request.auth.token.permissions",
   "    && permission in request.auth.token.permissions[tenant];",
   "\x7d"]

/-- The lines of the helper, if the blocks of a pattern have it. -/
def AccessPattern.helperText : AccessPattern → List String
  | docPerUser => []
  | _ => SchemaPolicy.helperText

/-- The line of an operation with a guard. -/
def Guard.line (op : Operation) (guard : Guard) : String :=
  "      allow " ++ op.keyword ++ ": if " ++ guard.text ++ ";"

/-- The lines of the operations with a guard, in order. -/
def Protection.allowLines (protection : Protection) : List String :=
  Operation.all.filterMap fun op => (protection.guard? op).map (Guard.line op)

namespace Collection

/-- The comment above a block. -/
def commentLine (collection : Collection) : String :=
  "    // " ++ (collection.name ++ ": " ++ collection.protection.pattern.remark)

/-- The line that opens a block. -/
def matchLine (collection : Collection) : String := "    match " ++ collection.path ++ " \x7b"

/-- The lines of a block as they stand in the document. -/
def blockLines (collection : Collection) : List String :=
  [collection.commentLine, collection.matchLine] ++
    collection.protection.pattern.helperText.map ("      " ++ ·) ++
    collection.protection.allowLines ++ ["    \x7d"]

end Collection

/-! ### Parts of lines -/

theorem unbroken_of_segment {name : String} (h : PathSegment name) : Unbroken name.toList :=
  unbroken_of_forall h (by decide) (by decide)

theorem unbroken_of_quotable {text : String} (h : Quotable text) : Unbroken text.toList :=
  fun c hc => (quotable_iff.mp h c hc).2.2

theorem Guard.unbroken_text {g : Guard} (h : g.WellFormed) : Unbroken g.text.toList := by
  cases g with
  | plain text => exact unbroken_of_quotable h.1
  | holds lead permission tenant =>
    obtain ⟨hlead, hpermission, htenant⟩ := h
    unfold text hasPermission
    simp [unbroken_of_quotable hlead.1, unbroken_of_quotable hpermission,
      unbroken_of_quotable htenant.1]

theorem AccessPattern.unbroken_remark (pattern : AccessPattern) :
    Unbroken pattern.remark.toList := by
  cases pattern <;> unfold remark <;> simp

theorem AccessPattern.unbroken_placeholder (pattern : AccessPattern) :
    Unbroken pattern.placeholder.toList := by
  cases pattern <;> unfold placeholder <;> simp

theorem permissionHelper_toList :
    permissionHelper.toList =
      unlines ((helperText.dropLast).map String.toList) ++ ['\x7d'] := by
  have opening : "function hasPermission(permission, tenant) \x7b\n" =
      "function hasPermission(permission, tenant) \x7b" ++ "\n" := rfl
  have signedIn : "  return request.auth != null\n" = "  return request.auth != null" ++ "\n" :=
    rfl
  have member : "    && tenant in request.auth.token.permissions\n" =
      "    && tenant in request.auth.token.permissions" ++ "\n" := rfl
  have listed : "    && permission in request.auth.token.permissions[tenant];\n" =
      "    && permission in request.auth.token.permissions[tenant];" ++ "\n" := rfl
  have newline : "\n".toList = ['\n'] := by simp
  have closing : "\x7d".toList = ['\x7d'] := by simp
  unfold permissionHelper helperText
  rw [opening, signedIn, member, listed]
  simp only [String.toList_append, newline, closing, List.dropLast_cons_cons,
    List.dropLast_singleton, List.map_cons, List.map_nil, unlines_cons, unlines_nil,
    List.append_assoc, List.cons_append, List.nil_append]

theorem helperText_line {line : String} (h : line ∈ helperText) :
    Unbroken line.toList ∧ ¬Blank line.toList := by
  simp only [helperText, List.mem_cons, List.not_mem_nil, or_false] at h
  rcases h with rfl | rfl | rfl | rfl | rfl
  · exact ⟨by simp, not_blank_of_mem (c := 'f') (by simp) (by decide)⟩
  · exact ⟨by simp, not_blank_of_mem (c := 'r') (by simp) (by decide)⟩
  · exact ⟨by simp, not_blank_of_mem (c := '&') (by simp) (by decide)⟩
  · exact ⟨by simp, not_blank_of_mem (c := '&') (by simp) (by decide)⟩
  · exact ⟨by simp, not_blank_of_mem (c := '\x7d') (by simp) (by decide)⟩

theorem AccessPattern.helperText_line {pattern : AccessPattern} {line : String}
    (h : line ∈ pattern.helperText) : Unbroken line.toList ∧ ¬Blank line.toList := by
  cases pattern with
  | docPerUser => exact absurd h List.not_mem_nil
  | indexedByTenant | docPerTenant => exact SchemaPolicy.helperText_line h

theorem indentedLines_permissionHelper (levels : Nat) :
    indentedLines levels permissionHelper.toList =
      helperText.map fun line => indentLine levels line.toList := by
  have hunbroken : ∀ line ∈ helperText.dropLast.map String.toList, Unbroken line := by
    intro line hline
    obtain ⟨text, htext, rfl⟩ := List.mem_map.mp hline
    exact (helperText_line (List.dropLast_subset _ htext)).1
  have hall : helperText.dropLast.map String.toList ++ [['\x7d']] = helperText.map String.toList :=
    rfl
  rw [permissionHelper_toList, indentedLines_unlines_concat levels hunbroken (by decide), hall,
    List.map_map]
  rfl

theorem AccessPattern.preamble_lines (pattern : AccessPattern) :
    (pattern.preamble?.elim [] fun preamble => indentedLines 1 preamble.toList) =
      pattern.helperText.map fun line => indentLine 1 line.toList := by
  cases pattern with
  | docPerUser => rfl
  | indexedByTenant | docPerTenant =>
    simp only [preamble?, AccessPattern.helperText, Option.elim_some]
    exact indentedLines_permissionHelper 1

/-! ### The lines of a block -/

namespace Collection

variable {collection : Collection}

theorem body_rule (h : collection.WellFormed) :
    collection.rule.body =
      ["// ".toList ++ (collection.name ++ ": " ++ collection.protection.pattern.remark).toList,
        "match ".toList ++ collection.path.toList ++ " \x7b".toList] ++
      (collection.protection.pattern.helperText.map fun line => indentLine 1 line.toList) ++
      Operation.all.filterMap fun op =>
        (collection.protection.guard? op).map fun g => Rule.allowText op g.text := by
  have hcomment : lines (collection.name ++ ": " ++ collection.protection.pattern.remark).toList =
      [(collection.name ++ ": " ++ collection.protection.pattern.remark).toList] := by
    refine lines_of_unbroken ?_ (by simp)
    simp [unbroken_of_segment h.name_segment, AccessPattern.unbroken_remark]
  unfold Rule.body
  simp only [access_rule, Protection.condition?_access, Option.map_map, Function.comp_def]
  simp only [rule, Option.elim_some, hcomment, AccessPattern.preamble_lines, List.map_cons,
    List.map_nil, List.cons_append, List.nil_append]

/-- No line of a well-formed collection's rule is blank or has a line break of its own. -/
theorem body_solid (h : collection.WellFormed) :
    ∀ line ∈ collection.rule.body, Unbroken line ∧ ¬Blank line := by
  have hname := unbroken_of_segment h.name_segment
  intro line hline
  rw [body_rule h, List.mem_append, List.mem_append] at hline
  rcases hline with (hline | hline) | hline
  · simp only [List.mem_cons, List.not_mem_nil, or_false] at hline
    rcases hline with rfl | rfl
    · refine ⟨?_, not_blank_of_mem (c := '/') (by simp) (by decide)⟩
      simp [hname, AccessPattern.unbroken_remark]
    · refine ⟨?_, not_blank_of_mem (c := 'm') (by simp) (by decide)⟩
      unfold path
      simp [hname, AccessPattern.unbroken_placeholder]
  · obtain ⟨text, htext, rfl⟩ := List.mem_map.mp hline
    exact indentLine_solid 1 (AccessPattern.helperText_line htext)
  · obtain ⟨op, -, hop⟩ := List.mem_filterMap.mp hline
    obtain ⟨g, hg, rfl⟩ := Option.map_eq_some_iff.mp hop
    have htext := Guard.unbroken_text (Protection.guard?_wellFormed h.quotable hg)
    unfold Rule.allowText
    refine ⟨?_, not_blank_of_mem (c := 'a') (by simp) (by decide)⟩
    simp [htext, unbroken_of_quotable (Operation.neutral_keyword op).1]

theorem allowLines_toList (protection : Protection) :
    protection.allowLines.map String.toList =
      (Operation.all.filterMap fun op =>
        (protection.guard? op).map fun g => Rule.allowText op g.text).map (margin 2 ++ ·) := by
  unfold Protection.allowLines
  rw [List.map_filterMap, List.map_filterMap]
  congr 1
  funext op
  rw [Option.map_map, Option.map_map]
  congr 1
  funext g
  simp only [Function.comp_apply]
  unfold Guard.line Rule.allowText
  simp [margin]

theorem blockLines_toList (h : collection.WellFormed) :
    collection.blockLines.map String.toList =
      (collection.rule.body ++ [['\x7d']]).map (indentLine 2) := by
  have hsolid : (collection.rule.body ++ [['\x7d']]).map (indentLine 2) =
      (collection.rule.body ++ [['\x7d']]).map (margin 2 ++ ·) := by
    refine List.map_congr_left fun line hline => indentLine_of_not_blank 2 ?_
    rcases List.mem_append.mp hline with hbody | hclose
    · exact (body_solid h line hbody).2
    · obtain rfl := List.mem_singleton.mp hclose
      decide
  have hhelper : (collection.protection.pattern.helperText.map
      fun line => indentLine 1 line.toList).map (margin 2 ++ ·) =
      (collection.protection.pattern.helperText.map ("      " ++ ·)).map String.toList := by
    rw [List.map_map, List.map_map]
    refine List.map_congr_left fun line hline => ?_
    simp only [Function.comp_apply, String.toList_append]
    rw [indentLine_of_not_blank 1 (AccessPattern.helperText_line hline).2, ← List.append_assoc,
      margin_append]
    simp [margin]
  rw [hsolid, body_rule h]
  unfold blockLines commentLine matchLine
  simp only [List.map_append, hhelper, allowLines_toList]
  simp [margin]

theorem block_eq (h : collection.WellFormed) :
    collection.block = joinWith ['\n'] (collection.blockLines.map String.toList) := by
  rw [blockLines_toList h, block,
    Rule.indent_render 2 fun line hline => (body_solid h line hline).1]

theorem blockLines_solid (h : collection.WellFormed) :
    ∀ line ∈ collection.blockLines, Unbroken line.toList ∧ ¬Blank line.toList := by
  intro line hline
  have hmem := List.mem_map_of_mem (f := String.toList) hline
  rw [blockLines_toList h] at hmem
  obtain ⟨text, htext, heq⟩ := List.mem_map.mp hmem
  rw [← heq]
  refine indentLine_solid 2 ?_
  rcases List.mem_append.mp htext with hbody | hclose
  · exact body_solid h text hbody
  · obtain rfl := List.mem_singleton.mp hclose
    exact ⟨by simp, not_blank_of_mem (c := '\x7d') (by simp) (by decide)⟩

theorem lines_block (h : collection.WellFormed) :
    lines collection.block = collection.blockLines.map String.toList := by
  rw [block_eq h, lines_joinWith]
  intro line hline
  obtain ⟨text, htext, rfl⟩ := List.mem_map.mp hline
  obtain ⟨hunbroken, hblank⟩ := blockLines_solid h text htext
  exact ⟨hunbroken, ne_nil_of_not_blank hblank⟩

theorem filter_lines_block (h : collection.WellFormed) (p : List Char → Bool) :
    (lines collection.block).filter p =
      (collection.blockLines.filter fun line => p line.toList).map String.toList := by
  rw [lines_block h, List.filter_map]
  rfl

end Collection

end SchemaPolicy
