import SchemaPolicy.Proofs.Ruleset.Rows
import SchemaPolicy.Proofs.Text.Levels

/-! Where the preamble of a rule stands in a rules document: below the opening line, three levels
in. It is set in by one level with its rule and by two more with the block, and levels add up. -/

namespace SchemaPolicy

open Text

/-- The lines of a rule are those in front of its preamble, those of the preamble one level in, and
others. -/
theorem Rule.exists_lines_render_preamble {rule : Rule} {preamble : String}
    (h : rule.preamble? = some preamble) (hreturn : '\r' ∉ preamble.toList) :
    ∃ above below, lines rule.render =
      above ++ lines (matchLine rule.path) ++ indentedLines 1 preamble.toList ++ below := by
  obtain ⟨opening, hopening⟩ : ∃ opening, matchLine rule.path = opening ++ ['\n'] := by
    refine ⟨"match ".toList ++ rule.path.toList ++ " \x7b".toList, ?_⟩
    unfold matchLine
    simp
  have hmatch : ∀ rest, lines (matchLine rule.path ++ rest) =
      lines (matchLine rule.path) ++ lines rest := by
    intro rest
    rw [hopening, List.append_assoc, List.singleton_append, lines_append_newline_eq,
      lines_append_newline_eq, lines, List.append_nil]
  obtain ⟨rest, hrest⟩ : ∃ rest, rule.uncommented.render = matchLine rule.path ++
      (unlines (indentedLines 1 preamble.toList) ++ rest) := by
    unfold render
    simp only [uncommented, h, Option.elim_none, Option.elim_some, List.nil_append, indent_newline,
      List.append_assoc]
    exact ⟨_, rfl⟩
  refine ⟨rule.remarks, lines rest, ?_⟩
  rw [lines_render, hrest, hmatch, lines_unlines_append fun row hrow =>
    unbroken_of_mem_indentedLines hreturn hrow]
  simp only [List.append_assoc]

namespace Ruleset

theorem exists_rows_indent_preamble {rule : Rule} {preamble : String}
    (h : rule.preamble? = some preamble) (hreturn : '\r' ∉ preamble.toList) :
    ∃ above below, rows (indent 2 rule.render) =
      above ++ (lines (Rule.matchLine rule.path)).map (indentLine 2) ++
        rows (indent 3 preamble.toList) ++ below := by
  obtain ⟨above, below, hlines⟩ := rule.exists_lines_render_preamble h hreturn
  refine ⟨above.map (indentLine 2), below.map (indentLine 2), ?_⟩
  rw [Rule.rows_indent_render, hlines, rows_indent_eq_indentedLines,
    ← map_indentLine_indentedLines 1 2]
  simp only [List.map_append]

/-- The rows of a rule stand together in the section of its rules. -/
theorem exists_rows_blocks {rules : List Rule} {rule : Rule} (h : rule ∈ rules) :
    ∃ above below, rows (blocks rules) = above ++ rows (indent 2 rule.render) ++ below := by
  obtain ⟨before, after, rfl⟩ := List.append_of_mem h
  obtain ⟨above, below, hplace⟩ := exists_intercalate_eq [[]]
    (before.map fun rule => rows (indent 2 rule.render))
    (after.map fun rule => rows (indent 2 rule.render))
  refine ⟨above, below, ?_⟩
  rw [rows_blocks (by simp), List.map_append, List.map_cons, hplace]

theorem exists_rows_render_generated (envelope : Envelope) (extraRules : List Rule)
    {collections : List Collection} (h : collections ≠ []) :
    ∃ above below, rows (render envelope collections extraRules) =
      above ++ rows (blocks (collections.map Collection.rule)) ++ below := by
  have hmiddle : middle = "\n    // Generated rules".toList ++ ['\n'] := by decide
  have hsection : sectionLines (blocks (collections.map Collection.rule)) =
      blocks (collections.map Collection.rule) ++ ['\n'] :=
    if_neg (blocks_eq_nil_iff.not.mpr (by simpa using h))
  have hrender : render envelope collections extraRules =
      (head envelope ++ sectionLines (blocks extraRules) ++ "\n    // Generated rules".toList) ++
        '\n' :: (blocks (collections.map Collection.rule) ++ '\n' :: tail) := by
    rw [render, hmiddle, hsection]
    simp only [List.append_assoc, List.cons_append, List.nil_append]
  rw [hrender, rows_append_newline, rows_append_newline, ← List.append_assoc]
  exact ⟨_, _, rfl⟩

/-- The rows of a rule stand together in the document, whichever section has it. -/
theorem exists_rows_render_of_mem (envelope : Envelope) {collections : List Collection}
    {extraRules : List Rule} {rule : Rule}
    (h : rule ∈ extraRules ++ collections.map Collection.rule) :
    ∃ above below, rows (render envelope collections extraRules) =
      above ++ rows (indent 2 rule.render) ++ below := by
  rcases List.mem_append.mp h with h | h
  · obtain ⟨above, below, hrows⟩ := exists_rows_render envelope collections
    obtain ⟨earlier, later, hplace⟩ := exists_rows_blocks h
    refine ⟨above ++ earlier, later ++ below, ?_⟩
    rw [hrows extraRules (List.ne_nil_of_mem h), hplace]
    simp only [List.append_assoc]
  · have hne : collections ≠ [] := by
      rintro rfl
      exact absurd h List.not_mem_nil
    obtain ⟨above, below, hrows⟩ := exists_rows_render_generated envelope extraRules hne
    obtain ⟨earlier, later, hplace⟩ := exists_rows_blocks h
    refine ⟨above ++ earlier, later ++ below, ?_⟩
    rw [hrows, hplace]
    simp only [List.append_assoc]

/-- A text that is set in twice is set in by the levels of both times, and once it is set in by none
this changes it no more. In a document the preamble of a rule is three levels in, below the rule's
opening line. -/
theorem levels_add {s : List Char} (h : '\r' ∉ s) :
    (EndsVisibly s → (∀ a b, indent b (indent a s) = indent (a + b) s) ∧
      indent 0 (indent 0 s) = indent 0 s) ∧
    ∀ (envelope : Envelope) (collections : List Collection) (extraRules : List Rule) (rule : Rule),
      rule ∈ extraRules ++ collections.map Collection.rule →
      rule.preamble? = some (String.ofList s) →
      ∃ above below, rows (render envelope collections extraRules) =
        above ++ (lines (Rule.matchLine rule.path)).map (indentLine 2) ++ rows (indent 3 s) ++
          below := by
  refine ⟨fun hend => ⟨indent_indent h hend, indent_indent h hend 0 0⟩,
    fun envelope collections extraRules rule hmem hpreamble => ?_⟩
  obtain ⟨earlier, later, hplace⟩ := exists_rows_render_of_mem envelope hmem
  obtain ⟨above, below, hrows⟩ :=
    exists_rows_indent_preamble hpreamble (by rwa [String.toList_ofList])
  rw [String.toList_ofList] at hrows
  refine ⟨earlier ++ above, below ++ later, ?_⟩
  rw [hplace, hrows]
  simp only [List.append_assoc]

theorem levels_add_helper :
    ∃ (s : List Char) (rule : Rule), rule.preamble? = some (String.ofList s) ∧ '\r' ∉ s ∧
      EndsVisibly s ∧ indent 1 (indent 2 s) = indent 3 s ∧
      rows (indent 3 s) = ["      function f() \x7b".toList, [], "        return true;".toList,
        "      \x7d".toList] ∧
      ∃ above below, rows (render {} [] [rule]) =
        above ++ ["    match /a \x7b".toList] ++ rows (indent 3 s) ++ below := by
  let s := "function f() \x7b\n \n  return true;\n\x7d\n".toList
  have hreturn : '\r' ∉ s := by decide
  have hend : EndsVisibly s := .inr ⟨['\x7d'], by decide, by decide⟩
  have hmatch : (lines (Rule.matchLine "/a")).map (indentLine 2) =
      ["    match /a \x7b".toList] := by
    decide
  let rule : Rule := { path := "/a", preamble? := some (String.ofList s) }
  obtain ⟨hlevels, hplace⟩ := levels_add hreturn
  obtain ⟨above, below, hrows⟩ := hplace {} [] [rule] rule List.mem_cons_self rfl
  rw [show rule.path = "/a" from rfl, hmatch] at hrows
  exact ⟨s, rule, rfl, hreturn, hend, (hlevels hend).1 2 1, by decide, above, below, hrows⟩

end Ruleset

end SchemaPolicy
