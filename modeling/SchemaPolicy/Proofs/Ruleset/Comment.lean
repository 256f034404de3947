import SchemaPolicy.Proofs.Ruleset.Rows
import SchemaPolicy.Proofs.Text.Opening

/-! Comments of hand-written rules in a rules document. Whatever a comment says, it makes rows that
begin as comments and stand above the opening line of its rule, and no other row depends on it. -/

namespace SchemaPolicy.Ruleset

open Text

/-- The rows of a document that are no comments. -/
def codeRows (document : List Char) : List (List Char) :=
  (rows document).filter fun row => !opensWith "//" row

theorem opensWith_margin_append (levels : Nat) {row : List Char} (h : "// ".toList <+: row) :
    opensWith "//" (margin levels ++ row) = true := by
  obtain ⟨rest, rfl⟩ := h
  have hslash : isBlank '/' = false := by decide
  have hrow : unindented (margin levels ++ ("// ".toList ++ rest)) =
      "//".toList ++ ' ' :: rest := by
    rw [unindented_append (blank_margin levels)]
    simp [unindented, hslash]
  exact opensWith_of_eq_append hrow

/-- A rule has the same code with its comment as without. -/
theorem codeRows_block (rule : Rule) :
    codeRows (indent 2 rule.render) = codeRows (indent 2 rule.uncommented.render) := by
  have hremarks : (rule.remarks.map (margin 2 ++ ·)).filter
      (fun row => !opensWith "//" row) = [] := by
    rw [List.filter_eq_nil_iff]
    intro row hrow
    obtain ⟨remark, hremark, rfl⟩ := List.mem_map.mp hrow
    simp [opensWith_margin_append 2 (Rule.slashes_of_mem_remarks hremark)]
  rw [codeRows, Rule.rows_indent_eq, List.filter_append, hremarks, List.nil_append, codeRows]

theorem codeRows_blocks {rules : List Rule} (h : rules ≠ []) :
    codeRows (blocks rules) = codeRows (blocks (rules.map Rule.uncommented)) := by
  have hrules : (rules.map fun rule => codeRows (indent 2 rule.render)) =
      (rules.map Rule.uncommented).map fun rule => codeRows (indent 2 rule.render) := by
    rw [List.map_map]
    refine List.map_congr_left fun rule _ => ?_
    rw [Function.comp_apply]
    exact codeRows_block rule
  unfold codeRows at hrules ⊢
  rw [rows_blocks h, rows_blocks (by simpa using h), filter_intercalate, filter_intercalate,
    List.map_map, List.map_map]
  exact congrArg _ hrules

theorem codeRows_render (envelope : Envelope) (collections : List Collection)
    (extraRules : List Rule) :
    codeRows (render envelope collections extraRules) =
      codeRows (render envelope collections (extraRules.map Rule.uncommented)) := by
  by_cases h : extraRules = []
  · subst h
    rfl
  · obtain ⟨above, below, hrows⟩ := exists_rows_render envelope collections
    have hblocks := codeRows_blocks h
    unfold codeRows at hblocks ⊢
    rw [hrows _ h, hrows _ (by simpa using h)]
    simp only [List.filter_append, hblocks]

/-- Comments have no influence on the code of a document. A comment that is added to a rule adds as
many rows as it has lines, above the opening line of the rule, and all of them are comments. -/
theorem comments_inert (envelope : Envelope) (collections : List Collection) :
    (∀ extraRules others : List Rule,
      extraRules.map Rule.uncommented = others.map Rule.uncommented →
      codeRows (render envelope collections extraRules) =
        codeRows (render envelope collections others)) ∧
    ∀ before after : List Rule, ∃ above below, ∀ rule : Rule, rule.comment? = none →
      rows (render envelope collections (before ++ rule :: after)) =
        above ++ rows (indent 2 rule.render) ++ below ∧
      (lines (Rule.matchLine rule.path)).map (indentLine 2) <+: rows (indent 2 rule.render) ∧
      ∀ comment : String, ∃ added,
        rows (render envelope collections
            (before ++ { rule with comment? := some comment } :: after)) =
          above ++ added ++ rows (indent 2 rule.render) ++ below ∧
        added.length = (lines comment.toList).length ∧
        ∀ row ∈ added, "    // ".toList <+: row := by
  refine ⟨fun extraRules others h => ?_, fun before after => ?_⟩
  · rw [codeRows_render, h, ← codeRows_render]
  · obtain ⟨above, below, hrows⟩ := exists_rows_render envelope collections
    obtain ⟨earlier, later, hblock⟩ := exists_intercalate_eq [[]]
      (before.map fun rule => rows (indent 2 rule.render))
      (after.map fun rule => rows (indent 2 rule.render))
    have hplace : ∀ rule : Rule, rows (render envelope collections (before ++ rule :: after)) =
        (above ++ earlier) ++ rows (indent 2 rule.render) ++ (later ++ below) := by
      intro rule
      rw [hrows _ (by simp), rows_blocks (by simp), List.map_append, List.map_cons, hblock]
      simp only [List.append_assoc]
    refine ⟨above ++ earlier, later ++ below, fun rule hnone => ⟨hplace rule,
      Rule.matchLine_prefix_rows 2 hnone, fun comment => ?_⟩⟩
    let commented : Rule := { rule with comment? := some comment }
    have hrule : commented.uncommented = rule := by
      cases rule
      simp only [commented, Rule.uncommented]
      rw [← hnone]
    refine ⟨commented.remarks.map (margin 2 ++ ·), ?_, ?_, fun row hrow => ?_⟩
    · have hcommented := hplace commented
      rw [Rule.rows_indent_eq, hrule] at hcommented
      rw [hcommented]
      simp only [List.append_assoc]
    · simp [commented, Rule.remarks]
    · obtain ⟨remark, hremark, rfl⟩ := List.mem_map.mp hrow
      have hmargin : "    // ".toList = margin 2 ++ "// ".toList := by decide
      rw [hmargin, List.prefix_append_right_inj]
      exact Rule.slashes_of_mem_remarks hremark

/-- A comment that looks like the line of an operation, after an empty line, grants nothing. -/
theorem comments_inert_forgery :
    ∃ (plain commented : Rule) (above added below : List (List Char)),
      plain.comment? = none ∧
      commented = { plain with comment? := some "all:\r\n\nallow read: if true;" } ∧
      codeRows (render {} [] [commented]) = codeRows (render {} [] [plain]) ∧
      rows (render {} [] [plain]) = above ++ rows (indent 2 plain.render) ++ below ∧
      rows (render {} [] [commented]) =
        above ++ added ++ rows (indent 2 plain.render) ++ below ∧
      added.length = 3 ∧ ∀ row ∈ added, "    // ".toList <+: row := by
  let plain : Rule := { path := "/a/\x7bb\x7d", create := .always }
  obtain ⟨hcode, hplaces⟩ := comments_inert {} []
  obtain ⟨above, below, hplace⟩ := hplaces [] []
  obtain ⟨hrows, -, hadds⟩ := hplace plain rfl
  obtain ⟨added, hadded, hlength, hcomments⟩ := hadds "all:\r\n\nallow read: if true;"
  have hlines : (lines "all:\r\n\nallow read: if true;".toList).length = 3 := by decide
  exact ⟨plain, _, above, added, below, rfl, rfl, hcode _ _ rfl, hrows, hadded,
    hlength.trans hlines, hcomments⟩

end SchemaPolicy.Ruleset
