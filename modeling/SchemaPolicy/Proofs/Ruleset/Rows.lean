import SchemaPolicy.Proofs.Rule.Rows
import SchemaPolicy.Ruleset
import Mathlib.Data.List.Basic

/-! Where the text of every rule stands in a rules document, whatever the rules hold: each section
has the visible lines of its rules in order, set in, and nothing else that is visible. -/

namespace SchemaPolicy.Ruleset

open Text

/-- The line end that a section has unless it is empty. -/
def lineEnd (text : List Char) : List Char := if text = [] then [] else ['\n']

/-- A section with the visible lines of some rules, in order and four spaces in, and with empty
rows between them. -/
structure Keeps (rules : List Rule) (text : List Char) : Prop where
  visible : ((rows text).filter fun row => ¬Blank row) =
    rules.flatMap fun rule =>
      ((lines rule.render).filter fun line => ¬Blank line).map ("    ".toList ++ ·)
  blank : ∀ row ∈ rows text, Blank row → row = []
  empty : text = [] ↔ rules = []

theorem sectionLines_eq (text : List Char) : sectionLines text = text ++ lineEnd text := by
  unfold sectionLines lineEnd
  split
  · next h => simp [h]
  · rfl

/-! ### The rows of a section -/

variable {rules : List Rule}

theorem rows_blocks (h : rules ≠ []) :
    rows (blocks rules) = [[]].intercalate (rules.map fun rule => rows (indent 2 rule.render)) := by
  have hseparator : "\n\n".toList = ['\n', '\n'] := by simp
  rw [blocks, hseparator, rows_joinWith_blank_line (by simpa using h), List.map_map]
  rfl

theorem filter_rows_blocks {p : List Char → Bool} (hp : p [] = false) (rules : List Rule) :
    (rows (blocks rules)).filter p =
      rules.flatMap fun rule => (rows (indent 2 rule.render)).filter p := by
  by_cases h : rules = []
  · subst h
    simp [blocks, joinWith, hp]
  · rw [rows_blocks h, filter_intercalate_blank_line hp, List.flatMap_map]

theorem visible_rows_blocks (rules : List Rule) :
    ((rows (blocks rules)).filter fun row => ¬Blank row) =
      rules.flatMap fun rule =>
        ((lines rule.render).filter fun line => ¬Blank line).map ("    ".toList ++ ·) := by
  have hmargin : margin 2 = "    ".toList := by simp [margin]
  rw [filter_rows_blocks (by simpa using blank_nil)]
  refine List.flatMap_congr fun rule _ => ?_
  rw [Rule.rows_indent_render, filter_map_indentLine, hmargin]

theorem blocks_eq_nil_iff : blocks rules = [] ↔ rules = [] := by
  constructor
  · -- An empty section has no visible row, and the closing brace of every rule is visible.
    intro hnil
    have hvisible := visible_rows_blocks rules
    rw [hnil, rows_nil, List.filter_cons_of_neg (by simpa using blank_nil), List.filter_nil,
      eq_comm, List.flatMap_eq_nil_iff] at hvisible
    refine List.eq_nil_iff_forall_not_mem.mpr fun rule hrule => ?_
    obtain ⟨ls, hls⟩ := rule.exists_lines_render
    have hbrace : ¬Blank ['\x7d'] := by decide
    have hlines := hvisible rule hrule
    rw [hls, List.filter_append, List.filter_cons_of_pos (by simpa using hbrace)] at hlines
    simp at hlines
  · rintro rfl
    rfl

theorem eq_nil_of_mem_rows_blocks {row : List Char} (h : row ∈ rows (blocks rules))
    (hblank : Blank row) : row = [] := by
  have hnone : (rows (blocks rules)).filter (fun row => Blank row ∧ row ≠ []) = [] := by
    rw [filter_rows_blocks (by simp), List.flatMap_eq_nil_iff]
    refine fun rule _ => List.filter_eq_nil_iff.mpr fun row hrow => ?_
    rw [Rule.rows_indent_render] at hrow
    obtain ⟨line, -, rfl⟩ := List.mem_map.mp hrow
    simpa using eq_nil_of_blank_indentLine
  have hrow := List.filter_eq_nil_iff.mp hnone row h
  simpa [hblank] using hrow

theorem keeps_blocks (rules : List Rule) : Keeps rules (blocks rules) :=
  ⟨visible_rows_blocks rules, fun _ => eq_nil_of_mem_rows_blocks, blocks_eq_nil_iff⟩

example : blocks [{ path := "/a", preamble? := some "f()\r\n \r\ng()\n\n", read := .always },
      { path := "/b\n" }] =
    ("    match /a \x7b\n      f()\n\n      g()\n      allow read: if true;\n    \x7d\n\n" ++
      "    match /b\n     \x7b\n    \x7d").toList := by decide

/-- Hand-written rules stand between rows that do not depend on them. -/
theorem exists_rows_render (envelope : Envelope) (collections : List Collection) :
    ∃ above below, ∀ extraRules, extraRules ≠ [] →
      rows (render envelope collections extraRules) =
        above ++ rows (blocks extraRules) ++ below := by
  obtain ⟨opening, hopening⟩ : ∃ opening, head envelope = opening ++ ['\n'] := by
    have hheader : "    // Extra rules\n".toList = "    // Extra rules".toList ++ ['\n'] := by
      decide
    unfold head
    rw [hheader, ← List.append_assoc]
    exact ⟨_, rfl⟩
  refine ⟨rows opening, rows (middle ++
    sectionLines (blocks (collections.map Collection.rule)) ++ tail), fun extraRules h => ?_⟩
  have hsection : sectionLines (blocks extraRules) = blocks extraRules ++ ['\n'] :=
    if_neg (blocks_eq_nil_iff.not.mpr h)
  rw [render, hopening, hsection]
  simp only [List.append_assoc, List.cons_append, List.nil_append, rows_append_newline]

/-- A document has two sections between fixed parts, and each section keeps the text of its rules:
none is lost, repeated or moved. -/
theorem render_keeps (envelope : Envelope) (collections : List Collection)
    (extraRules : List Rule) :
    ∃ extra generated,
      render envelope collections extraRules =
        head envelope ++ extra ++ (lineEnd extra ++ middle) ++ generated ++
          (lineEnd generated ++ tail) ∧
      "    // Generated rules\n".toList <:+ middle ∧
      Keeps extraRules extra ∧ Keeps (collections.map Collection.rule) generated := by
  have hmiddle : "    // Generated rules\n".toList <:+ middle := by decide
  refine ⟨_, _, ?_, hmiddle, keeps_blocks extraRules,
    keeps_blocks (collections.map Collection.rule)⟩
  simp only [render, sectionLines_eq, List.append_assoc]

end SchemaPolicy.Ruleset
