import SchemaPolicy.Proofs.Ruleset.Rows
import SchemaPolicy.Proofs.Text.LineBreak

/-! Hand-written rules with either kind of line break make the same document, up to empty lines. -/

namespace SchemaPolicy

open Text

/-- A text with a carriage return in front of every line feed. -/
def Text.withCrlf (text : String) : String := String.ofList (crlf text.toList)

@[simp] theorem Text.toList_withCrlf (text : String) : (withCrlf text).toList = crlf text.toList :=
  String.toList_ofList

/-- The same access under a condition that is written another way. -/
def Access.mapCondition (f : String → String) : Access → Access
  | deny => deny
  | always => always
  | when condition => when (f condition)

namespace Rule

/-- The texts that a rule holds. -/
def texts (rule : Rule) : List String :=
  rule.path :: rule.comment?.toList ++ rule.preamble?.toList ++
    Operation.all.filterMap fun op => (rule.access op).condition?

/-- The same rule with its texts written another way. -/
def mapTexts (f : String → String) (rule : Rule) : Rule where
  path := f rule.path
  comment? := rule.comment?.map f
  preamble? := rule.preamble?.map f
  create := rule.create.mapCondition f
  read := rule.read.mapCondition f
  update := rule.update.mapCondition f
  delete := rule.delete.mapCondition f

theorem condition?_access_mapTexts {f : String → String} (hf : f "true" = "true") (rule : Rule)
    (op : Operation) :
    ((rule.mapTexts f).access op).condition? = (rule.access op).condition?.map f := by
  have haccess : ∀ access : Access,
      (access.mapCondition f).condition? = access.condition?.map f := by
    intro access
    cases access with
    | deny => rfl
    | always => exact congrArg some hf.symm
    | «when» condition => rfl
  cases op <;> exact haccess _

variable {rule : Rule}

theorem shownLines_allowText (op : Operation) {condition : String}
    (h : '\r' ∉ condition.toList) :
    shownLines (allowText op (withCrlf condition)) =
      shownLines (allowText op condition) := by
  have hfront : Unbroken ("  allow ".toList ++ op.keyword.toList ++ ": if ".toList) := by
    cases op <;> simp [Operation.keyword]
  have hback : Unbroken [';'] := by simp
  unfold allowText
  rw [toList_withCrlf]
  exact shownLines_between_crlf hfront hback h

theorem flatMap_shownLines_allowText {ops : List Operation}
    (h : ∀ op ∈ ops, ∀ condition, (rule.access op).condition? = some condition →
      '\r' ∉ condition.toList) :
    (ops.filterMap fun op => ((rule.mapTexts withCrlf).access op).condition?.map
        (allowText op)).flatMap shownLines =
      (ops.filterMap fun op => (rule.access op).condition?.map (allowText op)).flatMap
        shownLines := by
  induction ops with
  | nil => rfl
  | cons op ops ih =>
    obtain ⟨hop, hops⟩ := List.forall_mem_cons.mp h
    rw [List.filterMap_cons, List.filterMap_cons, condition?_access_mapTexts (by decide)]
    cases hsome : (rule.access op).condition? with
    | none => exact ih hops
    | some condition =>
      simp only [Option.map_some, List.flatMap_cons, ih hops,
        shownLines_allowText op (hop condition hsome)]

theorem flatMap_shownLines_body (h : ∀ text ∈ rule.texts, '\r' ∉ text.toList) :
    (rule.mapTexts withCrlf).body.flatMap shownLines = rule.body.flatMap shownLines := by
  simp only [texts, List.cons_append, List.forall_mem_cons, List.forall_mem_append] at h
  obtain ⟨hpath, ⟨hcomment, hpreamble⟩, hconditions⟩ := h
  have hremarks : ((rule.mapTexts withCrlf).comment?.elim [] fun comment =>
      (lines comment.toList).map ("// ".toList ++ ·)) = rule.comment?.elim [] fun comment =>
      (lines comment.toList).map ("// ".toList ++ ·) := by
    unfold mapTexts
    cases hsome : rule.comment? with
    | none => rfl
    | some comment =>
      have hreturn := returnless_iff.mpr (hcomment comment (by simp [hsome]))
      simp [lines_crlf hreturn]
  have hopening :
      shownLines ("match ".toList ++ (rule.mapTexts withCrlf).path.toList ++ " \x7b".toList) =
        shownLines ("match ".toList ++ rule.path.toList ++ " \x7b".toList) := by
    unfold mapTexts
    rw [toList_withCrlf]
    exact shownLines_between_crlf (by simp) (by simp) hpath
  have hhelpers : ((rule.mapTexts withCrlf).preamble?.elim [] fun preamble =>
      indentedLines 1 preamble.toList).flatMap shownLines = (rule.preamble?.elim [] fun preamble =>
      indentedLines 1 preamble.toList).flatMap shownLines := by
    unfold mapTexts
    cases hsome : rule.preamble? with
    | none => rfl
    | some preamble =>
      simp only [Option.map_some, Option.elim_some, toList_withCrlf]
      exact flatMap_shownLines_crlf 1 (hpreamble preamble (by simp [hsome]))
  unfold body
  simp only [List.flatMap_append, hremarks, hhelpers, List.flatMap_singleton, hopening]
  refine congrArg (_ ++ ·) (flatMap_shownLines_allowText fun op hop condition hsome => ?_)
  exact hconditions condition (List.mem_filterMap.mpr ⟨op, hop, hsome⟩)

theorem filter_lines_render (rule : Rule) :
    (lines rule.render).filter (fun line => ¬Blank line) =
      rule.body.flatMap shownLines ++ [['\x7d']] := by
  rw [render_eq, filter_lines_unlines_append]
  rfl

end Rule

namespace Ruleset

/-- The rows of a document that are not blank. -/
def visibleRows (document : List Char) : List (List Char) :=
  (rows document).filter fun row => ¬Blank row

variable {extraRules : List Rule}

theorem visibleRows_blocks (h : ∀ rule ∈ extraRules, ∀ text ∈ rule.texts, '\r' ∉ text.toList) :
    visibleRows (blocks (extraRules.map (Rule.mapTexts withCrlf))) =
      visibleRows (blocks extraRules) := by
  unfold visibleRows
  rw [visible_rows_blocks, visible_rows_blocks, List.flatMap_map]
  refine List.flatMap_congr fun rule hrule => ?_
  rw [Rule.filter_lines_render, Rule.flatMap_shownLines_body (h rule hrule),
    Rule.filter_lines_render]

/-- A document has the same visible rows with either kind of line break in its hand-written rules.
It can differ in one place, where these rules stand, and there in nothing but empty rows. -/
theorem line_breaks_inert (envelope : Envelope) (collections : List Collection)
    (h : ∀ rule ∈ extraRules, ∀ text ∈ rule.texts, '\r' ∉ text.toList) :
    visibleRows (render envelope collections (extraRules.map (Rule.mapTexts withCrlf))) =
      visibleRows (render envelope collections extraRules) ∧
    ∃ above plain broken below,
      rows (render envelope collections extraRules) = above ++ plain ++ below ∧
      rows (render envelope collections (extraRules.map (Rule.mapTexts withCrlf))) =
        above ++ broken ++ below ∧
      (broken.filter fun row => ¬Blank row) = (plain.filter fun row => ¬Blank row) ∧
      ∀ row ∈ plain ++ broken, Blank row → row = [] := by
  by_cases hrules : extraRules = []
  · subst hrules
    exact ⟨rfl, rows (render envelope collections []), [], [], [], by simp, by simp, rfl, by simp⟩
  · obtain ⟨above, below, hrows⟩ := exists_rows_render envelope collections
    have hplain := hrows extraRules hrules
    have hbroken := hrows (extraRules.map (Rule.mapTexts withCrlf)) (by simpa using hrules)
    have hvisible := visibleRows_blocks h
    refine ⟨?_, above, _, _, below, hplain, hbroken, hvisible, fun row hrow hblank => ?_⟩
    · unfold visibleRows at hvisible ⊢
      rw [hplain, hbroken]
      simp only [List.filter_append, hvisible]
    · rcases List.mem_append.mp hrow with hrow | hrow
      · exact eq_nil_of_mem_rows_blocks hrow hblank
      · exact eq_nil_of_mem_rows_blocks hrow hblank

/-- Line feeds at the end of a preamble go, and the carriage returns in front of them make an empty
row. -/
theorem line_breaks_inert_preamble :
    ∃ plain broken : Rule,
      plain = ⟨"/a\n/b", none, some "f();\n\n", .deny, .when "c ||\nd", .deny, .deny⟩ ∧
      broken = ⟨"/a\r\n/b", none, some "f();\r\n\r\n", .deny, .when "c ||\r\nd", .deny, .deny⟩ ∧
      visibleRows (render {} [] [broken]) = visibleRows (render {} [] [plain]) ∧
      (rows (render {} [] [broken])).length = (rows (render {} [] [plain])).length + 1 := by
  let plain : Rule := ⟨"/a\n/b", none, some "f();\n\n", .deny, .when "c ||\nd", .deny, .deny⟩
  have hreturn : ∀ rule ∈ [plain], ∀ text ∈ rule.texts, '\r' ∉ text.toList := by decide
  obtain ⟨hvisible, -⟩ := line_breaks_inert {} [] hreturn
  exact ⟨plain, plain.mapTexts withCrlf, rfl, by decide, hvisible, by decide⟩

end Ruleset

end SchemaPolicy
