import Mathlib.Data.List.Basic
import SchemaPolicy.Proofs.Text.Indent

/-! Rows of a text: what stands between its line feeds, carriage returns included. A text that ends
in a line feed has the lines that its rows make without their last carriage returns; any text can
thus be followed through lines, indentation and rows again. -/

namespace SchemaPolicy.Text

/-- The parts of a text between line feeds, carriage returns included. -/
def rows (s : List Char) : List (List Char) := s.splitOn '\n'

/-- A row as a line: the carriage return at its end belongs to the line break. -/
def dropReturn (row : List Char) : List Char :=
  if row.getLast? = some '\r' then row.dropLast else row

@[simp] theorem rows_nil : rows [] = [[]] := rfl

theorem rows_ne_nil (s : List Char) : rows s ≠ [] := List.splitOn_ne_nil '\n' s

theorem rows_append_newline (s rest : List Char) :
    rows (s ++ '\n' :: rest) = rows s ++ rows rest :=
  List.splitOn_append_cons_self s rest

theorem rows_newline (rest : List Char) : rows ('\n' :: rest) = [] :: rows rest :=
  rows_append_newline [] rest

theorem rows_cons {c : Char} (hc : c ≠ '\n') (rest : List Char) :
    rows (c :: rest) = (rows rest).modifyHead (c :: ·) := by
  rw [rows, List.splitOn_cons_eq_if_modifyHead, if_neg (by simpa using hc), rows]

theorem rows_of_notMem {row : List Char} (h : '\n' ∉ row) : rows row = [row] :=
  List.splitOn_eq_singleton h

/-- Rows are read back from a text that has line feeds between them. -/
theorem rows_joinWith {rs : List (List Char)} (h : ∀ row ∈ rs, '\n' ∉ row) (hne : rs ≠ []) :
    rows (joinWith ['\n'] rs) = rs := by
  induction rs with
  | nil => exact absurd rfl hne
  | cons row rs ih =>
    obtain ⟨hrow, hrs⟩ := List.forall_mem_cons.mp h
    by_cases hlast : rs = []
    · subst hlast
      exact rows_of_notMem hrow
    · rw [joinWith_cons_of_ne_nil _ _ hlast, List.append_assoc, List.singleton_append,
        rows_append_newline, rows_of_notMem hrow, ih hrs hlast, List.singleton_append]

/-! ### Lines and rows -/

theorem dropReturn_cons {c : Char} {row : List Char} (h : c ≠ '\r' ∨ row ≠ []) :
    dropReturn (c :: row) = c :: dropReturn row := by
  cases row with
  | nil =>
    have hc : c ≠ '\r' := h.resolve_right fun hne => hne rfl
    simp [dropReturn, hc]
  | cons d row =>
    simp only [dropReturn, List.getLast?_cons_cons]
    split <;> rfl

theorem dropReturn_append {t : List Char} (ht : t ≠ []) (s : List Char) :
    dropReturn (s ++ t) = s ++ dropReturn t := by
  induction s with
  | nil => rfl
  | cons c s ih =>
    have hne : s ++ t ≠ [] := List.append_ne_nil_of_right_ne_nil s ht
    rw [List.cons_append, dropReturn_cons (.inr hne), ih, List.cons_append]

/-- What follows a text with a line feed begins with a line feed when the text's first row is
empty. -/
theorem exists_newline_iff {s row : List Char} {others : List (List Char)}
    (h : rows s = row :: others) (rest : List Char) :
    (∃ tail, s ++ '\n' :: rest = '\n' :: tail) ↔ row = [] := by
  cases s with
  | nil =>
    obtain ⟨rfl, -⟩ := List.cons.inj h
    simp
  | cons c s =>
    by_cases hc : c = '\n'
    · subst hc
      rw [rows_newline] at h
      obtain ⟨rfl, -⟩ := List.cons.inj h
      simp
    · obtain ⟨first, later, hs⟩ := List.exists_cons_of_ne_nil (rows_ne_nil s)
      rw [rows_cons hc, hs, List.modifyHead_cons] at h
      obtain ⟨rfl, -⟩ := List.cons.inj h
      simp [hc]

/-- The lines of a text up to a line feed are its rows, each without the carriage return at its
end. -/
theorem lines_append_newline_eq (s rest : List Char) :
    lines (s ++ '\n' :: rest) = (rows s).map dropReturn ++ lines rest := by
  induction s with
  | nil => rw [List.nil_append, lines, rows_nil]; rfl
  | cons c s ih =>
    by_cases hc : c = '\n'
    · subst hc
      rw [List.cons_append, lines, ih, rows_newline]
      rfl
    · obtain ⟨row, others, hs⟩ := List.exists_cons_of_ne_nil (rows_ne_nil s)
      rw [rows_cons hc, hs, List.modifyHead_cons, List.map_cons, List.cons_append]
      rw [hs, List.map_cons] at ih
      by_cases hbreak : c = '\r' ∧ row = []
      · -- The carriage return belongs to the break, so the row of nothing else is an empty line.
        obtain ⟨rfl, rfl⟩ := hbreak
        obtain ⟨tail, htail⟩ := (exists_newline_iff hs rest).mpr rfl
        rw [htail, lines] at ih
        rw [htail, lines, (List.cons.inj ih).2]
        rfl
      · have hkept : c ≠ '\r' ∨ row ≠ [] := Decidable.not_and_iff_not_or_not.mp hbreak
        have hfree : c ≠ '\r' ∨ ¬∃ tail, s ++ '\n' :: rest = '\n' :: tail := by
          rwa [exists_newline_iff hs]
        rw [lines_cons_of_free hc hfree, ih, dropReturn_cons hkept]
        rfl

theorem newline_notMem_lines {s line : List Char} (h : line ∈ lines s) : '\n' ∉ line := by
  fun_induction lines s generalizing line with
  | case1 => exact absurd h List.not_mem_nil
  | case2 rest ih | case3 rest ih =>
    rcases List.mem_cons.mp h with rfl | h
    · exact List.not_mem_nil
    · exact ih h
  | case4 c rest hc _ hnil _ =>
    obtain rfl := List.mem_singleton.mp h
    simpa [eq_comm] using hc
  | case5 c rest hc _ first others hrest ih =>
    rcases List.mem_cons.mp h with rfl | h
    · have hfirst := ih (hrest ▸ List.mem_cons_self)
      simp [hfirst, Ne.symm hc]
    · exact ih (hrest ▸ List.mem_cons_of_mem _ h)

/-- Of texts that line feeds end, the lines can be told one text after the other. -/
theorem lines_unlines_append_rows (texts : List (List Char)) (rest : List Char) :
    lines (unlines texts ++ rest) =
      texts.flatMap (fun text => (rows text).map dropReturn) ++ lines rest := by
  induction texts with
  | nil => rfl
  | cons text texts ih =>
    rw [unlines_cons, List.append_assoc, List.cons_append, lines_append_newline_eq, ih,
      List.flatMap_cons, List.append_assoc]

/-- Rows that are ended by line feeds are lines, ahead of the lines of what follows. -/
theorem lines_unlines_append_eq {rs : List (List Char)} (h : ∀ row ∈ rs, '\n' ∉ row)
    (rest : List Char) : lines (unlines rs ++ rest) = rs.map dropReturn ++ lines rest := by
  rw [lines_unlines_append_rows, List.map_eq_flatMap]
  congr 1
  refine List.flatMap_congr fun row hrow => ?_
  rw [rows_of_notMem (h row hrow), List.map_singleton]

/-! ### Indented rows -/

theorem newline_notMem_indentLine (levels : Nat) {line : List Char} (h : '\n' ∉ line) :
    '\n' ∉ indentLine levels line := by
  unfold indentLine
  split
  · exact List.not_mem_nil
  · have hmargin : '\n' ∉ margin levels := fun hmem => (unbroken_margin levels _ hmem).1 rfl
    simp [hmargin, h]

theorem rows_indent (levels : Nat) {s : List Char} (h : lines (dropFinalNewlines s) ≠ []) :
    rows (indent levels s) = (lines (dropFinalNewlines s)).map (indentLine levels) := by
  refine rows_joinWith (fun row hrow => ?_) (by simpa using h)
  obtain ⟨line, hline, rfl⟩ := List.mem_map.mp hrow
  exact newline_notMem_indentLine levels (newline_notMem_lines hline)

/-- Texts with empty lines between them give their rows, with an empty row between those of
neighbours. -/
theorem rows_joinWith_blank_line {texts : List (List Char)} (h : texts ≠ []) :
    rows (joinWith ['\n', '\n'] texts) = [[]].intercalate (texts.map rows) := by
  induction texts with
  | nil => exact absurd rfl h
  | cons text texts ih =>
    by_cases hlast : texts = []
    · subst hlast
      simp [joinWith]
    · rw [joinWith_cons_of_ne_nil _ _ hlast, List.append_assoc, List.cons_append,
        rows_append_newline, List.singleton_append, rows_newline, ih hlast, List.map_cons,
        List.intercalate_cons_of_ne_nil (by simpa using hlast)]
      simp

end SchemaPolicy.Text
