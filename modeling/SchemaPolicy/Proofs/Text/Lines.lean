import SchemaPolicy.Text.Lines

/-! Texts put together from lines. Lines without line breaks of their own are read back as they
were written, whether each is ended by a line feed, or line feeds stand between them, or groups of
them are set apart by empty lines. -/

namespace SchemaPolicy.Text

/-- The lines in order, each ended by a line feed. -/
def unlines (ls : List (List Char)) : List Char := ls.flatMap (· ++ ['\n'])

@[simp] theorem unlines_nil : unlines [] = [] := rfl

@[simp] theorem unlines_cons (line : List Char) (ls : List (List Char)) :
    unlines (line :: ls) = line ++ '\n' :: unlines ls := by
  simp [unlines]

@[simp] theorem unlines_append (ls others : List (List Char)) :
    unlines (ls ++ others) = unlines ls ++ unlines others := by
  simp [unlines]

/-- A text without a line break. -/
def Unbroken (s : List Char) : Prop := ∀ c ∈ s, c ≠ '\n' ∧ c ≠ '\r'

instance : DecidablePred Unbroken := fun s =>
  inferInstanceAs (Decidable (∀ c ∈ s, c ≠ '\n' ∧ c ≠ '\r'))

@[simp] theorem unbroken_nil : Unbroken [] := by simp [Unbroken]

@[simp] theorem unbroken_cons {c : Char} {s : List Char} :
    Unbroken (c :: s) ↔ (c ≠ '\n' ∧ c ≠ '\r') ∧ Unbroken s := by
  simp [Unbroken]

@[simp] theorem unbroken_append {s t : List Char} :
    Unbroken (s ++ t) ↔ Unbroken s ∧ Unbroken t := by
  simp only [Unbroken, List.mem_append]
  exact ⟨fun h => ⟨fun c hc => h c (.inl hc), fun c hc => h c (.inr hc)⟩,
    fun h c hc => hc.elim (h.1 c) (h.2 c)⟩

theorem unbroken_of_forall {p : Char → Bool} {s : List Char} (h : ∀ c ∈ s, p c = true)
    (hlf : p '\n' = false) (hcr : p '\r' = false) : Unbroken s := by
  intro c hc
  have hchar := h c hc
  constructor
  · rintro rfl
    exact absurd hchar (by simp [hlf])
  · rintro rfl
    exact absurd hchar (by simp [hcr])

/-! ### Lines of a text -/

/-- A character that is no part of a line break goes to the front of the first line. -/
theorem lines_cons_of_free {c : Char} {rest : List Char} (hc : c ≠ '\n')
    (hfree : c ≠ '\r' ∨ ¬∃ tail, rest = '\n' :: tail) :
    lines (c :: rest) = match lines rest with
      | [] => [[c]]
      | line :: others => (c :: line) :: others :=
  lines.eq_4 c rest hc fun tail hreturn hrest => hfree.elim (· hreturn) (· ⟨tail, hrest⟩)

theorem lines_cons {c : Char} (hc : c ≠ '\n' ∧ c ≠ '\r') (rest : List Char) :
    lines (c :: rest) = match lines rest with
      | [] => [[c]]
      | line :: others => (c :: line) :: others :=
  lines_cons_of_free hc.1 (.inl hc.2)

theorem lines_append_newline {line : List Char} (h : Unbroken line) (rest : List Char) :
    lines (line ++ '\n' :: rest) = line :: lines rest := by
  induction line with
  | nil => rw [List.nil_append, lines]
  | cons c line ih =>
    obtain ⟨hc, hline⟩ := unbroken_cons.mp h
    rw [List.cons_append, lines_cons hc, ih hline]

theorem lines_of_unbroken {line : List Char} (h : Unbroken line) (hne : line ≠ []) :
    lines line = [line] := by
  induction line with
  | nil => exact absurd rfl hne
  | cons c line ih =>
    obtain ⟨hc, hline⟩ := unbroken_cons.mp h
    rw [lines_cons hc]
    cases line with
    | nil => rfl
    | cons d line => rw [ih hline (by simp)]

/-- Lines that are ended by line feeds are read back, ahead of the lines of what follows. -/
theorem lines_unlines_append {ls : List (List Char)} (h : ∀ line ∈ ls, Unbroken line)
    (rest : List Char) : lines (unlines ls ++ rest) = ls ++ lines rest := by
  induction ls with
  | nil => rfl
  | cons line ls ih =>
    obtain ⟨hline, hls⟩ := List.forall_mem_cons.mp h
    rw [unlines_cons, List.append_assoc, List.cons_append, lines_append_newline hline, ih hls,
      List.cons_append]

/-! ### Lines with separators between them -/

theorem joinWith_cons_of_ne_nil (separator text : List Char) {others : List (List Char)}
    (h : others ≠ []) :
    joinWith separator (text :: others) = text ++ separator ++ joinWith separator others := by
  cases others with
  | nil => exact absurd rfl h
  | cons _ _ => rfl

theorem joinWith_newline_append (ls : List (List Char)) (last : List Char) :
    joinWith ['\n'] (ls ++ [last]) = unlines ls ++ last := by
  induction ls with
  | nil => rfl
  | cons line ls ih =>
    rw [List.cons_append, joinWith_cons_of_ne_nil _ _ (by simp), ih, unlines_cons]
    simp

theorem joinWith_newline_terminated {ls : List (List Char)} (h : ls ≠ []) :
    joinWith ['\n'] ls ++ ['\n'] = unlines ls := by
  rw [← List.dropLast_concat_getLast h, joinWith_newline_append, unlines_append]
  simp

/-- Lines with line feeds between them are read back, unless the last one is empty. -/
theorem lines_joinWith {ls : List (List Char)} (h : ∀ line ∈ ls, Unbroken line ∧ line ≠ []) :
    lines (joinWith ['\n'] ls) = ls := by
  by_cases hls : ls = []
  · subst hls
    rfl
  · obtain ⟨hlast, hne⟩ := h _ (List.getLast_mem hls)
    have hinit : ∀ line ∈ ls.dropLast, Unbroken line :=
      fun line hline => (h line (List.dropLast_subset _ hline)).1
    rw [← List.dropLast_concat_getLast hls, joinWith_newline_append, lines_unlines_append hinit,
      lines_of_unbroken hlast hne]

/-- Groups of lines with empty lines between the groups are read back. -/
theorem lines_joinWith_blank_line {groups : List (List (List Char))}
    (h : ∀ ls ∈ groups, ls ≠ [] ∧ ∀ line ∈ ls, Unbroken line ∧ line ≠ []) :
    lines (joinWith ['\n', '\n'] (groups.map (joinWith ['\n']))) = [[]].intercalate groups := by
  induction groups with
  | nil => rfl
  | cons ls groups ih =>
    obtain ⟨⟨hne, hls⟩, hgroups⟩ := List.forall_mem_cons.mp h
    by_cases hlast : groups = []
    · subst hlast
      simpa [joinWith] using lines_joinWith hls
    · have hbreak : joinWith ['\n'] ls ++ ['\n', '\n'] = unlines ls ++ ['\n'] := by
        rw [← joinWith_newline_terminated hne, List.append_assoc]
        rfl
      rw [List.map_cons, joinWith_cons_of_ne_nil _ _ (by simpa using hlast), hbreak,
        List.append_assoc, lines_unlines_append fun line hline => (hls line hline).1,
        List.singleton_append, lines, ih hgroups, List.intercalate_cons_of_ne_nil hlast]
      simp

/-- The groups of lines that empty lines set apart. -/
def paragraphs (ls : List (List Char)) : List (List (List Char)) :=
  if ls = [] then [] else ls.splitOn []

theorem paragraphs_intercalate {groups : List (List (List Char))}
    (h : ∀ ls ∈ groups, ls ≠ [] ∧ ∀ line ∈ ls, line ≠ []) :
    paragraphs ([[]].intercalate groups) = groups := by
  by_cases hgroups : groups = []
  · subst hgroups
    rfl
  · have hsplit : ([[]].intercalate groups).splitOn [] = groups :=
      List.splitOn_intercalate [] (fun ls hls hmem => (h ls hls).2 [] hmem rfl) hgroups
    have hne : [[]].intercalate groups ≠ [] := by
      intro hnil
      rw [hnil, List.splitOn_nil] at hsplit
      exact (h [] (by simp [← hsplit])).1 rfl
    rw [paragraphs, if_neg hne, hsplit]

/-! ### Lines of some kind -/

theorem filter_intercalate (p : List Char → Bool) (separator : List (List Char))
    (groups : List (List (List Char))) :
    (separator.intercalate groups).filter p =
      (separator.filter p).intercalate (groups.map (List.filter p)) := by
  induction groups with
  | nil => simp
  | cons ls groups ih =>
    by_cases hlast : groups = []
    · subst hlast
      simp
    · rw [List.intercalate_cons_of_ne_nil hlast, List.filter_append, List.filter_append, ih,
        List.map_cons, List.intercalate_cons_of_ne_nil (by simpa using hlast)]

/-- The lines of a kind that has no empty line are those of the groups between empty lines. -/
theorem filter_intercalate_blank_line {p : List Char → Bool} (hp : p [] = false)
    (groups : List (List (List Char))) :
    ([[]].intercalate groups).filter p = groups.flatMap (List.filter p) := by
  have hflatten : ∀ gs : List (List (List Char)), [].intercalate gs = gs.flatten := by
    intro gs
    induction gs with
    | nil => simp
    | cons ls gs ih =>
      by_cases hlast : gs = []
      · subst hlast
        simp
      · rw [List.intercalate_cons_of_ne_nil hlast, ih, List.append_nil, List.flatten_cons]
  have hseparator : ([[]] : List (List Char)).filter p = [] := by simp [hp]
  rw [filter_intercalate, hseparator, hflatten, List.flatMap_def]

/-- One of several groups stands in its place, whatever it is. -/
theorem exists_intercalate_eq (separator : List (List Char))
    (before after : List (List (List Char))) :
    ∃ above below, ∀ ls, separator.intercalate (before ++ ls :: after) = above ++ ls ++ below := by
  induction before with
  | nil =>
    by_cases hlast : after = []
    · subst hlast
      exact ⟨[], [], fun ls => by simp⟩
    · refine ⟨[], separator ++ separator.intercalate after, fun ls => ?_⟩
      rw [List.nil_append, List.intercalate_cons_of_ne_nil hlast]
      simp
  | cons first before ih =>
    obtain ⟨above, below, h⟩ := ih
    refine ⟨first ++ separator ++ above, below, fun ls => ?_⟩
    rw [List.cons_append, List.intercalate_cons_of_ne_nil (by simp), h]
    simp

end SchemaPolicy.Text
