import SchemaPolicy.Declaration.Descriptor

/-! Literals between single quotes, as a reader of rules finds them: a quote opens a literal, the
next quote that no backslash stands before closes it. A quotable text between quotes is read as one
literal with this text, whatever it says. -/

namespace SchemaPolicy.Text

/-- What a text is made of: its literals, and the rest with two quotes in place of each literal. -/
structure Reading where
  outside : List Char
  literals : List (List Char)
deriving DecidableEq, Repr

/-- Reads a text from a place outside literals, or inside one of which some characters were read.
There is no reading when the text ends inside a literal. -/
def readFrom : Option (List Char) → List Char → Option Reading
  | none, [] => some ⟨[], []⟩
  | some _, [] => none
  | none, c :: rest =>
    if c = '\'' then (readFrom (some []) rest).map fun r => { r with outside := '\'' :: r.outside }
    else (readFrom none rest).map fun r => { r with outside := c :: r.outside }
  | some text, '\\' :: c :: rest => readFrom (some (text ++ ['\\', c])) rest
  | some text, c :: rest =>
    if c = '\'' then
      (readFrom none rest).map fun r => ⟨'\'' :: r.outside, text :: r.literals⟩
    else readFrom (some (text ++ [c])) rest

/-- The literals of a text and the text outside them; `none` if a quote is left open. -/
def read? (s : List Char) : Option Reading := readFrom none s

theorem readFrom_none_append {s : List Char} (h : ∀ c ∈ s, c ≠ '\'') (rest : List Char) :
    readFrom none (s ++ rest) =
      (readFrom none rest).map fun r => { r with outside := s ++ r.outside } := by
  induction s with
  | nil => simp
  | cons c s ih =>
    obtain ⟨hc, hs⟩ := List.forall_mem_cons.mp h
    rw [List.cons_append, readFrom, if_neg hc, ih hs, Option.map_map]
    rfl

/-- A literal goes on to the first quote, unless a backslash comes before it. -/
theorem readFrom_some_append {s : List Char} (h : ∀ c ∈ s, c ≠ '\'' ∧ c ≠ '\\')
    (text rest : List Char) :
    readFrom (some text) (s ++ '\'' :: rest) =
      (readFrom none rest).map fun r => ⟨'\'' :: r.outside, (text ++ s) :: r.literals⟩ := by
  induction s generalizing text with
  | nil =>
    rw [List.nil_append, readFrom, if_pos rfl, List.append_nil]
    simp
  | cons c s ih =>
    obtain ⟨hc, hs⟩ := List.forall_mem_cons.mp h
    rw [List.cons_append, readFrom, if_neg hc.1, ih hs, List.append_assoc, List.singleton_append]
    exact fun _ _ hslash => absurd hslash hc.2

theorem read?_of_forall {s : List Char} (h : ∀ c ∈ s, c ≠ '\'') : read? s = some ⟨s, []⟩ := by
  have hread := readFrom_none_append h []
  rw [List.append_nil] at hread
  rw [read?, hread, readFrom]
  simp

/-- A text between quotes is read back, and nothing of it is read as what stands around it. -/
theorem read?_literal {before text after : List Char} (hbefore : ∀ c ∈ before, c ≠ '\'')
    (htext : ∀ c ∈ text, c ≠ '\'' ∧ c ≠ '\\') (hafter : ∀ c ∈ after, c ≠ '\'') :
    read? (before ++ '\'' :: (text ++ '\'' :: after)) =
      some ⟨before ++ '\'' :: '\'' :: after, [text]⟩ := by
  have hread := read?_of_forall hafter
  rw [read?] at hread
  rw [read?, readFrom_none_append hbefore, readFrom, if_pos rfl, readFrom_some_append htext, hread]
  simp

end SchemaPolicy.Text
