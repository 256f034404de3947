import SchemaPolicy.Text.Blank

/-! Trimming takes the blank characters at both ends of a text, all of them and no others. -/

namespace SchemaPolicy.Text

/-- A text is what another one holds between the blank characters at its ends. -/
structure Trimmed (s t : List Char) : Prop where
  parts : ∃ before after, s = before ++ t ++ after ∧ Blank before ∧ Blank after
  first : ∀ c, t.head? = some c → isBlank c = false
  last : ∀ c, t.getLast? = some c → isBlank c = false

theorem blank_append_iff {s t : List Char} : Blank (s ++ t) ↔ Blank s ∧ Blank t := by
  simp only [Blank, List.mem_append]
  exact ⟨fun h => ⟨fun c hc => h c (.inl hc), fun c hc => h c (.inr hc)⟩,
    fun h c hc => hc.elim (h.1 c) (h.2 c)⟩

theorem blank_reverse_iff {s : List Char} : Blank s.reverse ↔ Blank s := by
  simp only [Blank, List.mem_reverse]

theorem blank_takeWhile (s : List Char) : Blank (s.takeWhile isBlank) :=
  List.all_eq_true.mp (List.all_takeWhile (l := s))

theorem not_blank_of_head?_dropWhile {s : List Char} {c : Char}
    (h : (s.dropWhile isBlank).head? = some c) : isBlank c = false := by
  have hhead := List.head?_dropWhile_not isBlank s
  rwa [h] at hhead

/-- The blank characters in front of a text that does not begin with one are dropped. -/
theorem dropWhile_append {before t : List Char} (h : Blank before)
    (hfirst : ∀ c, t.head? = some c → isBlank c = false) :
    (before ++ t).dropWhile isBlank = t := by
  rw [List.dropWhile_append_of_pos h]
  cases t with
  | nil => rfl
  | cons c t => rw [List.dropWhile_cons_of_neg (by simp [hfirst c rfl])]

theorem trimmed_trim (s : List Char) : Trimmed s (trim s) := by
  have hback : trim s ++ ((s.dropWhile isBlank).reverse.takeWhile isBlank).reverse =
      s.dropWhile isBlank := by
    rw [trim, ← List.reverse_append, List.takeWhile_append_dropWhile, List.reverse_reverse]
  refine ⟨⟨s.takeWhile isBlank, ((s.dropWhile isBlank).reverse.takeWhile isBlank).reverse, ?_,
    blank_takeWhile s, blank_reverse_iff.mpr (blank_takeWhile _)⟩, fun c hc => ?_, fun c hc => ?_⟩
  · rw [List.append_assoc, hback, List.takeWhile_append_dropWhile]
  · refine not_blank_of_head?_dropWhile (s := s) ?_
    rw [← hback, List.head?_append, hc, Option.some_or]
  · rw [trim, List.getLast?_reverse] at hc
    exact not_blank_of_head?_dropWhile hc

theorem trim_eq_iff {s t : List Char} : trim s = t ↔ Trimmed s t := by
  constructor
  · rintro rfl
    exact trimmed_trim s
  · rintro ⟨⟨before, after, rfl, hbefore, hafter⟩, hfirst, hlast⟩
    by_cases hnil : t = []
    · subst hnil
      have hblank : Blank (before ++ after) := blank_append_iff.mpr ⟨hbefore, hafter⟩
      have hdrop := dropWhile_append hblank hfirst
      rw [List.append_nil] at hdrop
      rw [trim, List.append_nil, hdrop]
      rfl
    · have hhead : (t ++ after).head? = t.head? := by
        rw [List.head?_append, Option.or_of_isSome (by simpa using hnil)]
      have hlast' : ∀ c, t.reverse.head? = some c → isBlank c = false := by
        simpa only [List.head?_reverse] using hlast
      rw [trim, List.append_assoc, dropWhile_append hbefore (by rwa [hhead]), List.reverse_append,
        dropWhile_append (blank_reverse_iff.mpr hafter) hlast', List.reverse_reverse]

end SchemaPolicy.Text
