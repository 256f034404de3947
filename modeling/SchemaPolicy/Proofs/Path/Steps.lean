import Mathlib.Data.List.Infix
import SchemaPolicy.Proofs.Path

/-! The steps of a path: where it starts, and the pieces that are not idle. Joining a path adds its
steps at the end, taking the parent of a path that ends in a name takes the last one off, and idle
pieces make no difference to either. So paths with the same steps cannot be told apart by the steps
of what is joined to them. -/

namespace SchemaPolicy.Path

/-- The pieces of a path that are not idle. -/
def names (path : Path) : List (List Char) := (pieces path.text.toList).filter (!isIdle ·)

/-- What stands before the steps by name. -/
def origin? (path : Path) : Option Component := (splitLead path.text.toList).1

variable {path dir base name other : Path} {s last : List Char} {front kept : List (List Char)}

/-! ### Pieces put together -/

theorem notMem_of_mem_pieces (s : List Char) : ∀ piece ∈ pieces s, '/' ∉ piece := by
  fun_induction pieces s with
  | case1 => simp
  | case2 rest ih => exact List.forall_mem_cons.mpr ⟨List.not_mem_nil, ih⟩
  | case3 c rest _ hpieces => exact absurd hpieces (pieces_ne_nil rest)
  | case4 c rest hslash piece others hpieces ih =>
    rw [hpieces] at ih
    obtain ⟨hpiece, hothers⟩ := List.forall_mem_cons.mp ih
    refine List.forall_mem_cons.mpr ⟨?_, hothers⟩
    rw [List.mem_cons, not_or]
    exact ⟨fun hc => hslash hc.symm, hpiece⟩

theorem ofPieces_append (hfront : front ≠ []) (hkept : kept ≠ []) :
    ofPieces (front ++ kept) = ofPieces front ++ '/' :: ofPieces kept := by
  obtain ⟨next, rest, rfl⟩ := List.exists_cons_of_ne_nil hkept
  induction front with
  | nil => exact absurd rfl hfront
  | cons piece front ih =>
    cases front with
    | nil => rfl
    | cons second others =>
      have hothers := ih (List.cons_ne_nil _ _)
      simp only [List.cons_append, ofPieces, List.append_assoc] at hothers ⊢
      rw [hothers]

theorem ofPieces_pieces (s : List Char) : ofPieces (pieces s) = s := by
  fun_induction pieces s with
  | case1 => rfl
  | case2 rest ih =>
    rw [← List.singleton_append, ofPieces_append (List.cons_ne_nil _ _) (pieces_ne_nil rest), ih]
    rfl
  | case3 c rest _ hpieces => exact absurd hpieces (pieces_ne_nil rest)
  | case4 c rest _ piece others hpieces ih =>
    rw [hpieces] at ih
    rw [← ih]
    cases others <;> rfl

theorem pieces_ofPieces (hkept : kept ≠ []) (h : ∀ piece ∈ kept, '/' ∉ piece) :
    pieces (ofPieces kept) = kept := by
  induction kept with
  | nil => exact absurd rfl hkept
  | cons piece others ih =>
    obtain ⟨hpiece, hothers⟩ := List.forall_mem_cons.mp h
    by_cases hnil : others = []
    · subst hnil
      exact pieces_of_notMem hpiece
    · have hcons := ofPieces_append (List.cons_ne_nil piece []) hnil
      rw [← List.singleton_append, hcons, pieces_append_slash, ih hnil hothers]
      exact congrArg (· ++ others) (pieces_of_notMem hpiece)

theorem infix_ofPieces {piece : List Char} (h : piece ∈ kept) : piece <:+: ofPieces kept := by
  obtain ⟨before, behind, rfl⟩ := List.append_of_mem h
  have hbehind : piece <+: ofPieces (piece :: behind) := by
    cases behind with
    | nil => exact List.prefix_rfl
    | cons next others => exact List.prefix_append piece _
  by_cases hbefore : before = []
  · subst hbefore
    exact hbehind.isInfix
  · rw [ofPieces_append hbefore (List.cons_ne_nil _ _)]
    exact hbehind.isInfix.trans ⟨ofPieces before ++ ['/'], [], by simp⟩

/-- Pieces put in front of others are the start of the text, and the others are in the rest. -/
theorem exists_ofPieces_append (kept more : List (List Char)) :
    ∃ suffix, ofPieces (kept ++ more) = ofPieces kept ++ suffix ∧
      ∀ piece ∈ more, piece <:+: suffix := by
  by_cases hkept : kept = []
  · subst hkept
    exact ⟨ofPieces more, rfl, fun _ => infix_ofPieces⟩
  · by_cases hmore : more = []
    · subst hmore
      exact ⟨[], by simp, nofun⟩
    · exact ⟨'/' :: ofPieces more, ofPieces_append hkept hmore,
        fun _ hpiece => List.infix_cons (infix_ofPieces hpiece)⟩

/-! ### Where a path starts -/

theorem leadText_append (s : List Char) : leadText (splitLead s).1 ++ (splitLead s).2 = s := by
  fun_cases splitLead s <;> rfl

theorem filter_pieces_splitLead (s : List Char) :
    (pieces (splitLead s).2).filter (!isIdle ·) = (pieces s).filter (!isIdle ·) := by
  fun_cases splitLead s <;> rfl

theorem components_eq (path : Path) :
    path.components = path.origin?.toList ++ path.names.map step := by
  rw [names, ← filter_pieces_splitLead]
  rfl

theorem isAbsolute_iff : path.isAbsolute = true ↔ path.origin? = some .root := by
  rw [isAbsolute, beq_iff_eq, origin?]
  generalize path.text.toList = s
  fun_cases splitLead s with
  | case1 rest => simp
  | case2 => simp
  | case3 rest => simp
  | case4 body hroot _ _ =>
    constructor
    · intro hhead
      obtain ⟨rest, rfl⟩ := List.head?_eq_some_iff.mp hhead
      exact absurd rfl (hroot rest)
    · intro horigin
      contradiction

/-! ### Joining -/

/-- The slash that goes behind a path adds no step. -/
theorem filter_pieces_lead (dir : Path) :
    (pieces dir.lead).dropLast.filter (!isIdle ·) = dir.names := by
  unfold lead names
  split
  · next hlast =>
    rw [List.getLast?_eq_none_iff.mp hlast]
    rfl
  · next hlast =>
    obtain ⟨text, htext⟩ := List.getLast?_eq_some_iff.mp hlast
    rw [htext, pieces_append_slash]
    simp [pieces, isIdle]
  · rw [pieces_append_slash]
    simp [pieces]

theorem names_join (h : other.isAbsolute = false) :
    (dir.join other).names = dir.names ++ other.names := by
  rw [names, pieces_join h, List.filter_append, filter_pieces_lead, names, names]

theorem IsName.names_eq (h : name.IsName) : name.names = [name.text.toList] := by
  have hname : (!isIdle name.text.toList) = true := by simpa using h.idle
  rw [names, pieces_of_notMem h.slash, List.filter_singleton, hname, cond_true]

theorem IsName.names_join (h : name.IsName) :
    (dir.join name).names = dir.names ++ [name.text.toList] := by
  rw [Path.names_join h.isAbsolute, h.names_eq]

/-- More behind a text that has no lead does not make one. -/
theorem splitLead_append (hs : s ≠ []) (hroot : ∀ rest, s ≠ '/' :: rest) (hdot : s ≠ ['.'])
    (hhere : ∀ rest, s ≠ '.' :: '/' :: rest) (behind : List Char) :
    splitLead (s ++ behind) = (none, s ++ behind) := by
  obtain ⟨c, others, rfl⟩ := List.exists_cons_of_ne_nil hs
  refine splitLead.eq_4 _ (fun rest h => ?_) (fun h => ?_) (fun rest h => ?_)
  · obtain ⟨rfl, -⟩ := List.cons.inj h
    exact hroot others rfl
  · obtain ⟨rfl, hothers⟩ := List.cons.inj h
    rw [(List.append_eq_nil_iff.mp hothers).1] at hdot
    exact hdot rfl
  · obtain ⟨rfl, hothers⟩ := List.cons.inj h
    cases others with
    | nil => exact hdot rfl
    | cons d others =>
      obtain ⟨rfl, -⟩ := List.cons.inj hothers
      exact hhere others rfl

theorem origin?_join (h : other.isAbsolute = false) (hdir : dir.text.toList ≠ []) :
    (dir.join other).origin? = dir.origin? := by
  rw [origin?, origin?, toList_join h, lead]
  generalize dir.text.toList = s at hdir ⊢
  fun_cases splitLead s with
  | case1 rest => split <;> rfl
  | case2 => rfl
  | case3 rest => split <;> rfl
  | case4 body hroot hdot hhere =>
    have hlead := splitLead_append hdir (fun rest => hroot rest) hdot fun rest => hhere rest
    split
    · rw [hlead]
    · rw [hlead]
    · rw [List.append_assoc, hlead]

theorem IsName.origin?_join (h : name.IsName) : (dir.join name).origin? = dir.origin? := by
  by_cases hdir : dir.text.toList = []
  · have hidle : ¬(name.text.toList = [] ∨ name.text.toList = ['.']) := by
      simpa [isIdle] using h.idle
    rw [join_of_empty hdir, origin?, origin?, hdir, ← List.append_nil name.text.toList,
      splitLead_append
        (fun hnil => hidle (.inl hnil)) (fun rest hroot => h.slash (hroot ▸ List.mem_cons_self))
        (fun hdot => hidle (.inr hdot))
        (fun rest hhere => h.slash (hhere ▸ List.mem_cons_of_mem _ List.mem_cons_self))]
    rfl
  · exact Path.origin?_join h.isAbsolute hdir

/-- The steps of what is joined to a path come behind its own. A dot in front of them is no step
any more. -/
theorem components_join (h : other.isAbsolute = false) (hdir : dir.text.toList ≠ []) :
    (dir.join other).components = dir.components ++ other.names.map step := by
  rw [components_eq, components_eq, origin?_join h hdir, names_join h, List.map_append,
    List.append_assoc]

/-- A first piece that is idle is a lead, or all the text there is. -/
theorem splitLead_of_idle {first : List Char} {others : List (List Char)}
    (hpieces : pieces s = first :: others) (hidle : isIdle first = true) :
    s = [] ∨ (splitLead s).1 ≠ none := by
  have hs := ofPieces_pieces s
  rw [hpieces] at hs
  rw [isIdle, Bool.or_eq_true, beq_iff_eq, beq_iff_eq] at hidle
  rcases hidle with rfl | rfl
  · cases others with
    | nil => exact .inl hs.symm
    | cons second others =>
      right
      rw [← hs]
      exact Option.some_ne_none Component.root
  · right
    rw [← hs]
    cases others with
    | nil => exact Option.some_ne_none Component.here
    | cons second others => exact Option.some_ne_none Component.here

/-- Only the empty path has no steps. -/
theorem components_eq_nil_iff : path.components = [] ↔ path.text.toList = [] := by
  constructor
  · intro h
    rw [components_eq, List.append_eq_nil_iff, List.map_eq_nil_iff, Option.toList_eq_nil_iff] at h
    obtain ⟨horigin, hnames⟩ := h
    obtain ⟨first, others, hpieces⟩ := List.exists_cons_of_ne_nil (pieces_ne_nil path.text.toList)
    rw [names, hpieces, List.filter_eq_nil_iff] at hnames
    have hidle : isIdle first = true := by simpa using hnames first List.mem_cons_self
    exact (splitLead_of_idle hpieces hidle).resolve_right (not_not_intro horigin)
  · intro h
    rw [components, h]
    rfl

/-- What is joined to paths with the same steps has the same steps. -/
theorem components_join_congr (h : base.components = dir.components) (other : Path) :
    (base.join other).components = (dir.join other).components := by
  cases habsolute : other.isAbsolute with
  | true => rw [join_of_isAbsolute habsolute, join_of_isAbsolute habsolute]
  | false =>
    by_cases hdir : dir.text.toList = []
    · have hbase : base.text.toList = [] := by
        rwa [← components_eq_nil_iff, h, components_eq_nil_iff]
      rw [join_of_empty hbase, join_of_empty hdir]
    · have hbase : base.text.toList ≠ [] := by
        rwa [ne_eq, ← components_eq_nil_iff, h, components_eq_nil_iff]
      rw [components_join habsolute hbase, components_join habsolute hdir, h]

/-! ### Taking the parent -/

/-- The lead is kept when idle pieces at the end are taken off. -/
theorem splitLead_leadText (hkept : kept <+: pieces (splitLead s).2)
    (hlast : ∀ piece, kept.getLast? = some piece → isIdle piece = false) :
    splitLead (leadText (splitLead s).1 ++ ofPieces kept) = ((splitLead s).1, ofPieces kept) := by
  fun_cases splitLead s with
  | case1 rest => rfl
  | case2 =>
    match kept, hkept with
    | [], _ => rfl
    | first :: others, hkept =>
      obtain ⟨rfl, hothers⟩ := List.cons_prefix_cons.mp hkept
      rw [List.prefix_nil.mp hothers] at hlast
      exact absurd (hlast [] rfl) (by decide)
  | case3 rest =>
    match kept, hkept with
    | [], _ => rfl
    | [first], hkept =>
      obtain ⟨rfl, -⟩ := List.cons_prefix_cons.mp hkept
      exact absurd (hlast [] rfl) (by decide)
    | first :: second :: others, hkept =>
      obtain ⟨rfl, -⟩ := List.cons_prefix_cons.mp hkept
      rfl
  | case4 body hroot hdot hhere =>
    by_cases hnil : kept = []
    · subst hnil
      rfl
    · rw [splitLead.eq_4 s hroot hdot hhere] at hkept
      obtain ⟨more, hmore⟩ := hkept
      obtain ⟨behind, hbehind, -⟩ := exists_ofPieces_append kept more
      rw [hmore, ofPieces_pieces] at hbehind
      refine splitLead.eq_4 _ (fun rest h => ?_) (fun h => ?_) (fun rest h => ?_)
      · exact hroot (rest ++ behind) (hbehind.trans (congrArg (· ++ behind) h))
      · -- The only piece would be a dot, which is idle.
        have hpieces := pieces_ofPieces hnil fun piece hpiece =>
          notMem_of_mem_pieces s piece (hmore ▸ List.mem_append_left more hpiece)
        rw [show ofPieces kept = ['.'] from h] at hpieces
        exact absurd (hlast ['.'] (hpieces ▸ rfl)) (by decide)
      · exact hhere (rest ++ behind) (hbehind.trans (congrArg (· ++ behind) h))

/-- The last member that is not passed over. -/
theorem exists_of_filter_eq_append {α : Type} {p : α → Bool} {xs front : List α} {last : α}
    (h : xs.filter (!p ·) = front ++ [last]) :
    ∃ others idle, xs = others ++ last :: idle ∧ p last = false ∧ (∀ x ∈ idle, p x = true) ∧
      others.filter (!p ·) = front := by
  obtain ⟨before, behind, rfl, hbefore, hbehind⟩ := List.filter_eq_append_iff.mp h
  obtain ⟨passed, idle, rfl, hpassed, hlast, hidle⟩ := List.filter_eq_cons_iff.mp hbehind
  refine ⟨before ++ passed, idle, by simp, by simpa using hlast, fun x hx => ?_, ?_⟩
  · simpa using List.filter_eq_nil_iff.mp hidle x hx
  · rw [List.filter_append, hbefore, List.filter_eq_nil_iff.mpr hpassed, List.append_nil]

/-- Without its last members that are passed over, a list lacks nothing else. -/
theorem exists_trimmed_append {α : Type} (p : α → Bool) (xs : List α) :
    ∃ idle, xs = (xs.reverse.dropWhile p).reverse ++ idle ∧ ∀ x ∈ idle, p x = true := by
  refine ⟨(xs.reverse.takeWhile p).reverse, ?_, fun x hx => ?_⟩
  · rw [← List.reverse_append, List.takeWhile_append_dropWhile, List.reverse_reverse]
  · exact List.all_eq_true.mp List.all_takeWhile x (List.mem_reverse.mp hx)

/-- Where a path has a name at the end, its parent lacks this one step. The text of the parent is
the start of the path's, and the name is in the rest. -/
theorem exists_parent? (h : path.names = front ++ [last]) :
    ∃ base suffix, path.parent? = some base ∧ base.origin? = path.origin? ∧ base.names = front ∧
      path.text.toList = base.text.toList ++ suffix ∧ last <:+: suffix := by
  rw [names, ← filter_pieces_splitLead] at h
  obtain ⟨others, idle, hpieces, hlast, hidle, rfl⟩ := exists_of_filter_eq_append h
  -- The parent is made of the other pieces, without those that are idle at their end.
  let kept := (others.reverse.dropWhile isIdle).reverse
  obtain ⟨rest, hothers, hrest⟩ := exists_trimmed_append isIdle others
  have hothers : others = kept ++ rest := hothers
  have hparent : path.parent? = some ⟨String.ofList
      (leadText (splitLead path.text.toList).1 ++ ofPieces kept)⟩ := by
    have hdrop : (pieces (splitLead path.text.toList).2).reverse.dropWhile isIdle =
        last :: others.reverse := by
      rw [hpieces, List.reverse_append, List.reverse_cons, List.append_assoc,
        List.dropWhile_append_of_pos (by simpa using hidle)]
      exact List.dropWhile_cons_of_neg (by simp [hlast])
    rw [parent?]
    simp only [hdrop, kept]
  have hstart : kept <+: pieces (splitLead path.text.toList).2 := by
    rw [hpieces, hothers, List.append_assoc]
    exact List.prefix_append _ _
  have hend : ∀ piece, kept.getLast? = some piece → isIdle piece = false := by
    intro piece hpiece
    rw [List.getLast?_reverse] at hpiece
    have hhead := List.head?_dropWhile_not isIdle others.reverse
    rw [hpiece] at hhead
    exact hhead
  have hlead := splitLead_leadText hstart hend
  obtain ⟨suffix, hsuffix, hinside⟩ := exists_ofPieces_append kept (rest ++ last :: idle)
  refine ⟨_, suffix, hparent, ?_, ?_, ?_, hinside last (by simp)⟩
  · rw [origin?, String.toList_ofList, hlead]
    rfl
  · have hnone : rest.filter (!isIdle ·) = [] := List.filter_eq_nil_iff.mpr (by simpa using hrest)
    have hfront : others.filter (!isIdle ·) = kept.filter (!isIdle ·) := by
      rw [hothers, List.filter_append, hnone, List.append_nil]
    rw [names, String.toList_ofList, ← filter_pieces_splitLead, hlead, hfront]
    by_cases hnil : kept = []
    · rw [hnil]
      rfl
    · rw [pieces_ofPieces hnil fun piece hpiece =>
        notMem_of_mem_pieces _ piece (hstart.subset hpiece)]
  · rw [String.toList_ofList, List.append_assoc, ← hsuffix, ← List.append_assoc, ← hothers,
      ← hpieces, ofPieces_pieces, leadText_append]

end SchemaPolicy.Path
