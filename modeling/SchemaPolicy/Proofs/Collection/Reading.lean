import SchemaPolicy.Proofs.Collection.Block
import SchemaPolicy.Proofs.Text.Literal
import SchemaPolicy.Proofs.Text.Nesting
import SchemaPolicy.Proofs.Text.Opening

/-! What a reader finds in the block of a collection. The kinds of its lines are told by their
first characters; the path of its `match` line splits into its segments, an `allow` line is its
template with the permission as a literal, and its braces are balanced. -/

namespace SchemaPolicy

open Text

/-! ### Kinds of lines -/

theorem lead?_helperText {line : String} (h : line ∈ helperText) :
    ∃ c ∈ ['f', 'r', '&', '\x7d'], lead? ("      " ++ line).toList = some c := by
  simp only [helperText, List.mem_cons, List.not_mem_nil, or_false] at h
  rcases h with rfl | rfl | rfl | rfl | rfl
  · exact ⟨'f', by simp, by decide⟩
  · exact ⟨'r', by simp, by decide⟩
  · exact ⟨'&', by simp, by decide⟩
  · exact ⟨'&', by simp, by decide⟩
  · exact ⟨'\x7d', by simp, by decide⟩

/-- No line of the helper begins with a text that begins with another character. -/
theorem AccessPattern.filter_helperText (pattern : AccessPattern) {opening : String} {c : Char}
    (hopening : opening.toList.head? = some c) (hc : c ∉ ['f', 'r', '&', '\x7d']) :
    ((pattern.helperText.map ("      " ++ ·)).filter fun line => opensWith opening line.toList) =
      [] := by
  rw [List.filter_eq_nil_iff]
  intro line hline
  obtain ⟨text, htext, rfl⟩ := List.mem_map.mp hline
  have htext : text ∈ SchemaPolicy.helperText := by
    cases pattern with
    | docPerUser => exact absurd htext List.not_mem_nil
    | indexedByTenant | docPerTenant => exact htext
  obtain ⟨d, hd, hlead⟩ := lead?_helperText htext
  rw [opensWith_eq_false hopening hlead (by rintro rfl; exact hc hd)]
  decide

theorem Guard.unindented_line (op : Operation) (g : Guard) :
    unindented (g.line op).toList =
      "allow ".toList ++ (op.keyword ++ ": if " ++ g.text ++ ";").toList := by
  unfold line
  simp
  rfl

theorem Guard.opensWith_line (op : Operation) (g : Guard) :
    opensWith "allow " (g.line op).toList = true :=
  opensWith_of_eq_append (g.unindented_line op)

theorem Guard.lead?_line (op : Operation) (g : Guard) : lead? (g.line op).toList = some 'a' := by
  rw [lead?, unindented_line]
  simp

/-! ### Literals -/

theorem ne_quote_of_quotable {text : String} (h : Quotable text) :
    ∀ c ∈ text.toList, c ≠ '\'' ∧ c ≠ '\\' := by
  intro c hc
  obtain ⟨hquote, hslash, -⟩ := quotable_iff.mp h c hc
  exact ⟨hquote, hslash⟩

theorem ne_quote_of_neutral {text : String} (h : Neutral text) : ∀ c ∈ text.toList, c ≠ '\'' :=
  fun c hc => (ne_quote_of_quotable h.1 c hc).1

/-- The line of a guard that asks for a permission, cut at the quotes around it. -/
theorem Guard.line_holds (op : Operation) (lead permission tenant : String) :
    ((holds lead permission tenant).line op).toList =
      ("      allow ".toList ++ op.keyword.toList ++ ": if ".toList ++ lead.toList ++
          "hasPermission(".toList) ++
        '\'' :: (permission.toList ++ '\'' :: (", ".toList ++ tenant.toList ++ ");".toList)) := by
  have hcall : "hasPermission('" = "hasPermission(" ++ "'" := rfl
  unfold line text hasPermission
  rw [hcall]
  simp only [String.toList_append, List.append_assoc]
  simp

/-- The line of a guard is read as the line without the permission, and the permission. -/
theorem Guard.read?_line (op : Operation) {g : Guard} (h : g.WellFormed) :
    read? (g.line op).toList =
      some ⟨(g.erase.line op).toList, g.permissions.map String.toList⟩ := by
  have hkeyword := ne_quote_of_neutral (Operation.neutral_keyword op)
  have hallow : ∀ c ∈ "      allow ".toList, c ≠ '\'' := by simp
  have hif : ∀ c ∈ ": if ".toList, c ≠ '\'' := by simp
  cases g with
  | plain text =>
    have htext := ne_quote_of_neutral h
    have hend : ∀ c ∈ ";".toList, c ≠ '\'' := by simp
    refine read?_of_forall ?_
    unfold line
    simp only [String.toList_append, List.forall_mem_append]
    exact ⟨⟨⟨⟨hallow, hkeyword⟩, hif⟩, htext⟩, hend⟩
  | holds lead permission tenant =>
    obtain ⟨hlead, hpermission, htenant⟩ := h
    have hcall : ∀ c ∈ "hasPermission(".toList, c ≠ '\'' := by simp
    have hcomma : ∀ c ∈ ", ".toList, c ≠ '\'' := by simp
    have hend : ∀ c ∈ ");".toList, c ≠ '\'' := by simp
    have hleads := ne_quote_of_neutral hlead
    have htenants := ne_quote_of_neutral htenant
    rw [line_holds, read?_literal _ (ne_quote_of_quotable hpermission) _, erase, line_holds,
      String.toList_empty, List.nil_append]
    · rfl
    · simp only [List.forall_mem_append]
      exact ⟨⟨⟨⟨hallow, hkeyword⟩, hif⟩, hleads⟩, hcall⟩
    · simp only [List.forall_mem_append]
      exact ⟨⟨hcomma, htenants⟩, hend⟩

theorem Protection.mem_allowLines {protection : Protection} {line : String} :
    line ∈ protection.allowLines ↔
      ∃ op g, protection.guard? op = some g ∧ line = g.line op := by
  simp only [allowLines, List.mem_filterMap, Option.map_eq_some_iff]
  constructor
  · rintro ⟨op, -, g, hg, rfl⟩
    exact ⟨op, g, hg, rfl⟩
  · rintro ⟨op, g, hg, rfl⟩
    exact ⟨op, op.mem_all, g, hg, rfl⟩

/-- No line that grants an operation begins with a text that begins with another character. -/
theorem Protection.filter_allowLines_eq_nil (protection : Protection) {opening : String} {c : Char}
    (hopening : opening.toList.head? = some c) (hc : 'a' ≠ c) :
    (protection.allowLines.filter fun line => opensWith opening line.toList) = [] := by
  rw [List.filter_eq_nil_iff]
  intro line hline
  obtain ⟨op, g, -, rfl⟩ := mem_allowLines.mp hline
  rw [opensWith_eq_false hopening (g.lead?_line op) hc]
  decide

namespace Collection

variable (collection : Collection)

theorem unindented_commentLine :
    unindented collection.commentLine.toList =
      "//".toList ++
        ' ' :: (collection.name ++ ": " ++ collection.protection.pattern.remark).toList := by
  unfold commentLine
  simp
  rfl

theorem lead?_commentLine : lead? collection.commentLine.toList = some '/' := by
  rw [lead?, unindented_commentLine]
  simp

theorem unindented_matchLine :
    unindented collection.matchLine.toList =
      "match ".toList ++ (collection.path.toList ++ [' ', '\x7b']) := by
  unfold matchLine
  simp
  rfl

theorem lead?_matchLine : lead? collection.matchLine.toList = some 'm' := by
  rw [lead?, unindented_matchLine]
  simp

theorem lead?_closing : lead? "    \x7d".toList = some '\x7d' := by decide

/-- The lines of a block that begin with `allow` are those of its guards. -/
theorem filter_allow :
    (collection.blockLines.filter fun line => opensWith "allow " line.toList) =
      collection.protection.allowLines := by
  have hopening : "allow ".toList.head? = some 'a' := by simp
  have hguards : (collection.protection.allowLines.filter
      fun line => opensWith "allow " line.toList) = collection.protection.allowLines := by
    rw [List.filter_eq_self]
    intro line hline
    obtain ⟨op, g, -, rfl⟩ := Protection.mem_allowLines.mp hline
    exact g.opensWith_line op
  have hcomment := opensWith_eq_false hopening collection.lead?_commentLine (by decide)
  have hmatch := opensWith_eq_false hopening collection.lead?_matchLine (by decide)
  have hclosing := opensWith_eq_false hopening lead?_closing (by decide)
  unfold blockLines
  simp only [List.filter_append, hguards, AccessPattern.filter_helperText _ hopening (by decide),
    List.filter_cons, hcomment, hmatch, hclosing]
  simp

/-- The only line of a block that begins with `match` is the one that opens it. -/
theorem filter_match :
    (collection.blockLines.filter fun line => opensWith "match " line.toList) =
      [collection.matchLine] := by
  have hopening : "match ".toList.head? = some 'm' := by simp
  have hcomment := opensWith_eq_false hopening collection.lead?_commentLine (by decide)
  have hmatch := opensWith_of_eq_append collection.unindented_matchLine
  have hclosing := opensWith_eq_false hopening lead?_closing (by decide)
  have hguards := collection.protection.filter_allowLines_eq_nil hopening (by decide)
  unfold blockLines
  simp only [List.filter_append, hguards, AccessPattern.filter_helperText _ hopening (by decide),
    List.filter_cons, hcomment, hmatch, hclosing]
  simp

end Collection

/-! ### Paths -/

/-- The path in a line that opens a block: what follows the word up to the next blank. -/
def matchPath (line : List Char) : List Char :=
  ((unindented line).drop "match ".toList.length).takeWhile fun c => !isBlank c

theorem AccessPattern.placeholder_segment (pattern : AccessPattern) :
    PathSegment pattern.placeholder := by
  cases pattern <;> decide

namespace Collection

variable {collection : Collection}

theorem path_toList (collection : Collection) :
    collection.path.toList =
      '/' :: (collection.name.toList ++
        '/' :: '\x7b' :: (collection.protection.pattern.placeholder.toList ++ ['\x7d'])) := by
  unfold path
  simp

theorem matchPath_matchLine (h : PathSegment collection.name) :
    matchPath collection.matchLine.toList = collection.path.toList := by
  have hsegment : ∀ {name : String}, PathSegment name →
      ∀ c ∈ name.toList, (!isBlank c) = true := by
    intro name hname c hc
    rw [(hname.excludes c hc).2.2.2]
    rfl
  have hsolid : ∀ c ∈ collection.path.toList, (!isBlank c) = true := by
    have hplaceholder := hsegment collection.protection.pattern.placeholder_segment
    rw [path_toList]
    simp only [List.forall_mem_cons, List.forall_mem_append]
    exact ⟨by decide, hsegment h, by decide, by decide, hplaceholder, by decide, by simp⟩
  rw [matchPath, unindented_matchLine, List.drop_left,
    List.takeWhile_append_of_pos hsolid, List.takeWhile_cons_of_neg (by decide), List.append_nil]

/-- The path splits at its slashes into the name and the placeholder in braces. -/
theorem splitOn_path (h : PathSegment collection.name) :
    collection.path.toList.splitOn '/' =
      [[], collection.name.toList,
        '\x7b' :: (collection.protection.pattern.placeholder.toList ++ ['\x7d'])] := by
  have hslash : ∀ {name : String}, PathSegment name → '/' ∉ name.toList :=
    fun hname hmem => (hname.excludes '/' hmem).1 rfl
  have hlast : '/' ∉ '\x7b' :: (collection.protection.pattern.placeholder.toList ++ ['\x7d']) := by
    simp [hslash collection.protection.pattern.placeholder_segment]
  calc collection.path.toList.splitOn '/'
      = [] :: (collection.name.toList ++ '/' :: '\x7b' ::
          (collection.protection.pattern.placeholder.toList ++ ['\x7d'])).splitOn '/' := by
        rw [path_toList]
        exact List.splitOn_append_cons_self_of_not_mem List.not_mem_nil _
    _ = [[], collection.name.toList,
          '\x7b' :: (collection.protection.pattern.placeholder.toList ++ ['\x7d'])] := by
        rw [List.splitOn_append_cons_self_of_not_mem (hslash h), List.splitOn_eq_singleton hlast]

end Collection

/-! ### Braces -/

/-- What counts of a line when braces are matched: nothing of a comment line, and of an `allow`
line what stands outside its literals. -/
def code (line : List Char) : List Char :=
  if opensWith "//" line then []
  else if opensWith "allow " line then (read? line).elim line Reading.outside
  else line

theorem code_of_lead? {line : List Char} {c : Char} (h : lead? line = some c) (hslash : c ≠ '/')
    (hallow : c ≠ 'a') : code line = line := by
  have hcomment : opensWith "//" line = false := opensWith_eq_false (c := '/') (by simp) h hslash
  have hopens : opensWith "allow " line = false := opensWith_eq_false (c := 'a') (by simp) h hallow
  simp [code, hcomment, hopens]

namespace Guard

theorem code_line (op : Operation) {g : Guard} (h : g.WellFormed) :
    code (g.line op).toList = (g.erase.line op).toList := by
  have hcomment : opensWith "//" (g.line op).toList = false :=
    opensWith_eq_false (c := '/') (by simp) (g.lead?_line op) (by decide)
  simp [code, hcomment, g.opensWith_line op, read?_line op h]

theorem depthAfter?_code (op : Operation) {g : Guard} (h : g.WellFormed) (depth : Nat) :
    depthAfter? depth (code (g.line op).toList) = some depth := by
  have hkeyword := (Operation.neutral_keyword op).2
  have hallow : ∀ c ∈ "      allow ".toList, c ≠ '\x7b' ∧ c ≠ '\x7d' := by simp
  have hif : ∀ c ∈ ": if ".toList, c ≠ '\x7b' ∧ c ≠ '\x7d' := by simp
  rw [code_line op h]
  refine depthAfter?_of_forall ?_ depth
  cases g with
  | plain text =>
    have hend : ∀ c ∈ ";".toList, c ≠ '\x7b' ∧ c ≠ '\x7d' := by simp
    unfold erase line
    simp only [String.toList_append, List.forall_mem_append]
    exact ⟨⟨⟨⟨hallow, hkeyword⟩, hif⟩, h.2⟩, hend⟩
  | holds lead permission tenant =>
    obtain ⟨hlead, -, htenant⟩ := h
    have hcall : ∀ c ∈ "hasPermission(".toList, c ≠ '\x7b' ∧ c ≠ '\x7d' := by simp
    have hcomma : ∀ c ∈ ", ".toList, c ≠ '\x7b' ∧ c ≠ '\x7d' := by simp
    have hend : ∀ c ∈ ");".toList, c ≠ '\x7b' ∧ c ≠ '\x7d' := by simp
    rw [erase, line_holds, String.toList_empty, List.nil_append]
    simp only [List.forall_mem_cons, List.forall_mem_append]
    exact ⟨⟨⟨⟨⟨hallow, hkeyword⟩, hif⟩, hlead.2⟩, hcall⟩, by decide, by decide, ⟨hcomma, htenant.2⟩,
      hend⟩

end Guard

theorem Protection.depthAfter?_allowLines {protection : Protection}
    (h : ∀ permission ∈ protection.permissions, Quotable permission) (depth : Nat) :
    depthAfter? depth ((protection.allowLines.map String.toList).flatMap code) = some depth := by
  refine depthAfter?_flatMap fun line hline => ?_
  obtain ⟨text, htext, rfl⟩ := List.mem_map.mp hline
  obtain ⟨op, g, hg, rfl⟩ := mem_allowLines.mp htext
  exact g.depthAfter?_code op (guard?_wellFormed h hg) depth

theorem AccessPattern.depthAfter?_helperText (pattern : AccessPattern) (depth : Nat) :
    depthAfter? (depth + 1)
      (((pattern.helperText.map ("      " ++ ·)).map String.toList).flatMap code) =
      some (depth + 1) := by
  cases pattern with
  | docPerUser => rfl
  | indexedByTenant | docPerTenant => rfl

namespace Collection

variable {collection : Collection}

theorem code_commentLine : code collection.commentLine.toList = [] := by
  have hcomment : opensWith "//" collection.commentLine.toList = true :=
    opensWith_of_eq_append collection.unindented_commentLine
  rw [code, if_pos hcomment]

theorem depthAfter?_matchLine (h : PathSegment collection.name) (depth : Nat) :
    depthAfter? depth (code collection.matchLine.toList) = some (depth + 1) := by
  have hbraces : ∀ {name : String}, PathSegment name →
      ∀ c ∈ name.toList, c ≠ '\x7b' ∧ c ≠ '\x7d' :=
    fun hname c hc => ⟨(hname.excludes c hc).2.1, (hname.excludes c hc).2.2.1⟩
  have hmatch : ∀ c ∈ "    match ".toList, c ≠ '\x7b' ∧ c ≠ '\x7d' := by simp
  have hplaceholder := hbraces collection.protection.pattern.placeholder_segment
  have hline : collection.matchLine.toList = "    match ".toList ++ '/' ::
      (collection.name.toList ++ '/' :: '\x7b' ::
        (collection.protection.pattern.placeholder.toList ++ ['\x7d', ' ', '\x7b'])) := by
    unfold matchLine
    simp only [String.toList_append, path_toList]
    simp
  rw [code_of_lead? collection.lead?_matchLine (by decide) (by decide), hline,
    depthAfter?_append, depthAfter?_of_forall hmatch, Option.bind_some]
  -- the two slashes leave the depth as it is
  change depthAfter? depth (collection.name.toList ++ _) = _
  rw [depthAfter?_append, depthAfter?_of_forall (hbraces h), Option.bind_some]
  change depthAfter? (depth + 1) (collection.protection.pattern.placeholder.toList ++ _) = _
  rw [depthAfter?_append, depthAfter?_of_forall hplaceholder]
  rfl

theorem depthAfter?_block (h : collection.WellFormed) :
    depthAfter? 0 ((lines collection.block).flatMap code) = some 0 := by
  have hclosing : code "    \x7d".toList = "    \x7d".toList :=
    code_of_lead? lead?_closing (by decide) (by decide)
  rw [lines_block h]
  unfold blockLines
  simp only [List.map_append, List.map_cons, List.map_nil, List.flatMap_append, List.flatMap_cons,
    List.flatMap_nil, List.append_nil, code_commentLine, List.nil_append, depthAfter?_append,
    depthAfter?_matchLine h.name_segment, AccessPattern.depthAfter?_helperText,
    Protection.depthAfter?_allowLines h.quotable, hclosing, Option.bind_some]
  rfl

end Collection

end SchemaPolicy
