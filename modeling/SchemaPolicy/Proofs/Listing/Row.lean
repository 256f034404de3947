import SchemaPolicy.Listing.Table
import SchemaPolicy.Proofs.Collection.Faithful
import SchemaPolicy.Proofs.Declaration.Declared
import SchemaPolicy.Proofs.Text.Cut

/-! What a row of the table of collections tells. Permissions stand in a row as they are, behind the
label of their operation, and a word stands for an operation that asks for none. A row always tells
the path of its rule. It tells what the rule grants unless a text in it holds the label of the text
behind it, or a permission is spelled like the word of its column. -/

namespace SchemaPolicy

/-- The permission that an operation asks for, if its condition asks for one. -/
def Protection.asked? : Protection → Operation → Option String
  | indexedByTenant permissions _, .create => some permissions.write
  | indexedByTenant permissions switches, .read =>
    if switches.publicRead then none else some permissions.read
  | indexedByTenant permissions switches, .update =>
    if switches.update then some permissions.update else none
  | indexedByTenant permissions switches, .delete =>
    if switches.delete then some permissions.delete else none
  | docPerTenant read _, .read => some read
  | docPerTenant _ write, _ => some write
  | docPerUser, _ => none

namespace Listing

open Text

/-- The word for an operation of a collection indexed by tenant that asks for no permission. -/
def mark : Operation → String
  | .read => "public"
  | _ => "-"

/-- What the word for an operation stands for. -/
def meant : Operation → Access
  | .read => .always
  | _ => .deny

/-- The label in front of a permission in a row. -/
def label (op : Operation) : String := " " ++ op.keyword ++ "="

/-- The labels of a row's columns with their texts. -/
def columns : Protection → List (String × String)
  | .indexedByTenant permissions switches =>
    [Operation.read, .create, .update, .delete].map fun op =>
      (label op, ((Protection.indexedByTenant permissions switches).asked? op).getD (mark op))
  | .docPerTenant read write => [(label .read, read), (" write=", write)]
  | .docPerUser => []

/-- The labels in the rows of a pattern, in order. -/
def labels : AccessPattern → List String
  | .indexedByTenant => [label .read, label .create, label .update, label .delete]
  | .docPerTenant => [label .read, " write="]
  | .docPerUser => []

/-- No text of a row holds the label of the text behind it. -/
def LabelsApart (d : Descriptor) : Prop :=
  ∀ pair ∈ (labels d.protection.pattern).zip
      (d.typeName :: (columns d.protection).map Prod.snd),
    ¬pair.1.toList <:+: pair.2.toList

instance : DecidablePred LabelsApart := fun d =>
  inferInstanceAs (Decidable (∀ pair ∈ (labels d.protection.pattern).zip
    (d.typeName :: (columns d.protection).map Prod.snd), ¬pair.1.toList <:+: pair.2.toList))

/-- What a row says: a name, a pattern, and a text for each label. -/
structure Reading where
  name : String
  pattern : AccessPattern
  columns : List (String × String)
deriving DecidableEq

/-- Reads the name and the pattern at the start of a row, and gives the rest of it. -/
def readHead? (row : List Char) : Option ((String × AccessPattern) × List Char) := do
  let (name, rest) ← cut? [' '] row.dropLast
  let (word, rest) ← cut? [' '] (rest.dropWhile (· = ' '))
  let pattern ← AccessPattern.ofSpelling? (String.ofList word)
  return ((String.ofList name, pattern), rest)

/-- Reads a row: its name, its pattern, and the texts between the labels of the pattern. -/
def read? (row : List Char) : Option Reading := do
  let ((name, pattern), rest) ← readHead? row
  let texts ← texts? ((labels pattern).map String.toList) rest
  return ⟨name, pattern, (labels pattern).zip (texts.tail.map String.ofList)⟩

/-! ### What a row is made of -/

theorem fst_columns (protection : Protection) :
    (columns protection).map Prod.fst = labels protection.pattern := by
  cases protection <;> rfl

theorem isMark_label {pattern : AccessPattern} {label : String} (h : label ∈ labels pattern) :
    IsMark label.toList ∧ label.toList.getLast? ≠ some ' ' := by
  have hlabels : ∀ label ∈ labels pattern,
      IsMark label.toList ∧ label.toList.getLast? ≠ some ' ' := by
    cases pattern <;> decide
  exact hlabels label h

/-- The words of a row behind its pattern that no label stands in front of. -/
def plainPart (d : Descriptor) : List Char :=
  padded 20 d.typeName ++ match d.protection with
    | .docPerUser => " owner".toList
    | _ => []

theorem summary_eq (d : Descriptor) :
    padded 20 d.typeName ++ ' ' :: (summary d.protection).toList =
      plainPart d ++ (columns d.protection).flatMap fun column =>
        column.1.toList ++ column.2.toList := by
  have hshown : ∀ text : String, toString text = text := fun _ => rfl
  unfold plainPart
  cases d.protection with
  | indexedByTenant permissions switches =>
    cases hread : switches.publicRead <;> cases hupdate : switches.update <;>
      cases hdelete : switches.delete <;>
      simp [summary, columns, label, mark, Operation.keyword, Protection.asked?, hread, hupdate,
        hdelete, hshown]
  | docPerTenant read write => simp [summary, columns, label, Operation.keyword, hshown]
  | docPerUser => simp [summary, columns]

theorem row_eq (d : Descriptor) :
    row d = d.name.toList ++ [' '] ++ (List.replicate (24 - d.name.length) ' ' ++
      (d.protection.pattern.spelling.toList ++ [' '] ++ (plainPart d ++
        (columns d.protection).flatMap fun column => column.1.toList ++ column.2.toList))) ++
      ['\n'] := by
  have hspaces : ∀ rest : List Char, List.replicate (24 - d.name.length) ' ' ++ ' ' :: rest =
      ' ' :: (List.replicate (24 - d.name.length) ' ' ++ rest) := by
    intro rest
    rw [← List.cons_append, ← List.replicate_succ, List.replicate_succ', List.append_assoc,
      List.singleton_append]
  rw [← summary_eq, row]
  simp only [padded, List.append_assoc, List.cons_append, List.nil_append, hspaces]

theorem infix_of_infix_plainPart {mark : List Char} {d : Descriptor}
    (hpattern : d.protection.pattern ≠ .docPerUser) (hlast : mark.getLast? ≠ some ' ')
    (h : mark <:+: plainPart d) : mark <:+: d.typeName.toList := by
  have hplain : plainPart d = padded 20 d.typeName := by
    unfold plainPart
    cases hprotection : d.protection with
    | docPerUser => exact absurd (by rw [hprotection]; rfl) hpattern
    | _ => simp
  rw [hplain] at h
  exact infix_of_infix_append_replicate hlast h

theorem dropWhile_spelling (pattern : AccessPattern) (n : Nat) (rest : List Char) :
    (List.replicate n ' ' ++ (pattern.spelling.toList ++ rest)).dropWhile (· = ' ') =
      pattern.spelling.toList ++ rest := by
  have hspaces : ∀ c ∈ List.replicate n ' ', decide (c = ' ') = true :=
    fun c hc => decide_eq_true (List.eq_of_mem_replicate hc)
  rw [List.dropWhile_append_of_pos hspaces]
  cases pattern <;> simp [AccessPattern.spelling]

theorem not_infix_columns {d : Descriptor} (h : LabelsApart d) :
    ∀ pair ∈ ((columns d.protection).map (·.1.toList)).zip
        (plainPart d :: (columns d.protection).map (·.2.toList)),
      ¬pair.1 <:+: pair.2 := by
  have hlabels := fst_columns d.protection
  unfold LabelsApart at h
  rw [← hlabels] at h
  cases hcolumns : columns d.protection with
  | nil => simp
  | cons column others =>
    rw [hcolumns, List.map_cons] at h hlabels
    simp only [List.zip_cons_cons, List.forall_mem_cons, List.map_cons] at h ⊢
    obtain ⟨hfirst, hothers⟩ := h
    refine ⟨fun hinside => hfirst (infix_of_infix_plainPart ?_ ?_ hinside), ?_⟩
    · intro hpattern
      rw [hpattern] at hlabels
      exact absurd hlabels (List.cons_ne_nil _ _)
    · exact (isMark_label (hlabels ▸ List.mem_cons_self)).2
    · intro pair hpair
      have hmap : (others.map (·.1.toList)).zip (column.2.toList :: others.map (·.2.toList)) =
          ((others.map Prod.fst).zip (column.2 :: others.map Prod.snd)).map
            (Prod.map String.toList String.toList) := by
        rw [← List.zip_map, List.map_cons, List.map_map, List.map_map]
        rfl
      rw [hmap] at hpair
      obtain ⟨shown, hshown, rfl⟩ := List.mem_map.mp hpair
      exact hothers shown hshown

theorem readHead?_row {d : Descriptor} (hname : PathSegment d.name) :
    readHead? (row d) = some ((d.name, d.protection.pattern), plainPart d ++
      (columns d.protection).flatMap fun column => column.1.toList ++ column.2.toList) := by
  have hspace : IsMark [' '] := by decide
  have hword : ¬[' '] <:+: d.name.toList := by
    intro hinside
    obtain ⟨-, -, -, hblank⟩ := hname.excludes ' ' (hinside.subset (List.mem_singleton_self ' '))
    exact absurd hblank (by decide)
  have hspelling : ¬[' '] <:+: d.protection.pattern.spelling.toList := by
    cases d.protection.pattern <;> decide
  have hpattern : AccessPattern.ofSpelling? d.protection.pattern.spelling =
      some d.protection.pattern := AccessPattern.ofSpelling?_eq_some_iff.mpr rfl
  rw [readHead?, row_eq, List.dropLast_concat, cut?_append hspace hword]
  simp only [Option.bind_eq_bind, Option.bind_some, List.append_assoc, dropWhile_spelling]
  rw [← List.append_assoc, cut?_append hspace hspelling]
  simp only [Option.bind_some, String.ofList_toList, hpattern]
  rfl

/-- A row whose texts are apart from its labels is read back. -/
theorem read?_row {d : Descriptor} (hname : PathSegment d.name) (h : LabelsApart d) :
    read? (row d) = some ⟨d.name, d.protection.pattern, columns d.protection⟩ := by
  have hmarks : ∀ column ∈ columns d.protection, IsMark column.1.toList := by
    intro column hcolumn
    have hlabel : column.1 ∈ labels d.protection.pattern := by
      rw [← fst_columns]
      exact List.mem_map_of_mem hcolumn
    exact (isMark_label hlabel).1
  have hlabels : (labels d.protection.pattern).map String.toList =
      (columns d.protection).map (·.1.toList) := by
    rw [← fst_columns, List.map_map]
    rfl
  have hzip : (labels d.protection.pattern).zip ((columns d.protection).map Prod.snd) =
      columns d.protection := by
    rw [← fst_columns]
    exact (List.zip_of_prod rfl rfl).symm
  rw [read?, readHead?_row hname]
  simp only [Option.bind_eq_bind, Option.bind_some, hlabels,
    texts?_append hmarks (not_infix_columns h), List.tail_cons, List.map_map, Function.comp_def,
    String.ofList_toList, hzip]
  rfl

/-! ### What the columns say of the accesses -/

variable {p q : Protection} {op : Operation}

theorem access_of_asked?_eq_none (h : p.asked? op = none) :
    p.access op = meant op ∨ p = .docPerUser := by
  cases p with
  | indexedByTenant permissions switches =>
    left
    cases op <;> simp_all [Protection.asked?, Protection.access, meant]
  | docPerTenant read write => cases op <;> simp [Protection.asked?] at h
  | docPerUser => exact .inr rfl

theorem access_eq_of_asked?_eq (hpattern : p.pattern = q.pattern)
    (h : p.asked? op = q.asked? op) : p.access op = q.access op := by
  cases p <;> cases q <;> cases hpattern
  case indexedByTenant.indexedByTenant permissions switches permissions' switches' =>
    cases op <;> simp only [Protection.asked?, Protection.access] at h ⊢ <;> grind
  case docPerTenant.docPerTenant =>
    cases op <;> simp_all [Protection.asked?, Protection.access]
  case docPerUser.docPerUser => rfl

theorem shown_eq_of_columns_eq (hpattern : p.pattern = q.pattern) (h : columns p = columns q)
    (op : Operation) : (p.asked? op).getD (mark op) = (q.asked? op).getD (mark op) := by
  cases p <;> cases q <;> cases hpattern
  case indexedByTenant.indexedByTenant =>
    simp only [columns, List.map_cons, List.map_nil, List.cons.injEq, Prod.mk.injEq] at h
    obtain ⟨⟨-, hread⟩, ⟨-, hcreate⟩, ⟨-, hupdate⟩, ⟨-, hdelete⟩, -⟩ := h
    cases op <;> assumption
  case docPerTenant.docPerTenant =>
    simp only [columns, List.cons.injEq, Prod.mk.injEq] at h
    obtain ⟨⟨-, rfl⟩, ⟨-, rfl⟩, -⟩ := h
    rfl
  case docPerUser.docPerUser => rfl

theorem asked?_of_lookup_columns {text : String}
    (h : (columns p).lookup (label op) = some text) :
    p.asked? op = some text ∨ p.access op = meant op := by
  cases p with
  | indexedByTenant permissions switches =>
    have hlookup : (columns (.indexedByTenant permissions switches)).lookup (label op) =
        some (((Protection.indexedByTenant permissions switches).asked? op).getD (mark op)) := by
      cases op <;> rfl
    rw [hlookup] at h
    cases hasked : (Protection.indexedByTenant permissions switches).asked? op with
    | some asked =>
      rw [hasked] at h
      exact .inl h
    | none =>
      right
      rcases access_of_asked?_eq_none hasked with haccess | hpattern
      · exact haccess
      · contradiction
  | docPerTenant read write =>
    cases op with
    | read => exact .inl h
    | _ => contradiction
  | docPerUser => contradiction

/-! ### Rows and rules -/

/-- One protection asks for a permission that is spelled like the word for what the other does. -/
def Mistakable (p q : Protection) (op : Operation) : Prop :=
  p.access op = meant op ∧ q.asked? op = some (mark op)

instance : Decidable (Mistakable p q op) := inferInstanceAs (Decidable (_ ∧ _))

theorem access_eq_of_shown_eq (hpattern : p.pattern = q.pattern) (h : ¬Mistakable p q op)
    (h' : ¬Mistakable q p op)
    (hshown : (p.asked? op).getD (mark op) = (q.asked? op).getD (mark op)) :
    p.access op = q.access op := by
  cases hp : p.asked? op with
  | some asked =>
    cases hq : q.asked? op with
    | some other =>
      rw [hp, hq] at hshown
      exact access_eq_of_asked?_eq hpattern (hp.trans ((congrArg some hshown).trans hq.symm))
    | none =>
      rw [hp, hq] at hshown
      obtain rfl : asked = mark op := hshown
      rcases access_of_asked?_eq_none hq with haccess | rfl
      · exact absurd ⟨haccess, hp⟩ h'
      · cases p <;> cases hpattern
        contradiction
  | none =>
    cases hq : q.asked? op with
    | none => exact access_eq_of_asked?_eq hpattern (hp.trans hq.symm)
    | some other =>
      rw [hp, hq] at hshown
      obtain rfl : mark op = other := hshown
      rcases access_of_asked?_eq_none hp with haccess | rfl
      · exact absurd ⟨haccess, hq⟩ h
      · cases q <;> cases hpattern
        contradiction

/-- Rows of rules with other paths differ. So do rows of rules that grant something else for an
operation, if texts and labels are apart in them and neither asks for a permission that is spelled
like the word for what the other does. In such a row an operation is shown as open or switched off
only when it is, or when it asks for a permission that is spelled like this. -/
theorem rows_tell_rules_apart {d d' : Descriptor} (h : d.Declared) (h' : d'.Declared) :
    (d.rule.path ≠ d'.rule.path → row d ≠ row d') ∧
    (LabelsApart d → LabelsApart d' → ∀ op, d.rule.access op ≠ d'.rule.access op →
      ¬Mistakable d.protection d'.protection op → ¬Mistakable d'.protection d.protection op →
      row d ≠ row d') ∧
    (LabelsApart d → ∃ reading, read? (row d) = some reading ∧
      ∀ op, reading.columns.lookup (label op) = some (mark op) →
        d.rule.access op = meant op ∨ d.protection.asked? op = some (mark op)) := by
  obtain ⟨⟨-, hname⟩, -⟩ := Descriptor.declared_iff.mp h
  obtain ⟨⟨-, hname'⟩, -⟩ := Descriptor.declared_iff.mp h'
  refine ⟨fun hpath hrow => hpath ?_, fun hapart hapart' op haccess hpq hqp hrow => haccess ?_,
    fun hapart => ⟨_, read?_row hname hapart, fun op hlookup => ?_⟩⟩
  · have hread := readHead?_row hname
    rw [hrow, readHead?_row hname', Option.some.injEq, Prod.mk.injEq, Prod.mk.injEq] at hread
    obtain ⟨⟨hnames, hpattern⟩, -⟩ := hread
    show d.path = d'.path
    rw [Collection.path, Collection.path, hnames, hpattern]
  · have hread := read?_row hname hapart
    rw [hrow, read?_row hname' hapart', Option.some.injEq, Reading.mk.injEq] at hread
    obtain ⟨-, hpattern, hcolumns⟩ := hread
    rw [Collection.access_rule, Collection.access_rule]
    exact access_eq_of_shown_eq hpattern.symm hpq hqp
      (shown_eq_of_columns_eq hpattern.symm hcolumns.symm op)
  · rw [Collection.access_rule]
    exact (asked?_of_lookup_columns hlookup).symm

theorem rows_tell_rules_apart_posts :
    ∃ d d' : Descriptor, d.Declared ∧ d'.Declared ∧
      d.rule.access .read = .always ∧ d'.rule.access .read ≠ .always ∧ row d ≠ row d' ∧
      (d.rule.access .delete = .deny ∨ d.protection.asked? .delete = some "-") := by
  let permissions : Permissions String := ⟨"see", "add", "edit", "drop"⟩
  let d : Descriptor := ⟨⟨"posts", .indexedByTenant permissions ⟨true, true, false⟩⟩, "Post"⟩
  let d' : Descriptor := ⟨⟨"posts", .indexedByTenant permissions ⟨false, true, false⟩⟩, "Post"⟩
  have h : d.Declared := by decide
  have h' : d'.Declared := by decide
  have hapart : LabelsApart d := by decide
  obtain ⟨-, hrows, hreading⟩ := rows_tell_rules_apart h h'
  obtain ⟨reading, hread, hshown⟩ := hreading hapart
  obtain rfl := Option.some.inj ((read?_row (by decide) hapart).symm.trans hread)
  exact ⟨d, d', h, h', rfl, by decide,
    hrows hapart (by decide) .read (by decide) (by decide) (by decide), hshown .delete rfl⟩

/-- Rows can be alike though the rules are not: where a permission is spelled like a word, and where
a permission or the name of a type holds the label of what stands behind it. -/
theorem exists_rows_alike :
    (∃ d d' : Descriptor, d.Declared ∧ d'.Declared ∧ row d = row d' ∧
      d.rule.access .read = .always ∧ d'.rule.access .read ≠ .always) ∧
    (∃ d d' : Descriptor, d.Declared ∧ d'.Declared ∧ row d = row d' ∧
      d.rule.access .delete = .deny ∧ d'.rule.access .delete ≠ .deny) ∧
    (∃ d d' : Descriptor, d.Declared ∧ d'.Declared ∧ row d = row d' ∧
      d.typeName = d'.typeName ∧ ∀ op, d.rule.access op ≠ d'.rule.access op) ∧
    (∃ d d' : Descriptor, d.Declared ∧ d'.Declared ∧ row d = row d' ∧
      LabelsApart d ∧ d.rule.access .read ≠ d'.rule.access .read) := by
  refine ⟨⟨⟨⟨"a", .indexedByTenant ⟨"r", "w", "u", "d"⟩ ⟨true, true, true⟩⟩, "A"⟩,
      ⟨⟨"a", .indexedByTenant ⟨"public", "w", "u", "d"⟩ ⟨false, true, true⟩⟩, "A"⟩, ?_⟩,
    ⟨⟨⟨"a", .indexedByTenant ⟨"r", "w", "u", "d"⟩ ⟨false, true, false⟩⟩, "A"⟩,
      ⟨⟨"a", .indexedByTenant ⟨"r", "w", "u", "-"⟩ ⟨false, true, true⟩⟩, "A"⟩, ?_⟩,
    ⟨⟨⟨"a", .docPerTenant "b" "c write=d"⟩, "A"⟩, ⟨⟨"a", .docPerTenant "b write=c" "d"⟩, "A"⟩, ?_⟩,
    ⟨⟨⟨"a", .docPerTenant "b read=c" "d"⟩, "A"⟩,
      ⟨⟨"a", .docPerTenant "c" "d"⟩, "A                    read=b"⟩, ?_⟩⟩
  · decide
  · decide
  · refine ⟨by decide, by decide, by decide, by decide, fun op => ?_⟩
    cases op <;> decide
  · decide

end Listing

end SchemaPolicy
