import SchemaPolicy.Text.Digit

/-! JSON texts: which they are, and a reader for them. Numbers are left out, and characters that are
spelled as a pair of surrogates, so what is told to be a JSON text here is one. -/

namespace SchemaPolicy

/-- A JSON value. Numbers are left out: a listing has none. -/
inductive Json where
  | null
  | boolean (value : Bool)
  | string (text : String)
  | array (items : List Json)
  | object (fields : List (String × Json))

namespace Json

/-! ### Grammar -/

/-- White space between the parts of a JSON text. -/
def isSpace (c : Char) : Bool := c == ' ' || c == '\t' || c == '\n' || c == '\r'

/-- A character that stands for itself between quotes. -/
def isPlain (c : Char) : Bool := 0x20 ≤ c.toNat && c != '"' && c != '\\'

/-- The character that a letter behind a backslash stands for. -/
def letter? : Char → Option Char
  | '"' => some '"'
  | '\\' => some '\\'
  | '/' => some '/'
  | 'b' => some '\x08'
  | 'f' => some '\x0c'
  | 'n' => some '\n'
  | 'r' => some '\r'
  | 't' => some '\t'
  | _ => none

/-- How a character is spelled between quotes: as itself, by a letter, or by its code. -/
inductive Spells : Char → List Char → Prop
  | plain {c : Char} (plain : isPlain c = true) : Spells c [c]
  | letter {c letter : Char} (stands : letter? letter = some c) : Spells c ['\\', letter]
  | code {c d₁ d₂ d₃ d₄ : Char} (code : Text.charOfDigits? [d₁, d₂, d₃, d₄] = some c) :
    Spells c ['\\', 'u', d₁, d₂, d₃, d₄]

/-- A text character by character, up to its closing quote. -/
inductive Quotes : List Char → List Char → Prop
  | done : Quotes [] ['"']
  | char {c : Char} {spelling text s : List Char} (spells : Spells c spelling)
    (others : Quotes text s) : Quotes (c :: text) (spelling ++ s)

mutual

/-- A text of a value. White space may stand on both sides of it. -/
inductive Writes : Json → List Char → Prop
  | null : Writes .null "null".toList
  | yes : Writes (.boolean true) "true".toList
  | no : Writes (.boolean false) "false".toList
  | string {text s : List Char} (quotes : Quotes text s) :
    Writes (.string (String.ofList text)) ('"' :: s)
  | emptyArray {space : List Char} (blank : ∀ c ∈ space, isSpace c = true) :
    Writes (.array []) ('[' :: (space ++ [']']))
  | array {items : List Json} {s : List Char} (writes : WritesItems items s) :
    Writes (.array items) ('[' :: (s ++ [']']))
  | emptyObject {space : List Char} (blank : ∀ c ∈ space, isSpace c = true) :
    Writes (.object []) ('\x7b' :: (space ++ ['\x7d']))
  | object {fields : List (String × Json)} {s : List Char} (writes : WritesFields fields s) :
    Writes (.object fields) ('\x7b' :: (s ++ ['\x7d']))
  | before {value : Json} {c : Char} {s : List Char} (blank : isSpace c = true)
    (writes : Writes value s) : Writes value (c :: s)
  | after {value : Json} {c : Char} {s : List Char} (blank : isSpace c = true)
    (writes : Writes value s) : Writes value (s ++ [c])

/-- Values with commas between them. -/
inductive WritesItems : List Json → List Char → Prop
  | last {item : Json} {s : List Char} (writes : Writes item s) : WritesItems [item] s
  | more {item : Json} {items : List Json} {s t : List Char} (writes : Writes item s)
    (others : WritesItems items t) : WritesItems (item :: items) (s ++ ',' :: t)

/-- Names and values with colons between them, and commas between these pairs. -/
inductive WritesFields : List (String × Json) → List Char → Prop
  | last {name : String} {value : Json} {s t : List Char} (names : Writes (.string name) s)
    (writes : Writes value t) : WritesFields [(name, value)] (s ++ ':' :: t)
  | more {name : String} {value : Json} {fields : List (String × Json)} {s t u : List Char}
    (names : Writes (.string name) s) (writes : Writes value t) (others : WritesFields fields u) :
    WritesFields ((name, value) :: fields) (s ++ ':' :: (t ++ ',' :: u))

end

theorem isSpace_newline : isSpace '\n' = true := rfl

theorem Writes.space_append {v : Json} {space s : List Char}
    (h : ∀ c ∈ space, isSpace c = true) (writes : Writes v s) : Writes v (space ++ s) := by
  induction space with
  | nil => exact writes
  | cons c space ih =>
    obtain ⟨hc, hspace⟩ := List.forall_mem_cons.mp h
    exact .before hc (ih hspace)

theorem Writes.append_space {v : Json} {s space : List Char} (writes : Writes v s)
    (h : ∀ c ∈ space, isSpace c = true) : Writes v (s ++ space) := by
  induction space generalizing s with
  | nil => rwa [List.append_nil]
  | cons c space ih =>
    obtain ⟨hc, hspace⟩ := List.forall_mem_cons.mp h
    rw [← List.singleton_append, ← List.append_assoc]
    exact ih (.after hc writes) hspace

theorem WritesItems.before {items : List Json} {c : Char} {s : List Char} (h : isSpace c = true)
    (writes : WritesItems items s) : WritesItems items (c :: s) := by
  cases writes with
  | last writes => exact .last (.before h writes)
  | more writes others => exact .more (.before h writes) others

theorem WritesFields.before {fields : List (String × Json)} {c : Char} {s : List Char}
    (h : isSpace c = true) (writes : WritesFields fields s) : WritesFields fields (c :: s) := by
  cases writes with
  | last names writes => exact .last (.before h names) writes
  | more names writes others => exact .more (.before h names) writes others

/-! ### Reader -/

/-- The text without the white space in front. -/
def skip (s : List Char) : List Char := s.dropWhile isSpace

/-- The text up to a closing quote, and what follows. -/
def readQuoted : List Char → Option (List Char × List Char)
  | [] => none
  | '"' :: rest => some ([], rest)
  | '\\' :: 'u' :: d₁ :: d₂ :: d₃ :: d₄ :: rest =>
    (Text.charOfDigits? [d₁, d₂, d₃, d₄]).bind fun c => (readQuoted rest).map (Prod.map (c :: ·) id)
  | '\\' :: letter :: rest =>
    (letter? letter).bind fun c => (readQuoted rest).map (Prod.map (c :: ·) id)
  | c :: rest => if isPlain c then (readQuoted rest).map (Prod.map (c :: ·) id) else none

mutual

/-- A value, with the white space on both sides of it, and what follows. No text is longer than the
limit that it is read with. -/
def readValue (limit : Nat) (s : List Char) : Option (Json × List Char) :=
  match limit with
  | 0 => none
  | limit + 1 =>
    match skip s with
    | 'n' :: 'u' :: 'l' :: 'l' :: rest => some (.null, skip rest)
    | 't' :: 'r' :: 'u' :: 'e' :: rest => some (.boolean true, skip rest)
    | 'f' :: 'a' :: 'l' :: 's' :: 'e' :: rest => some (.boolean false, skip rest)
    | '"' :: rest => do
      let (text, rest) ← readQuoted rest
      return (.string (String.ofList text), skip rest)
    | '[' :: rest =>
      match readItems limit rest, skip rest with
      | some (items, rest), _ => some (.array items, skip rest)
      | none, ']' :: rest => some (.array [], skip rest)
      | none, _ => none
    | '\x7b' :: rest =>
      match readFields limit rest, skip rest with
      | some (fields, rest), _ => some (.object fields, skip rest)
      | none, '\x7d' :: rest => some (.object [], skip rest)
      | none, _ => none
    | _ => none

/-- Values up to a closing bracket, and what follows. -/
def readItems (limit : Nat) (s : List Char) : Option (List Json × List Char) :=
  match limit with
  | 0 => none
  | limit + 1 =>
    match readValue limit s with
    | some (item, ']' :: rest) => some ([item], rest)
    | some (item, ',' :: rest) => do
      let (items, rest) ← readItems limit rest
      return (item :: items, rest)
    | _ => none

/-- Names and values up to a closing brace, and what follows. -/
def readFields (limit : Nat) (s : List Char) : Option (List (String × Json) × List Char) :=
  match limit with
  | 0 => none
  | limit + 1 =>
    match readValue limit s with
    | some (.string name, ':' :: rest) =>
      match readValue limit rest with
      | some (value, '\x7d' :: rest) => some ([(name, value)], rest)
      | some (value, ',' :: rest) => do
        let (fields, rest) ← readFields limit rest
        return ((name, value) :: fields, rest)
      | _ => none
    | _ => none

end

/-- The value that a text is of, if it is of one. -/
def ofText? (text : String) : Option Json :=
  match readValue text.length text.toList with
  | some (value, []) => some value
  | _ => none

/-! ### Texts are read -/

theorem skip_cons_of_isSpace {c : Char} (h : isSpace c = true) (s : List Char) :
    skip (c :: s) = skip s := by
  rw [skip, List.dropWhile_cons_of_pos h, skip]

theorem skip_cons_of_not_isSpace {c : Char} (h : isSpace c = false) (s : List Char) :
    skip (c :: s) = c :: s := by
  rw [skip, List.dropWhile_cons_of_neg (by simp [h])]

theorem skip_append {space : List Char} (h : ∀ c ∈ space, isSpace c = true) (s : List Char) :
    skip (space ++ s) = skip s := by
  rw [skip, List.dropWhile_append_of_pos h, skip]

/-- A character is read from each of its spellings. -/
theorem readQuoted_append {c : Char} {spelling : List Char} (h : Spells c spelling)
    (s : List Char) :
    readQuoted (spelling ++ s) = (readQuoted s).map (Prod.map (c :: ·) id) := by
  cases h with
  | plain plain =>
    have hquote : c ≠ '"' := by
      rintro rfl
      contradiction
    have hslash : c ≠ '\\' := by
      rintro rfl
      contradiction
    rw [List.singleton_append, readQuoted.eq_5 _ _ hquote (by simp [hslash]) (by simp [hslash]),
      if_pos plain]
  | @letter letter stands =>
    have hcode : letter ≠ 'u' := by
      rintro rfl
      contradiction
    rw [List.cons_append, List.singleton_append, readQuoted.eq_4 _ _ (by simp [hcode]), stands]
    rfl
  | code code => simp [readQuoted, code]

theorem readQuoted_of_quotes {text s : List Char} (h : Quotes text s) (rest : List Char) :
    readQuoted (s ++ rest) = some (text, rest) := by
  induction h with
  | done => rfl
  | char spells others ih =>
    rw [List.append_assoc, readQuoted_append spells, ih]
    rfl

/-- Where a value has to stand, white space and a closing character are not enough. -/
theorem readValue_eq_none {space : List Char} {c : Char} (hspace : ∀ c ∈ space, isSpace c = true)
    (hc : c = ']' ∨ c = '\x7d') (limit : Nat) (rest : List Char) :
    readValue limit (space ++ c :: rest) = none := by
  cases limit with
  | zero => rfl
  | succ limit =>
    rw [readValue, skip_append hspace]
    rcases hc with rfl | rfl <;> rfl

mutual

/-- A text of a value is read as this value, whatever follows. -/
theorem readValue_of_writes : ∀ {v : Json} {s : List Char}, Writes v s → ∀ limit,
    s.length ≤ limit → ∀ rest, readValue limit (s ++ rest) = some (v, skip rest)
  | _, _, .null, limit + 1, _, rest | _, _, .yes, limit + 1, _, rest
  | _, _, .no, limit + 1, _, rest => by
    simp [readValue, skip, isSpace]
  | _, _, .string quotes, limit + 1, _, rest => by
    simp [readValue, skip_cons_of_not_isSpace, isSpace, readQuoted_of_quotes quotes]
  | _, _, @Writes.emptyArray space blank, limit + 1, hlimit, rest => by
    have hitems : readItems limit (space ++ ']' :: rest) = none := by
      cases limit with
      | zero => rfl
      | succ limit => rw [readItems, readValue_eq_none blank (.inl rfl)]
    simp [readValue, skip_cons_of_not_isSpace, isSpace, hitems, skip_append blank]
  | _, _, .array writes, limit + 1, hlimit, rest => by
    simp only [List.length_cons, List.length_append, List.length_nil] at hlimit
    have hitems := readItems_of_writes writes limit (by omega) rest
    simp [readValue, skip_cons_of_not_isSpace, isSpace, hitems]
  | _, _, @Writes.emptyObject space blank, limit + 1, hlimit, rest => by
    have hfields : readFields limit (space ++ '\x7d' :: rest) = none := by
      cases limit with
      | zero => rfl
      | succ limit => rw [readFields, readValue_eq_none blank (.inr rfl)]
    simp [readValue, skip_cons_of_not_isSpace, isSpace, hfields, skip_append blank]
  | _, _, .object writes, limit + 1, hlimit, rest => by
    simp only [List.length_cons, List.length_append, List.length_nil] at hlimit
    have hfields := readFields_of_writes writes limit (by omega) rest
    simp [readValue, skip_cons_of_not_isSpace, isSpace, hfields]
  | _, _, .before blank writes, limit + 1, hlimit, rest => by
    simp only [List.length_cons] at hlimit
    have hvalue := readValue_of_writes writes (limit + 1) (by omega) rest
    rw [readValue] at hvalue ⊢
    rwa [List.cons_append, skip_cons_of_isSpace blank]
  | _, _, .after blank writes, limit, hlimit, rest => by
    simp only [List.length_append] at hlimit
    rw [List.append_assoc, readValue_of_writes writes limit (by omega), List.singleton_append,
      skip_cons_of_isSpace blank]

theorem readItems_of_writes : ∀ {items : List Json} {s : List Char}, WritesItems items s →
    ∀ limit, s.length < limit → ∀ rest, readItems limit (s ++ ']' :: rest) = some (items, rest)
  | _, _, .last writes, limit + 1, hlimit, rest => by
    have hitem := readValue_of_writes writes limit (by omega) (']' :: rest)
    simp [readItems, skip_cons_of_not_isSpace, isSpace, hitem]
  | _, _, @WritesItems.more _ _ _ t writes others, limit + 1, hlimit, rest => by
    simp only [List.length_append, List.length_cons] at hlimit
    have hitem := readValue_of_writes writes limit (by omega) (',' :: (t ++ ']' :: rest))
    have hothers := readItems_of_writes others limit (by omega) rest
    simp [readItems, skip_cons_of_not_isSpace, isSpace, hitem, hothers]

theorem readFields_of_writes : ∀ {fields : List (String × Json)} {s : List Char},
    WritesFields fields s → ∀ limit, s.length < limit → ∀ rest,
      readFields limit (s ++ '\x7d' :: rest) = some (fields, rest)
  | _, _, @WritesFields.last _ _ _ t names writes, limit + 1, hlimit, rest => by
    simp only [List.length_append, List.length_cons] at hlimit
    have hname := readValue_of_writes names limit (by omega) (':' :: (t ++ '\x7d' :: rest))
    have hvalue := readValue_of_writes writes limit (by omega) ('\x7d' :: rest)
    simp [readFields, skip_cons_of_not_isSpace, isSpace, hname, hvalue]
  | _, _, @WritesFields.more _ _ _ _ t u names writes others, limit + 1, hlimit, rest => by
    simp only [List.length_append, List.length_cons] at hlimit
    have hname := readValue_of_writes names limit (by omega)
      (':' :: (t ++ ',' :: (u ++ '\x7d' :: rest)))
    have hvalue := readValue_of_writes writes limit (by omega) (',' :: (u ++ '\x7d' :: rest))
    have hothers := readFields_of_writes others limit (by omega) rest
    simp [readFields, skip_cons_of_not_isSpace, isSpace, hname, hvalue, hothers]

end

theorem ofText?_of_writes {v : Json} {text : String} (h : Writes v text.toList) :
    ofText? text = some v := by
  have hread := readValue_of_writes h text.length (Nat.le_of_eq String.length_toList) []
  rw [List.append_nil] at hread
  rw [ofText?, hread]
  rfl

end Json

end SchemaPolicy
