import SchemaPolicy.Config.Mismatch
import SchemaPolicy.Proofs.Outcome
import SchemaPolicy.Proofs.Toml.Distinct

/-! Settings read from a table, one entry after another. Where the keys are distinct, each setting
depends on the value of its key and on nothing else in the table: not on the other keys, and not on
their order. -/

namespace SchemaPolicy.Toml

open Outcome

/-- Two values are the same: their items are, and their tables have the same under each key. The
order of the keys does not count. -/
inductive Value.Same : Value → Value → Prop
  | refl (value : Value) : Same value value
  | array {items items' : List Value} (inner : List.Forall₂ Same items items') :
    Same (.array items) (.array items')
  | table {entries entries' : List (String × Value)}
    (inner : ∀ key, Option.Rel Same (entries.lookup key) (entries'.lookup key)) :
    Same (.table entries) (.table entries')

variable {σ β : Type} {set : σ → String × Value → Except Mismatch σ}
  {read : String → Value → Except Mismatch β} {get : σ → String → β}
  {entries entries' : List (String × Value)} {start : σ}

theorem rel_same_refl (found : Option Value) : Option.Rel Value.Same found found := by
  cases found with
  | none => exact .none
  | some value => exact .some (.refl value)

/-! ### Lookup -/

theorem lookup_cons_self (key : String) (value : Value) :
    List.lookup key ((key, value) :: entries) = some value := by
  rw [List.lookup_cons, beq_self_eq_true]

theorem lookup_cons_of_ne {key other : String} (h : other ≠ key) (value : Value) :
    List.lookup other ((key, value) :: entries) = entries.lookup other := by
  rw [List.lookup_cons, beq_eq_false_iff_ne.mpr h]

theorem lookup_eq_none_iff {key : String} :
    entries.lookup key = none ↔ key ∉ entries.map Prod.fst := by
  simp only [List.lookup_eq_none_iff, bne_iff_ne, List.mem_map, not_exists, not_and]
  exact forall₂_congr fun _ _ => not_congr eq_comm

theorem mem_of_lookup_eq_some {key : String} {value : Value}
    (h : entries.lookup key = some value) : (key, value) ∈ entries := by
  obtain ⟨before, after, rfl, -⟩ := List.lookup_eq_some_iff.mp h
  exact List.mem_append_right _ List.mem_cons_self

theorem Keyed.distinct_of_lookup (h : Keyed Value.Distinct entries) {key : String} {value : Value}
    (hvalue : entries.lookup key = some value) : value.Distinct :=
  h.values _ (mem_of_lookup_eq_some hvalue)

/-! ### Tables, and arrays in their place -/

theorem lookup_zip_same (keys : List String) {items items' : List Value}
    (h : List.Forall₂ Value.Same items items') (key : String) :
    Option.Rel Value.Same ((keys.zip items).lookup key) ((keys.zip items').lookup key) := by
  induction keys generalizing items items' with
  | nil => exact .none
  | cons first keys ih =>
    cases h with
    | nil => exact .none
    | cons hfirst hothers =>
      rw [List.zip_cons_cons, List.zip_cons_cons]
      by_cases hkey : key = first
      · subst hkey
        rw [lookup_cons_self, lookup_cons_self]
        exact .some hfirst
      · rw [lookup_cons_of_ne hkey, lookup_cons_of_ne hkey]
        exact ih hothers

theorem keyed_zip {keys : List String} (hkeys : keys.Nodup) {items : List Value}
    (h : ∀ item ∈ items, item.Distinct) : Keyed Value.Distinct (keys.zip items) := by
  refine ⟨?_, fun entry hentry => h _ (List.of_mem_zip hentry).2⟩
  rw [List.zip_eq_zip_take_min, List.map_fst_zip (by simp)]
  exact hkeys.sublist (List.take_sublist _ _)

theorem Value.Distinct.asTable {keys : List String} {expected : Expectation} {value : Value}
    (h : value.Distinct) (hkeys : keys.Nodup)
    (hentries : value.asTable keys expected = .ok entries) :
    Keyed Value.Distinct entries := by
  cases h with
  | table nodup inner =>
    obtain rfl := Except.ok.inj hentries
    exact ⟨nodup, inner⟩
  | array inner =>
    obtain rfl := Except.ok.inj hentries
    exact keyed_zip hkeys inner
  | dateTime =>
    obtain rfl := Except.ok.inj hentries
    exact ⟨List.nodup_singleton _, fun entry hentry => List.mem_singleton.mp hentry ▸ .dateTime⟩
  | _ => contradiction

theorem Value.Same.asTable {value value' : Value} (h : value.Same value') (keys : List String)
    (expected : Expectation) :
    Agree (fun entries entries' => ∀ key,
      Option.Rel Value.Same (entries.lookup key) (entries'.lookup key))
      (value.asTable keys expected) (value'.asTable keys expected) := by
  cases h with
  | array inner => exact .ok (lookup_zip_same keys inner)
  | table inner => exact .ok inner
  | refl =>
    cases value.asTable keys expected with
    | ok entries => exact .ok fun key => rel_same_refl _
    | error mismatch => exact .error _ _

theorem Value.Same.asText {expected : Expectation} {value value' : Value} (h : value.Same value') :
    Agree Eq (value.asText expected) (value'.asText expected) := by
  cases h with
  | refl => exact agree_refl _
  | array _ => exact .error _ _
  | table _ => exact .error _ _

theorem Value.agree_asText (value : Value) (expected expected' : Expectation) :
    Agree Eq (value.asText expected) (value.asText expected') := by
  cases value with
  | string text => exact .ok rfl
  | _ => exact .error _ _

/-! ### Reading entries -/

/-- Setting an entry reads the value under its key, and leaves what belongs to other keys. -/
def Reads (set : σ → String × Value → Except Mismatch σ)
    (read : String → Value → Except Mismatch β) (get : σ → String → β) : Prop :=
  ∀ s key value, Agree (fun after found => get after key = found ∧
    ∀ other, other ≠ key → get after other = get s other) (set s (key, value)) (read key value)

/-- What is read is the value under each key, or what stood there at the start. -/
theorem Reads.get_foldlM (h : Reads set read get) (nodup : (entries.map Prod.fst).Nodup)
    {final : σ} (hfinal : entries.foldlM set start = .ok final) (key : String) :
    (entries.lookup key).elim (.ok (get start key)) (read key) = .ok (get final key) := by
  induction entries generalizing start with
  | nil =>
    obtain rfl := pure_eq_ok_iff.mp hfinal
    rfl
  | cons entry entries ih =>
    obtain ⟨first, value⟩ := entry
    obtain ⟨hfirst, nodup⟩ := List.nodup_cons.mp nodup
    obtain ⟨middle, hmiddle, hfinal⟩ := bind_eq_ok_iff.mp hfinal
    have hrest := ih nodup hfinal
    have hset := h start first value
    rw [hmiddle] at hset
    generalize hread : read first value = outcome at hset
    obtain ⟨rfl, hothers⟩ | - := hset
    by_cases hkey : key = first
    · -- No later entry has this key, so what was read for it stays.
      subst hkey
      rw [lookup_eq_none_iff.mpr hfirst] at hrest
      rw [lookup_cons_self]
      exact hread.trans hrest
    · rw [lookup_cons_of_ne hkey, ← hothers key hkey]
      exact hrest

/-- Entries are read if each key's value is. -/
theorem Reads.exists_foldlM (h : Reads set read get) (nodup : (entries.map Prod.fst).Nodup)
    (hread : ∀ key, ∃ found, (entries.lookup key).elim (.ok (get start key)) (read key) =
      .ok found) : ∃ final, entries.foldlM set start = .ok final := by
  induction entries generalizing start with
  | nil => exact ⟨start, rfl⟩
  | cons entry entries ih =>
    obtain ⟨first, value⟩ := entry
    obtain ⟨hfirst, nodup⟩ := List.nodup_cons.mp nodup
    obtain ⟨found, hfound⟩ := hread first
    rw [lookup_cons_self] at hfound
    have hset := h start first value
    rw [show read first value = .ok found from hfound] at hset
    generalize hmiddle : set start (first, value) = outcome at hset
    obtain ⟨-, hothers⟩ | - := hset
    next middle =>
    have hrest : ∀ key, ∃ found, (entries.lookup key).elim (.ok (get middle key)) (read key) =
        .ok found := by
      intro key
      by_cases hkey : key = first
      · subst hkey
        rw [lookup_eq_none_iff.mpr hfirst]
        exact ⟨_, rfl⟩
      · obtain ⟨found, hfound⟩ := hread key
        rw [lookup_cons_of_ne hkey, ← hothers key hkey] at hfound
        exact ⟨found, hfound⟩
    obtain ⟨final, hfinal⟩ := ih nodup hrest
    exact ⟨final, bind_eq_ok_iff.mpr ⟨middle, hmiddle, hfinal⟩⟩

/-- Settings that have what is read under each key are the ones that the entries make. -/
theorem Reads.foldlM_eq_ok (h : Reads set read get) (nodup : (entries.map Prod.fst).Nodup)
    (hext : ∀ a b, (∀ key, get a key = get b key) → a = b) {final : σ}
    (hread : ∀ key, (entries.lookup key).elim (.ok (get start key)) (read key) =
      .ok (get final key)) : entries.foldlM set start = .ok final := by
  obtain ⟨made, hmade⟩ := h.exists_foldlM nodup fun key => ⟨_, hread key⟩
  rw [hmade, hext made final fun key => Except.ok.inj
    ((h.get_foldlM nodup hmade key).symm.trans (hread key))]

/-- Two tables from which the same is read under each key give the same settings, or both fail. -/
theorem Reads.agree_foldlM (h : Reads set read get) (nodup : (entries.map Prod.fst).Nodup)
    (nodup' : (entries'.map Prod.fst).Nodup)
    (hagree : ∀ key, Agree Eq ((entries.lookup key).elim (.ok (get start key)) (read key))
      ((entries'.lookup key).elim (.ok (get start key)) (read key))) :
    Agree (fun final final' => ∀ key, get final key = get final' key)
      (entries.foldlM set start) (entries'.foldlM set start) := by
  by_cases hread : ∀ key, ∃ found,
      (entries.lookup key).elim (.ok (get start key)) (read key) = .ok found
  · have hread' : ∀ key, ∃ found,
        (entries'.lookup key).elim (.ok (get start key)) (read key) = .ok found := by
      intro key
      obtain ⟨found, hfound⟩ := hread key
      exact ⟨found, (hagree key).eq_ok hfound⟩
    obtain ⟨final, hfinal⟩ := h.exists_foldlM nodup hread
    obtain ⟨final', hfinal'⟩ := h.exists_foldlM nodup' hread'
    rw [hfinal, hfinal']
    refine .ok fun key => ?_
    have hkey := (hagree key).eq_ok (h.get_foldlM nodup hfinal key)
    rw [h.get_foldlM nodup' hfinal' key] at hkey
    exact (Except.ok.inj hkey).symm
  · -- Neither table is read to its end, or each of its keys would be.
    cases hfinal : entries.foldlM set start with
    | ok final => exact absurd (fun key => ⟨_, h.get_foldlM nodup hfinal key⟩) hread
    | error mismatch =>
      cases hfinal' : entries'.foldlM set start with
      | ok final' =>
        exact absurd (fun key => ⟨_, (hagree key).symm.eq_ok (h.get_foldlM nodup' hfinal' key)⟩)
          hread
      | error mismatch' => exact .error mismatch mismatch'

theorem agree_elim {found found' : Option Value} {default : β} {read : Value → Except Mismatch β}
    (h : Option.Rel Value.Same found found')
    (hread : ∀ value value', found = some value → found' = some value' → value.Same value' →
      Agree Eq (read value) (read value')) :
    Agree Eq (found.elim (.ok default) read) (found'.elim (.ok default) read) := by
  cases h with
  | none => exact agree_refl _
  | some hsame => exact hread _ _ rfl rfl hsame

/-- Values that are the same give the same settings, or both are refused. -/
theorem Reads.agree_asTable (h : Reads set read get) {keys : List String} {expected : Expectation}
    {value value' : Value} (hkeys : keys.Nodup) (hdistinct : value.Distinct)
    (hdistinct' : value'.Distinct) (hsame : value.Same value')
    (hread : ∀ key found found', found.Same found' → Agree Eq (read key found) (read key found')) :
    Agree (fun final final' => ∀ key, get final key = get final' key)
      (value.asTable keys expected >>= fun entries => entries.foldlM set start)
      (value'.asTable keys expected >>= fun entries => entries.foldlM set start) := by
  have htables := hsame.asTable keys expected
  generalize hentries : value.asTable keys expected = table at htables
  generalize hentries' : value'.asTable keys expected = table' at htables
  cases htables with
  | error mismatch mismatch' => exact .error mismatch mismatch'
  | ok hlookup =>
    exact h.agree_foldlM (hdistinct.asTable hkeys hentries).nodup
      (hdistinct'.asTable hkeys hentries').nodup fun key =>
        agree_elim (hlookup key) fun found found' _ _ => hread key found found'

/-! ### Readers that know some keys -/

section Knows

variable {keys : List String} {read : String → Value → Except Mismatch (Option β)}
  {get : σ → String → Option β}

/-- A reader of settings that knows some keys. The value under each of them is read into a place of
its own, other keys mean nothing, and the settings are no more than what is in these places. -/
structure Knows (keys : List String) (set : σ → String × Value → Except Mismatch σ)
    (read : String → Value → Except Mismatch (Option β)) (get : σ → String → Option β) : Prop where
  known : ∀ {key}, key ∈ keys → ∀ settings value, Agree (fun after found => get after key = found ∧
    ∀ other, other ≠ key → get after other = get settings other)
    (set settings (key, value)) (read key value)
  set_unknown : ∀ {key}, key ∉ keys → ∀ settings value, set settings (key, value) = .ok settings
  read_unknown : ∀ {key}, key ∉ keys → ∀ value, read key value = .ok none
  get_unknown : ∀ {key}, key ∉ keys → ∀ settings, get settings key = none
  ext : ∀ {settings other}, (∀ key, get settings key = get other key) → settings = other

theorem Knows.reads (h : Knows keys set read get) : Reads set read get := by
  intro settings key value
  by_cases hkey : key ∈ keys
  · exact h.known hkey settings value
  · rw [h.set_unknown hkey, h.read_unknown hkey]
    exact .ok ⟨h.get_unknown hkey settings, fun _ _ => rfl⟩

theorem Knows.elim_unknown (h : Knows keys set read get) {key : String} (hkey : key ∉ keys)
    (found : Option Value) : found.elim (.ok none) (read key) = .ok none := by
  cases found with
  | none => rfl
  | some value => exact h.read_unknown hkey value

/-- Settings that have what is read under each known key are the ones that the entries make. -/
theorem Knows.foldlM_eq_ok (h : Knows keys set read get) (nodup : (entries.map Prod.fst).Nodup)
    {final : σ} (hread : ∀ key ∈ keys,
      (entries.lookup key).elim (.ok (get start key)) (read key) = .ok (get final key)) :
    entries.foldlM set start = .ok final := by
  refine h.reads.foldlM_eq_ok nodup (fun _ _ => h.ext) fun key => ?_
  by_cases hkey : key ∈ keys
  · exact hread key hkey
  · rw [h.get_unknown hkey, h.get_unknown hkey, h.elim_unknown hkey]

/-- Tables from which the same is read under each known key make the same settings, or both fail. -/
theorem Knows.agree_foldlM (h : Knows keys set read get) (nodup : (entries.map Prod.fst).Nodup)
    (nodup' : (entries'.map Prod.fst).Nodup)
    (hagree : ∀ key ∈ keys, Agree Eq ((entries.lookup key).elim (.ok (get start key)) (read key))
      ((entries'.lookup key).elim (.ok (get start key)) (read key))) :
    Agree Eq (entries.foldlM set start) (entries'.foldlM set start) := by
  refine (h.reads.agree_foldlM nodup nodup' fun key => ?_).mono fun _ _ => h.ext
  by_cases hkey : key ∈ keys
  · exact hagree key hkey
  · rw [h.get_unknown hkey, h.elim_unknown hkey, h.elim_unknown hkey]
    exact agree_refl _

end Knows

/-! ### Texts -/

/-- Reads texts under some keys; other keys mean nothing. -/
def readText (keys : List String) (key : String) (value : Value) :
    Except Mismatch (Option String) :=
  if key ∈ keys then do return some (← value.asText .text) else .ok none

/-- The text under a key, if there is one. -/
def text? (entries : List (String × Value)) (key : String) : Option String :=
  match entries.lookup key with
  | some (.string text) => some text
  | _ => none

/-- Where a text stands under a key for texts, if anything does, it is what is read. -/
theorem elim_readText {keys : List String} {key : String} (hkey : key ∈ keys)
    (hstring : ∀ value, entries.lookup key = some value → ∃ text, value = .string text)
    (default : Option String) :
    (entries.lookup key).elim (.ok default) (readText keys key) =
      .ok ((text? entries key).or default) := by
  unfold text?
  cases hvalue : entries.lookup key with
  | none => rfl
  | some value =>
    obtain ⟨text, rfl⟩ := hstring value hvalue
    exact if_pos hkey

theorem agree_readText (keys : List String) (key : String) {value value' : Value}
    (h : value.Same value') : Agree Eq (readText keys key value) (readText keys key value') := by
  unfold readText
  split
  · exact h.asText.bind fun text _ htext => .ok (congrArg some htext)
  · exact agree_refl _

/-- Settings that have the text under each known key, or what stood there at the start, are the ones
that a table of texts makes. -/
theorem Knows.foldlM_texts {keys : List String} {get : σ → String → Option String}
    (h : Knows keys set (readText keys) get) (nodup : (entries.map Prod.fst).Nodup)
    (hstring : ∀ key ∈ keys, ∀ value, entries.lookup key = some value →
      ∃ text, value = .string text)
    {final : σ} (hfinal : ∀ key ∈ keys, get final key = (text? entries key).or (get start key)) :
    entries.foldlM set start = .ok final := by
  refine h.foldlM_eq_ok nodup fun key hkey => ?_
  rw [elim_readText hkey (hstring key hkey), hfinal key hkey]

/-- Values that are the same make the same settings of texts, or both are refused. -/
theorem Knows.agree_texts {keys : List String} {get : σ → String → Option String}
    (h : Knows keys set (readText keys) get) (hkeys : keys.Nodup) {expected : Expectation}
    {value value' : Value} (hdistinct : value.Distinct) (hdistinct' : value'.Distinct)
    (hsame : value.Same value') :
    Agree Eq (value.asTable keys expected >>= fun entries => entries.foldlM set start)
      (value'.asTable keys expected >>= fun entries => entries.foldlM set start) :=
  (h.reads.agree_asTable hkeys hdistinct hdistinct' hsame fun key _ _ =>
    agree_readText keys key).mono fun _ _ => h.ext

end SchemaPolicy.Toml
