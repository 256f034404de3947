import Mathlib.Data.List.Nodup
import SchemaPolicy.Proofs.Reader
import SchemaPolicy.Toml.Parser

/-! The keys of a TOML document are distinct, in every table of it. Nothing is added to a table that
has its key already, however a document is put together. -/

namespace SchemaPolicy.Toml

/-- Entries with distinct keys, whose values have some property. -/
structure Keyed {α : Type} (P : α → Prop) (entries : List (String × α)) : Prop where
  nodup : (entries.map Prod.fst).Nodup
  values : ∀ entry ∈ entries, P entry.2

/-- Every table in the value has distinct keys. -/
inductive Value.Distinct : Value → Prop
  | string (text : String) : Distinct (.string text)
  | integer (value : Int) : Distinct (.integer value)
  | float (value : Float) : Distinct (.float value)
  | boolean (value : Bool) : Distinct (.boolean value)
  | dateTime : Distinct .dateTime
  | array {items : List Value} (inner : ∀ item ∈ items, Distinct item) : Distinct (.array items)
  | table {entries : List (String × Value)} (nodup : (entries.map Prod.fst).Nodup)
    (inner : ∀ entry ∈ entries, Distinct entry.2) : Distinct (.table entries)

theorem Value.Distinct.nodup {entries : List (String × Value)}
    (h : (Value.table entries).Distinct) :
    (entries.map Prod.fst).Nodup := by
  cases h with
  | table nodup inner => exact nodup

/-- Every table in what is made so far has distinct keys. -/
inductive Node.Distinct : Node → Prop
  | leaf {value : Value} (inner : value.Distinct) : Distinct (.leaf value)
  | table {origin : Origin} {entries : Entries} (nodup : (entries.map Prod.fst).Nodup)
    (inner : ∀ entry ∈ entries, Distinct entry.2) : Distinct (.table origin entries)
  | tables {items : List Entries} (nodup : ∀ entries ∈ items, (entries.map Prod.fst).Nodup)
    (inner : ∀ entries ∈ items, ∀ entry ∈ entries, Distinct entry.2) : Distinct (.tables items)

theorem Node.distinct_table_iff {origin : Origin} {entries : Entries} :
    (Node.table origin entries).Distinct ↔ Keyed Node.Distinct entries := by
  constructor
  · rintro (_ | ⟨nodup, inner⟩)
    exact ⟨nodup, inner⟩
  · exact fun h => .table h.nodup h.values

theorem Node.distinct_tables_iff {items : List Entries} :
    (Node.tables items).Distinct ↔ ∀ entries ∈ items, Keyed Node.Distinct entries := by
  constructor
  · rintro (_ | _ | ⟨nodup, inner⟩) entries hentries
    exact ⟨nodup entries hentries, inner entries hentries⟩
  · exact fun h => .tables (fun entries hentries => (h entries hentries).nodup)
      fun entries hentries => (h entries hentries).values

/-! ### Tables in the making -/

namespace Entries

variable {entries : Entries} {key : String} {node : Node}

theorem node?_eq_none_iff : entries.node? key = none ↔ key ∉ entries.map Prod.fst := by
  rw [node?, Option.map_eq_none_iff, List.find?_eq_none]
  constructor
  · intro h hkey
    obtain ⟨entry, hentry, rfl⟩ := List.mem_map.mp hkey
    exact h entry hentry (decide_eq_true rfl)
  · exact fun h entry hentry hkey =>
      h (List.mem_map.mpr ⟨entry, hentry, of_decide_eq_true hkey⟩)

theorem mem_of_node?_eq_some (h : entries.node? key = some node) : (key, node) ∈ entries := by
  obtain ⟨entry, hfind, rfl⟩ := Option.map_eq_some_iff.mp h
  have hkey := List.find?_some hfind
  simp only [decide_eq_true_eq] at hkey
  rw [← hkey]
  exact List.mem_of_find?_eq_some hfind

theorem distinct_of_node? (h : Keyed Node.Distinct entries)
    (hnode : entries.node? key = some node) :
    node.Distinct :=
  h.values _ (mem_of_node?_eq_some hnode)

theorem keyed_nil : Keyed Node.Distinct ([] : Entries) := ⟨List.nodup_nil, nofun⟩

theorem keyed_push (h : Keyed Node.Distinct entries) (hkey : entries.node? key = none)
    (hnode : node.Distinct) : Keyed Node.Distinct (entries.push key node) := by
  refine ⟨?_, ?_⟩
  · rw [push, List.map_append, List.map_singleton]
    exact List.concat_eq_append ▸ h.nodup.concat (node?_eq_none_iff.mp hkey)
  · intro entry hentry
    rcases List.mem_append.mp hentry with hold | hnew
    · exact h.values entry hold
    · rw [List.mem_singleton.mp hnew]
      exact hnode

theorem keyed_replace (h : Keyed Node.Distinct entries) (hnode : node.Distinct) :
    Keyed Node.Distinct (entries.replace key node) := by
  have hkeys : (entries.replace key node).map Prod.fst = entries.map Prod.fst := by
    rw [replace, List.map_map]
    refine List.map_congr_left fun entry _ => ?_
    rw [Function.comp_apply]
    split
    · next hkey => exact hkey.symm
    · rfl
  refine ⟨hkeys ▸ h.nodup, fun entry hentry => ?_⟩
  obtain ⟨old, hold, rfl⟩ := List.mem_map.mp hentry
  split
  · exact hnode
  · exact h.values old hold

theorem keyed_remove (h : Keyed Node.Distinct entries) :
    Keyed Node.Distinct (entries.remove key) :=
  ⟨h.nodup.sublist (List.filter_sublist.map _), fun entry hentry =>
    h.values entry (List.mem_filter.mp hentry).1⟩

theorem node?_remove (entries : Entries) (key : String) :
    (entries.remove key).node? key = none := by
  simp [node?, remove]

/-- A table of an array of tables is changed. -/
theorem distinct_tables_concat {items : List Entries} {last : Entries}
    (h : (Node.tables items).Distinct) (hlast : Keyed Node.Distinct last) :
    (Node.tables (items.dropLast ++ [last])).Distinct := by
  rw [Node.distinct_tables_iff] at h ⊢
  intro entries hentries
  rcases List.mem_append.mp hentries with hold | hnew
  · exact h entries (List.dropLast_subset _ hold)
  · exact List.mem_singleton.mp hnew ▸ hlast

theorem keyed_getLast {items : List Entries} {last : Entries} (h : (Node.tables items).Distinct)
    (hlast : items.getLast? = some last) : Keyed Node.Distinct last :=
  Node.distinct_tables_iff.mp h last (List.mem_of_getLast? hlast)

/-- A change, where it can be made, leaves keys distinct. -/
def Keeps (change : Entries → Option Entries) : Prop :=
  ∀ ⦃entries after⦄, Keyed Node.Distinct entries → change entries = some after →
    Keyed Node.Distinct after

theorem keyed_putAt {value : Value} (hvalue : value.Distinct) (path : List String) (isOpen : Bool) :
    Keeps (putAt key value path isOpen) := by
  induction path generalizing isOpen with
  | nil =>
    intro entries after h hafter
    rw [putAt] at hafter
    split at hafter
    · next hfree =>
      obtain rfl := Option.some.inj hafter
      rw [Bool.and_eq_true, Option.isNone_iff_eq_none] at hfree
      exact keyed_push h hfree.2 (.leaf hvalue)
    · contradiction
  | cons step path ih =>
    intro entries after h hafter
    rw [putAt] at hafter
    split at hafter
    · next hstep =>
      obtain ⟨inner, hinner, hafter⟩ := Option.bind_eq_some_iff.mp hafter
      obtain rfl := Option.some.inj hafter
      exact keyed_push h hstep (Node.distinct_table_iff.mpr (ih true keyed_nil hinner))
    · contradiction
    · next origin inner hstep =>
      obtain ⟨changed, hchanged, hafter⟩ := Option.bind_eq_some_iff.mp hafter
      obtain rfl := Option.some.inj hafter
      have hold := Node.distinct_table_iff.mp (distinct_of_node? h hstep)
      exact keyed_replace h (Node.distinct_table_iff.mpr (ih _ hold hchanged))
    · next items hstep =>
      obtain ⟨last, hlast, hafter⟩ := Option.bind_eq_some_iff.mp hafter
      obtain ⟨changed, hchanged, hafter⟩ := Option.bind_eq_some_iff.mp hafter
      obtain rfl := Option.some.inj hafter
      have hold := distinct_of_node? h hstep
      exact keyed_replace h (distinct_tables_concat hold (ih _ (keyed_getLast hold hlast) hchanged))
    · contradiction

theorem keyed_within {change : Entries → Option Entries} (hchange : Keeps change)
    (path : List String) : Keeps (within change path) := by
  induction path with
  | nil => exact hchange
  | cons step path ih =>
    intro entries after h hafter
    rw [within] at hafter
    split at hafter
    · next hstep =>
      obtain ⟨inner, hinner, hafter⟩ := Option.bind_eq_some_iff.mp hafter
      obtain rfl := Option.some.inj hafter
      exact keyed_push h hstep (Node.distinct_table_iff.mpr (ih keyed_nil hinner))
    · next origin inner hstep =>
      obtain ⟨changed, hchanged, hafter⟩ := Option.bind_eq_some_iff.mp hafter
      obtain rfl := Option.some.inj hafter
      have hold := Node.distinct_table_iff.mp (distinct_of_node? h hstep)
      exact keyed_replace h (Node.distinct_table_iff.mpr (ih hold hchanged))
    · next items hstep =>
      obtain ⟨last, hlast, hafter⟩ := Option.bind_eq_some_iff.mp hafter
      obtain ⟨changed, hchanged, hafter⟩ := Option.bind_eq_some_iff.mp hafter
      obtain rfl := Option.some.inj hafter
      have hold := distinct_of_node? h hstep
      exact keyed_replace h (distinct_tables_concat hold (ih (keyed_getLast hold hlast) hchanged))
    · contradiction

theorem keyed_openTable {fill : Entries → Option Entries} (hfill : Keeps fill) :
    Keeps (openTable key fill) := by
  intro entries after h hafter
  rw [openTable] at hafter
  split at hafter
  · next hkey =>
    obtain ⟨inner, hinner, hafter⟩ := Option.bind_eq_some_iff.mp hafter
    obtain rfl := Option.some.inj hafter
    exact keyed_push h hkey (Node.distinct_table_iff.mpr (hfill keyed_nil hinner))
  · next inner hkey =>
    obtain ⟨filled, hfilled, hafter⟩ := Option.bind_eq_some_iff.mp hafter
    obtain rfl := Option.some.inj hafter
    have hold := Node.distinct_table_iff.mp (distinct_of_node? h hkey)
    exact keyed_push (keyed_remove h) (node?_remove entries key)
      (Node.distinct_table_iff.mpr (hfill hold hfilled))
  · contradiction

theorem keyed_openItem {fill : Entries → Option Entries} (hfill : Keeps fill) :
    Keeps (openItem key fill) := by
  intro entries after h hafter
  rw [openItem] at hafter
  split at hafter
  · next hkey =>
    obtain ⟨item, hitem, hafter⟩ := Option.bind_eq_some_iff.mp hafter
    obtain rfl := Option.some.inj hafter
    have hnew := hfill keyed_nil hitem
    exact keyed_push h hkey (Node.distinct_tables_iff.mpr fun _ hmem =>
      List.mem_singleton.mp hmem ▸ hnew)
  · next items hkey =>
    obtain ⟨item, hitem, hafter⟩ := Option.bind_eq_some_iff.mp hafter
    obtain rfl := Option.some.inj hafter
    have hold := Node.distinct_tables_iff.mp (distinct_of_node? h hkey)
    have hnew := hfill keyed_nil hitem
    refine keyed_replace h (Node.distinct_tables_iff.mpr fun other hmem => ?_)
    rcases List.mem_append.mp hmem with hother | hitem'
    · exact hold other hother
    · exact List.mem_singleton.mp hitem' ▸ hnew
  · contradiction

theorem keyed_foldlM {α : Type} {change : Entries → α → Option Entries} {parts : List α}
    (h : ∀ part ∈ parts, Keeps fun entries => change entries part) :
    Keeps (parts.foldlM change) := by
  induction parts with
  | nil =>
    intro entries after hentries hafter
    exact Option.some.inj hafter ▸ hentries
  | cons part others ih =>
    intro entries after hentries hafter
    obtain ⟨hpart, hothers⟩ := List.forall_mem_cons.mp h
    obtain ⟨middle, hmiddle, hafter⟩ := Option.bind_eq_some_iff.mp hafter
    exact ih hothers (hpart hentries hmiddle) hafter

end Entries

theorem Reader.keyed_addAll {assignments : List (List String × String × Value)}
    (h : ∀ assignment ∈ assignments, assignment.2.2.Distinct) :
    Entries.Keeps (addAll assignments) :=
  Entries.keyed_foldlM fun assignment hassignment =>
    Entries.keyed_putAt (h assignment hassignment) _ _

theorem Header.keyed_apply (header : Header) {assignments : List (List String × String × Value)}
    (h : ∀ assignment ∈ assignments, assignment.2.2.Distinct) :
    Entries.Keeps (header.apply assignments) := by
  have hfill := Reader.keyed_addAll h
  intro entries after hentries hafter
  unfold apply at hafter
  split at hafter
  · exact Entries.keyed_within (Entries.keyed_openTable hfill) _ hentries hafter
  · exact Entries.keyed_within (Entries.keyed_openItem hfill) _ hentries hafter

/-! ### The values that tables stand for -/

theorem Node.values_eq_map (entries : Entries) :
    Node.values entries = entries.map fun entry => (entry.1, entry.2.value) := by
  induction entries with
  | nil => rw [Node.values, List.map_nil]
  | cons entry entries ih =>
    obtain ⟨key, node⟩ := entry
    rw [Node.values, ih, List.map_cons]

theorem Node.tableValues_eq_map (items : List Entries) :
    Node.tableValues items = items.map fun entries => .table (Node.values entries) := by
  induction items with
  | nil => rw [Node.tableValues, List.map_nil]
  | cons entries items ih => rw [Node.tableValues, ih, List.map_cons]

theorem Node.keyed_values {entries : Entries} (nodup : (entries.map Prod.fst).Nodup)
    (inner : ∀ entry ∈ entries, entry.2.value.Distinct) :
    Keyed Value.Distinct (Node.values entries) := by
  rw [Node.values_eq_map]
  refine ⟨?_, ?_⟩
  · rw [List.map_map]
    exact nodup
  · intro entry hentry
    obtain ⟨old, hold, rfl⟩ := List.mem_map.mp hentry
    exact inner old hold

theorem Node.Distinct.value {node : Node} (h : node.Distinct) : node.value.Distinct := by
  induction h with
  | leaf inner =>
    rw [Node.value]
    exact inner
  | table nodup _ ih =>
    rw [Node.value]
    have hvalues := Node.keyed_values nodup ih
    exact .table hvalues.nodup hvalues.values
  | tables nodup _ ih =>
    rw [Node.value, Node.tableValues_eq_map]
    refine .array fun item hitem => ?_
    obtain ⟨entries, hentries, rfl⟩ := List.mem_map.mp hitem
    have hvalues := Node.keyed_values (nodup entries hentries) (ih entries hentries)
    exact .table hvalues.nodup hvalues.values

theorem Keyed.values_of_nodes {entries : Entries} (h : Keyed Node.Distinct entries) :
    Keyed Value.Distinct (Node.values entries) :=
  Node.keyed_values h.nodup fun entry hentry => (h.values entry hentry).value

/-! ### Reading -/

namespace Reader

open SchemaPolicy.Reader

theorem yields_dateTime : DateTime.any.Yields Value.Distinct := by
  refine .after fun found? => ?_
  cases found? with
  | none => exact .after fun _ => .pure .dateTime
  | some _ => exact .after fun _ => .pure .dateTime

theorem yields_decimal : Number.decimal.Yields Value.Distinct :=
  .after fun _ => .after fun _ => .after fun _ => .after fun _ => .after fun _ => .pure (.float _)

theorem yields_special : Number.special.Yields Value.Distinct := by
  refine .after fun negative => .after fun next? => ?_
  split
  · exact .after fun _ => .pure (.float _)
  · exact .after fun _ => .pure (.float _)

theorem yields_integer : Number.integer.Yields Value.Distinct := by
  have hbounded : ∀ value, (Number.bounded value).Yields Value.Distinct :=
    fun value => .after fun _ => .pure (.integer value)
  have hbase : ∀ mark base isDigit, (Number.inBase mark base isDigit).Yields Value.Distinct :=
    fun _ _ _ => .after fun _ => .after fun _ => .after fun _ => hbounded _
  refine .after fun s => ?_
  split
  · exact hbase _ _ _
  · exact hbase _ _ _
  · exact hbase _ _ _
  · exact .after fun _ => hbounded _

theorem yields_numeric : numeric.Yields Value.Distinct := by
  refine .bind (.optional yields_dateTime) fun found? hfound? => ?_
  cases found? with
  | some found => exact .pure (hfound? found rfl)
  | none =>
    refine .bind (.optional yields_decimal) fun found? hfound? => ?_
    cases found? with
    | some found => exact .pure (hfound? found rfl)
    | none =>
      refine .bind (.optional yields_special) fun found? hfound? => ?_
      cases found? with
      | some found => exact .pure (hfound? found rfl)
      | none => exact yields_integer

theorem yields_scalar : scalar.Yields Value.Distinct := by
  unfold scalar
  refine .after fun next? => ?_
  split
  · exact .after fun body => .pure (.string _)
  · exact .after fun body => .pure (.string _)
  · exact .after fun _ => .pure (.boolean true)
  · exact .after fun _ => .pure (.boolean false)
  · exact yields_numeric

variable {item : Reader Value}

theorem yields_arrayItems (h : item.Yields Value.Distinct) :
    (arrayItems item).Yields fun items => ∀ value ∈ items, value.Distinct := by
  unfold arrayItems
  refine .after fun _ => .bind (.repeatWhile (.after fun next? => .ite (.pure nofun) ?_))
    fun items hitems => .after fun _ => .pure hitems
  refine .bind h fun value hvalue => .after fun _ => .after fun _ => ?_
  have hpure : (pure (some value) : Reader (Option Value)).Yields
      fun found? => ∀ found ∈ found?, found.Distinct := .pure fun _ hfound =>
    Option.some.inj hfound ▸ hvalue
  exact .ite (.after fun _ => hpure) (.after fun _ => .after fun _ => hpure)

theorem yields_assignment (h : item.Yields Value.Distinct) :
    (assignment item).Yields fun found => found.2.2.Distinct :=
  .after fun _ => .after fun _ => .after fun _ => .bind h fun _ hvalue => .pure hvalue

theorem yields_inlineEntries (h : item.Yields Value.Distinct) :
    (inlineEntries item).Yields (Keyed Value.Distinct) := by
  let member : Reader (List String × String × Value) := do
    let found ← assignment item
    spaces
    return found
  have hmember : member.Yields fun found => found.2.2.Distinct :=
    .bind (yields_assignment h) fun found hfound => .after fun _ => .pure hfound
  have hothers : (repeatWhile do
      if ← accept ',' then return some (← member) else return none).Yields
        fun others => ∀ found ∈ others, found.2.2.Distinct :=
    .repeatWhile (.after fun _ => .ite (.bind hmember fun found hfound => .pure fun _ hmem =>
      Option.some.inj hmem ▸ hfound) (.pure nofun))
  unfold inlineEntries
  refine .after fun _ => .after fun _ => .ite (.pure ⟨List.nodup_nil, nofun⟩) ?_
  refine .bind hmember fun first hfirst => .bind hothers fun others hothers => .after fun _ =>
    .bind (P := Keyed Node.Distinct) ?_ fun entries hentries => .pure hentries.values_of_nodes
  intro s entries rest hentries
  obtain ⟨found, hfound, hrest⟩ := Option.map_eq_some_iff.mp hentries
  obtain ⟨rfl, -⟩ := Prod.mk.inj hrest
  exact keyed_addAll (List.forall_mem_cons.mpr ⟨hfirst, hothers⟩) Entries.keyed_nil hfound

theorem yields_value (depth : Nat) : (value depth).Yields Value.Distinct := by
  induction depth with
  | zero => exact yields_scalar
  | succ depth ih =>
    refine .after fun _ => .ite ?_ (.after fun _ => .ite ?_ yields_scalar)
    · exact .bind (yields_arrayItems ih) fun items hitems => .pure (.array hitems)
    · exact .bind (yields_inlineEntries ih) fun entries hentries =>
        .pure (.table hentries.nodup hentries.values)

end Reader

/-- Whether the value that a line assigns, if it does, has distinct keys. -/
def Line.Distinct : Line → Prop
  | .header _ => True
  | .assignment _ _ value => value.Distinct

namespace Reader

open SchemaPolicy.Reader

theorem yields_line : line.Yields fun found? => ∀ found ∈ found?, found.Distinct := by
  unfold line
  refine .after fun next? => ?_
  split
  · exact .after fun _ => .pure nofun
  · exact .after fun _ => .pure nofun
  · exact .after fun _ => .pure nofun
  · exact .after fun header => .after fun _ => .pure fun _ hmem => Option.some.inj hmem ▸ trivial
  · exact .bind (yields_assignment (yields_value _)) fun found hfound => .after fun _ =>
      .pure fun _ hmem => Option.some.inj hmem ▸ hfound

theorem yields_lines : lines.Yields fun found => ∀ line ∈ found, line.Distinct := by
  have hfound : (repeatWhile do
      if (← peek).isNone then return none
      let found ← line
      spaces
      return some found).Yields fun found => ∀ found? ∈ found, ∀ line ∈ found?, line.Distinct :=
    .repeatWhile (.after fun _ => .ite (.pure nofun) (.bind yields_line fun found hfound =>
      .after fun _ => .pure fun _ hmem => Option.some.inj hmem ▸ hfound))
  refine .after fun _ => .after fun _ => .bind hfound fun found hfound => .pure fun line hline => ?_
  obtain ⟨found?, hfound?, rfl⟩ := List.mem_filterMap.mp hline
  exact hfound _ hfound? line rfl

end Reader

theorem distinct_sections {found : List Line} (h : ∀ line ∈ found, line.Distinct) :
    (∀ assignment ∈ (sections found).1, assignment.2.2.Distinct) ∧
      ∀ below ∈ (sections found).2, ∀ assignment ∈ below.2, assignment.2.2.Distinct := by
  induction found with
  | nil => exact ⟨nofun, nofun⟩
  | cons line others ih =>
    obtain ⟨hline, hothers⟩ := List.forall_mem_cons.mp h
    obtain ⟨habove, hbelow⟩ := ih hothers
    cases line with
    | header header => exact ⟨nofun, List.forall_mem_cons.mpr ⟨habove, hbelow⟩⟩
    | assignment path last value => exact ⟨List.forall_mem_cons.mpr ⟨hline, habove⟩, hbelow⟩

/-- The keys of a document are distinct, in every table of it. -/
theorem keyed_ofText? {text : String} {entries : List (String × Value)}
    (h : ofText? text = some entries) : Keyed Value.Distinct entries := by
  obtain ⟨⟨found, rest⟩, hlines, h⟩ := Option.bind_eq_some_iff.mp h
  obtain ⟨root, hroot, h⟩ := Option.bind_eq_some_iff.mp h
  obtain ⟨made, hmade, h⟩ := Option.bind_eq_some_iff.mp h
  obtain rfl := Option.some.inj h
  obtain ⟨habove, hbelow⟩ := distinct_sections (Reader.yields_lines _ _ _ hlines)
  have hroot := Reader.keyed_addAll habove Entries.keyed_nil hroot
  have hmade := Entries.keyed_foldlM (fun part hpart => part.1.keyed_apply (hbelow part hpart))
    hroot hmade
  exact hmade.values_of_nodes

end SchemaPolicy.Toml
