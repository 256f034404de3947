import SchemaPolicy.Proofs.Outcome
import SchemaPolicy.Proofs.Path

/-! How paths are followed. `Follows` says what a single step needs and where it leads, and every
fact about walks comes from it. `Kept` says that a tree has all that another one has, so that a walk
leads where it led. -/

namespace SchemaPolicy.FileTree

open Outcome

variable {before after tree : FileTree} {location next : Location} {path : Path}
  {piece : List Char}

theorem check_eq_ok_iff :
    check path = .ok () ↔ path.text.toList ≠ [] ∧ '\x00' ∉ path.text.toList ∧
      Text.byteSize path.text.toList ≤ pathLimit := by
  unfold check
  split
  · next hempty => simp [hempty]
  · next hsome =>
    split
    · next hnul => simp [hnul]
    · next hnone =>
      split
      · next hlong => simp [hlong]
      · next hshort => simp [hsome, hnone, Nat.le_of_not_gt hshort]

/-- A name in a directory can be followed if the directory's path can, but for its length. -/
theorem check_join_eq_ok_iff {dir name : Path} (hname : name.IsName) :
    check (dir.join name) = .ok () ↔ '\x00' ∉ dir.text.toList ∧
      Text.byteSize (dir.join name).text.toList ≤ pathLimit := by
  have hsome : (dir.join name).text.toList ≠ [] := by
    rw [hname.toList_join]
    exact List.append_ne_nil_of_right_ne_nil _ hname.ne_nil
  have hnul : '\x00' ∈ (dir.join name).text.toList ↔ '\x00' ∈ dir.text.toList := by
    rw [hname.toList_join, List.mem_append, Path.mem_lead (by decide), or_iff_left hname.nul]
  rw [check_eq_ok_iff, hnul]
  exact and_iff_right hsome

theorem pass_eq_ok_iff : tree.pass location = .ok () ↔ tree.bar? location = none := by
  unfold pass
  cases tree.bar? location <;> simp

/-! ### Steps -/

/-- A step of a walk: what it needs, and where it leads. A bar on what it leads to is no matter. -/
inductive Follows (tree : FileTree) (location : Location) : List Char → Location → Prop
  | slash (directory : tree.lookup? location = some .directory) : Follows tree location [] location
  | dot (directory : tree.lookup? location = some .directory)
    (free : tree.bar? location = none) : Follows tree location ['.'] location
  | up (directory : tree.lookup? location = some .directory)
    (free : tree.bar? location = none) : Follows tree location ['.', '.'] location.dropLast
  | name {piece : List Char} (directory : tree.lookup? location = some .directory)
    (free : tree.bar? location = none) (idle : ¬Path.isIdle piece) (up : piece ≠ ['.', '.'])
    (size : Text.byteSize piece ≤ nameLimit)
    (present : (tree.lookup? (location ++ [piece])).isSome) :
    Follows tree location piece (location ++ [piece])

theorem Follows.directory (h : tree.Follows location piece next) :
    tree.lookup? location = some .directory := by
  cases h <;> assumption

/-- Only a slash goes by without a look into the directory. -/
theorem Follows.free (h : tree.Follows location piece next) (hpiece : piece ≠ []) :
    tree.bar? location = none := by
  cases h with
  | slash directory => contradiction
  | dot directory free | up directory free | name directory free => exact free

theorem follow_of_directory (hdirectory : tree.lookup? location = some .directory) :
    tree.follow location piece =
      if piece = [] then .ok location
      else tree.pass location >>= fun _ => tree.enter location piece := by
  rw [follow, hdirectory]

theorem enter_eq_ok_iff :
    tree.enter location piece = .ok next ↔
      Path.isIdle piece ∧ location = next ∨ piece = ['.', '.'] ∧ location.dropLast = next ∨
        (¬Path.isIdle piece ∧ piece ≠ ['.', '.'] ∧ Text.byteSize piece ≤ nameLimit ∧
          (tree.lookup? (location ++ [piece])).isSome) ∧ location ++ [piece] = next := by
  unfold enter
  by_cases hidle : Path.isIdle piece
  · have hup : piece ≠ ['.', '.'] := by
      rintro rfl
      contradiction
    simp [hidle, hup]
  · by_cases hup : piece = ['.', '.']
    · simp [hup, show Path.isIdle ['.', '.'] = false from rfl]
    · by_cases hsize : Text.byteSize piece > nameLimit
      · simp [hidle, hup, hsize, Nat.not_le.mpr hsize]
      · by_cases hpresent : (tree.lookup? (location ++ [piece])).isSome
        · simp [hidle, hup, hsize, hpresent, Nat.le_of_not_gt hsize]
        · simp [hidle, hup, hsize, hpresent]

theorem follow_eq_ok_iff :
    tree.follow location piece = .ok next ↔ tree.Follows location piece next := by
  constructor
  · intro h
    have hdirectory : tree.lookup? location = some .directory := by
      unfold follow at h
      split at h
      · assumption
      · contradiction
    rw [follow_of_directory hdirectory] at h
    split at h
    · next hslash =>
      obtain rfl := Except.ok.inj h
      subst hslash
      exact .slash hdirectory
    · next hpiece =>
      obtain ⟨_, hpass, henter⟩ := bind_eq_ok_iff.mp h
      have hfree := pass_eq_ok_iff.mp hpass
      rcases enter_eq_ok_iff.mp henter with ⟨hidle, rfl⟩ | ⟨rfl, rfl⟩ | ⟨hname, rfl⟩
      · -- Of the two idle pieces the empty one is settled above.
        obtain rfl : piece = ['.'] := by simpa [Path.isIdle, hpiece] using hidle
        exact .dot hdirectory hfree
      · exact .up hdirectory hfree
      · exact .name hdirectory hfree hname.1 hname.2.1 hname.2.2.1 hname.2.2.2
  · intro h
    rw [follow_of_directory h.directory]
    cases h with
    | slash directory => rfl
    | dot directory free | up directory free =>
      rw [if_neg (by simp), pass_eq_ok_iff.mpr free]
      rfl
    | name directory free idle up size present =>
      rw [if_neg (by rintro rfl; exact idle rfl), pass_eq_ok_iff.mpr free]
      exact enter_eq_ok_iff.mpr (.inr (.inr ⟨⟨idle, up, size, present⟩, rfl⟩))

/-- A step leads to the same place in another tree that has the directory, as free as it was, and
something in that place. -/
theorem Follows.congr (h : before.Follows location piece next)
    (hdirectory : after.lookup? location = some .directory)
    (hfree : before.bar? location = none → after.bar? location = none)
    (hpresent : (before.lookup? next).isSome → (after.lookup? next).isSome) :
    after.Follows location piece next := by
  cases h with
  | slash directory => exact .slash hdirectory
  | dot directory free => exact .dot hdirectory (hfree free)
  | up directory free => exact .up hdirectory (hfree free)
  | name directory free idle up size present =>
    exact .name hdirectory (hfree free) idle up size (hpresent present)

/-! ### Walks -/

/-- A path leads to what its last piece leads to from where the others lead. -/
theorem locate_eq_ok_iff {front : List (List Char)} {last : List Char}
    (hpieces : Path.pieces path.text.toList = front ++ [last]) :
    tree.locate path = .ok location ↔ check path = .ok () ∧
      ∃ parent, front.foldlM tree.follow (tree.start path) = .ok parent ∧
        tree.Follows parent last location := by
  simp only [locate, bind_eq_ok_iff, hpieces, List.foldlM_append, List.foldlM_cons, List.foldlM_nil,
    pure_eq_ok_iff, exists_eq_right, follow_eq_ok_iff]
  exact ⟨fun ⟨_, hcheck, h⟩ => ⟨hcheck, h⟩, fun ⟨hcheck, h⟩ => ⟨(), hcheck, h⟩⟩

/-- A tree has all directories of another one, and something wherever that has something; nothing is
barred that was not. -/
structure Kept (before after : FileTree) : Prop where
  workingDir : after.workingDir = before.workingDir
  directory : ∀ {location}, before.lookup? location = some .directory →
    after.lookup? location = some .directory
  present : ∀ {location}, (before.lookup? location).isSome → (after.lookup? location).isSome
  free : ∀ {location}, before.bar? location = none → after.bar? location = none

theorem Kept.follows (hkept : Kept before after) (h : before.Follows location piece next) :
    after.Follows location piece next :=
  h.congr (hkept.directory h.directory) hkept.free hkept.present

theorem Kept.foldlM_follow (hkept : Kept before after) {pieces : List (List Char)}
    (h : pieces.foldlM before.follow location = .ok next) :
    pieces.foldlM after.follow location = .ok next := by
  induction pieces generalizing location with
  | nil => exact h
  | cons piece pieces ih =>
    rw [List.foldlM_cons, bind_eq_ok_iff] at h
    obtain ⟨middle, hpiece, hrest⟩ := h
    rw [List.foldlM_cons, follow_eq_ok_iff.mpr (hkept.follows (follow_eq_ok_iff.mp hpiece))]
    exact ih hrest

theorem Kept.start (hkept : Kept before after) (path : Path) :
    after.start path = before.start path := by
  rw [FileTree.start, FileTree.start, hkept.workingDir]

/-- A path leads where it led. -/
theorem Kept.locate (hkept : Kept before after) (h : before.locate path = .ok location) :
    after.locate path = .ok location := by
  obtain ⟨_, hcheck, hwalk⟩ := bind_eq_ok_iff.mp h
  refine bind_eq_ok_iff.mpr ⟨_, hcheck, ?_⟩
  rw [hkept.start]
  exact hkept.foldlM_follow hwalk

/-! ### What stands at the end of a path -/

theorem entryAt_eq_ok_iff {entry : Entry} :
    tree.entryAt path = .ok entry ↔
      ∃ location, tree.locate path = .ok location ∧ tree.lookup? location = some entry := by
  rw [entryAt, bind_eq_ok_iff]
  refine exists_congr fun location => and_congr_right fun _ => ?_
  cases tree.lookup? location with
  | none => exact ⟨nofun, nofun⟩
  | some found => exact pure_eq_ok_iff.trans (Option.some.injEq found entry ▸ Iff.rfl)

theorem find_eq_ok_iff {entry : Entry} :
    tree.find path = .ok entry ↔
      ∃ location, tree.locate path = .ok location ∧ tree.lookup? location = some entry ∧
        tree.bar? location = none := by
  simp only [find, bind_eq_ok_iff, entryAt_eq_ok_iff, pure_eq_ok_iff]
  constructor
  · rintro ⟨_, ⟨location, hlocate, hlookup⟩, _, hplace, _, hpass, rfl⟩
    obtain rfl := Except.ok.inj (hlocate.symm.trans hplace)
    exact ⟨location, hlocate, hlookup, pass_eq_ok_iff.mp hpass⟩
  · rintro ⟨location, hlocate, hlookup, hfree⟩
    exact ⟨entry, ⟨location, hlocate, hlookup⟩, location, hlocate, (), pass_eq_ok_iff.mpr hfree,
      rfl⟩

/-- What is barred cannot be opened, and what is said of it is the answer. -/
theorem find_of_bar? {entry : Entry} {reason : String} (hlocate : tree.locate path = .ok location)
    (hlookup : tree.lookup? location = some entry) (hbar : tree.bar? location = some reason) :
    tree.find path = .error (.other reason) := by
  have hentry := entryAt_eq_ok_iff.mpr ⟨location, hlocate, hlookup⟩
  have hpass : tree.pass location = .error (.other reason) := by rw [pass, hbar]
  rw [find, hentry, hlocate]
  exact bind_eq_error_iff.mpr (.inr ⟨entry, rfl,
    bind_eq_error_iff.mpr (.inr ⟨location, rfl, bind_eq_error_iff.mpr (.inl hpass)⟩)⟩)

/-- What can be opened is there. -/
theorem entryAt_of_find {entry : Entry} (h : tree.find path = .ok entry) :
    tree.entryAt path = .ok entry := by
  obtain ⟨location, hlocate, hlookup, -⟩ := find_eq_ok_iff.mp h
  exact entryAt_eq_ok_iff.mpr ⟨location, hlocate, hlookup⟩

theorem isPresent_eq_true_iff :
    tree.isPresent path = true ↔ ∃ entry, tree.entryAt path = .ok entry := by
  unfold isPresent
  cases tree.entryAt path <;> simp

theorem isFile_eq_true_iff :
    tree.isFile path = true ↔ ∃ content, tree.entryAt path = .ok (.file content) := by
  unfold isFile
  split
  · next content hentry => simp [hentry]
  · next hnone =>
    simp only [Bool.false_eq_true, false_iff, not_exists]
    exact hnone

theorem isPresent_of_isFile (h : tree.isFile path = true) : tree.isPresent path = true := by
  obtain ⟨content, hentry⟩ := isFile_eq_true_iff.mp h
  exact isPresent_eq_true_iff.mpr ⟨_, hentry⟩

theorem isFile_of_find {content : Content} (h : tree.find path = .ok (.file content)) :
    tree.isFile path = true :=
  isFile_eq_true_iff.mpr ⟨content, entryAt_of_find h⟩

end SchemaPolicy.FileTree
