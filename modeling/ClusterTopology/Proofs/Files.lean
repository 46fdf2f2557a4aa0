import ClusterTopology.Files
import ClusterTopology.Proofs.Outcome
import ClusterTopology.Proofs.Table
import ClusterTopology.Proofs.Text.Parts

/-!
Paths through a tree of files. Which folder holds the last name of a path depends only on the folders
of the tree, so a file that was written or moved there is found again under the same path.
-/

namespace ClusterTopology

namespace Files

variable {files other : Files}

theorem holdsFolder_congr (same : files.folders = other.folders) (location : Location) :
    files.holdsFolder location = other.holdsFolder location := by
  unfold holdsFolder
  rw [same]

theorem holdsFolder_of_follow {location next : Location} {name : Text}
    (followed : files.follow location name = .ok next) : files.holdsFolder location = true := by
  cases folder : files.holdsFolder location with
  | true => rfl
  | false =>
    simp only [follow, folder] at followed
    exact absurd followed (by simp)

theorem follow_congr (same : files.folders = other.folders) {location next : Location} {name : Text}
    (followed : files.follow location name = .ok next)
    (there : files.holdsFolder next = true ∨ (other.contents? next).isSome = true) :
    other.follow location name = .ok next := by
  have start := holdsFolder_of_follow followed
  unfold follow at followed ⊢
  simp only [← holdsFolder_congr same, start, Bool.not_true, Bool.false_eq_true, ↓reduceIte]
    at followed ⊢
  by_cases long : Path.nameLimit < Path.byteLength name
  · simp only [long, ↓reduceIte] at followed
    exact absurd followed (by simp)
  by_cases here : name = Path.here
  · simpa only [long, here, ↓reduceIte] using followed
  by_cases above : name = Path.above
  · simpa only [long, here, above, ↓reduceIte] using followed
  simp only [long, here, above, ↓reduceIte] at followed ⊢
  split at followed
  · obtain rfl := Except.ok.inj followed
    rw [if_pos (Bool.or_eq_true_iff.mpr there)]
  · exact absurd followed (by simp)

theorem followAll_cons_eq_ok {location last : Location} {name : Text} {names : List Text} :
    files.followAll location (name :: names) = .ok last ↔
      ∃ next, files.follow location name = .ok next ∧ files.followAll next names = .ok last := by
  constructor
  · exact exists_of_bind_eq_ok
  · rintro ⟨next, followed, rest⟩
    simp only [followAll, followed, bind, Except.bind, rest]

theorem followAll_congr (same : files.folders = other.folders) {location last : Location}
    {names : List Text} (followed : files.followAll location names = .ok last)
    (there : files.holdsFolder last = true ∨ (other.contents? last).isSome = true) :
    other.followAll location names = .ok last := by
  induction names generalizing location with
  | nil => exact followed
  | cons name names ih =>
    obtain ⟨next, first, rest⟩ := followAll_cons_eq_ok.mp followed
    have thereNext : files.holdsFolder next = true ∨ (other.contents? next).isSome = true := by
      cases names with
      | nil =>
        obtain rfl : next = last := Except.ok.inj rest
        exact there
      | cons second names =>
        obtain ⟨_, followedSecond, _⟩ := followAll_cons_eq_ok.mp rest
        exact Or.inl (holdsFolder_of_follow followedSecond)
    exact followAll_cons_eq_ok.mpr ⟨next, follow_congr same first thereNext, ih rest⟩

theorem followAll_concat_eq_ok {location last : Location} {names : List Text} {name : Text} :
    files.followAll location (names ++ [name]) = .ok last ↔
      ∃ folder, files.followAll location names = .ok folder
        ∧ files.follow folder name = .ok last := by
  induction names generalizing location with
  | nil =>
    rw [List.nil_append, followAll_cons_eq_ok]
    constructor
    · rintro ⟨next, followed, rest⟩
      obtain rfl := Except.ok.inj rest
      exact ⟨location, rfl, followed⟩
    · rintro ⟨folder, front, followed⟩
      obtain rfl := Except.ok.inj front
      exact ⟨last, followed, rfl⟩
  | cons first names ih =>
    rw [List.cons_append, followAll_cons_eq_ok]
    constructor
    · rintro ⟨next, followed, rest⟩
      obtain ⟨folder, front, final⟩ := ih.mp rest
      exact ⟨folder, followAll_cons_eq_ok.mpr ⟨next, followed, front⟩, final⟩
    · rintro ⟨folder, front, final⟩
      obtain ⟨next, followed, rest⟩ := followAll_cons_eq_ok.mp front
      exact ⟨next, followed, ih.mpr ⟨folder, rest, final⟩⟩

theorem follow_cases {location next : Location} {name : Text}
    (followed : files.follow location name = .ok next) :
    next = location ∨ next = location.parent ∨ next = location ++ [name] := by
  unfold follow at followed
  split at followed
  · exact absurd followed (by simp)
  split at followed
  · exact absurd followed (by simp)
  split at followed
  · exact Or.inl (Except.ok.inj followed).symm
  split at followed
  · exact Or.inr (Or.inl (Except.ok.inj followed).symm)
  dsimp only at followed
  split at followed
  · exact Or.inr (Or.inr (Except.ok.inj followed).symm)
  · exact absurd followed (by simp)

theorem locateParent_eq_ok_iff {path name : Text} {folder : Location} :
    files.locateParent path = .ok (folder, name) ↔
      ∃ start names, walkable path = .ok (start, names)
        ∧ files.followAll start names.dropLast = .ok folder ∧ files.holdsFolder folder = true
        ∧ names.getLast?.getD Path.here = name := by
  constructor
  · intro found
    obtain ⟨⟨start, names⟩, walked, found⟩ := exists_of_bind_eq_ok found
    obtain ⟨last, followed, found⟩ := exists_of_bind_eq_ok found
    split at found
    · exact absurd found (by simp)
    · next there =>
      obtain ⟨rfl, rfl⟩ := Prod.mk.inj (Except.ok.inj found)
      exact ⟨start, names, walked, followed, by simpa using there, rfl⟩
  · rintro ⟨start, names, walked, followed, there, rfl⟩
    simp only [locateParent, walked, followed, there, bind, Except.bind, Bool.not_true,
      Bool.false_eq_true, ↓reduceIte]

theorem locateParent_congr (same : files.folders = other.folders) {path name : Text}
    {folder : Location} (found : files.locateParent path = .ok (folder, name)) :
    other.locateParent path = .ok (folder, name) := by
  obtain ⟨start, names, walked, followed, there, last⟩ := locateParent_eq_ok_iff.mp found
  have folder : other.holdsFolder folder = true := (holdsFolder_congr same folder).symm.trans there
  exact locateParent_eq_ok_iff.mpr
    ⟨start, names, walked, followAll_congr same followed (Or.inl there), folder, last⟩

theorem locate_congr (same : files.folders = other.folders) {path : Text} {location : Location}
    (located : files.locate path = .ok location)
    (there : (other.contents? location).isSome = true) : other.locate path = .ok location := by
  obtain ⟨⟨start, names⟩, walked, located⟩ := exists_of_bind_eq_ok located
  obtain ⟨last, followed, located⟩ := exists_of_bind_eq_ok located
  split at located
  · exact absurd located (by simp)
  next ending =>
  obtain rfl := Except.ok.inj located
  simp only [holdsFolder_congr same] at ending
  simp only [locate, walked, followAll_congr same followed (Or.inr there), bind, Except.bind]
  exact if_neg ending

theorem bytesAt_of_locate {path : Text} {location : Location} {bytes : Utf8.Bytes}
    (located : files.locate path = .ok location) (there : files.contents? location = some bytes) :
    files.bytesAt path = .ok bytes := by
  simp only [bytesAt, located, there, bind, Except.bind]

/-- A path under which a file may stand: its last name is a proper one, and no folder has it. This
depends on the folders alone. -/
structure MayHold (files : Files) (path : Text) (location : Location) : Prop where
  found : ∃ folder name, files.locateParent path = .ok (folder, name) ∧ location = folder ++ [name]
    ∧ name ≠ Path.here ∧ name ≠ Path.above ∧ ¬Path.nameLimit < Path.byteLength name
  noFolder : files.holdsFolder location = false
  noSeparator : Path.endsInSeparator path = false

section

variable {path : Text} {location : Location}

theorem MayHold.congr (same : files.folders = other.folders) (holds : files.MayHold path location) :
    other.MayHold path location := by
  obtain ⟨folder, name, found, proper⟩ := holds.found
  exact ⟨⟨folder, name, locateParent_congr same found, proper⟩,
    (holdsFolder_congr same location).symm.trans holds.noFolder, holds.noSeparator⟩

theorem MayHold.locate_eq (holds : files.MayHold path location)
    (there : (files.contents? location).isSome = true) : files.locate path = .ok location := by
  obtain ⟨folder, name, found, rfl, notHere, notAbove, short⟩ := holds.found
  obtain ⟨start, names, walked, followed, folderThere, last⟩ := locateParent_eq_ok_iff.mp found
  have final : files.follow folder name = .ok (folder ++ [name]) := by
    simp only [follow, folderThere, short, notHere, notAbove, there, Bool.or_true, Bool.not_true,
      Bool.false_eq_true, ↓reduceIte]
  have split : names.dropLast ++ [name] = names := by
    cases ended : names.getLast? with
    | none =>
      rw [ended] at last
      exact absurd last.symm notHere
    | some ending =>
      rw [ended] at last
      obtain rfl : ending = name := last
      obtain ⟨front, rfl⟩ := List.getLast?_eq_some_iff.mp ended
      simp
  have whole := followAll_concat_eq_ok.mpr ⟨folder, followed, final⟩
  rw [split] at whole
  unfold locate
  simp only [walked, whole, holds.noSeparator, bind, Except.bind, Bool.false_and,
    Bool.false_eq_true, ↓reduceIte]

theorem MayHold.bytesAt_eq (holds : files.MayHold path location) {bytes : Utf8.Bytes}
    (there : files.contents? location = some bytes) : files.bytesAt path = .ok bytes :=
  bytesAt_of_locate (holds.locate_eq (by rw [there]; rfl)) there

theorem MayHold.write_eq (holds : files.MayHold path location) (bytes : Utf8.Bytes) :
    files.write path bytes =
      .ok { files with contents := files.contents.put location.path bytes } := by
  obtain ⟨folder, name, found, rfl, _, _, short⟩ := holds.found
  simp only [write, found, short, holds.noFolder, bind, Except.bind, Bool.false_eq_true,
    ↓reduceIte]

theorem MayHold.replace_eq {source : Text} {origin : Location}
    (holdsSource : files.MayHold source origin) (holds : files.MayHold path location)
    {bytes : Utf8.Bytes} (there : files.contents? origin = some bytes) :
    files.replace source path = .ok { files with
      contents := (files.contents.erase origin.path).put location.path bytes } := by
  obtain ⟨folder, name, found, rfl, notHere, notAbove, _⟩ := holds.found
  have located := holdsSource.locate_eq (by rw [there]; rfl)
  simp only [replace, holdsSource.bytesAt_eq there, located, found, notHere, notAbove,
    holds.noSeparator, holds.noFolder, bind, Except.bind, decide_false, Bool.or_false,
    Bool.false_eq_true, ↓reduceIte]

end

/-- Where something can be written, the last name of the path is short enough and no folder has it,
and nothing but that file is written. -/
theorem exists_of_write_eq_ok {path : Text} {bytes : Utf8.Bytes} {written : Files}
    (wrote : files.write path bytes = .ok written) :
    ∃ folder name, files.locateParent path = .ok (folder, name)
      ∧ ¬Path.nameLimit < Path.byteLength name ∧ files.holdsFolder (folder ++ [name]) = false
      ∧ written = { files with
        contents := files.contents.put (Location.path (folder ++ [name])) bytes } := by
  obtain ⟨⟨folder, name⟩, found, wrote⟩ := exists_of_bind_eq_ok wrote
  dsimp only at wrote
  split at wrote
  · exact absurd wrote (by simp)
  next short =>
  split at wrote
  · exact absurd wrote (by simp)
  next noFolder =>
  obtain rfl := Except.ok.inj wrote
  exact ⟨folder, name, found, short, by simpa using noFolder, rfl⟩

theorem exists_of_replace_eq_ok {source target : Text} {moved : Files}
    (success : files.replace source target = .ok moved) :
    ∃ folder name, files.locateParent target = .ok (folder, name) ∧ name ≠ Path.here
      ∧ name ≠ Path.above ∧ Path.endsInSeparator target = false
      ∧ files.holdsFolder (folder ++ [name]) = false := by
  obtain ⟨_, _, success⟩ := exists_of_bind_eq_ok success
  obtain ⟨_, _, success⟩ := exists_of_bind_eq_ok success
  obtain ⟨⟨folder, name⟩, found, success⟩ := exists_of_bind_eq_ok success
  dsimp only at success
  split at success
  · exact absurd success (by simp)
  next notBusy =>
  split at success
  · exact absurd success (by simp)
  next noSeparator =>
  split at success
  · exact absurd success (by simp)
  next noFolder =>
  simp only [Bool.or_eq_true, decide_eq_true_eq, not_or] at notBusy
  exact ⟨folder, name, found, notBusy.1, notBusy.2, by simpa using noSeparator,
    by simpa using noFolder⟩

end Files

namespace Text

theorem exists_splitAt_append {mark : CodePoint} {appended : Text} (absent : mark ∉ appended)
    (text : Text) :
    ∃ parts last, splitAt mark text = parts ++ [last]
      ∧ splitAt mark (text ++ appended) = parts ++ [last ++ appended]
      ∧ (last = [] → text = [] ∨ text.getLast? = some mark) := by
  induction text with
  | nil => exact ⟨[], [], rfl, splitAt_of_not_mem absent, fun _ => Or.inl rfl⟩
  | cons c rest ih =>
    obtain ⟨parts, last, whole, longer, ended⟩ := ih
    have endedLater : rest ≠ [] → last = [] → (c :: rest).getLast? = some mark := by
      intro more none
      cases rest with
      | nil => exact absurd rfl more
      | cons d rest =>
        rw [List.getLast?_cons_cons]
        exact (ended none).resolve_left more
    by_cases same : c = mark
    · subst same
      refine ⟨[] :: parts, last, ?_, ?_, ?_⟩
      · simp [splitAt, whole]
      · simp [splitAt, longer]
      · intro none
        by_cases more : rest = []
        · exact Or.inr (by simp [more])
        · exact Or.inr (endedLater more none)
    · cases parts with
      | nil =>
        refine ⟨[], c :: last, ?_, ?_, fun none => absurd none (by simp)⟩
        · simp [splitAt, same, whole]
        · simp [splitAt, same, longer]
      | cons part parts =>
        refine ⟨(c :: part) :: parts, last, ?_, ?_, ?_⟩
        · simp [splitAt, same, whole]
        · simp [splitAt, same, longer]
        · intro none
          refine Or.inr (endedLater ?_ none)
          rintro rfl
          simp [splitAt] at whole

end Text
end ClusterTopology
