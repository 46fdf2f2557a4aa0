import ClusterTopology.Proofs.Status.Storage

/-!
A status that could not be stored. Up to the last step only the draft is written, and a draft never
stands where its path leads, whatever the names of the path are. So the status file, if there is
one, holds the same bytes afterwards, and the same status is loaded.
-/

namespace ClusterTopology

namespace Location

theorem path_cons_cons (first second : Text) (rest : List Text) :
    Location.path (first :: second :: rest) = first ++ "/" ++ Location.path (second :: rest) := by
  simp [Location.path, Text.joined, List.intercalate]

theorem length_path_concat (folder : Location) (name : Text) :
    (Location.path (folder ++ [name])).length =
      folder.path.length + (if folder = [] then 0 else 1) + name.length := by
  induction folder with
  | nil => simp [Location.path, Text.joined]
  | cons first rest ih =>
    cases rest with
    | nil =>
      simp [Location.path, Text.joined, List.intercalate, Text.ofString, Text.ofChars]
      omega
    | cons second rest =>
      rw [List.cons_append, List.cons_append, path_cons_cons, path_cons_cons, ← List.cons_append,
        List.length_append, List.length_append, ih]
      simp only [List.length_append, reduceCtorEq, ↓reduceIte]
      omega

theorem length_path_parent (location : Location) :
    location.parent.path.length ≤ location.path.length + 3 := by
  unfold parent
  split
  · next isRoot =>
    rw [isRoot]
    omega
  split
  · cases location with
    | nil => decide
    | cons first rest =>
      rw [path_cons_cons]
      simp only [List.length_append]
      have mark : (Path.above.length + (("/" : Text)).length) = 3 := by decide
      omega
  · next notAbove =>
    have nonempty : location ≠ [] := by
      rintro rfl
      exact notAbove rfl
    have whole := length_path_concat location.dropLast (location.getLast nonempty)
    rw [List.dropLast_concat_getLast nonempty] at whole
    omega

end Location

namespace Files

section

variable {files other : Files} {path : Text}

/-- A draft never stands where its path leads: its normal path is longer. -/
theorem length_path_lt_draft {location folder : Location} {name : Text}
    (located : files.locate path = .ok location)
    (found : files.locateParent (draftPath path) = .ok (folder, name)) :
    location.path.length < (Location.path (folder ++ [name])).length := by
  obtain ⟨⟨start, names⟩, walked, located⟩ := exists_of_bind_eq_ok located
  obtain ⟨last, followed, located⟩ := exists_of_bind_eq_ok located
  obtain rfl : last = location := by
    split at located
    · exact absurd located (by simp)
    · exact Except.ok.inj located
  obtain ⟨draftStart, draftNames, walkedDraft, followedDraft, _, ended⟩ :=
    locateParent_eq_ok_iff.mp found
  obtain ⟨nonempty, rfl, rfl⟩ := eq_of_walkable walked
  obtain ⟨_, rfl, rfl⟩ := eq_of_walkable walkedDraft
  have sameStart : Path.isAbsolute (draftPath path) = Path.isAbsolute path := by
    cases path with
    | nil => exact absurd rfl nonempty
    | cons c rest => rfl
  obtain ⟨front, ending, whole, longer, _⟩ := Path.exists_names_draftPath path
  rw [longer, List.dropLast_concat, sameStart] at followedDraft
  rw [longer, List.getLast?_concat, Option.getD_some] at ended
  rw [whole] at followed
  have longName : name.length = ending.length + 4 := by
    rw [← ended, List.length_append]
    rfl
  have above := folder.length_path_parent
  rw [Location.length_path_concat]
  by_cases none : ending = []
  · -- Behind a slash the draft stands in the folder that the path leads to.
    subst none
    rw [show ([[]] : List Text).filter (!·.isEmpty) = [] from rfl, List.append_nil] at followed
    obtain rfl := Except.ok.inj (followed.symm.trans followedDraft)
    omega
  · have proper : [ending].filter (!·.isEmpty) = [ending] := by simp [none]
    rw [proper] at followed
    obtain ⟨parent, followedFront, final⟩ := followAll_concat_eq_ok.mp followed
    obtain rfl := Except.ok.inj (followedFront.symm.trans followedDraft)
    rcases follow_cases final with rfl | rfl | rfl
    · omega
    · omega
    · rw [Location.length_path_concat]
      omega

/-- Two trees with the same folders that agree in all files but that at one location. -/
structure SameBut (files other : Files) (location : Location) : Prop where
  folders : files.folders = other.folders
  homes : files.homes = other.homes
  contents : ∀ place : Location, place.path ≠ location.path →
    files.contents? place = other.contents? place

theorem SameBut.symm {location : Location} (same : files.SameBut other location) :
    other.SameBut files location :=
  ⟨same.folders.symm, same.homes.symm, fun place apart => (same.contents place apart).symm⟩

theorem SameBut.trans {third : Files} {location : Location} (same : files.SameBut other location)
    (again : other.SameBut third location) : files.SameBut third location :=
  ⟨same.folders.trans again.folders, same.homes.trans again.homes, fun place apart =>
    (same.contents place apart).trans (again.contents place apart)⟩

theorem sameBut_of_write {bytes : Utf8.Bytes} {written : Files}
    (wrote : files.write path bytes = .ok written) :
    ∃ folder name, files.locateParent path = .ok (folder, name)
      ∧ files.SameBut written (folder ++ [name]) := by
  obtain ⟨folder, name, found, _, _, rfl⟩ := exists_of_write_eq_ok wrote
  refine ⟨folder, name, found, rfl, rfl, fun place apart => ?_⟩
  exact (Table.find?_put_of_ne _ _ apart).symm

theorem sameBut_writeText (files : Files) (path : Text) (text : Except Fault Text) (begun : Text) :
    (files.writeText path text begun).state = files
      ∨ ∃ folder name, files.locateParent path = .ok (folder, name)
        ∧ files.SameBut (files.writeText path text begun).state (folder ++ [name]) := by
  unfold writeText
  cases Path.check path with
  | error fault => exact Or.inl rfl
  | ok _ =>
    cases opening : files.write path [] with
    | error problem => exact Or.inl rfl
    | ok opened =>
      right
      obtain ⟨folder, name, found, same⟩ := sameBut_of_write opening
      have later : ∀ (bytes : Utf8.Bytes) (written : Files), opened.write path bytes = .ok written →
          files.SameBut written (folder ++ [name]) := by
        intro bytes written wrote
        obtain ⟨_, _, foundAgain, again⟩ := sameBut_of_write wrote
        obtain ⟨rfl, rfl⟩ := Prod.mk.inj
          (Except.ok.inj ((locateParent_congr same.folders found).symm.trans foundAgain))
        exact same.trans again
      refine ⟨folder, name, found, ?_⟩
      cases text with
      | error fault =>
        dsimp only
        cases wrote : opened.write path (Utf8.encode begun) with
        | error problem => exact same
        | ok written => exact later _ _ wrote
      | ok text =>
        dsimp only
        cases wrote : opened.write path (Utf8.encode text) with
        | error problem => exact same
        | ok written => exact later _ _ wrote

/-- What a path leads to is the same in two trees that agree but for the draft of the path. -/
theorem SameBut.bytesAt_of_draft {folder : Location} {name : Text}
    (same : files.SameBut other (folder ++ [name]))
    (found : files.locateParent (draftPath path) = .ok (folder, name)) {bytes : Utf8.Bytes}
    (read : files.bytesAt path = .ok bytes) : other.bytesAt path = .ok bytes := by
  obtain ⟨location, located, read⟩ := exists_of_bind_eq_ok read
  have longer := length_path_lt_draft located found
  have apart : location.path ≠ Location.path (folder ++ [name]) := by
    intro equal
    rw [equal] at longer
    exact absurd longer (by simp)
  cases there : files.contents? location with
  | none =>
    rw [there] at read
    exact absurd read (by simp)
  | some content =>
    rw [there] at read
    obtain rfl := Except.ok.inj read
    have thereNow : other.contents? location = some content :=
      (same.contents location apart).symm.trans there
    exact bytesAt_of_locate (locate_congr same.folders located (by rw [thereNow]; rfl)) thereNow

theorem isFile_iff : files.isFile path = true ↔
    Path.check path = .ok () ∧ ∃ bytes, files.bytesAt path = .ok bytes := by
  unfold isFile bytesAt
  cases Path.check path with
  | error fault => simp
  | ok _ =>
    cases files.locate path with
    | error problem => simp [bind, Except.bind]
    | ok location => cases there : files.contents? location <;> simp [there, bind, Except.bind]

end

end Files

theorem StoredStatus.load_congr {room : Status.Room} {files other : Files} {path : Text}
    (limited : Bool) (sameHome : files.expandHome path = other.expandHome path)
    (same : ∀ home, other.expandHome path = .ok home → ∀ bytes,
      files.bytesAt home = .ok bytes ↔ other.bytesAt home = .ok bytes) :
    load room files path limited = load room other path limited := by
  unfold load
  rw [sameHome]
  cases expanded : other.expandHome path with
  | error fault => rfl
  | ok home =>
    have sameFile : files.isFile home = other.isFile home := by
      rw [Bool.eq_iff_iff, Files.isFile_iff, Files.isFile_iff]
      simp only [same home expanded]
    cases isFile : other.isFile home with
    | false =>
      simp only [mapError_ok, bind, Except.bind, sameFile, isFile, Bool.not_false, ↓reduceIte]
    | true =>
      obtain ⟨bytes, read⟩ := (Files.isFile_iff.mp isFile).2
      have readBefore := (same home expanded bytes).mpr read
      simp only [Files.readDocument, Files.readText, mapError_ok, bind, Except.bind, sameFile,
        isFile, read, readBefore]

namespace Status

variable {α : Type} [Name α] {status : Status α} {files : Files} {path home : Text}
  {limited : Bool} {fault : Fault}

theorem state_save_of_failed (failure : (status.save files path limited).result = .error fault)
    (expanded : files.expandHome path = .ok home) :
    (status.save files path limited).state =
      (files.writeText (draftPath home) (status.toText limited) status.begunText).state := by
  unfold save at failure ⊢
  simp only [expanded] at failure ⊢
  cases wrote : (files.writeText (draftPath home) (status.toText limited)
      status.begunText).result with
  | error fault => rw [Outcome.andThen_of_error _ wrote]
  | ok _ =>
    rw [Outcome.andThen_of_ok _ wrote] at failure ⊢
    unfold Files.moveOver at failure ⊢
    split at failure
    · rfl
    · exact absurd failure (by simp [Outcome.after, Outcome.done])

theorem bytesAt_of_save_failed (failure : (status.save files path limited).result = .error fault)
    (expanded : files.expandHome path = .ok home) (bytes : Utf8.Bytes) :
    (status.save files path limited).state.bytesAt home = .ok bytes ↔
      files.bytesAt home = .ok bytes := by
  rw [state_save_of_failed failure expanded]
  rcases files.sameBut_writeText (draftPath home) (status.toText limited) status.begunText with
    unchanged | ⟨folder, name, found, same⟩
  · rw [unchanged]
  · have foundAfter := Files.locateParent_congr same.folders found
    exact ⟨same.symm.bytesAt_of_draft foundAfter, same.bytesAt_of_draft found⟩

theorem homes_save (status : Status α) (files : Files) (path : Text) (limited : Bool) :
    (status.save files path limited).state.homes = files.homes := by
  cases saved : (status.save files path limited).result with
  | ok _ =>
    obtain ⟨home, text, draft, target, expanded, written, can⟩ := exists_canStore_of_save_done saved
    rw [save_eq_done expanded can written]
    rfl
  | error fault =>
    cases expanded : files.expandHome path with
    | error problem =>
      unfold save
      rw [expanded]
      rfl
    | ok home =>
      rw [state_save_of_failed saved expanded]
      rcases files.sameBut_writeText (draftPath home) (status.toText limited) status.begunText with
        unchanged | ⟨_, _, _, same⟩
      · rw [unchanged]
      · exact same.homes.symm

theorem expandHome_save (status : Status α) (files : Files) (path : Text) (limited : Bool)
    (other : Text) :
    (status.save files path limited).state.expandHome other = files.expandHome other := by
  unfold Files.expandHome
  rw [homes_save]

theorem load_of_save_failed (room : Room)
    (failure : (status.save files path limited).result = .error fault) :
    StoredStatus.load room (status.save files path limited).state path =
      StoredStatus.load room files path :=
  StoredStatus.load_congr true (expandHome_save status files path limited path)
    fun _ expanded bytes => bytesAt_of_save_failed failure expanded bytes

end Status
end ClusterTopology
