import ClusterTopology.Proofs.Files
import ClusterTopology.Proofs.Outcome
import ClusterTopology.Status.Storage

/-!
Storing a status. Whether it can be done depends on the path and the folders alone. Afterwards the
status file holds the bytes of the stored form and is found again under the same path, the draft is
gone, and every other file is as it was.
-/

namespace ClusterTopology

namespace Path

theorem byteLength_append (front back : Text) :
    byteLength (front ++ back) = byteLength front + byteLength back := by
  induction front with
  | nil => simp [byteLength]
  | cons c front ih =>
    simp only [List.cons_append, byteLength, ih]
    omega

theorem exists_names_draftPath (path : Text) :
    ∃ front last, names path = front ++ [last].filter (!·.isEmpty)
      ∧ names (draftPath path) = front ++ [last ++ (".tmp" : Text)]
      ∧ (last = [] → path = [] ∨ endsInSeparator path = true) := by
  have absent : separator ∉ (".tmp" : Text) := by decide
  obtain ⟨parts, last, whole, longer, ended⟩ := Text.exists_splitAt_append absent path
  refine ⟨parts.filter (!·.isEmpty), last, ?_, ?_, fun none => ?_⟩
  · simp only [names, whole, List.filter_append]
  · have proper : (".tmp" : Text) ≠ [] := by decide
    simp [names, draftPath, longer, proper]
  · simpa [endsInSeparator] using ended none

theorem checkEncodable_of_append {path whole front back : Text} {position : Nat}
    (encodable : checkEncodable whole position (front ++ back) = .ok ()) :
    checkEncodable path position front = .ok () := by
  induction front generalizing position with
  | nil => rfl
  | cons c front ih =>
    rw [List.cons_append, checkEncodable] at encodable
    rw [checkEncodable]
    split at encodable
    · exact absurd encodable (by simp)
    · next good =>
      rw [if_neg good]
      exact ih encodable

theorem check_of_draftPath {path : Text} (checked : check (draftPath path) = .ok ()) :
    check path = .ok () := by
  obtain ⟨_, encodable, noNull⟩ := exists_of_bind_eq_ok checked
  have front : checkEncodable path 0 path = .ok () := checkEncodable_of_append encodable
  have absent : path.any (fun c => decide (c.val = 0)) = false := by
    cases null : path.any fun c => decide (c.val = 0) with
    | false => rfl
    | true =>
      simp only [draftPath, List.any_append, null] at noNull
      exact absurd noNull (by simp)
  simp only [check, front, absent, bind, Except.bind]
  rfl

theorem endsInSeparator_draftPath (path : Text) : endsInSeparator (draftPath path) = false := by
  have ending : ((".tmp" : Text)).getLast? = some (CodePoint.ofChar 'p') := by decide
  have other : CodePoint.ofChar 'p' ≠ separator := by decide
  simp [endsInSeparator, draftPath, List.getLast?_append, ending, other]

end Path

namespace Files

/-- A text can be stored under a path: its draft may stand beside it, and it may stand there itself.
This depends on the folders alone, neither on the files nor on the text. -/
structure CanStore (files : Files) (path : Text) (draft target : Location) : Prop where
  checked : Path.check (draftPath path) = .ok ()
  draftHolds : files.MayHold (draftPath path) draft
  targetHolds : files.MayHold path target

def stored (files : Files) (draft target : Location) (bytes : Utf8.Bytes) : Files :=
  { files with contents := (files.contents.erase draft.path).put target.path bytes }

section

variable {files other : Files} {path : Text} {draft target : Location} {bytes : Utf8.Bytes}

theorem CanStore.congr (same : files.folders = other.folders)
    (can : files.CanStore path draft target) : other.CanStore path draft target :=
  ⟨can.checked, can.draftHolds.congr same, can.targetHolds.congr same⟩

theorem contents?_stored (location : Location) :
    (files.stored draft target bytes).contents? location =
      if location.path = target.path then some bytes
      else if location.path = draft.path then none else files.contents? location := by
  unfold contents? stored
  rw [Table.find?_put, Table.find?_erase]

theorem stored_stored :
    (files.stored draft target bytes).stored draft target bytes =
      files.stored draft target bytes := by
  have same : ((files.stored draft target bytes).stored draft target bytes).contents =
      (files.stored draft target bytes).contents := by
    apply Table.ext_find?
    intro key
    simp only [stored, Table.find?_put, Table.find?_erase]
    split
    · rfl
    · split <;> rfl
  exact congrArg (Files.mk · files.folders files.homes) same

theorem CanStore.bytesAt_stored (can : files.CanStore path draft target) (bytes : Utf8.Bytes) :
    (files.stored draft target bytes).isFile path = true
      ∧ (files.stored draft target bytes).bytesAt path = .ok bytes := by
  have sameFolders : files.folders = (files.stored draft target bytes).folders := rfl
  have holds := can.targetHolds.congr sameFolders
  have there : (files.stored draft target bytes).contents? target = some bytes := by
    rw [contents?_stored, if_pos rfl]
  have located := holds.locate_eq (by rw [there]; rfl)
  refine ⟨?_, holds.bytesAt_eq there⟩
  simp only [isFile, Path.check_of_draftPath can.checked, located, there, Option.isSome_some]

theorem readText_of_bytesAt (found : files.bytesAt path = .ok bytes) :
    files.readText path =
      ((Utf8.decode bytes).mapError Fault.encoding).map Text.withLineFeeds := by
  unfold readText
  rw [found]
  cases decoded : Utf8.decode bytes <;>
    simp only [decoded, mapError_ok, mapError_error, Except.map, bind, Except.bind, pure,
      Except.pure]

theorem bytesAt_of_stored {given : Text} {found : Utf8.Bytes}
    (read : (files.stored draft target bytes).bytesAt given = .ok found) :
    found = bytes ∨ files.bytesAt given = .ok found := by
  obtain ⟨location, located, read⟩ := exists_of_bind_eq_ok read
  rw [contents?_stored] at read
  by_cases isTarget : location.path = target.path
  · rw [if_pos isTarget] at read
    exact Or.inl (Except.ok.inj read).symm
  rw [if_neg isTarget] at read
  by_cases isDraft : location.path = draft.path
  · rw [if_pos isDraft] at read
    exact absurd read (by simp)
  rw [if_neg isDraft] at read
  cases there : files.contents? location with
  | none =>
    rw [there] at read
    exact absurd read (by simp)
  | some before =>
    rw [there] at read
    obtain rfl := Except.ok.inj read
    have sameFolders : (files.stored draft target bytes).folders = files.folders := rfl
    have locatedBefore := locate_congr sameFolders located (by rw [there]; rfl)
    exact Or.inr (bytesAt_of_locate locatedBefore there)

theorem exists_of_writeText_done {text : Except Fault Text} {begun : Text}
    (success : (files.writeText (draftPath path) text begun).result = .ok ()) :
    ∃ given folder name, text = .ok given ∧ Path.check (draftPath path) = .ok ()
      ∧ files.locateParent (draftPath path) = .ok (folder, name)
      ∧ ¬Path.nameLimit < Path.byteLength name ∧ files.holdsFolder (folder ++ [name]) = false
      ∧ (files.writeText (draftPath path) text begun).state.folders = files.folders := by
  unfold writeText at success ⊢
  cases checked : Path.check (draftPath path) with
  | error fault =>
    rw [checked] at success
    exact absurd success (by simp [Outcome.failed])
  | ok _ =>
    cases opened : files.write (draftPath path) [] with
    | error problem =>
      simp only [checked, opened] at success
      exact absurd success (by simp [Outcome.failed])
    | ok middle =>
      obtain ⟨folder, name, found, short, noFolder, emptied⟩ := exists_of_write_eq_ok opened
      cases text with
      | error fault =>
        simp only [checked, opened] at success
        split at success <;> exact absurd success (by simp [Outcome.failed])
      | ok given =>
        cases wrote : middle.write (draftPath path) (Utf8.encode given) with
        | error problem =>
          simp only [checked, opened, wrote] at success
          exact absurd success (by simp [Outcome.failed])
        | ok written =>
          obtain ⟨_, _, _, _, _, filled⟩ := exists_of_write_eq_ok wrote
          refine ⟨given, folder, name, rfl, rfl, found, short, noFolder, ?_⟩
          simp only [wrote, Outcome.done, filled]
          rw [emptied]

theorem eq_of_walkable {start : Location} {names : List Text}
    (walked : walkable path = .ok (start, names)) :
    path ≠ [] ∧ start = (if Path.isAbsolute path then Location.root else [])
      ∧ names = Path.names path := by
  unfold walkable at walked
  split at walked
  · exact absurd walked (by simp)
  split at walked
  · exact absurd walked (by simp)
  · next nonempty =>
    obtain ⟨rfl, rfl⟩ := Prod.mk.inj (Except.ok.inj walked)
    exact ⟨by simpa using nonempty, rfl, rfl⟩

theorem names_of_locateParent {name draftName : Text} {folder draftFolder : Location}
    (noSeparator : Path.endsInSeparator path = false)
    (found : files.locateParent path = .ok (folder, name))
    (foundDraft : files.locateParent (draftPath path) = .ok (draftFolder, draftName))
    (short : ¬Path.nameLimit < Path.byteLength draftName) :
    draftName ≠ Path.here ∧ draftName ≠ Path.above ∧ ¬Path.nameLimit < Path.byteLength name := by
  obtain ⟨_, names, walked, _, _, last⟩ := locateParent_eq_ok_iff.mp found
  obtain ⟨_, draftNames, walkedDraft, _, _, lastOfDraft⟩ := locateParent_eq_ok_iff.mp foundDraft
  obtain ⟨nonempty, _, rfl⟩ := eq_of_walkable walked
  obtain ⟨_, _, rfl⟩ := eq_of_walkable walkedDraft
  obtain ⟨front, ending, whole, longer, ended⟩ := Path.exists_names_draftPath path
  have named : ending ≠ [] := by
    intro none
    have separated := (ended none).resolve_left nonempty
    exact absurd (noSeparator.symm.trans separated) (by simp)
  have proper : [ending].filter (!·.isEmpty) = [ending] := by simp [named]
  rw [whole, proper, List.getLast?_concat, Option.getD_some] at last
  rw [longer, List.getLast?_concat, Option.getD_some] at lastOfDraft
  subst last lastOfDraft
  have longName : 4 ≤ (ending ++ (".tmp" : Text)).length := by
    simp [Text.ofString, Text.ofChars]
  refine ⟨?_, ?_, ?_⟩
  · intro here
    rw [here] at longName
    exact absurd longName (by decide)
  · intro above
    rw [above] at longName
    exact absurd longName (by decide)
  · rw [Path.byteLength_append] at short
    omega

end

end Files

namespace Status

variable {α : Type} [Name α] {status : Status α} {files : Files} {path home text : Text}
  {limited : Bool}

theorem save_eq_done {draft target : Location} (expanded : files.expandHome path = .ok home)
    (can : files.CanStore home draft target) (written : status.toText limited = .ok text) :
    status.save files path limited = .done (files.stored draft target (Utf8.encode text)) () := by
  let opened : Files := { files with contents := files.contents.put draft.path [] }
  let drafted : Files := { opened with
    contents := opened.contents.put draft.path (Utf8.encode text) }
  have sameFolders : files.folders = opened.folders := rfl
  have openedAt : files.write (draftPath home) [] = .ok opened := can.draftHolds.write_eq []
  have draftedAt : opened.write (draftPath home) (Utf8.encode text) = .ok drafted :=
    (can.draftHolds.congr sameFolders).write_eq _
  have wrote : files.writeText (draftPath home) (status.toText limited) status.begunText =
      .done drafted () := by
    simp only [Files.writeText, can.checked, openedAt, written, draftedAt]
  have sameFoldersThere : files.folders = drafted.folders := rfl
  have canThere := can.congr sameFoldersThere
  have there : drafted.contents? draft = some (Utf8.encode text) := Table.find?_put_self _ _ _
  have moved : drafted.replace (draftPath home) home =
      .ok (files.stored draft target (Utf8.encode text)) := by
    rw [canThere.draftHolds.replace_eq canThere.targetHolds there]
    have left : drafted.contents.erase draft.path = files.contents.erase draft.path := by
      apply Table.ext_find?
      intro key
      simp only [drafted, opened, Table.find?_erase, Table.find?_put]
      split <;> rfl
    simp only [Files.stored, left, drafted, opened]
  simp only [save, expanded, wrote, Files.moveOver, moved, Outcome.done_andThen]

theorem exists_canStore_of_save_done
    (success : (status.save files path limited).result = .ok ()) :
    ∃ home text draft target, files.expandHome path = .ok home ∧ status.toText limited = .ok text
      ∧ files.CanStore home draft target := by
  unfold save at success
  cases expanded : files.expandHome path with
  | error fault =>
    rw [expanded] at success
    exact absurd success (by simp [Outcome.failed])
  | ok home =>
    simp only [expanded] at success
    obtain ⟨_, wrote, moved⟩ := Outcome.result_andThen_eq_ok success
    obtain ⟨text, draftFolder, draftName, given, checked, foundDraft, shortDraft, noDraftFolder,
      folders⟩ := Files.exists_of_writeText_done wrote
    generalize (files.writeText (draftPath home) (status.toText limited) status.begunText).state =
      middle at *
    unfold Files.moveOver at moved
    cases replaced : middle.replace (draftPath home) home with
    | error problem =>
      rw [replaced] at moved
      exact absurd moved (by simp [Outcome.failed])
    | ok final =>
      obtain ⟨folder, name, found, notHere, notAbove, noSeparator, noFolder⟩ :=
        Files.exists_of_replace_eq_ok replaced
      have foundBefore := Files.locateParent_congr folders found
      obtain ⟨draftNotHere, draftNotAbove, short⟩ :=
        Files.names_of_locateParent noSeparator foundBefore foundDraft shortDraft
      refine ⟨home, text, draftFolder ++ [draftName], folder ++ [name], rfl, given, checked, ?_, ?_⟩
      · exact ⟨⟨draftFolder, draftName, foundDraft, rfl, draftNotHere, draftNotAbove, shortDraft⟩,
          noDraftFolder, Path.endsInSeparator_draftPath home⟩
      · exact ⟨⟨folder, name, foundBefore, rfl, notHere, notAbove, short⟩,
          (Files.holdsFolder_congr folders.symm _).trans noFolder, noSeparator⟩

/-- A status that was stored can be stored again, which leaves every file as it is. -/
theorem save_again (success : (status.save files path limited).result = .ok ()) :
    status.save (status.save files path limited).state path limited =
      .done (status.save files path limited).state () := by
  obtain ⟨home, text, draft, target, expanded, written, can⟩ := exists_canStore_of_save_done success
  have left :
      (status.save files path limited).state = files.stored draft target (Utf8.encode text) :=
    congrArg Outcome.state (save_eq_done expanded can written)
  have sameFolders : files.folders = (files.stored draft target (Utf8.encode text)).folders := rfl
  have sameHome : (files.stored draft target (Utf8.encode text)).expandHome path = .ok home := expanded
  rw [left, save_eq_done sameHome (can.congr sameFolders) written, Files.stored_stored]

end Status
end ClusterTopology
