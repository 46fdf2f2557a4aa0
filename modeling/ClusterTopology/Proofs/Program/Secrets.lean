import ClusterTopology.Proofs.Resource
import ClusterTopology.Proofs.Status.Draft
import ClusterTopology.Proofs.Status.Stored

/-!
What a run reads besides the status: the files that its settings name for the access to the cluster.
Storing a status can take such a file away or replace its text, and nothing else that is read. As
long as the files are still there, the same settings make the same configuration but for the texts
of these files, and access is possible again.
-/

namespace ClusterTopology

namespace Files

variable {files : Files}

theorem secretAt_eq_ok_iff {setting path : Text} {secret : Secret} :
    files.secretAt setting path = .ok secret ↔
      ∃ home, files.expandHome path = .ok home ∧ files.isFile home = true
        ∧ files.readText home = .ok secret.content := by
  unfold secretAt
  cases files.expandHome path with
  | error fault => simp [bind, Except.bind]
  | ok home =>
    cases isFile : files.isFile home with
    | false =>
      simp [bind, Except.bind, isFile, throw, throwThe, MonadExceptOf.throw]
    | true =>
      cases read : files.readText home with
      | error fault => simp [bind, Except.bind, isFile, read]
      | ok content =>
        obtain ⟨given⟩ := secret
        simp [bind, Except.bind, pure, Except.pure, isFile, read]

theorem exists_secretAt_save {status : Status Text} {path : Text} {limited : Bool}
    (saved : (status.save files path limited).result = .ok ()) {setting given : Text}
    {secret : Secret} (before : files.secretAt setting given = .ok secret)
    (there : ∀ home, (status.save files path limited).state.expandHome given = .ok home →
      (status.save files path limited).state.isFile home = true) :
    ∃ later, (status.save files path limited).state.secretAt setting given = .ok later := by
  obtain ⟨home, expanded, _, readBefore⟩ := secretAt_eq_ok_iff.mp before
  have expandedThere := (Status.expandHome_save status files path limited given).trans expanded
  have isFile := there home expandedThere
  obtain ⟨_, bytes, found⟩ := isFile_iff.mp isFile
  have readable :
      ∃ content, (status.save files path limited).state.readText home = .ok content := by
    obtain ⟨_, text, draft, target, expandedPath, written, can⟩ :=
      Status.exists_canStore_of_save_done saved
    obtain ⟨plain, _⟩ := Status.read_of_toText written
    have left := congrArg Outcome.state (Status.save_eq_done expandedPath can written)
    rw [left] at found ⊢
    rw [readText_of_bytesAt found]
    rcases bytesAt_of_stored found with isText | unchanged
    · rw [isText, Utf8.decode_encode plain]
      exact ⟨_, rfl⟩
    · rw [← readText_of_bytesAt unchanged]
      exact ⟨_, readBefore⟩
  obtain ⟨content, read⟩ := readable
  exact ⟨⟨content⟩, secretAt_eq_ok_iff.mpr ⟨home, expandedThere, isFile, read⟩⟩

end Files

namespace Settings

variable {settings : Settings} {files other : Files} {config : Config}

/-- The paths of the files that give access and are read: the kubeconfig, and the key for a server
that is configured. -/
def secretPaths (settings : Settings) : List Text :=
  (settings.filled? "kubeconfigPath").toList
    ++ if (settings.filled? "k3sServerIp").isSome then (settings.filled? "sshPrivateKeyPath").toList
      else []

def HasSecrets (settings : Settings) (files : Files) : Prop :=
  ∀ path ∈ settings.secretPaths, ∀ home, files.expandHome path = .ok home → files.isFile home = true

theorem exists_of_config_eq_ok (made : settings.config files = .ok config) :
    settings.privateKey files = .ok config.access.privateKey
      ∧ config.access.kubeconfigPath = settings.find? "kubeconfigPath"
      ∧ ∀ {other : Files} {key : Option Secret}, settings.privateKey other = .ok key →
        settings.config other =
          .ok { config with access := { config.access with privateKey := key } } := by
  obtain ⟨document, required, made⟩ := exists_of_bind_eq_ok made
  obtain ⟨nodes, listed, made⟩ := exists_of_bind_eq_ok made
  obtain ⟨cluster, specified, made⟩ := exists_of_bind_eq_ok made
  obtain ⟨key, read, made⟩ := exists_of_bind_eq_ok made
  obtain rfl := Except.ok.inj made
  refine ⟨read, rfl, fun again => ?_⟩
  unfold Settings.config
  simp only [required, listed, specified, again, bind, Except.bind, pure, Except.pure]

section

variable {status : Status Text} {path : Text} {limited : Bool}

theorem exists_privateKey_save (saved : (status.save files path limited).result = .ok ())
    (there : settings.HasSecrets (status.save files path limited).state)
    {key : Option Secret} (before : settings.privateKey files = .ok key) :
    ∃ later, settings.privateKey (status.save files path limited).state = .ok later
      ∧ later.isSome = key.isSome := by
  unfold privateKey at before ⊢
  cases server : settings.filled? "k3sServerIp" with
  | none =>
    rw [server] at before
    obtain rfl := Except.ok.inj before
    exact ⟨none, rfl, rfl⟩
  | some address =>
    cases keyPath : settings.filled? "sshPrivateKeyPath" with
    | none =>
      simp only [server, keyPath] at before
      exact ⟨key, before, rfl⟩
    | some given =>
      simp only [server, keyPath] at before
      cases read : files.secretAt "sshPrivateKeyPath" given with
      | error fault =>
        rw [read] at before
        exact absurd before (by simp [Except.map])
      | ok secret =>
        rw [read] at before
        obtain rfl := Except.ok.inj before
        have named : given ∈ settings.secretPaths := by
          simp [secretPaths, server, keyPath]
        obtain ⟨later, again⟩ := Files.exists_secretAt_save saved read (there given named)
        exact ⟨some later, by simp only [again, Except.map], rfl⟩

/-- Access that could be made can still be made, with a key if there was one. Only secrets differ. -/
theorem exists_resources_save (saved : (status.save files path limited).result = .ok ())
    (there : settings.HasSecrets (status.save files path limited).state) {access : Access}
    (configured : access.kubeconfigPath = settings.find? "kubeconfigPath") {key : Option Secret}
    (sameKind : key.isSome = access.privateKey.isSome) {made : List Resource}
    (reachable : access.resources files = .ok made) :
    ∃ again, Access.resources { access with privateKey := key }
        (status.save files path limited).state = .ok again
      ∧ again.map Resource.withoutSecrets = made.map Resource.withoutSecrets := by
  unfold Access.resources at reachable ⊢
  dsimp only
  cases local? : access.kubeconfigPath.filter (!·.isEmpty) with
  | some given =>
    simp only [local?] at reachable
    obtain ⟨secret, read, reached⟩ := exists_of_bind_eq_ok reachable
    obtain rfl := Except.ok.inj reached
    have named : given ∈ settings.secretPaths := by
      rw [configured] at local?
      have filled : settings.filled? "kubeconfigPath" = some given := local?
      simp [secretPaths, filled]
    obtain ⟨later, again⟩ := Files.exists_secretAt_save saved read (there given named)
    refine ⟨[.provider Access.providerName (some (.content later))], ?_, rfl⟩
    simp only [again, bind, Except.bind]
    rfl
  | none =>
    cases remote : access.serverAddress.filter (!·.isEmpty) with
    | none =>
      simp only [local?, remote] at reachable
      exact ⟨_, rfl, by rw [← Except.ok.inj reachable]⟩
    | some address =>
      simp only [local?, remote] at reachable
      cases key with
      | some secret =>
        obtain ⟨before, given⟩ := Option.isSome_iff_exists.mp sameKind.symm
        rw [given] at reachable
        obtain rfl := Except.ok.inj reachable
        exact ⟨_, rfl, rfl⟩
      | none =>
        have absent : access.privateKey = none :=
          Option.isNone_iff_eq_none.mp (Option.isSome_eq_false_iff.mp sameKind.symm)
        rw [absent] at reachable
        exact absurd reachable (by simp)

theorem exists_config_save (saved : (status.save files path limited).result = .ok ())
    (there : settings.HasSecrets (status.save files path limited).state)
    (made : settings.config files = .ok config) {access : List Resource}
    (reachable : config.access.resources files = .ok access) :
    ∃ key again,
      settings.config (status.save files path limited).state =
          .ok { config with access := { config.access with privateKey := key } }
        ∧ Access.resources { config.access with privateKey := key }
          (status.save files path limited).state = .ok again
        ∧ again.map Resource.withoutSecrets = access.map Resource.withoutSecrets := by
  obtain ⟨keyBefore, configured, remade⟩ := exists_of_config_eq_ok made
  obtain ⟨key, keyRead, sameKind⟩ := exists_privateKey_save saved there keyBefore
  obtain ⟨again, reached, alike⟩ :=
    exists_resources_save saved there configured sameKind reachable
  exact ⟨key, again, remade keyRead, reached, alike⟩

end

end Settings
end ClusterTopology
