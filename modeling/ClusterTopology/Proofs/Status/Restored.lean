import ClusterTopology.Proofs.Alike
import ClusterTopology.Proofs.Status.Stored

/-!
A stored status restored. Two halves of a surrogate pair that stand together would be read back as
the code point that they spell; where no text of a status holds such a pair, the status is loaded
just as it was stored, with every recorded node, and a status without a topology stays apart from
one with an empty topology.
-/

namespace ClusterTopology

/-- Two halves of a surrogate pair stand together somewhere in a text. -/
def Text.holdsSplitPair : Text → Bool
  | high :: low :: rest =>
    (Json.isHighSurrogate high.val && Json.isLowSurrogate low.val) || holdsSplitPair (low :: rest)
  | _ => false

theorem Text.paired_of_whole {text : Text} (whole : text.holdsSplitPair = false) :
    text.paired = text := by
  induction text with
  | nil => rfl
  | cons first rest ih =>
    cases rest with
    | nil => rfl
    | cons second rest =>
      rw [holdsSplitPair, Bool.or_eq_false_iff] at whole
      rw [paired, whole.1, if_neg Bool.false_ne_true, ih whole.2]

namespace Json

theorem Members.put_of_absent {members : Members} {name : Text} (value : Json)
    (absent : name ∉ members.map Prod.fst) :
    members.put name value = members ++ [(name, value)] := by
  induction members with
  | nil => rfl
  | cons first members ih =>
    simp only [List.map_cons, List.mem_cons, not_or] at absent
    rw [put, if_neg (Ne.symm absent.1), ih absent.2]
    rfl

theorem ofMembers_of_nodup {members : List (Text × Json)}
    (distinct : (members.map Prod.fst).Nodup) : ofMembers members = .object members := by
  have grown : ∀ (rest sofar : Members), ((sofar ++ rest).map Prod.fst).Nodup →
      rest.foldl (fun sofar entry => Members.put sofar entry.1 entry.2) sofar =
        sofar ++ rest := by
    intro rest
    induction rest with
    | nil => simp
    | cons first rest ih =>
      obtain ⟨name, value⟩ := first
      intro sofar distinct
      have absent : name ∉ sofar.map Prod.fst := by
        rw [List.map_append, List.map_cons] at distinct
        exact fun before =>
          (List.nodup_append.mp distinct).2.2 _ before _ List.mem_cons_self rfl
      simp only [List.foldl_cons, Members.put_of_absent value absent]
      rw [ih, List.append_assoc]
      · rfl
      · rw [List.append_assoc]
        exact distinct
  exact congrArg Json.object (grown members [] distinct)

end Json

namespace Topology

def textsOf (listing : List (Text × List (Text × List Text))) : List Text :=
  listing.flatMap fun (key, values) => key :: values.flatMap fun (value, nodes) => value :: nodes

def texts (t : Topology Text) : List Text := textsOf t.listed

theorem pairedValues_eq {values : List (Text × List Text)} (distinct : (values.map Prod.fst).Nodup)
    (whole : ∀ entry ∈ values, ∀ text ∈ entry.1 :: entry.2, text.holdsSplitPair = false) :
    pairedValues values = .object (values.map fun (value, nodes) =>
      ((Name.toJson value).memberName, .list (nodes.map Name.toJson))) := by
  have each : values.map (fun entry =>
        (entry.1.paired, Json.list (entry.2.map fun node => .text node.paired))) =
      values.map fun (value, nodes) =>
        ((Name.toJson value).memberName, .list (nodes.map Name.toJson)) := by
    apply List.map_congr_left
    intro entry member
    obtain ⟨wholeValue, wholeNodes⟩ := List.forall_mem_cons.mp (whole entry member)
    have nodes : entry.2.map (fun node => Json.text node.paired) = entry.2.map Name.toJson :=
      List.map_congr_left fun node listed =>
        congrArg Json.text (Text.paired_of_whole (wholeNodes node listed))
    rw [Text.paired_of_whole wholeValue, nodes]
    rfl
  unfold pairedValues
  rw [each]
  apply Json.ofMembers_of_nodup
  rw [List.map_map]
  exact distinct

theorem pairedDocument_listed {t : Topology Text}
    (whole : ∀ text ∈ t.texts, text.holdsSplitPair = false) :
    pairedDocument t.listed = documentOf t.listed := by
  have wholeEntry : ∀ entry ∈ t.listed, ∀ text ∈ entry.1 :: entry.2.flatMap
      (fun (value, nodes) => value :: nodes), text.holdsSplitPair = false :=
    fun entry member text listed => whole text (List.mem_flatMap.mpr ⟨entry, member, listed⟩)
  have each : t.listed.map (fun entry => (entry.1.paired, pairedValues entry.2)) =
      t.listed.map fun (key, values) => (key, Json.object (values.map fun (value, nodes) =>
        ((Name.toJson value).memberName, .list (nodes.map Name.toJson)))) := by
    apply List.map_congr_left
    intro entry member
    obtain ⟨wholeKey, wholeValues⟩ := List.forall_mem_cons.mp (wholeEntry entry member)
    obtain ⟨⟨key, values⟩, _, rfl⟩ := List.mem_map.mp member
    have distinct : ((listedValues values).map Prod.fst).Nodup := by
      rw [listedValues, List.map_map]
      exact values.keys_nodup
    rw [Text.paired_of_whole wholeKey, pairedValues_eq distinct]
    exact fun entry inside text listed =>
      wholeValues text (List.mem_flatMap.mpr ⟨entry, inside, listed⟩)
  unfold pairedDocument
  rw [each]
  apply Json.ofMembers_of_nodup
  rw [List.map_map, listed, List.map_map]
  exact t.table.keys_nodup

end Topology

namespace Status

def texts (status : Status Text) : List Text :=
  status.domain.type :: status.domain.key :: status.domain.values
    ++ status.topology.elim [] Topology.texts

/-- No text of a status holds two halves of a surrogate pair that stand together. -/
def IsWhole (status : Status Text) : Prop := ∀ text ∈ status.texts, text.holdsSplitPair = false

instance (status : Status Text) : Decidable status.IsWhole :=
  inferInstanceAs (Decidable (∀ text ∈ status.texts, _))

theorem IsWhole.ofMembers_pairedMembers {status : Status Text} (whole : status.IsWhole) :
    StoredStatus.ofMembers status.pairedMembers = .ok (.regular status) := by
  unfold IsWhole at whole
  have each : ∀ text ∈ status.texts, text.paired = text :=
    fun text member => Text.paired_of_whole (whole text member)
  obtain ⟨topology, ⟨type, key, values⟩, count⟩ := status
  simp only [texts, List.cons_append, List.forall_mem_cons, List.forall_mem_append] at each whole
  obtain ⟨sameType, sameKey, sameValues, _⟩ := each
  have read : topologyOrNone (pairedTopology ⟨topology, ⟨type, key, values⟩, count⟩) =
      .ok topology := by
    cases topology with
    | none => rfl
    | some t =>
      have document : pairedTopology ⟨some t, ⟨type, key, values⟩, count⟩ =
          Topology.documentOf t.listed := Topology.pairedDocument_listed whole.2.2.2
      rw [document]
      exact congrArg (Except.map some) t.exists_toDocument.2
  have valuesBack : values.map Text.paired = values := by
    rw [List.map_congr_left sameValues, List.map_id']
  have loaded := ofMembers_eq_regular read type key values count
  unfold pairedMembers
  simp only [sameType, sameKey, valuesBack]
  exact loaded

end Status

theorem StoredStatus.load_save_of_isWhole {status : Status Text} (whole : status.IsWhole)
    {files : Files} {path : Text} {limited : Bool} (room : Status.Room)
    (saved : (status.save files path limited).result = .ok ()) :
    load room (status.save files path limited).state path limited = .ok (.regular status) := by
  rw [load_save room saved]
  exact whole.ofMembers_pairedMembers

/-- Storing a status loses nothing. Unless the digits of integers are limited and its count has more
of them, it can be stored wherever any status can. Where it was stored, the file holds the bytes of
its stored form, which is that of every status alike, in whatever order its topology was filled, and
every reader that has room for a status loads it again. -/
theorem Status.restored_by_load (status : Status Text) (limited : Bool) (room : Room) :
    (∀ other : Status Text, status.alike other = true →
        other.toText limited = status.toText limited)
      ∧ ∀ (files : Files) (path : Text),
        (∀ any : Status Text, (any.save files path limited).result = .ok () →
          (limited = true → status.countDigits ≤ Text.digitLimit) →
            (status.save files path limited).result = .ok ())
        ∧ ((status.save files path limited).result = .ok () →
          (∃ home text, files.expandHome path = .ok home ∧ status.toText limited = .ok text
            ∧ (status.save files path limited).state.bytesAt home = .ok (Utf8.encode text))
          ∧ (status.IsWhole →
            StoredStatus.load room (status.save files path limited).state path limited =
              .ok (.regular status))) := by
  refine ⟨fun other alike => Status.eq_of_alike alike ▸ rfl, fun files path => ⟨?_, ?_⟩⟩
  · intro any success few
    obtain ⟨home, _, draft, target, expanded, _, can⟩ := exists_canStore_of_save_done success
    obtain ⟨document, writes⟩ := status.exists_toText
    have written := (writes limited 0).1
    rw [if_neg] at written
    · exact congrArg Outcome.result (save_eq_done expanded can written)
    · cases limited with
      | false => simp
      | true => simpa using few rfl
  · intro saved
    obtain ⟨home, text, draft, target, expanded, written, can⟩ := exists_canStore_of_save_done saved
    refine ⟨⟨home, text, expanded, written, ?_⟩, fun whole =>
      StoredStatus.load_save_of_isWhole whole room saved⟩
    rw [save_eq_done expanded can written]
    exact (can.bytesAt_stored _).2

/-- A status with what has to be escaped: a quote, a backslash, a line feed, a low half before a high
one, and a code point above the basic plane; one value has two nodes and one has none. -/
def escapedStatus : Status Text where
  topology :=
    let nothing : Topology Text := .empty
    some (((nothing.addNode rackKey "r\"0" "n\\1").addNode rackKey "r\"0" [0xdc00, 0xd800]).addValue
      "zone" [0x1f400])
  domain := ⟨"zone", "zone", [[0x1f400]]⟩
  nodeCount := -2

theorem Status.escapedStatus_restored :
    (escapedStatus.save .empty "status.json").result = .ok ()
      ∧ StoredStatus.load ⟨4, by decide⟩ (escapedStatus.save .empty "status.json").state
        "status.json" = .ok (.regular escapedStatus) := by
  have possible : ((Status.initial : Status Text).save .empty "status.json").result = .ok () := by
    rfl
  obtain ⟨storable, restored⟩ := (escapedStatus.restored_by_load true ⟨4, by decide⟩).2 .empty "status.json"
  have saved := storable .initial possible fun _ => by decide
  exact ⟨saved, (restored saved).2 (by decide)⟩

end ClusterTopology
