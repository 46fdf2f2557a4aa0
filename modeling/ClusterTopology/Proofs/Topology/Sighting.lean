import ClusterTopology.Proofs.Rack.Order
import ClusterTopology.Proofs.Topology.Discovery

/-!
What discovery reports. The labels of the nodes are seen in the order of the names of the nodes, and
for each node in the order of the keys. Of each topology label and value that was not recorded before,
the first sighting is reported and no other; so discovery in full is what it records, the sightings it
reports, and that nothing comes of a second one.
-/

namespace ClusterTopology

structure Sighting where
  node : Text
  label : Text
  value : Text

namespace Sighting

def event (sighting : Sighting) : Event :=
  .labelFound sighting.node sighting.label sighting.value

def line (sighting : Sighting) : Event.Level × Text :=
  (.info, "Adding topology label from node " ++ sighting.node ++ ": " ++ sighting.label ++ "="
    ++ sighting.value)

def repeats (sighting earlier : Sighting) : Bool :=
  sighting.label = earlier.label && sighting.value = earlier.value

def ofNode (node : Node) : List Sighting :=
  node.labels.entries.map fun (label, value) => ⟨node.name, label, value⟩

def ofNodes (nodes : List Node) : List Sighting := nodes.flatMap ofNode

theorem ofNodes_cons (node : Node) (nodes : List Node) :
    ofNodes (node :: nodes) = ofNode node ++ ofNodes nodes :=
  List.flatMap_cons

def isNews (t : Topology Text) (sighting : Sighting) : Bool :=
  isTopologyLabel sighting.label && !t.hasValue sighting.label sighting.value

/-- Of all sightings those that are news, without the ones that repeat earlier ones. -/
def news (t : Topology Text) (seen : List Sighting) : List Sighting :=
  (seen.filter (isNews t)).eraseDupsBy repeats

section

variable {t : Topology Text} {sighting other : Sighting} {seen : List Sighting}

theorem repeats_iff :
    sighting.repeats other = true ↔ sighting.label = other.label ∧ sighting.value = other.value := by
  simp [repeats]

theorem isNews_of_repeats (again : other.repeats sighting = true) (new : other.isNews t = true) :
    sighting.isNews t = true := by
  obtain ⟨sameLabel, sameValue⟩ := repeats_iff.mp again
  rwa [isNews, sameLabel, sameValue] at new

theorem isNews_addValue :
    isNews (t.addValue sighting.label sighting.value) other =
      (isNews t other && !other.repeats sighting) := by
  have recorded := t.hasValue_addValue_iff sighting.label sighting.value other.label other.value
  unfold isNews repeats
  rw [Bool.eq_iff_iff]
  simp only [Bool.and_eq_true, Bool.not_eq_true', ← Bool.not_eq_true, recorded, decide_eq_true_eq]
  tauto

theorem news_cons :
    news t (sighting :: seen) =
      if sighting.isNews t then
        sighting :: news (t.addValue sighting.label sighting.value) seen
      else news t seen := by
  unfold news
  cases new : sighting.isNews t with
  | false => simp [new]
  | true =>
    rw [List.filter_cons_of_pos new, List.eraseDupsBy_cons, List.filter_filter, if_pos rfl]
    congr 3
    funext later
    rw [isNews_addValue, Bool.and_comm]
    simp

theorem news_sublist (t : Topology Text) (seen : List Sighting) : (news t seen).Sublist seen := by
  induction seen generalizing t with
  | nil => exact List.Sublist.refl []
  | cons sighting seen ih =>
    rw [news_cons]
    split
    · exact (ih _).cons_cons sighting
    · exact (ih t).cons sighting

theorem isNews_of_mem_news (member : other ∈ news t seen) : other.isNews t = true := by
  induction seen generalizing t with
  | nil => exact absurd member List.not_mem_nil
  | cons sighting seen ih =>
    rw [news_cons] at member
    split at member
    · next new =>
      rcases List.mem_cons.mp member with rfl | later
      · exact new
      · have stillNew := ih later
        rw [isNews_addValue, Bool.and_eq_true] at stillNew
        exact stillNew.1
    · exact ih member

/-- What is reported after a sighting does not repeat it. -/
theorem not_repeats_of_mem_news
    (member : other ∈ news (t.addValue sighting.label sighting.value) seen) :
    ¬other.repeats sighting = true := by
  have stillNew := isNews_of_mem_news member
  rw [isNews_addValue, Bool.and_eq_true] at stillNew
  simpa using stillNew.2

theorem news_pairwise (t : Topology Text) (seen : List Sighting) :
    (news t seen).Pairwise fun sighting later => ¬later.repeats sighting = true := by
  induction seen generalizing t with
  | nil => exact List.Pairwise.nil
  | cons sighting seen ih =>
    rw [news_cons]
    split
    · exact List.pairwise_cons.mpr ⟨fun _ member => not_repeats_of_mem_news member, ih _⟩
    · exact ih t

theorem exists_repeated_of_isNews (member : other ∈ seen) (new : other.isNews t = true) :
    ∃ reported ∈ news t seen, other.repeats reported = true := by
  induction seen generalizing t with
  | nil => exact absurd member List.not_mem_nil
  | cons sighting seen ih =>
    rw [news_cons]
    cases again : other.repeats sighting with
    | true =>
      rw [if_pos (isNews_of_repeats again new)]
      exact ⟨sighting, List.mem_cons_self, again⟩
    | false =>
      have later : other ∈ seen := by
        refine (List.mem_cons.mp member).resolve_left ?_
        rintro rfl
        exact absurd again (by simp [repeats])
      split
      · obtain ⟨reported, among, repeated⟩ :=
          ih (t := t.addValue sighting.label sighting.value) later
            (by rw [isNews_addValue, new, again]; rfl)
        exact ⟨reported, List.mem_cons_of_mem _ among, repeated⟩
      · exact ih later new

theorem exists_first_of_mem_news (member : other ∈ news t seen) :
    ∃ earlier later, seen = earlier ++ other :: later
      ∧ ∀ sighting ∈ earlier, ¬other.repeats sighting = true := by
  induction seen generalizing t with
  | nil => exact absurd member List.not_mem_nil
  | cons sighting seen ih =>
    rw [news_cons] at member
    split at member
    · rcases List.mem_cons.mp member with rfl | reported
      · exact ⟨[], seen, rfl, by simp⟩
      · obtain ⟨earlier, later, rfl, first⟩ := ih reported
        exact ⟨sighting :: earlier, later, rfl,
          List.forall_mem_cons.mpr ⟨not_repeats_of_mem_news reported, first⟩⟩
    · next old =>
      obtain ⟨earlier, later, rfl, first⟩ := ih member
      refine ⟨sighting :: earlier, later, rfl, List.forall_mem_cons.mpr ⟨fun again => old ?_, first⟩⟩
      exact isNews_of_repeats again (isNews_of_mem_news member)

theorem mem_ofNodes_iff {nodes : List Node} {label value : Text} :
    (∃ sighting ∈ ofNodes nodes, sighting.label = label ∧ sighting.value = value) ↔
      ∃ node ∈ nodes, node.labels.find? label = some value := by
  simp only [ofNodes, ofNode, List.mem_flatMap, List.mem_map, Prod.exists, Table.find?_eq_some_iff]
  constructor
  · rintro ⟨_, ⟨node, listed, label, value, entry, rfl⟩, rfl, rfl⟩
    exact ⟨node, listed, entry⟩
  · rintro ⟨node, listed, entry⟩
    exact ⟨_, ⟨node, listed, label, value, entry, rfl⟩, rfl, rfl⟩

end

theorem node_of_mem_ofNode {node : Node} {sighting : Sighting} (member : sighting ∈ ofNode node) :
    sighting.node = node.name := by
  obtain ⟨_, _, rfl⟩ := List.mem_map.mp member
  rfl

theorem filter_ofNodes (nodes : List Node) (name : Text) :
    (ofNodes nodes).filter (fun sighting => sighting.node = name) =
      ofNodes (nodes.filter fun node => node.name = name) := by
  induction nodes with
  | nil => rfl
  | cons node nodes ih =>
    rw [ofNodes_cons, List.filter_append, ih]
    by_cases named : node.name = name
    · rw [List.filter_cons_of_pos (by simpa using named), ofNodes_cons,
        List.filter_eq_self.mpr fun sighting member => ?_]
      simpa [node_of_mem_ofNode member] using named
    · rw [List.filter_cons_of_neg (by simpa using named),
        List.filter_eq_nil_iff.mpr fun sighting member => ?_, List.nil_append]
      simpa [node_of_mem_ofNode member] using named

theorem pairwise_ofNodes {before : Sighting → Sighting → Prop} {nodes : List Node}
    (within : ∀ node, (ofNode node).Pairwise before)
    (between : nodes.Pairwise fun node later => ∀ sighting other,
      sighting.node = node.name → other.node = later.name → before sighting other) :
    (ofNodes nodes).Pairwise before :=
  List.pairwise_flatMap.mpr ⟨fun node _ => within node, between.imp
    fun ordered sighting onFirst other onSecond =>
      ordered sighting other (node_of_mem_ofNode onFirst) (node_of_mem_ofNode onSecond)⟩

def GoesBefore (sighting later : Sighting) : Prop :=
  sighting.node < later.node ∨ (sighting.node = later.node ∧ sighting.label < later.label)

/-- The sightings go by the names of the nodes and then by the labels. Nodes of one name stay in the
order in which they are given. -/
structure Ordered (nodes : List Node) (seen : List Sighting) : Prop where
  sorted : seen.Pairwise fun sighting later => ¬later.node < sighting.node
  stable : ∀ name, seen.filter (fun sighting => sighting.node = name) =
    ofNodes (nodes.filter fun node => node.name = name)
  labels : ∀ node, (ofNode node).Pairwise fun sighting later => sighting.label < later.label
  strict : (nodes.map Node.name).Nodup → seen.Pairwise GoesBefore

theorem labels_ofNode (node : Node) :
    (ofNode node).Pairwise fun sighting later => sighting.label < later.label :=
  List.pairwise_map.mpr (node.labels.ordered.imp of_decide_eq_true)

theorem ordered_sortByName (nodes : List Node) : Ordered nodes (ofNodes (Node.sortByName nodes)) where
  sorted := by
    refine pairwise_ofNodes (fun node => ?_) ?_
    · exact List.pairwise_map.mpr (node.labels.ordered.imp fun _ => List.lt_irrefl node.name)
    · refine (Node.sortByName_sorted nodes).imp ?_
      intro node later ordered sighting other ofNode ofLater
      rwa [ofNode, ofLater]
  stable name := by rw [filter_ofNodes, Node.sortByName_filter_name]
  labels := labels_ofNode
  strict distinct := by
    refine pairwise_ofNodes (fun node => ?_) ?_
    · refine (labels_ofNode node).imp_of_mem fun onNode alsoOnNode before => Or.inr ⟨?_, before⟩
      rw [node_of_mem_ofNode onNode, node_of_mem_ofNode alsoOnNode]
    · refine (Node.sortByName_ascending distinct).imp ?_
      intro node later ascending sighting other ofNode ofLater
      rw [GoesBefore, ofNode, ofLater]
      exact Or.inl ascending

/-- What is reported of sightings when a topology becomes another one. Each label and value that is
new is reported once, where it is seen first, in the order in which they are seen. -/
structure Reports (t after : Topology Text) (seen reported : List Sighting) : Prop where
  complete : ∀ label value,
    (∃ sighting ∈ reported, sighting.label = label ∧ sighting.value = value) ↔
      after.hasValue label value = true ∧ t.hasValue label value = false
  once : reported.Pairwise fun sighting later => ¬later.repeats sighting = true
  first : ∀ sighting ∈ reported, ∃ earlier later, seen = earlier ++ sighting :: later
    ∧ ∀ other ∈ earlier, ¬sighting.repeats other = true
  inOrder : reported.Sublist seen

end Sighting

namespace Topology

section

variable (t : Topology Text)

theorem map_event_news_append (name : Text) (labels : List (Text × Text)) (later : List Sighting) :
    (Sighting.news t ((labels.map fun (label, value) => ⟨name, label, value⟩) ++ later)).map
        Sighting.event =
      (discoverLabels name labels t).events
        ++ (Sighting.news (discoverLabels name labels t).state later).map Sighting.event := by
  induction labels generalizing t with
  | nil => rfl
  | cons entry labels ih =>
    obtain ⟨label, value⟩ := entry
    rw [List.map_cons, List.cons_append, Sighting.news_cons, discoverLabels]
    change List.map _ (if isTopologyLabel label && !t.hasValue label value then _ else _) = _
    simp only [Name.ofText, id]
    split
    · rw [List.map_cons, ih]
      rfl
    · exact ih t

theorem events_discoverNodes (nodes : List Node) :
    (discoverNodes nodes t).events =
      (Sighting.news t (Sighting.ofNodes nodes)).map Sighting.event := by
  induction nodes generalizing t with
  | nil => rfl
  | cons node nodes ih =>
    rw [discoverNodes_cons, Outcome.after, ih, Sighting.ofNodes_cons, Sighting.ofNode,
      map_event_news_append]

theorem reports_news (nodes : List Node) :
    Sighting.Reports t (discoverNodes nodes t).state (Sighting.ofNodes nodes)
      (Sighting.news t (Sighting.ofNodes nodes)) where
  complete label value := by
    rw [hasValue_discoverNodes_iff, mem_carriedValues_iff, ← Sighting.mem_ofNodes_iff]
    constructor
    · rintro ⟨sighting, reported, rfl, rfl⟩
      have new := Sighting.isNews_of_mem_news reported
      rw [Sighting.isNews, Bool.and_eq_true, Bool.not_eq_true'] at new
      exact ⟨Or.inr ⟨new.1, sighting, (Sighting.news_sublist _ _).subset reported, rfl, rfl⟩, new.2⟩
    · rintro ⟨known | ⟨recognized, sighting, member, rfl, rfl⟩, unknown⟩
      · rw [unknown] at known
        exact absurd known (by simp)
      · have new : sighting.isNews t = true := by simp [Sighting.isNews, recognized, unknown]
        obtain ⟨reported, among, repeated⟩ := Sighting.exists_repeated_of_isNews member new
        obtain ⟨sameLabel, sameValue⟩ := Sighting.repeats_iff.mp repeated
        exact ⟨reported, among, sameLabel.symm, sameValue.symm⟩
  once := Sighting.news_pairwise t _
  first _ member := Sighting.exists_first_of_mem_news member
  inOrder := Sighting.news_sublist t _

/-- The labels of all nodes are recorded, whatever the order in which these are gone through. -/
theorem hasValue_discoverNodes_sortByName_iff (nodes : List Node) (label value : Text) :
    (discoverNodes (Node.sortByName nodes) t).state.hasValue label value = true ↔
      t.hasValue label value = true
        ∨ ((∃ key ∈ recognizedKeys, ∃ front back, label = front ++ key ++ back)
          ∧ ∃ node ∈ nodes, node.labels.find? label = some value) := by
  rw [hasValue_discoverNodes_iff, isTopologyLabel_iff, mem_carriedValues_iff]
  simp only [Node.mem_sortByName_iff]

theorem discover_again {nodes : List Node} {minimum : Int}
    (enough : ¬(nodes.length : Int) < minimum) :
    let found := (discoverNodes (Node.sortByName nodes) t).state
    discover nodes minimum found = .done found nodes.length := by
  intro found
  have same : (discoverNodes (Node.sortByName nodes) found).state = found :=
    state_discoverNodes_of_recorded _ found fun key value recognized carried =>
      (hasValue_discoverNodes_iff _ t key value).mpr (Or.inr ⟨recognized, carried⟩)
  have nothing : Sighting.news found (Sighting.ofNodes (Node.sortByName nodes)) = [] := by
    refine List.eq_nil_iff_forall_not_mem.mpr fun sighting reported => ?_
    obtain ⟨known, unknown⟩ :=
      ((found.reports_news _).complete _ _).mp ⟨sighting, reported, rfl, rfl⟩
    rw [same, unknown] at known
    exact absurd known (by simp)
  rw [discover_of_enough _ enough, events_discoverNodes, same, nothing]
  rfl

theorem logOf_map_event (reported : List Sighting) :
    logOf (reported.map Sighting.event) = reported.map Sighting.line := by
  have told : Event.line? ∘ Sighting.event = fun sighting => some sighting.line := rfl
  rw [logOf, List.filterMap_map, told, List.filterMap_eq_map']

end

/-- Discovery fails just where there are too few nodes, and then records and reports nothing.
Otherwise it gives the number of nodes; what is recorded afterwards is what was before and the topology
labels of the nodes; the nodes recorded with a label and value stay, and with a new one there are none;
one line is reported for each new label and value, at its first sighting; and a second discovery adds
and reports nothing. -/
theorem discovery_adds_recognized_labels (nodes : List Node) (minimum : Int) (t : Topology Text) :
    let outcome := discover nodes minimum t
    let seen := Sighting.ofNodes (Node.sortByName nodes)
    (∀ fault, outcome.result = .error fault ↔
        fault = .tooFewNodes minimum nodes.length ∧ (nodes.length : Int) < minimum)
      ∧ ((nodes.length : Int) < minimum → outcome.state = t ∧ outcome.events = [])
      ∧ (minimum ≤ nodes.length →
        outcome.result = .ok nodes.length
          ∧ (∀ label value, outcome.state.hasValue label value = true ↔
            t.hasValue label value = true
              ∨ ((∃ key ∈ recognizedKeys, ∃ front back, label = front ++ key ++ back)
                ∧ ∃ node ∈ nodes, node.labels.find? label = some value))
          ∧ (∀ label value, outcome.state.nodesOf label value = t.nodesOf label value
            ∧ (t.hasValue label value = false → outcome.state.nodesOf label value = .empty))
          ∧ (∃ reported, outcome.events = reported.map Sighting.event
            ∧ Sighting.Reports t outcome.state seen reported
            ∧ logOf outcome.events = reported.map Sighting.line)
          ∧ discover nodes minimum outcome.state = .done outcome.state nodes.length)
      ∧ Sighting.Ordered nodes seen := by
  intro outcome seen
  by_cases few : (nodes.length : Int) < minimum
  · have failed : outcome = .failed t (.tooFewNodes minimum nodes.length) := if_pos few
    refine ⟨fun fault => ?_, fun _ => ?_, fun enough => absurd few (Int.not_lt.mpr enough),
      Sighting.ordered_sortByName nodes⟩
    · rw [failed]
      simp [Outcome.failed, few, eq_comm]
    · rw [failed]
      exact ⟨rfl, rfl⟩
  · have found : outcome = _ := t.discover_of_enough few
    refine ⟨fun fault => ?_, fun fewer => absurd fewer few, fun _ => ?_,
      Sighting.ordered_sortByName nodes⟩
    · rw [found]
      simp [few]
    · have sameNodes : ∀ label value, outcome.state.nodesOf label value = t.nodesOf label value := by
        rw [found]
        exact nodesOf_discoverNodes _ t
      refine ⟨by rw [found], fun label value => ?_,
        fun label value => ⟨sameNodes label value, fun unknown => ?_⟩,
        ⟨Sighting.news t seen, ?_, ?_, ?_⟩, ?_⟩
      · rw [found]
        exact t.hasValue_discoverNodes_sortByName_iff nodes label value
      · rw [sameNodes]
        exact nodesOf_eq_empty_of_not_hasValue unknown
      · rw [found]
        exact t.events_discoverNodes _
      · rw [found]
        exact t.reports_news _
      · rw [found, ← logOf_map_event, events_discoverNodes]
      · rw [found]
        exact t.discover_again few

/-! Two nodes in the same zone, where another zone is recorded with a node. -/

def zoneShared : List Node :=
  [⟨"n2", .ofList [("topology.kubernetes.io/zone", "b")]⟩,
    ⟨"n1", .ofList [("disk", "ssd"), ("topology.kubernetes.io/zone", "b")]⟩]

def otherZoneRecorded : Topology Text := empty.addNode "topology.kubernetes.io/zone" "a" "n9"

theorem shared_zone_added :
    (2 : Int) ≤ zoneShared.length
      ∧ let found := (discover zoneShared 2 otherZoneRecorded).state
        found.hasValue "topology.kubernetes.io/zone" "b" = true
          ∧ found.hasValue "disk" "ssd" = false
          ∧ found.nodesOf "topology.kubernetes.io/zone" "b" = .empty
          ∧ discover zoneShared 2 found = .done found 2 := by
  have enough : (2 : Int) ≤ zoneShared.length := by decide
  obtain ⟨_, _, found, _⟩ := discovery_adds_recognized_labels zoneShared 2 otherZoneRecorded
  obtain ⟨_, values, nodes, _, again⟩ := found enough
  refine ⟨enough, (values _ _).mpr (Or.inr ⟨(isTopologyLabel_iff _).mp (by decide), _,
    List.mem_cons_self, by decide⟩), ?_, (nodes _ _).2 (by decide), again⟩
  rw [← Bool.not_eq_true, values]
  rintro (known | ⟨recognized, _⟩)
  · exact absurd known (by decide)
  · exact absurd ((isTopologyLabel_iff _).mpr recognized) (by decide)

end Topology
end ClusterTopology
