import ClusterTopology.Config.Settings
import ClusterTopology.Proofs.Json.Display
import ClusterTopology.Proofs.Outcome
import ClusterTopology.Proofs.Rack.Order

/-!
The nodes of a configuration have distinct names, none of them empty, and so have the eligible ones
among them.
-/

namespace ClusterTopology

namespace Node

theorem exists_of_listFrom_cons {item : Json} {items : List Json} {seen : List Text}
    {nodes : List Node} (read : listFrom seen (item :: items) = .ok nodes) :
    ∃ members labels later, item = .object members
      ∧ (Json.member "name" members).isBlank = false
      ∧ (Json.member "name" members).shown ∉ seen
      ∧ labelsOfDocument (Json.member "name" members).shown (Json.member "labels" members)
        = .ok labels
      ∧ listFrom ((Json.member "name" members).shown :: seen) items = .ok later
      ∧ nodes = ⟨(Json.member "name" members).shown, labels⟩ :: later := by
  cases item with
  | object members =>
    simp only [listFrom] at read
    split at read
    · exact absurd read (by simp)
    next present =>
    split at read
    · exact absurd read (by simp)
    next fresh =>
    obtain ⟨labels, labelled, read⟩ := exists_of_bind_eq_ok read
    obtain ⟨later, rest, read⟩ := exists_of_bind_eq_ok read
    exact ⟨members, labels, later, rfl, by simpa using present,
      fun among => fresh (List.contains_iff_mem.mpr among), labelled, rest, (Except.ok.inj read).symm⟩
  | _ => exact absurd read (by simp [listFrom])

theorem nodup_listFrom {items : List Json} {seen : List Text} {nodes : List Node}
    (read : listFrom seen items = .ok nodes) :
    (nodes.map Node.name).Nodup ∧ ∀ node ∈ nodes, node.name ∉ seen := by
  induction items generalizing seen nodes with
  | nil =>
    obtain rfl := Except.ok.inj read
    exact ⟨List.nodup_nil, fun node member => absurd member (by simp)⟩
  | cons item items ih =>
    obtain ⟨members, labels, later, _, _, fresh, _, rest, rfl⟩ := exists_of_listFrom_cons read
    obtain ⟨distinct, unseen⟩ := ih rest
    refine ⟨?_, ?_⟩
    · rw [List.map_cons, List.nodup_cons]
      refine ⟨fun repeated => ?_, distinct⟩
      obtain ⟨twin, member, same⟩ := List.mem_map.mp repeated
      exact unseen twin member (same ▸ List.mem_cons_self)
    · intro node member among
      rcases List.mem_cons.mp member with rfl | member
      · exact fresh among
      · exact unseen node member (List.mem_cons_of_mem _ among)

theorem name_ne_nil_of_listFrom {items : List Json} {seen : List Text} {nodes : List Node}
    (read : listFrom seen items = .ok nodes) : ∀ node ∈ nodes, node.name ≠ [] := by
  induction items generalizing seen nodes with
  | nil =>
    obtain rfl := Except.ok.inj read
    exact fun node member => absurd member (by simp)
  | cons item items ih =>
    obtain ⟨members, labels, later, _, present, _, _, rest, rfl⟩ := exists_of_listFrom_cons read
    intro node member
    rcases List.mem_cons.mp member with rfl | member
    · exact Json.shown_ne_nil present
    · exact ih rest node member

theorem nodup_listOfDocument {document : Json} {nodes : List Node}
    (read : listOfDocument document = .ok nodes) : (nodes.map Node.name).Nodup := by
  cases document with
  | list items => exact (nodup_listFrom read).1
  | _ => exact absurd read (by simp [listOfDocument])

theorem name_ne_nil_of_listOfDocument {document : Json} {nodes : List Node}
    (read : listOfDocument document = .ok nodes) : ∀ node ∈ nodes, node.name ≠ [] := by
  cases document with
  | list items => exact name_ne_nil_of_listFrom read
  | _ => exact absurd read (by simp [listOfDocument])

theorem nodup_eligible {nodes eligible : List Node} {selector : Option Selector}
    (distinct : (nodes.map Node.name).Nodup)
    (selected : Node.eligible nodes selector = .ok eligible) : (eligible.map Node.name).Nodup := by
  obtain ⟨_, _, selected⟩ := exists_of_bind_eq_ok selected
  obtain rfl := Except.ok.inj selected
  exact ((sortByName_perm _).map Node.name).nodup_iff.mpr
    (distinct.sublist (List.filter_sublist.map Node.name))

end Node

namespace Settings

variable {settings : Settings} {files : Files} {config : Config}

theorem exists_listOfDocument (made : settings.config files = .ok config) :
    ∃ document, Node.listOfDocument document = .ok config.nodes := by
  obtain ⟨document, _, made⟩ := exists_of_bind_eq_ok made
  obtain ⟨nodes, read, made⟩ := exists_of_bind_eq_ok made
  obtain ⟨cluster, _, made⟩ := exists_of_bind_eq_ok made
  obtain ⟨privateKey, _, made⟩ := exists_of_bind_eq_ok made
  obtain rfl := Except.ok.inj made
  exact ⟨document, read⟩

theorem nodup_config (made : settings.config files = .ok config) :
    (config.nodes.map Node.name).Nodup := by
  obtain ⟨document, read⟩ := exists_listOfDocument made
  exact Node.nodup_listOfDocument read

end Settings
end ClusterTopology
