import Mathlib.Logic.Function.Basic
import Groundwork.Cluster.Platform

/-!
# The order of the nodes does not matter

The platforms stand in an order (`Platform.rank`).  A cluster can be taken for those that one of its
nodes shows, and for a generic one (`Fits`); `detect` takes it for the first of them (`fits_detect`,
`rank_detect_le`).  So only which nodes there are decides, and more nodes can only lead to an earlier
platform.

The addresses that reach services are all those of one type (`externalIps_eq`), and they are listed
node by node.

`nodes_in_any_order` says what this means for the facts about a cluster.
-/

namespace Groundwork.Cluster.Platform

variable {p : Platform} {nodes nodes' : List Node}

/-! ### The first platform -/

/-- The place of a platform in the order in which they are looked for. -/
def rank : Platform → Nat
  | .kind => 0
  | .k3s => 1
  | .ibm => 2
  | .minikube => 3
  | .generic => 4

/-- A cluster with these nodes can be taken for the platform. -/
def Fits (nodes : List Node) (p : Platform) : Prop :=
  p = .generic ∨ ∃ n ∈ nodes, p.shownBy n = true

theorem rank_injective : Function.Injective rank := by
  intro p q
  cases p <;> cases q <;> decide

theorem rank_le_generic (p : Platform) : p.rank ≤ generic.rank := by
  cases p <;> decide

theorem mem_candidates_iff : p ∈ candidates ↔ p ≠ .generic := by
  cases p <;> decide

/-- The platforms are looked for in their order. -/
theorem candidates_pairwise : candidates.Pairwise fun p q => p.rank < q.rank := by
  decide

/-- What is found first in an ordered list does not come after anything that could be found. -/
theorem exists_find?_le (check : Platform → Bool) {ps : List Platform}
    (hsorted : ps.Pairwise fun p q => p.rank < q.rank) (hp : p ∈ ps) (hcheck : check p = true) :
    ∃ q, ps.find? check = some q ∧ q.rank ≤ p.rank := by
  induction ps with
  | nil => cases hp
  | cons q rest ih =>
    cases hq : check q with
    | true =>
      refine ⟨q, List.find?_cons_of_pos hq, ?_⟩
      rcases List.mem_cons.mp hp with rfl | hp
      · exact Nat.le_refl _
      · exact Nat.le_of_lt (List.rel_of_pairwise_cons hsorted hp)
    | false =>
      rcases List.mem_cons.mp hp with rfl | hp
      · rw [hcheck] at hq
        cases hq
      · rw [List.find?_cons_of_neg (by simp [hq])]
        exact ih hsorted.of_cons hp

theorem Fits.mono (h : Fits nodes p) (hsub : nodes ⊆ nodes') : Fits nodes' p := by
  rcases h with rfl | ⟨n, hn, hshown⟩
  · exact Or.inl rfl
  · exact Or.inr ⟨n, hsub hn, hshown⟩

/-- A cluster is taken for a platform that it can be taken for, -/
theorem fits_detect (nodes : List Node) : Fits nodes (detect nodes) := by
  rcases hfind : candidates.find? fun p => nodes.any p.shownBy with _ | p
  · rw [detect, hfind]
    exact Or.inl rfl
  · obtain ⟨hshown, -⟩ := List.find?_eq_some_iff_append.mp hfind
    rw [detect, hfind]
    exact Or.inr (List.any_eq_true.mp hshown)

/-- and for the first of them. -/
theorem rank_detect_le (h : Fits nodes p) : (detect nodes).rank ≤ p.rank := by
  rcases h with rfl | ⟨n, hn, hshown⟩
  · exact rank_le_generic _
  · by_cases hgeneric : p = .generic
    · rw [hgeneric]
      exact rank_le_generic _
    · obtain ⟨q, hfind, hle⟩ := exists_find?_le (fun p => nodes.any p.shownBy)
        candidates_pairwise (mem_candidates_iff.mpr hgeneric)
        (List.any_eq_true.mpr ⟨n, hn, hshown⟩)
      rw [detect, hfind]
      exact hle

/-- More nodes do not lead to a later platform. -/
theorem rank_detect_le_of_subset (h : nodes ⊆ nodes') :
    (detect nodes').rank ≤ (detect nodes).rank :=
  rank_detect_le ((fits_detect nodes).mono h)

/-- Only which nodes there are decides. -/
theorem detect_eq_of_subset (h : nodes ⊆ nodes') (h' : nodes' ⊆ nodes) :
    detect nodes = detect nodes' :=
  rank_injective (Nat.le_antisymm (rank_detect_le_of_subset h') (rank_detect_le_of_subset h))

/-! ### Addresses -/

/-- Some node has an address of the type. -/
def HasAddress (nodes : List Node) (type : String) : Prop :=
  ∃ n ∈ nodes, ∃ a ∈ n.addresses, a.type = type

instance (nodes : List Node) (type : String) : Decidable (HasAddress nodes type) :=
  inferInstanceAs (Decidable (∃ n ∈ nodes, ∃ a ∈ n.addresses, a.type = type))

/-- The type of the addresses that reach services from outside. -/
def addressType (p : Platform) (nodes : List Node) : String :=
  match p with
  | .ibm => "ExternalIP"
  | .generic => if HasAddress nodes "ExternalIP" then "ExternalIP" else "InternalIP"
  | _ => "InternalIP"

theorem addressType_mem (p : Platform) (nodes : List Node) :
    p.addressType nodes = "InternalIP" ∨ p.addressType nodes = "ExternalIP" := by
  unfold addressType
  split
  · exact Or.inr rfl
  · split
    · exact Or.inr rfl
    · exact Or.inl rfl
  · exact Or.inl rfl

theorem addressType_generic_iff :
    generic.addressType nodes = "InternalIP" ↔
      ∀ n ∈ nodes, ∀ a ∈ n.addresses, a.type ≠ "ExternalIP" := by
  have hnone : (∀ n ∈ nodes, ∀ a ∈ n.addresses, a.type ≠ "ExternalIP") ↔
      ¬HasAddress nodes "ExternalIP" := by
    simp only [HasAddress, not_exists, not_and, ne_eq]
  rw [hnone, addressType]
  split
  · rename_i h
    simp [h]
  · rename_i h
    simp [h]

/-- The addresses of a type, node by node. -/
theorem addressesOf_eq (type : String) (nodes : List Node) :
    addressesOf type nodes = nodes.flatMap fun n =>
      (n.addresses.filter fun a => a.type = type).map NodeAddress.address := by
  rw [addressesOf, List.filterMap_flatMap]
  congr 1
  funext n
  induction n.addresses with
  | nil => rfl
  | cons a rest ih =>
    by_cases h : a.type = type
    · simp [h, ih]
    · simp [h, ih]

theorem isEmpty_addressesOf_iff {type : String} :
    (addressesOf type nodes).isEmpty = true ↔ ¬HasAddress nodes type := by
  rw [addressesOf, List.isEmpty_iff, List.filterMap_eq_nil_iff]
  simp only [List.mem_flatMap, HasAddress]
  grind

/-- The addresses that reach services are all those of one type. -/
theorem externalIps_eq (p : Platform) (nodes : List Node) :
    p.externalIps nodes = addressesOf (p.addressType nodes) nodes := by
  cases p with
  | generic =>
    show (if (addressesOf "ExternalIP" nodes).isEmpty then _ else _) = _
    by_cases h : HasAddress nodes "ExternalIP"
    · rw [if_neg fun hempty => isEmpty_addressesOf_iff.mp hempty h, addressType, if_pos h]
    · rw [if_pos (isEmpty_addressesOf_iff.mpr h), addressType, if_neg h]
  | kind => rfl
  | k3s => rfl
  | ibm => rfl
  | minikube => rfl

theorem addressType_eq_of_perm (p : Platform) (h : nodes.Perm nodes') :
    p.addressType nodes = p.addressType nodes' := by
  have hsame : HasAddress nodes "ExternalIP" ↔ HasAddress nodes' "ExternalIP" := by
    unfold HasAddress
    simp only [h.mem_iff]
  cases p <;> simp only [addressType, hsame]

theorem externalIps_perm (p : Platform) (h : nodes.Perm nodes') :
    (p.externalIps nodes).Perm (p.externalIps nodes') := by
  rw [externalIps_eq, externalIps_eq, p.addressType_eq_of_perm h]
  exact (h.flatMap_right _).filterMap _

/-! ### Facts -/

/-- The order in which the nodes are listed does not matter: the same platform is detected, with the
same name and the same answer to the question for load balancers, and the addresses are the same up
to their order.  With more nodes the platform does not become a later one of kind, k3s, ibm, minikube
and generic.  And the addresses are, node by node, either all internal or all external ones of all
nodes; on a generic platform they are the internal ones just if no node has an external one. -/
theorem nodes_in_any_order (nodes nodes' : List Node) (version : String) :
    (nodes.Perm nodes' →
      detect nodes = detect nodes' ∧
      (facts nodes version).platform = (facts nodes' version).platform ∧
      (facts nodes version).hasLoadBalancer = (facts nodes' version).hasLoadBalancer ∧
      (facts nodes version).externalIps.Perm (facts nodes' version).externalIps) ∧
    (nodes ⊆ nodes' → (detect nodes').rank ≤ (detect nodes).rank) ∧
    ∀ p : Platform, ∃ type, (type = "InternalIP" ∨ type = "ExternalIP") ∧
      (p.externalIps nodes = nodes.flatMap fun n =>
        (n.addresses.filter fun a => a.type = type).map NodeAddress.address) ∧
      (p = .generic →
        (type = "InternalIP" ↔ ∀ n ∈ nodes, ∀ a ∈ n.addresses, a.type ≠ "ExternalIP")) := by
  refine ⟨fun h => ?_, rank_detect_le_of_subset, fun p => ?_⟩
  · have hdetect : detect nodes = detect nodes' := detect_eq_of_subset h.subset h.symm.subset
    refine ⟨hdetect, ?_, ?_, ?_⟩
    · show (detect nodes).name = (detect nodes').name
      rw [hdetect]
    · show (detect nodes).hasLoadBalancer = (detect nodes').hasLoadBalancer
      rw [hdetect]
    · show ((detect nodes).externalIps nodes).Perm ((detect nodes').externalIps nodes')
      rw [hdetect]
      exact externalIps_perm _ h
  · refine ⟨p.addressType nodes, addressType_mem p nodes, ?_, ?_⟩
    · rw [externalIps_eq, addressesOf_eq]
    · rintro rfl
      exact addressType_generic_iff

/-- A node that shows k3s and has an address to the outside. -/
def server : Node where
  name := some "server-0"
  providerId := some "k3s://server-0"
  addresses := [⟨"InternalIP", "10.0.0.5"⟩, ⟨"ExternalIP", "34.1.2.3"⟩]

/-- A node that shows kind, and has its address inside only. -/
def controlPlane : Node where
  providerId := some "kind://docker/kind/kind-control-plane"
  addresses := [⟨"Hostname", "kind"⟩, ⟨"InternalIP", "172.18.0.2"⟩]

/-- A node that shows nothing. -/
def bare : Node where
  addresses := [⟨"ExternalIP", "34.1.2.4"⟩, ⟨"InternalIP", "10.0.0.6"⟩]

/-- Nodes of three kinds, listed in two orders, and two of them alone. -/
theorem nodes_in_any_order_mixed :
    [server, bare, controlPlane].Perm [controlPlane, server, bare] ∧
    detect [server, bare, controlPlane] = detect [controlPlane, server, bare] ∧
    detect [controlPlane, server, bare] = .kind ∧
    (facts [server, bare, controlPlane] "v1.31.0").externalIps.Perm
      (facts [controlPlane, server, bare] "v1.31.0").externalIps ∧
    (detect [controlPlane, server, bare]).rank ≤ (detect [server, bare]).rank ∧
    detect [server, bare] = .k3s := by
  have hperm : [server, bare, controlPlane].Perm [controlPlane, server, bare] := by
    decide
  have hsub : [server, bare] ⊆ [controlPlane, server, bare] := List.subset_cons_self _ _
  obtain ⟨hdetect, -, -, hips⟩ := (nodes_in_any_order _ _ "v1.31.0").1 hperm
  exact ⟨hperm, hdetect, by decide, hips, (nodes_in_any_order _ _ "v1.31.0").2.1 hsub, by decide⟩

end Groundwork.Cluster.Platform
