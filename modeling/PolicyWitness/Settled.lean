import Mathlib.Logic.Relation

/-!
# Settled nodes of a search

A depth-first search finishes a node after everything the node points to. The finished nodes, the
last one first, are then closed under the edges, and no cycle runs through them.
-/

namespace PolicyWitness

variable {α : Type} {edge : α → α → Prop} {nodes : List α} {node other : α}

/-- Every node points only to nodes behind it. -/
inductive Settled (edge : α → α → Prop) : List α → Prop where
  | nil : Settled edge []
  | cons {node : α} {nodes : List α} (targets : ∀ other, edge node other → other ∈ nodes)
      (settled : Settled edge nodes) : Settled edge (node :: nodes)

/-- What a settled node points to is settled. -/
theorem Settled.edge_mem (settled : Settled edge nodes) (member : node ∈ nodes)
    (points : edge node other) : other ∈ nodes := by
  induction settled with
  | nil => cases member
  | cons targets _ ih =>
    cases List.mem_cons.mp member with
    | inl same =>
      rw [same] at points
      exact .tail _ (targets other points)
    | inr behind => exact .tail _ (ih behind)

/-- What is reached from a settled node is settled. -/
theorem Settled.reach_mem (settled : Settled edge nodes) (member : node ∈ nodes)
    (reached : Relation.ReflTransGen edge node other) : other ∈ nodes := by
  induction reached with
  | refl => exact member
  | tail _ points ih => exact settled.edge_mem ih points

/-- The edges from a settled node cannot be followed forever. -/
theorem Settled.acc (settled : Settled edge nodes) (member : node ∈ nodes) :
    Acc (flip edge) node := by
  induction settled generalizing node with
  | nil => cases member
  | cons targets _ ih =>
    cases List.mem_cons.mp member with
    | inl same =>
      constructor
      intro other points
      rw [same] at points
      exact ih (targets other points)
    | inr behind => exact ih behind

/-- No cycle runs through a settled node. -/
theorem Settled.acyclic (settled : Settled edge nodes) (member : node ∈ nodes) :
    ¬ Relation.TransGen edge node node := by
  have within : Acc (Relation.TransGen (flip edge)) node := (settled.acc member).transGen
  intro cycle
  have back : Relation.TransGen (flip edge) node node := Relation.transGen_swap.mpr cycle
  clear member cycle
  induction within with
  | intro node _ ih => exact ih node back back

end PolicyWitness
