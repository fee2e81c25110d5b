import Mathlib.Data.List.Induction

/-!
# Paths of a labelled step relation

A step relation over any state type and any label type. A path lists the labels of its
steps oldest first. The induction rules here are the ones every whole-run result of this
development uses: a property of the labels so far and the state they lead to, established
at the start and kept by each step, holds at the end of every path.
-/

namespace PolicyWitness

variable {σ ε : Type*} {step : σ → ε → σ → Prop}

/-- Steps from one state to another, with the labels taken, oldest first. -/
inductive Path (step : σ → ε → σ → Prop) (start : σ) : List ε → σ → Prop
  /-- No step has been taken. -/
  | nil : Path step start [] start
  /-- One more step at the end. -/
  | snoc {trace : List ε} {middle final : σ} {label : ε} :
      Path step start trace middle → step middle label final →
        Path step start (trace ++ [label]) final

namespace Path

variable {start middle final : σ} {trace first second : List ε} {label : ε}

/-- A property of the labels and the state, kept by every step, holds along every path. -/
theorem invariant (holds : List ε → σ → Prop) (initial : holds [] start)
    (kept : ∀ trace middle label final, Path step start trace middle → holds trace middle →
      step middle label final → holds (trace ++ [label]) final)
    (path : Path step start trace final) : holds trace final := by
  induction path with
  | nil => exact initial
  | snoc before taken ih => exact kept _ _ _ _ before ih taken

/-- A property of states alone, kept by every step, holds along every path. -/
theorem stable (holds : σ → Prop) (initial : holds start)
    (kept : ∀ middle label final, holds middle → step middle label final → holds final)
    (path : Path step start trace final) : holds final :=
  path.invariant (fun _ state => holds state) initial
    fun _ _ _ _ _ before taken => kept _ _ _ before taken

/-- A path of a narrower step relation is a path of a wider one. -/
theorem mono {wider : σ → ε → σ → Prop}
    (weaken : ∀ before label after, step before label after → wider before label after)
    (path : Path step start trace final) : Path wider start trace final := by
  induction path with
  | nil => exact .nil
  | snoc _ taken ih => exact ih.snoc (weaken _ _ _ taken)

/-- Two paths that meet form one path. -/
theorem append (left : Path step start first middle) (right : Path step middle second final) :
    Path step start (first ++ second) final := by
  induction right with
  | nil => simpa using left
  | snoc before taken ih =>
    rw [← List.append_assoc]
    exact ih.snoc taken

/-- The last label of a path is the label of its last step. -/
theorem last_step (path : Path step start (trace ++ [label]) final) :
    ∃ middle, Path step start trace middle ∧ step middle label final := by
  generalize shape : trace ++ [label] = labels at path
  cases path with
  | nil => simp at shape
  | snoc before taken =>
    obtain ⟨same, last⟩ := List.append_inj' shape rfl
    obtain rfl := List.singleton_inj.mp last
    subst same
    exact ⟨_, before, taken⟩

/-- A path can be cut at any place of its labels. -/
theorem split (path : Path step start (first ++ second) final) :
    ∃ middle, Path step start first middle ∧ Path step middle second final := by
  induction second using List.reverseRecOn generalizing final with
  | nil => exact ⟨final, by simpa using path, .nil⟩
  | append_singleton rest label ih =>
    rw [← List.append_assoc] at path
    obtain ⟨previous, before, taken⟩ := path.last_step
    obtain ⟨middle, left, right⟩ := ih before
    exact ⟨middle, left, right.snoc taken⟩

/-- Every label of a path is the label of a step taken after a shorter path. -/
theorem at_label (path : Path step start (first ++ label :: second) final) :
    ∃ before after, Path step start first before ∧ step before label after ∧
      Path step after second final := by
  have regrouped : first ++ label :: second = (first ++ [label]) ++ second := by simp
  rw [regrouped] at path
  obtain ⟨after, left, right⟩ := path.split
  obtain ⟨before, earlier, taken⟩ := left.last_step
  exact ⟨before, after, earlier, taken, right⟩

/-- When a label determines the next state, the labels determine the last one. -/
theorem deterministic {other : σ} (left : Path step start trace final)
    (right : Path step start trace other)
    (functional : ∀ before label after after', step before label after →
      step before label after' → after = after') :
    final = other := by
  induction left generalizing other with
  | nil =>
    generalize shape : ([] : List ε) = labels at right
    cases right with
    | nil => rfl
    | snoc => simp at shape
  | snoc before taken ih =>
    obtain ⟨middle, earlier, again⟩ := right.last_step
    obtain rfl := ih earlier
    exact functional _ _ _ _ taken again

end Path
end PolicyWitness
