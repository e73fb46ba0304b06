/-!
# Domination

Two elements meet on a face.  The dominating one keeps its degrees of freedom
there; those of the other are constrained to it.
-/

namespace FacetElements

/-- Which of two elements constrains the other on their common face. -/
inductive Domination where
  | this
  | other
  | either
  | neither
  | noRequirements
  deriving DecidableEq, Repr

namespace Domination

/-- The relation as the other element sees it. -/
def reversed : Domination → Domination
  | .this => .other
  | .other => .this
  | d => d

@[simp] theorem reversed_reversed (d : Domination) : d.reversed.reversed = d := by
  cases d <;> rfl

/-- The first element may be taken as the dominating one. -/
def Admits : Domination → Prop
  | .this | .either | .noRequirements => True
  | .other | .neither => False

instance : DecidablePred Admits := fun d => by
  cases d <;> unfold Admits <;> infer_instance

end Domination

end FacetElements
