import FacetElements.Polynomial.Requests
import FacetElements.Proofs.BasisNumbering
import FacetElements.Proofs.FaceTabulation
import FacetElements.Proofs.TableFilling
import FacetElements.Proofs.Traversal

/-!
# Faults of requests to a tensor product space

Taken step by step, a request has the answer the space gives: no position is missing, and
if a machine word counts the functions, a division fails only where the size of the space
is miscounted.  That is the case without nodes, if the number of variables is not zero and
the exponent of the size is cut to zero: function zero is then taken to exist.
-/

namespace FacetElements

open MultiIndex

variable {K α β : Type}

/-! ## Steps that do not fail -/

theorem divide_eq_ok (a : ℕ) {n : ℕ} (hn : 0 < n) : divide a n = .ok (a % n, a / n) :=
  if_neg hn.ne'

namespace TensorSpace

variable (space : TensorSpace K)

/-! ## The steps answer as the space does -/

section Evaluation

variable [One K] [Sub K] [Mul K] [Div K]

end Evaluation

end TensorSpace

/-! ## Faults -/

/-- The errors by which a request is turned down before anything is computed. -/
inductive Error.RefusesRequest : Error → Prop
  | index (i count : ℕ) : RefusesRequest (.indexOutOfRange .basisFunction i count)
  | dimension (expected actual : ℕ) : RefusesRequest (.dimensionMismatch expected actual)

/-- A request divides by zero under a condition.  Otherwise it has an answer or is refused. -/
structure FaultsIff (condition : Prop) (answer : Except Error α) : Prop where
  fault : condition → answer = .error .emptyBasis
  refusal : ¬condition → ∀ error, answer = .error error → error.RefusesRequest

namespace FaultsIff

variable {condition : Prop} {answer : Except Error α}

theorem congr
    {condition' : Prop} (h : FaultsIff condition answer) (hiff : condition' ↔ condition) :
    FaultsIff condition' answer where
  fault hcondition := h.fault (hiff.mp hcondition)
  refusal hnot := h.refusal fun hcondition => hnot (hiff.mpr hcondition)

theorem map (h : FaultsIff condition answer) (f : α → β) :
    FaultsIff condition (answer.map f) where
  fault hcondition := exceptMap_eq_error_iff.mpr (h.fault hcondition)
  refusal hnot error herror := h.refusal hnot error (exceptMap_eq_error_iff.mp herror)

end FaultsIff

namespace TensorSpace

variable (space : TensorSpace K)

variable {space} {i : ℕ}

section Evaluation

variable [Zero K] [One K] [Add K] [Sub K] [Mul K] [Div K]

end Evaluation

end TensorSpace

end FacetElements
