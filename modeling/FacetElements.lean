import FacetElements.MachineWord
import FacetElements.Scalar
import FacetElements.Domination
import FacetElements.Error
import FacetElements.Name
import FacetElements.Name.Parser
import FacetElements.Table
import FacetElements.Decimal.Shortest
import FacetElements.Decimal.Positional
import FacetElements.Cell
import FacetElements.Cell.Embedding
import FacetElements.Polynomial.Legendre
import FacetElements.Polynomial.Lagrange
import FacetElements.Polynomial.MultiIndex
import FacetElements.Polynomial.TensorSpace
import FacetElements.Polynomial.Requests
import FacetElements.Quadrature.Rule
import FacetElements.Quadrature.Lobatto
import FacetElements.Element.Face
import FacetElements.Element.Nothing
import FacetElements.Element
import FacetElements.Constraint.Tolerance
import FacetElements.Constraint.Matrix
import FacetElements.Collection
import FacetElements.Proofs.Numbering
import FacetElements.Proofs.Traversal
import FacetElements.Proofs.Tabulation
import FacetElements.Proofs.FaceFunctions
import FacetElements.Proofs.NodalBasis
import FacetElements.Proofs.ExactScalar
import FacetElements.Proofs.Interpolation
import FacetElements.Proofs.TableEntries
import FacetElements.Proofs.FaceInterpolation
import FacetElements.Proofs.RationalElements
import FacetElements.Proofs.ConstraintOutcome
import FacetElements.Proofs.ExactConstraints
import FacetElements.Proofs.ConstraintReproduction
import FacetElements.Proofs.ConstraintComposition
import FacetElements.Proofs.ConstraintEntries
import FacetElements.Proofs.ConstraintRefusals
import FacetElements.Proofs.LobattoNodes
import FacetElements.Proofs.SharedDofs
import FacetElements.Proofs.FaceSymmetry
import FacetElements.Proofs.Reflection
import FacetElements.Proofs.ConstraintSymmetry
import FacetElements.Proofs.CanonicalIntegers
import FacetElements.Proofs.NameGrammar
import FacetElements.Proofs.CollectionMatrices
import FacetElements.Proofs.FaceDomination
import FacetElements.Proofs.CollectionGrowth
import FacetElements.Proofs.TableFilling
import FacetElements.Proofs.SupportPoints
import FacetElements.Proofs.BasisDerivatives
import FacetElements.Proofs.PartitionOfUnity
import FacetElements.Proofs.LegendrePolynomials
import FacetElements.Proofs.LegendreOrthogonality
import FacetElements.Proofs.LobattoWeights
import FacetElements.Proofs.LobattoExactness
import FacetElements.Proofs.DominatingElement
import FacetElements.Proofs.LeastDegree
import FacetElements.Proofs.ConstraintIdentity
import FacetElements.Proofs.NameRebuilding
import FacetElements.Proofs.PolynomialReproduction
import FacetElements.Proofs.TabulatedValues
import FacetElements.Proofs.KroneckerProducts
import FacetElements.Proofs.PartialDerivatives
import FacetElements.Proofs.LegendreValues
import FacetElements.Proofs.ListFilling
import FacetElements.Proofs.LobattoShape
import FacetElements.Proofs.ChildTiling
import FacetElements.Proofs.FaceBoundary
import FacetElements.Proofs.TableWrites
import FacetElements.Proofs.BasisNumbering
import FacetElements.Proofs.RequestFaults
import FacetElements.Proofs.DofCounts
import FacetElements.Proofs.NewtonSteps
import FacetElements.Proofs.LegendreParity
