import FlightAttitude.Angle
import FlightAttitude.Attitude
import FlightAttitude.AxisOrder
import FlightAttitude.Clamp
import FlightAttitude.Converter
import FlightAttitude.Converter.Options
import FlightAttitude.Datum
import FlightAttitude.Decimal.Expansion
import FlightAttitude.Decimal.Layout
import FlightAttitude.Decimal.Shortest
import FlightAttitude.Facing
import FlightAttitude.Fault
import FlightAttitude.Grid
import FlightAttitude.Grid.Axes
import FlightAttitude.Grid.Components
import FlightAttitude.Grid.Shape
import FlightAttitude.Grid.Tensor
import FlightAttitude.Mat3
import FlightAttitude.Numeral
import FlightAttitude.Numeral.Power
import FlightAttitude.Numeral.Tolerance
import FlightAttitude.Options.Attributes
import FlightAttitude.Options.Kind
import FlightAttitude.Options.Memory
import FlightAttitude.Options.Session
import FlightAttitude.Proofs.Angle.Circle
import FlightAttitude.Proofs.Angle.OpenEnds
import FlightAttitude.Proofs.Angle.Reported
import FlightAttitude.Proofs.Angle.Residue
import FlightAttitude.Proofs.Angle.Rounding
import FlightAttitude.Proofs.Attitude
import FlightAttitude.Proofs.Attitude.Bijection
import FlightAttitude.Proofs.Attitude.OpenEnds
import FlightAttitude.Proofs.Clamp
import FlightAttitude.Proofs.Converter.Apply
import FlightAttitude.Proofs.Converter.Columns
import FlightAttitude.Proofs.Converter.Configuration
import FlightAttitude.Proofs.Converter.Frame
import FlightAttitude.Proofs.Converter.Prepare
import FlightAttitude.Proofs.Converter.Reported
import FlightAttitude.Proofs.Converter.Reset
import FlightAttitude.Proofs.Converter.Rounding
import FlightAttitude.Proofs.Converter.Scale
import FlightAttitude.Proofs.Converter.Settings
import FlightAttitude.Proofs.Converter.Shapes
import FlightAttitude.Proofs.Converter.Single
import FlightAttitude.Proofs.Euler.Branches
import FlightAttitude.Proofs.Euler.Elementary
import FlightAttitude.Proofs.Euler.Ranges
import FlightAttitude.Proofs.Euler.Recompose
import FlightAttitude.Proofs.Facing
import FlightAttitude.Proofs.Facing.ClosedForm
import FlightAttitude.Proofs.Grid.Axes
import FlightAttitude.Proofs.Mat3.Rotation
import FlightAttitude.Proofs.Options.Apply
import FlightAttitude.Proofs.Options.Frame
import FlightAttitude.Proofs.Options.Invariant
import FlightAttitude.Proofs.Options.Kind
import FlightAttitude.Proofs.Options.Memory
import FlightAttitude.Proofs.Options.Session
import FlightAttitude.Proofs.Options.Start
import FlightAttitude.Proofs.Options.View
import FlightAttitude.Proofs.Quaternion.Algebra
import FlightAttitude.Proofs.Quaternion.AxisAngle
import FlightAttitude.Proofs.Quaternion.Choice
import FlightAttitude.Proofs.Quaternion.Conjugation
import FlightAttitude.Proofs.Quaternion.FixedAxis
import FlightAttitude.Proofs.Quaternion.Group
import FlightAttitude.Proofs.Quaternion.Length
import FlightAttitude.Proofs.Quaternion.Overflow
import FlightAttitude.Proofs.Quaternion.Recovery
import FlightAttitude.Proofs.Scalar.Exact
import FlightAttitude.Proofs.Scalar.Extended
import FlightAttitude.Proofs.Scalar.Limited
import FlightAttitude.Proofs.Scalar.Nearest
import FlightAttitude.Proofs.Scalar.Rounded
import FlightAttitude.Proofs.Stack.Alignment
import FlightAttitude.Proofs.Stack.Attitudes
import FlightAttitude.Proofs.Stack.Columns
import FlightAttitude.Proofs.Stack.Directions
import FlightAttitude.Proofs.Stack.LengthOne
import FlightAttitude.Proofs.Stack.Matrices
import FlightAttitude.Proofs.Stack.Rotations
import FlightAttitude.Proofs.Stack.Shapes
import FlightAttitude.Proofs.Stack.Single
import FlightAttitude.Proofs.Vec3.Algebra
import FlightAttitude.Proofs.Vec3.Degenerate
import FlightAttitude.Proofs.Vec3.GramSchmidt
import FlightAttitude.Quaternion
import FlightAttitude.Report
import FlightAttitude.Rotation.AxisAngle
import FlightAttitude.Rotation.Matrix
import FlightAttitude.Scalar
import FlightAttitude.Scalar.Binary64
import FlightAttitude.Stack.Attitudes
import FlightAttitude.Stack.Cross
import FlightAttitude.Stack.Facing
import FlightAttitude.Stack.Quaternions
import FlightAttitude.Stack.Rotations
import FlightAttitude.Stack.Vectors
import FlightAttitude.Summation
import FlightAttitude.Text.LetterCase
import FlightAttitude.Text.Printable
import FlightAttitude.Text.Quoted
import FlightAttitude.UnitCheck
import FlightAttitude.Vec3
