import ModelFormula.Failure.Details
import ModelFormula.Node.Build
import ModelFormula.Node.WellFormed
import ModelFormula.Node.Variables
import ModelFormula.Text.Number
import ModelFormula.Term.Table
import ModelFormula.Factor
import ModelFormula.Column
import ModelFormula.Table
import ModelFormula.Evaluation
import ModelFormula.Block
import ModelFormula.Contrast
import ModelFormula.Coefficient
import ModelFormula.Matrix
import ModelFormula.Settings.Field
import ModelFormula.Settings.Layers
import ModelFormula.Settings.Update
import ModelFormula.Document
import ModelFormula.Document.Scalar
import ModelFormula.Document.Folding
import ModelFormula.Document.Reader
import ModelFormula.Document.Printer
import ModelFormula.Files
import ModelFormula.Log.Channel
import ModelFormula.Session
import ModelFormula.Proofs.Evaluation
import ModelFormula.Proofs.Incidence
import ModelFormula.Proofs.Frame.Contents
import ModelFormula.Proofs.Frame.Rows
import ModelFormula.Proofs.Frame.Texts
import ModelFormula.Proofs.Matrix.Names
import ModelFormula.Proofs.Matrix.Filtering
import ModelFormula.Proofs.Matrix.RowOrder
import ModelFormula.Proofs.Orders
import ModelFormula.Proofs.Variables
import ModelFormula.Proofs.Frame.Variables
import ModelFormula.Proofs.Matrix.FixedEffects
import ModelFormula.Proofs.Interactions
import ModelFormula.Proofs.RightFold
import ModelFormula.Proofs.Regrouping
import ModelFormula.Proofs.Crossings
import ModelFormula.Proofs.Render.Legible
import ModelFormula.Proofs.Frame.LongProducts
import ModelFormula.Proofs.Session.Configure
import ModelFormula.Proofs.Session.Logging
import ModelFormula.Proofs.Session.Following
import ModelFormula.Proofs.Session.Valid
import ModelFormula.Proofs.Matrix.Response
import ModelFormula.Proofs.Log.Form
import ModelFormula.Proofs.Session.Calls
import ModelFormula.Proofs.Settings.Valid
import ModelFormula.Proofs.Matrix.Failures
import ModelFormula.Proofs.Malformed
import ModelFormula.Proofs.Matrix.Buildable
import ModelFormula.Proofs.Evaluable
import ModelFormula.Proofs.Frame.Buildable
import ModelFormula.Proofs.Treatment
import ModelFormula.Proofs.Frame.Levels
import ModelFormula.Proofs.Products
import ModelFormula.Proofs.Termination
import ModelFormula.Proofs.Session.Sources
import ModelFormula.Proofs.Settings.Single
import ModelFormula.Proofs.Session.Saved
