import Reckoner.Answer
import Reckoner.Binary64.Reading
import Reckoner.CommandLine.Console
import Reckoner.Expression.Stages
import Reckoner.Field.Edit
import Reckoner.Journal
import Reckoner.Main
import Reckoner.Proofs.Answer.Letters
import Reckoner.Proofs.Answer.Noise
import Reckoner.Proofs.Answer.Strict
import Reckoner.Proofs.Answer.Written
import Reckoner.Proofs.Binary64.Exact
import Reckoner.Proofs.CommandLine.Help
import Reckoner.Proofs.Decimal.Canonical
import Reckoner.Proofs.Decimal.Correct
import Reckoner.Proofs.Decimal.Stable
import Reckoner.Proofs.Expression.Failure
import Reckoner.Proofs.Expression.Listing
import Reckoner.Proofs.Expression.NormalForm
import Reckoner.Proofs.Expression.Order
import Reckoner.Proofs.Expression.Rearrangement
import Reckoner.Proofs.Expression.Signs
import Reckoner.Proofs.Expression.Spacing
import Reckoner.Proofs.Extraction.Unit
import Reckoner.Proofs.Field.Answered
import Reckoner.Proofs.Field.Bounds
import Reckoner.Proofs.Field.Continuation
import Reckoner.Proofs.Field.Host
import Reckoner.Proofs.Journal.Wording
import Reckoner.Proofs.Session.Dialogue
import Reckoner.Proofs.Session.Lines
import Reckoner.Proofs.Session.Notes
import Reckoner.Proofs.Session.Separate
import Reckoner.Proofs.Settings
import Reckoner.Proofs.Text.Shown
import Reckoner.Session
