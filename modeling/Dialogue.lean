import Dialogue.Conversation
import Dialogue.Failure
import Dialogue.Session.Environment
import Dialogue.Tags.Standard
import Dialogue.Text.Entity
import Dialogue.Proofs.Evaluation.Interpreter
import Dialogue.Proofs.SelfQuery
import Dialogue.Proofs.Evaluation.Confined
import Dialogue.Proofs.Cost
import Dialogue.Proofs.Text.Sentence
import Dialogue.Proofs.Batching
import Dialogue.Proofs.Isolation
import Dialogue.Proofs.Budget
import Dialogue.Proofs.Markup.RoundTrip
import Dialogue.Proofs.Legacy.Meaning
import Dialogue.Proofs.FirstFailure
import Dialogue.Proofs.Recall
import Dialogue.Proofs.Session.Log
import Dialogue.Proofs.Text.Pronoun
import Dialogue.Proofs.Pattern.Capture
import Dialogue.Proofs.History
import Dialogue.Proofs.Category.Selection
import Dialogue.Proofs.Erasure
import Dialogue.Proofs.Frame
import Dialogue.Proofs.Markup.Chunk
import Dialogue.Proofs.Markup.Span
import Dialogue.Proofs.Markup.Nesting
import Dialogue.Proofs.Markup.Tag
import Dialogue.Proofs.Text.Substitution
import Dialogue.Proofs.Category.Loading
import Dialogue.Proofs.Condition
import Dialogue.Proofs.Text.Lossless
import Dialogue.Proofs.Text.Capitalization
import Dialogue.Proofs.PassThrough
import Dialogue.Proofs.OwnText
import Dialogue.Proofs.Text.Literal
import Dialogue.Proofs.Renormalization
import Dialogue.Proofs.Markup.Visible
import Dialogue.Proofs.Settings
import Dialogue.Proofs.Text.Run
import Dialogue.Proofs.Text.Replacement
