import Dialogue.Evaluation.Handler
import Dialogue.Settings.Json

/-!
# Failures

All that can go wrong, from the authoring of templates to a conversation, with one message
for each.
-/

namespace Dialogue

open Markup

inductive Failure where
  | markup (error : MarkupError)
  | pattern (error : InvalidPattern)
  | load (error : LoadError)
  | registry (error : DuplicateLabel)
  | legacy (error : Legacy.UnknownTag)
  | eval (error : EvalError)
  /-- The evaluation of a whole template failed. -/
  | evaluation (error : EvalError)
  | session (error : SessionError)
  | matcher (error : MatcherError)
  | settings (error : SettingsError)
deriving DecidableEq, Repr

/-- The message that the evaluation of a whole template failed. -/
def evaluationFailed (error : EvalError) : Text := "Evaluation failed: ".toList ++ error.message

def Failure.message : Failure → Text
  | .markup error => "Document error: ".toList ++ error.message
  | .pattern error => "Pattern error: ".toList ++ error.message
  | .load error => "Load error: ".toList ++ error.message
  | .registry error => "Registry error: ".toList ++ error.message
  | .legacy error => "Legacy tag error: ".toList ++ error.message
  | .eval error => "Eval error: ".toList ++ error.message
  | .evaluation error => evaluationFailed error
  | .session error => (CallError.session error).message
  | .matcher error => (CallError.matcher error).message
  | .settings error => "Internal error: ".toList ++ error.message

end Dialogue
