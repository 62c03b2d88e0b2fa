import Dialogue.Evaluation.Handler

/-!
# Tags that report

The date, the session, the number of categories and the version of the bot.
-/

namespace Dialogue.Tags

/-- The date in the format of the tag, or in that of the settings. -/
def date : Handler where
  label := "date".toList
  process i := do
    let moment ← Evaluation.now
    let standard := i.settings.dateFormat
    return moment.render ((i.attribute? "format".toList).getD standard) standard

def id : Handler := ⟨"id".toList, fun i => .done i.context.session⟩

def size : Handler where
  label := "size".toList
  process _ := do
    return Text.ofNat (← Evaluation.categoryCount)

def version : Handler := ⟨"version".toList, fun i => .done i.settings.version⟩

end Dialogue.Tags
