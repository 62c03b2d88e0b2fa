import Dialogue.Category.Basic
import Dialogue.Json.Reader
import Dialogue.Settings.Basic

/-!
# Settings and categories as JSON

A record is read field by field: a missing field has its default, an unknown one is ignored,
and one that stands twice is refused. Writing gives every field, in the order in which an
array would give them. A duration is written as the number of its milliseconds.
-/

namespace Dialogue

def SubstitutionTable.toJson (t : SubstitutionTable) : Json :=
  .array (t.map fun rule => .array [.ofText rule.1, .ofText rule.2])

def SubstitutionTable.ofJson? : Json → Option SubstitutionTable := Json.list? Json.textPair?

def optionalTable : Option SubstitutionTable → Json
  | some t => t.toJson
  | none => .null

/-- The dictionary given as an object. Of a name that stands twice the last value counts. -/
def textDictionary? : Json → Option (Dictionary Text Text)
  | .object fields => do
    let entries ← fields.mapM fun f => return (← f.1, ← f.2.text?)
    return entries.foldl (fun d entry => Dictionary.set entry.1 entry.2 d) []
  | _ => none

def Duration.toJson (d : Duration) : Json := .natural (d.toMillis % UInt64.size)

/-- The duration of a number of milliseconds that fits 64 bits. -/
def Duration.ofJson? (j : Json) : Option Duration := j.word?.map Duration.ofMillis

namespace Substitutions

def fieldNames : List Text :=
  ["input".toList, "person".toList, "person2".toList, "gender".toList]

def toJson (s : Substitutions) : Json :=
  .record (fieldNames.zip
    [s.input.toJson, optionalTable s.person, optionalTable s.person2, optionalTable s.gender])

def ofJson? (j : Json) : Option Substitutions := do
  match ← j.record? fieldNames with
  | [input, person, person2, gender] =>
    let optional := Json.fieldOr none (Json.orNull? SubstitutionTable.ofJson?)
    return {
      input := ← Json.fieldOr [] SubstitutionTable.ofJson? input
      person := ← optional person
      person2 := ← optional person2
      gender := ← optional gender }
  | _ => none

end Substitutions

namespace Settings

def fieldNames : List Text :=
  ["max_recursion_depth".toList, "max_steps".toList, "max_duration".toList,
   "recursion_fallback".toList, "fallback_response".toList, "default_predicate_value".toList,
   "default_topic".toList, "sentence_splitters".toList, "bot_properties".toList,
   "support_deprecated_tags".toList, "random_seed".toList, "date_format".toList,
   "version".toList, "max_history".toList, "substitutions".toList]

def toJson (s : Settings) : Json :=
  .record (fieldNames.zip
    [.natural s.maxRecursionDepth, .natural s.maxSteps, s.maxDuration.toJson,
     .ofText s.recursionFallback, .ofText s.fallbackResponse, .ofText s.defaultPredicateValue,
     .ofText s.defaultTopic, .array (s.sentenceSplitters.map .ofText),
     .record (s.botProperties.map fun entry => (entry.1, .ofText entry.2)),
     .bool s.supportDeprecatedTags, .ofNat? s.randomSeed, .ofText s.dateFormat,
     .ofText s.version, .natural s.maxHistory, s.substitutions.toJson])

def ofJson? (j : Json) : Option Settings := do
  match ← j.record? fieldNames with
  | [maxRecursionDepth, maxSteps, maxDuration, recursionFallback, fallbackResponse,
     defaultPredicateValue, defaultTopic, sentenceSplitters, botProperties,
     supportDeprecatedTags, randomSeed, dateFormat, version, maxHistory, substitutions] =>
    return {
      maxRecursionDepth := ← Json.fieldOr Standard.maxRecursionDepth Json.word? maxRecursionDepth
      maxSteps := ← Json.fieldOr Standard.maxSteps Json.word? maxSteps
      maxDuration := ← Json.fieldOr Standard.maxDuration Duration.ofJson? maxDuration
      recursionFallback := ← Json.fieldOr Standard.recursionFallback Json.text? recursionFallback
      fallbackResponse := ← Json.fieldOr [] Json.text? fallbackResponse
      defaultPredicateValue := ← Json.fieldOr [] Json.text? defaultPredicateValue
      defaultTopic := ← Json.fieldOr Standard.topic Json.text? defaultTopic
      sentenceSplitters :=
        ← Json.fieldOr Standard.sentenceSplitters (Json.list? Json.text?) sentenceSplitters
      botProperties := ← Json.fieldOr [] textDictionary? botProperties
      supportDeprecatedTags :=
        ← Json.fieldOr Standard.supportDeprecatedTags Json.bool? supportDeprecatedTags
      randomSeed := ← Json.fieldOr none (Json.orNull? Json.word?) randomSeed
      dateFormat := ← Json.fieldOr Standard.dateFormat Json.text? dateFormat
      version := ← Json.fieldOr Standard.version Json.text? version
      maxHistory := ← Json.fieldOr Standard.maxHistory Json.word? maxHistory
      substitutions := ← Json.fieldOr {} Substitutions.ofJson? substitutions }
  | _ => none

def parse? (source : Text) : Option Settings := (Json.parse? source).bind ofJson?

end Settings

inductive SettingsError where
  /-- The text holds no settings. -/
  | malformed
  /-- The file holds no settings. -/
  | malformedFile
  /-- The file cannot be opened. -/
  | missingFile
deriving DecidableEq, Repr

def SettingsError.message : SettingsError → Text
  | .malformed => "Failed to parse config".toList
  | .malformedFile => "Failed to parse config file".toList
  | .missingFile => "Failed to open config file".toList

namespace Settings

def ofText? (source : Text) : Except SettingsError Settings :=
  match parse? source with
  | some s => .ok s
  | none => .error .malformed

/-- Loads settings from a file with the given content, if it could be opened. -/
def ofFile? : Option Text → Except SettingsError Settings
  | some source =>
    match parse? source with
    | some s => .ok s
    | none => .error .malformedFile
  | none => .error .missingFile

end Settings

namespace CategorySource

def fieldNames : List Text :=
  ["pattern".toList, "that".toList, "topic".toList, "template".toList]

/-- The authored form given as a record. The contexts may be left out. -/
def ofJson? (j : Json) : Option CategorySource := do
  match ← j.record? fieldNames with
  | [pattern, that, topic, template] =>
    return {
      pattern := ← (← pattern).text?
      that := ← Json.fieldOr anyContext Json.text? that
      topic := ← Json.fieldOr anyContext Json.text? topic
      template := ← (← template).text? }
  | _ => none

def parse? (source : Text) : Option CategorySource := (Json.parse? source).bind ofJson?

end CategorySource

end Dialogue
