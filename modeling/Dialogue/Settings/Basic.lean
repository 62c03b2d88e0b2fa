import Dialogue.Dictionary
import Dialogue.Text.Pronoun

/-!
# Settings

What a bot can be told about itself: its limits, its fallbacks, its properties and its
substitution tables.
-/

namespace Dialogue

/-- The substitution tables. The table for input is empty unless given; a pronoun table that
is not given is the built-in one. -/
structure Substitutions where
  input : SubstitutionTable := []
  person : Option SubstitutionTable := none
  person2 : Option SubstitutionTable := none
  gender : Option SubstitutionTable := none
deriving DecidableEq, Repr

namespace Substitutions

def personTable (s : Substitutions) : Text.PersonShift → SubstitutionTable
  | .firstThird => s.person.getD Text.personTable
  | .firstSecond => s.person2.getD Text.person2Table

def genderTable (s : Substitutions) : SubstitutionTable := s.gender.getD Text.genderTable

end Substitutions

/-! ## Durations -/

/-- A length of time: whole seconds, and nanoseconds that make no second. -/
structure Duration where
  seconds : Nat
  nanoseconds : Nat
  nanoseconds_lt : nanoseconds < 1000000000
deriving DecidableEq, Repr

namespace Duration

def ofMillis (n : Nat) : Duration where
  seconds := n / 1000
  nanoseconds := n % 1000 * 1000000
  nanoseconds_lt := by omega

def toMillis (d : Duration) : Nat := d.seconds * 1000 + d.nanoseconds / 1000000

instance : LT Duration where
  lt d e := d.seconds < e.seconds ∨ d.seconds = e.seconds ∧ d.nanoseconds < e.nanoseconds

instance (d e : Duration) : Decidable (d < e) :=
  inferInstanceAs (Decidable
    (d.seconds < e.seconds ∨ d.seconds = e.seconds ∧ d.nanoseconds < e.nanoseconds))

instance : Inhabited Duration := ⟨.ofMillis 0⟩

end Duration

/-! ## What is not given -/

namespace Standard

abbrev maxRecursionDepth : Nat := 16

abbrev maxSteps : Nat := 10000

abbrev maxDuration : Duration := .ofMillis 2000

abbrev recursionFallback : Text := "[recursion limit reached]".toList

abbrev topic : Text := ['*']

abbrev sentenceSplitters : List Text := [['.'], ['!'], ['?']]

abbrev supportDeprecatedTags : Bool := true

abbrev dateFormat : Text := "%B %d, %Y".toList

abbrev version : Text := "0.1.0".toList

abbrev maxHistory : Nat := 32

end Standard

/-- The settings of a bot. -/
structure Settings where
  /-- How deep self-queries may nest. -/
  maxRecursionDepth : Nat := Standard.maxRecursionDepth
  /-- How many nodes one answer may visit. -/
  maxSteps : Nat := Standard.maxSteps
  /-- How long one answer may take. -/
  maxDuration : Duration := Standard.maxDuration
  /-- What a self-query gives that would nest too deep. -/
  recursionFallback : Text := Standard.recursionFallback
  /-- The answer to a sentence that matches nothing or fails. -/
  fallbackResponse : Text := []
  /-- The value of a predicate that was never set. -/
  defaultPredicateValue : Text := []
  /-- The topic of a session that has none. -/
  defaultTopic : Text := Standard.topic
  /-- What ends a sentence. -/
  sentenceSplitters : List Text := Standard.sentenceSplitters
  /-- What the bot knows about itself. -/
  botProperties : Dictionary Text Text := []
  /-- Whether deprecated tags are understood. -/
  supportDeprecatedTags : Bool := Standard.supportDeprecatedTags
  /-- What the random choices of every turn begin from. Without it each turn makes its own. -/
  randomSeed : Option Nat := none
  /-- The format of a date without a format of its own. -/
  dateFormat : Text := Standard.dateFormat
  /-- The version that the bot reports. -/
  version : Text := Standard.version
  /-- How many entries of a history are kept. -/
  maxHistory : Nat := Standard.maxHistory
  /-- The substitution tables. -/
  substitutions : Substitutions := {}
deriving DecidableEq, Repr

/-- What one turn may spend: visits of nodes, and time. -/
structure Budget where
  steps : Nat
  time : Duration
deriving DecidableEq, Repr

def Settings.budget (s : Settings) : Budget := ⟨s.maxSteps, s.maxDuration⟩

def Settings.withBotProperty (s : Settings) (name value : Text) : Settings :=
  { s with botProperties := s.botProperties.set name value }

end Dialogue
