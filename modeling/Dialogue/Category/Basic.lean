import Dialogue.Markup.Document
import Dialogue.Pattern.Match

/-!
# Categories

A category answers an input: three patterns say when it applies, to the input, to what was
said before (`that`) and to the topic, and a template says what to answer. It is authored as
four texts. Loading takes the good ones and reports the bad ones.
-/

namespace Dialogue

open Markup

/-- The authored form of a category. -/
structure CategorySource where
  pattern : Text
  that : Text
  topic : Text
  template : Text
deriving DecidableEq, Repr

/-- The pattern of a context that is left out: it matches any. -/
def anyContext : Text := ['*']

inductive CategoryField where
  | pattern
  | that
  | topic
  | template
deriving DecidableEq, Repr

def CategoryField.name : CategoryField → Text
  | .pattern => "pattern".toList
  | .that => "that".toList
  | .topic => "topic".toList
  | .template => "template".toList

def CategorySource.text (s : CategorySource) : CategoryField → Text
  | .pattern => s.pattern
  | .that => s.that
  | .topic => s.topic
  | .template => s.template

/-- What is wrong with the authored form of a category. -/
inductive LoadError where
  | pattern (field : CategoryField) (error : InvalidPattern)
  | template (error : MarkupError)
deriving DecidableEq, Repr

namespace LoadError

def field : LoadError → CategoryField
  | .pattern field _ => field
  | .template _ => .template

def message : LoadError → Text
  | .pattern field error =>
    "Invalid ".toList ++ field.name ++ " pattern: ".toList ++ error.message
  | .template error => "Malformed template: ".toList ++ error.message

end LoadError

structure Category where
  pattern : Pattern
  that : Pattern
  topic : Pattern
  template : Document

def parseField (field : CategoryField) (text : Text) : Except LoadError Pattern :=
  (Pattern.parse? text).mapError (.pattern field)

/-- The category with the given authored form. The fields are checked in the order pattern,
that, topic, template. -/
def Category.ofSource? (s : CategorySource) : Except LoadError Category := do
  let pattern ← parseField .pattern s.pattern
  let that ← parseField .that s.that
  let topic ← parseField .topic s.topic
  let template ← (Document.parse? s.template).mapError .template
  return ⟨pattern, that, topic, template⟩

/-! ## Loading -/

/-- A category that was skipped: its place in the sequence, counted from 0, the field at
fault, its text and the error. -/
structure LoadDiagnostic where
  index : Nat
  field : CategoryField
  offending : Text
  error : LoadError
deriving DecidableEq, Repr

def LoadDiagnostic.message (d : LoadDiagnostic) : Text :=
  "category ".toList ++ Text.ofNat d.index ++ " (".toList ++ d.field.name ++ " \"".toList
    ++ d.offending ++ "\"): ".toList ++ d.error.message

structure LoadReport where
  loaded : Nat
  skipped : List LoadDiagnostic
deriving DecidableEq, Repr

/-- Categories in the order in which they were added. -/
abbrev CategoryList := List Category

namespace CategoryList

def add? (categories : CategoryList) (source : CategorySource) : Except LoadError CategoryList :=
  (Category.ofSource? source).map fun category => categories ++ [category]

/-- Adds the good ones of the sources, of which the first has the given index, and reports
on all of them. -/
def loadFrom (categories : CategoryList) (index : Nat) :
    List CategorySource → CategoryList × LoadReport
  | [] => (categories, ⟨0, []⟩)
  | source :: rest =>
    match categories.add? source with
    | .ok categories =>
      let (categories, report) := loadFrom categories (index + 1) rest
      (categories, { report with loaded := report.loaded + 1 })
    | .error error =>
      let (categories, report) := loadFrom categories (index + 1) rest
      let diagnostic : LoadDiagnostic := ⟨index, error.field, source.text error.field, error⟩
      (categories, { report with skipped := diagnostic :: report.skipped })

def load (categories : CategoryList) (sources : List CategorySource) :
    CategoryList × LoadReport :=
  loadFrom categories 0 sources

end CategoryList

end Dialogue
