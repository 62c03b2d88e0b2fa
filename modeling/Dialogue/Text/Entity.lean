import Dialogue.Text.Occurrence

/-!
# Character entities

The five characters that markup reserves are written as entities inside attribute values.
The order of the two tables matters: the ampersand is the first to be escaped and the last
to be restored, so neither direction sees an ampersand that it made itself.
-/

namespace Dialogue.Text

/-- The reserved characters and their entities, the ampersand first. -/
def escapeTable : SubstitutionTable :=
  [("&".toList, "&amp;".toList), ("<".toList, "&lt;".toList), (">".toList, "&gt;".toList),
   ("\"".toList, "&quot;".toList), ("'".toList, "&apos;".toList)]

/-- The entities and the characters they stand for, the ampersand last. -/
def unescapeTable : SubstitutionTable :=
  [("&lt;".toList, "<".toList), ("&gt;".toList, ">".toList), ("&quot;".toList, "\"".toList),
   ("&apos;".toList, "'".toList), ("&amp;".toList, "&".toList)]

def escape (t : Text) : Text := applyTable escapeTable t

def unescape (t : Text) : Text := applyTable unescapeTable t

end Dialogue.Text
