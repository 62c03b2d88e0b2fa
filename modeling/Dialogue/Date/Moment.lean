import Dialogue.Text.Basic

/-!
# Moments

How a date is written is not decided here: a moment can be written in some formats, and always
in the standard form of date and time.
-/

namespace Dialogue

/-- A moment, known by what it is in writing. -/
structure Moment where
  /-- The moment in a format, if that is valid. -/
  format? : Text → Option Text
  stamp : Text
deriving Inhabited

/-- The moment in the first of two formats that is valid, or else in the standard form. -/
def Moment.render (m : Moment) (format fallback : Text) : Text :=
  ((m.format? format).or (m.format? fallback)).getD m.stamp

end Dialogue
