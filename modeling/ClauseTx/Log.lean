/-!
# Log formats

Events are written for people or as lines of JSON.  The format is chosen
once: who comes later finds it taken.
-/

namespace ClauseTx

/-- How events are written. -/
inductive LogFormat where
  | pretty
  | json
deriving DecidableEq, Inhabited

namespace LogFormat

/-- The format with a name.  Any other name means the format for people. -/
def ofText (text : String) : LogFormat :=
  if text.toList.map Char.toLower = "json".toList then .json else .pretty

/-- The name of a format. -/
def name : LogFormat → String
  | .pretty => "Pretty"
  | .json => "Json"

/-- Chooses a format unless one is chosen already.  The answer is whether it
was chosen now, and the choice that holds. -/
def choose (chosen : Option LogFormat) (format : LogFormat) : Bool × LogFormat :=
  match chosen with
  | none => (true, format)
  | some earlier => (false, earlier)

end LogFormat

end ClauseTx
