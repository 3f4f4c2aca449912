import HealthPanel.Text.Quoted

/-!
# How a file differs from what is asked of it

A configuration file is well formed, but holds something else than the configuration: a value of
another kind or out of range, a name that is not among the known ones, or a field too many or
too few.
-/

namespace HealthPanel

/-- What a file holds in some place. -/
inductive Found
  | null
  /-- Nothing, or a word for nothing. -/
  | nothing
  | boolean (value : Bool)
  | integer (digits : String)
  | floating (digits : String)
  | text (value : String)
  | sequence
  | map
  /-- Something else, in its own words. -/
  | other (words : String)
  deriving DecidableEq

/-- What is found, in words. -/
def Found.describe : Found → String
  | null => "null"
  | nothing => "unit value"
  | boolean value => "boolean `" ++ toString value ++ "`"
  | integer digits => "integer `" ++ digits ++ "`"
  | floating digits => "floating point `" ++ digits ++ "`"
  | text value => "string " ++ Text.quote value
  | sequence => "sequence"
  | map => "map"
  | other words => words

/-- How what is found differs from what is asked for. -/
inductive Mismatch
  | kind (found : Found) (expected : String)
  | value (found : Found) (expected : String)
  | unknownName (name : String) (known : List String)
  | repeatedField (name : String)
  | missingField (name : String)
  | tooShort (length : Nat) (expected : String)
  deriving DecidableEq

/-- Names to choose from, in words. -/
def alternatives : List String → String
  | [] => ""
  | [name] => "`" ++ name ++ "`"
  | [first, second] => "`" ++ first ++ "` or `" ++ second ++ "`"
  | names => "one of " ++ ", ".intercalate (names.map fun name => "`" ++ name ++ "`")

/-- The difference in words. -/
def Mismatch.message : Mismatch → String
  | kind found expected => "invalid type: " ++ found.describe ++ ", expected " ++ expected
  | value found expected => "invalid value: " ++ found.describe ++ ", expected " ++ expected
  | unknownName name known =>
    "unknown variant `" ++ name ++ "`, expected " ++ alternatives known
  | repeatedField name => "duplicate field `" ++ name ++ "`"
  | missingField name => "missing field `" ++ name ++ "`"
  | tooShort length expected =>
    "invalid length " ++ toString length ++ ", expected " ++ expected

end HealthPanel
