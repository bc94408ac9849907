import ProxySelection.Text.Basic

/-!
Header fields in order. Names are compared without regard to the case of ASCII letters.

Setting a header gives the value to the first field of the name, which keeps its own spelling,
and removes the other ones; without such a field one is added at the end.
-/

namespace ProxySelection

/-- Header fields, name and value, in order. -/
abbrev Headers := List (Text × Text)

namespace Headers

/-- A name in lower case. -/
def fold (name : Text) : Text := name.map CodePoint.toLower

/-- Whether two names are the same but for case. -/
def sameName (a b : Text) : Bool := fold a == fold b

/-- The fields without those of a name. -/
def without (name : Text) (hs : Headers) : Headers := hs.filter fun h => !sameName h.1 name

/-- The fields with a header set. -/
def set (name value : Text) : Headers → Headers
  | [] => [(name, value)]
  | h :: hs => if sameName h.1 name then (h.1, value) :: without name hs else h :: set name value hs

/-- The values of the fields of a name. -/
def values (name : Text) (hs : Headers) : List Text :=
  (hs.filter fun h => sameName h.1 name).map (·.2)

/-- After setting a header its only value is the one set. -/
theorem values_set (name value : Text) (hs : Headers) :
    values name (set name value hs) = [value] := by
  induction hs with
  | nil => simp [set, values, sameName]
  | cons h hs ih =>
    by_cases same : sameName h.1 name = true
    · simp [set, same, values, without, List.filter_filter]
    · simp only [Bool.not_eq_true] at same
      simpa [set, same, values] using ih

/-- Setting a header leaves the fields of other names as they are. -/
theorem without_set (name value : Text) (hs : Headers) :
    without name (set name value hs) = without name hs := by
  induction hs with
  | nil => simp [set, without, sameName]
  | cons h hs ih =>
    by_cases same : sameName h.1 name = true
    · simp [set, same, without, List.filter_filter]
    · simp only [Bool.not_eq_true] at same
      simpa [set, same, without] using ih

end Headers

end ProxySelection
