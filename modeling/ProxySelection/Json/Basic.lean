import ProxySelection.Number.Binary64

/-!
JSON values.

An object is a list of named members in the order in which the names first came up;
`Members.put` keeps each name once, so the last value given for a name is the one that stays.
`get?_put` and `get?_overlay` say what a member is after writing.
-/

namespace ProxySelection

/-- A JSON value. -/
inductive Json where
  | null
  | bool (value : Bool)
  | int (value : Int)
  | float (value : Binary64)
  | str (value : Text)
  | arr (items : List Json)
  | obj (members : List (Text × Json))

/-- The members of an object. -/
abbrev Members := List (Text × Json)

instance : Inhabited Json := ⟨.null⟩

namespace Members

/-- The value of a member. -/
def get? (name : Text) : Members → Option Json
  | [] => none
  | (n, v) :: ms => if n = name then some v else get? name ms

/-- The members with `name` set to `value`, in its place if the name is there already and at
the end if it is not. -/
def put (name : Text) (value : Json) : Members → Members
  | [] => [(name, value)]
  | (n, v) :: ms => if n = name then (n, value) :: ms else (n, v) :: put name value ms

/-- The members of `base` with those of `top` written over them. -/
def overlay (base top : Members) : Members :=
  top.foldl (fun ms m => ms.put m.1 m.2) base

/-- The value of a member, null if there is none. -/
def getD (name : Text) (ms : Members) : Json := (ms.get? name).getD .null

/-- Nothing has no members. -/
@[simp] theorem get?_nil (name : Text) : get? name [] = none := rfl

/-- A written member has the value written; the others keep theirs. -/
theorem get?_put (ms : Members) (name other : Text) (value : Json) :
    (ms.put name value).get? other = if name = other then some value else ms.get? other := by
  induction ms with
  | nil => simp [put, get?]
  | cons m ms ih =>
    obtain ⟨n, v⟩ := m
    by_cases h : n = name
    · subst h
      by_cases h' : n = other
      · simp [put, get?, h']
      · simp [put, get?, h']
    · by_cases h' : n = other
      · subst h'
        simp [put, get?, h, Ne.symm h]
      · simp [put, get?, h, h', ih]

/-- Each name occurs once. -/
def Distinct (ms : Members) : Prop := (ms.map (·.1)).Nodup

/-- A member that the upper object names has its value there, and any other the one below. -/
theorem get?_overlay (base top : Members) (distinct : top.Distinct) (name : Text) :
    (base.overlay top).get? name = (top.get? name).or (base.get? name) := by
  induction top generalizing base with
  | nil => simp [overlay]
  | cons m top ih =>
    obtain ⟨n, v⟩ := m
    simp only [Distinct, List.map_cons, List.nodup_cons] at distinct
    have step : base.overlay ((n, v) :: top) = (base.put n v).overlay top := rfl
    rw [step, ih _ distinct.2, get?_put]
    by_cases h : n = name
    · subst h
      have absent : get? n top = none := by
        have missing := distinct.1
        clear ih step distinct
        induction top with
        | nil => rfl
        | cons m' top ih' =>
          obtain ⟨n', v'⟩ := m'
          simp only [List.map_cons, List.mem_cons, not_or] at missing
          simp [get?, Ne.symm missing.1, ih' missing.2]
      simp [absent, get?]
    · simp [get?, h]

end Members

/-- The kinds of JSON value that are told apart by name. -/
inductive Json.Kind where
  | null
  | bool
  | int
  | float
  | str
  | list
  | object
  deriving DecidableEq

namespace Json

/-- The kind of a value. -/
def kind : Json → Kind
  | .null => .null
  | .bool _ => .bool
  | .int _ => .int
  | .float _ => .float
  | .str _ => .str
  | .arr _ => .list
  | .obj _ => .object

/-- The name by which messages call a kind of value. -/
def Kind.name : Kind → Text
  | .null => "NoneType".toText
  | .bool => "bool".toText
  | .int => "int".toText
  | .float => "float".toText
  | .str => "str".toText
  | .list => "list".toText
  | .object => "dict".toText

/-- The text that a value is, if it is one. -/
def text? : Json → Option Text
  | .str t => some t
  | _ => none

/-- The number that a value is, if it is one; truth values count as one and zero. -/
def toBinary64? : Json → Option Binary64
  | .bool b => some (.ofInt (if b then 1 else 0))
  | .int n => some (.ofInt n)
  | .float x => some x
  | _ => none

/-- The value of a member, null if there is none or the value is no object. -/
def member (name : Text) : Json → Json
  | .obj ms => Members.getD name ms
  | _ => .null

/-- A text as a value, null for none. -/
def ofText? : Option Text → Json
  | some t => .str t
  | none => .null

theorem ofText?_eq_str_iff {p : Option Text} {t : Text} : ofText? p = .str t ↔ p = some t := by
  cases p <;> simp [ofText?]

/-- An integer as a value, null for none. -/
def ofInt? : Option Int → Json
  | some n => .int n
  | none => .null

theorem ofInt?_eq_int_iff {p : Option Int} {n : Int} : ofInt? p = .int n ↔ p = some n := by
  cases p <;> simp [ofInt?]

end Json

end ProxySelection
