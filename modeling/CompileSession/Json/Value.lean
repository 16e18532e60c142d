import CompileSession.Number.Binary64

/-!
# JSON values

A number is a whole number of at most 64 bits, kept exactly, or a number of the 64-bit binary
format. The members of an object are a list; an object read from a text holds them in ascending
order of their names, each name once (`put`), so that two texts of one value give equal objects.
-/

namespace CompileSession

/-- A JSON number. -/
inductive Number where
  | integer (value : Int)
  | binary (value : Binary64)
deriving DecidableEq, Repr

/-- A JSON value. -/
inductive Json where
  | null
  | boolean (value : Bool)
  | number (value : Number)
  | text (value : String)
  | array (items : List Json)
  | object (members : List (String × Json))
deriving Repr, Inhabited

namespace Json

/-- The members of an object. -/
abbrev Members := List (String × Json)

/-- The value of the member called `name`. -/
def get? (name : String) (members : Members) : Option Json := members.lookup name

/-- Puts a member in its place among members in ascending order of names; a member of that name
is replaced. -/
def put (name : String) (value : Json) : Members → Members
  | [] => [(name, value)]
  | (other, old) :: rest =>
    if name < other then (name, value) :: (other, old) :: rest
    else if name = other then (name, value) :: rest
    else (other, old) :: put name value rest

/-- The members in ascending order of names, the last of each name. -/
def sorted (members : Members) : Members :=
  members.foldl (fun acc m => put m.1 m.2 acc) []

theorem get?_put_self (name : String) (value : Json) (members : Members) :
    get? name (put name value members) = some value := by
  induction members with
  | nil => simp [put, get?]
  | cons m rest ih =>
    obtain ⟨other, old⟩ := m
    unfold put
    split
    · simp [get?]
    · split
      · simp [get?]
      · rename_i h
        have : (name == other) = false := by simpa using h
        simpa [get?, List.lookup_cons, this] using ih

theorem get?_put_of_ne {name key : String} (h : name ≠ key) (value : Json) (members : Members) :
    get? name (put key value members) = get? name members := by
  induction members with
  | nil =>
    have : (name == key) = false := by simpa using h
    simp [put, get?, List.lookup_cons, this]
  | cons m rest ih =>
    obtain ⟨other, old⟩ := m
    have hk : (name == key) = false := by simpa using h
    unfold put
    split
    · simp [get?, List.lookup_cons, hk]
    · split
      · rename_i heq
        subst heq
        simp [get?, List.lookup_cons, hk]
      · by_cases ho : name = other
        · subst ho
          simp [get?]
        · have : (name == other) = false := by simpa using ho
          simpa [get?, List.lookup_cons, this] using ih

end Json

end CompileSession
