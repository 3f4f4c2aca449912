import HealthPanel.Json.Number

/-!
# JSON documents

A document is a tree of the six kinds of JSON value. Numbers are either exact integers or
doubles, and the two never compare equal, so `1` differs from `1.0`. The members of an object
are a list; a document read from a body lists them by key, one member a key.
-/

namespace HealthPanel.Json

/-- A JSON value. -/
inductive Value
  | null
  | bool (value : Bool)
  | number (value : Number)
  | text (value : String)
  | list (items : List Value)
  | object (members : List (String × Value))

instance : Inhabited Value := ⟨.null⟩

/-- Sets the value of a key in members sorted by key. -/
def insertMember (key : String) (value : Value) : List (String × Value) → List (String × Value)
  | [] => [(key, value)]
  | (other, old) :: rest =>
    if key = other then (key, value) :: rest
    else if key < other then (key, value) :: (other, old) :: rest
    else (other, old) :: insertMember key value rest

namespace Value

/-- The value of an object's member, or nothing where there is no such object or member. -/
def get? (key : String) : Value → Option Value
  | object members => members.lookup key
  | _ => none

/-- The text of a text value. -/
def text? : Value → Option String
  | text value => some value
  | _ => none

mutual

/-- Equality of documents, with `Number.agrees` at the numbers. -/
def agrees : Value → Value → Bool
  | null, null => true
  | bool a, bool b => a = b
  | number m, number n => m.agrees n
  | text s, text t => s = t
  | list xs, list ys => itemsAgree xs ys
  | object ms, object ns => membersAgree ms ns
  | _, _ => false

/-- Equality of lists of documents. -/
def itemsAgree : List Value → List Value → Bool
  | [], [] => true
  | x :: xs, y :: ys => agrees x y && itemsAgree xs ys
  | _, _ => false

/-- Equality of lists of members. -/
def membersAgree : List (String × Value) → List (String × Value) → Bool
  | [], [] => true
  | (key, x) :: xs, (other, y) :: ys => key = other && agrees x y && membersAgree xs ys
  | _, _ => false

end

end Value

/-- Setting a key makes it read back. -/
theorem lookup_insertMember_self (key : String) (value : Value)
    (members : List (String × Value)) :
    (insertMember key value members).lookup key = some value := by
  induction members with
  | nil => simp [insertMember]
  | cons member rest ih =>
    obtain ⟨other, old⟩ := member
    rw [insertMember]
    split
    · simp
    · split
      · simp
      · next hne _ =>
        have hb : (key == other) = false := by simp [hne]
        rw [List.lookup_cons, hb, ih]

/-- Setting a key leaves every other key as it was. -/
theorem lookup_insertMember_of_ne {key other : String} (h : other ≠ key) (value : Value)
    (members : List (String × Value)) :
    (insertMember key value members).lookup other = members.lookup other := by
  have hb : (other == key) = false := by simp [h]
  induction members with
  | nil => simp [insertMember, List.lookup_cons, hb]
  | cons member rest ih =>
    obtain ⟨k, old⟩ := member
    rw [insertMember]
    split
    · next heq => subst heq; simp [List.lookup_cons, hb]
    · split
      · rw [List.lookup_cons, hb]
      · rw [List.lookup_cons, List.lookup_cons, ih]

end HealthPanel.Json
