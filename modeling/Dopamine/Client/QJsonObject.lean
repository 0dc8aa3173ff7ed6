import Dopamine.Daemon.InterfaceConfig
import Dopamine.Maps.SortedMap
import Mathlib.Data.String.Basic

/-!
# JSON objects of the client

A `QJsonObject` keeps its members sorted by their keys, and an assignment of an undefined value
takes the key out. Two objects are equal if they have the same members.
-/

namespace Dopamine

open Maps

namespace Json

mutual

/-- `QJsonValue::operator==`. -/
def same : Json → Json → Bool
  | .null, .null => true
  | .bool a, .bool b => a == b
  | .double a, .double b => a == b
  | .string a, .string b => a == b
  | .array l, .array l' => sameList l l'
  | .object l, .object l' => sameMembers l l'
  | _, _ => false

/-- `QJsonArray::operator==`. -/
def sameList : List Json → List Json → Bool
  | [], [] => true
  | a :: l, b :: l' => same a b && sameList l l'
  | _, _ => false

/-- `QJsonObject::operator==`. -/
def sameMembers : List (String × Json) → List (String × Json) → Bool
  | [], [] => true
  | (k, a) :: l, (k', b) :: l' => k == k' && same a b && sameMembers l l'
  | _, _ => false

end

mutual

theorem same_iff : ∀ a b : Json, same a b = true ↔ a = b
  | .null, b => by cases b <;> simp [same]
  | .bool a, b => by cases b <;> simp [same]
  | .double a, b => by cases b <;> simp [same]
  | .string a, b => by cases b <;> simp [same]
  | .array l, b => by cases b <;> simp [same, sameList_iff l]
  | .object l, b => by cases b <;> simp [same, sameMembers_iff l]

theorem sameList_iff : ∀ l l' : List Json, sameList l l' = true ↔ l = l'
  | [], l' => by cases l' <;> simp [sameList]
  | a :: l, l' => by cases l' <;> simp [sameList, same_iff a, sameList_iff l]

theorem sameMembers_iff : ∀ l l' : List (String × Json), sameMembers l l' = true ↔ l = l'
  | [], l' => by cases l' <;> simp [sameMembers]
  | (k, a) :: l, l' => by
      cases l' <;> simp [sameMembers, same_iff a, sameMembers_iff l, Prod.ext_iff]

end

instance : DecidableEq Json := fun a b => decidable_of_iff _ (same_iff a b)

/-- `toBool()` of `obj.value(name)`. -/
def boolValue : Option Json → Bool
  | some (.bool b) => b
  | _ => false

end Json

/-- A `QJsonObject` of the client. -/
abbrev QJsonObject := SortedMap String Json

namespace QJsonObject

variable (o : QJsonObject) (key : String)

/-- `value(name)`, undefined for a key that is not there. -/
def value : Option Json := SortedMap.value o key

/-- `insert`, or an assignment to `o[key]`: an undefined value takes the key out. -/
def insert (v : Option Json) : QJsonObject := SortedMap.set o key v

/-- `QJsonObject()`. -/
def empty : QJsonObject := SortedMap.empty

/-- The members of `o'` are inserted one after the other. -/
def merge (o o' : QJsonObject) : QJsonObject := SortedMap.writeAll o o'.members

/-- The object of a list of members, of which the last one with a key counts. -/
def ofMembers (l : List (String × Json)) : QJsonObject := SortedMap.empty.writeAll l

def toValue : Json := .object o.members

def contains : Bool := (o.value key).isSome

def isEmpty : Bool := o.members.isEmpty

end QJsonObject

/-- `toObject()` of `obj.value(name)`: empty for a value that is no object. -/
def Json.toObject (v : Option Json) : QJsonObject := QJsonObject.ofMembers (Json.objectValue v)

namespace QJsonObject

variable (o : QJsonObject) (key : String)

/-- `value(name).toString()`. -/
def textAt : String := Json.text (o.value key)

/-- `value(name).toObject()`. -/
def objectAt : QJsonObject := Json.toObject (o.value key)

/-- `value(name).toArray()`. -/
def arrayAt : List Json := Json.arrayValue (o.value key)

abbrev insertText (text : String) : QJsonObject := o.insert key (some (.string text))

abbrev insertObject (v : QJsonObject) : QJsonObject := o.insert key (some v.toValue)

theorem ext {o o' : QJsonObject} (h : ∀ key, o.value key = o'.value key) : o = o' := SortedMap.ext h

@[simp]
theorem value_empty (key : String) : empty.value key = none := rfl

theorem value_insert (key : String) (v : Option Json) (key' : String) :
    (o.insert key v).value key' = if key' = key then v else o.value key' :=
  SortedMap.value_set o key v key'

theorem value_ite {p : Prop} [Decidable p] (o' : QJsonObject) (key : String) :
    (if p then o else o').value key = if p then o.value key else o'.value key :=
  apply_ite (fun o : QJsonObject => o.value key) p o o'

@[simp]
theorem toObject_toValue : Json.toObject (some o.toValue) = o := SortedMap.empty_writeAll_members o

@[simp]
theorem text_string (s : String) : Json.text (some (.string s)) = s := rfl

end QJsonObject

end Dopamine
