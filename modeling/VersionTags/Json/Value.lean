import VersionTags.Decimal
/-!
# JSON values

Numbers are integers or fractions.  A fraction is any number written with a point or an exponent, and the zero with a
sign; it is kept as it was written and is never taken for an integer.
-/
namespace VersionTags

inductive Json where
  | null
  | bool (b : Bool)
  | int (n : Int)
  | fraction (text : String)
  | string (s : String)
  | array (items : List Json)
  | object (fields : List (String × Json))

namespace Json

/-- The value of a field; the last of several. -/
def field? (fields : List (String × Json)) (name : String) : Option Json :=
  (fields.reverse.find? fun f => f.1 == name).map Prod.snd

/-- The value of a field of an object, where a missing field is null. -/
def get (j : Json) (name : String) : Json :=
  match j with
  | .object fs => (field? fs name).getD .null
  | _ => .null

/-- The members of a record with the given fields: an object, with any other fields, or an array of all the fields in
their order.  A field the object lacks is missing. -/
def members (names : List String) : Json → Option (List (Option Json))
  | .object fs => some (names.map (field? fs))
  | .array js => if js.length = names.length then some (js.map some) else none
  | _ => none

/-- As `members`, but an array may leave out fields at its end, down to `least` of them. -/
def membersFrom (least : Nat) (names : List String) : Json → Option (List (Option Json))
  | .array js =>
    if least ≤ js.length ∧ js.length ≤ names.length then
      some (js.map some ++ List.replicate (names.length - js.length) none)
    else none
  | j => members names j

def asString : Json → Option String
  | .string s => some s
  | _ => none

def asBool : Json → Option Bool
  | .bool b => some b
  | _ => none

def asInt : Json → Option Int
  | .int n => some n
  | _ => none

def asInt64 (j : Json) : Option Int := j.asInt >>= Decimal.int64?

def asInt32 (j : Json) : Option Int := j.asInt >>= Decimal.int32?

def asNat64 (j : Json) : Option Nat := j.asInt >>= Decimal.nat64?

def asArray : Json → Option (List Json)
  | .array js => some js
  | _ => none

/-- Reads every item of an array. -/
def asList {α : Type} (item : Json → Option α) (j : Json) : Option (List α) := j.asArray >>= List.mapM item

/-- Reads a value that may be null or missing. -/
def optional {α : Type} (value : Json → Option α) : Option Json → Option (Option α)
  | none => some none
  | some .null => some none
  | some j => (value j).map some

/-- Reads one of a few words: a string, or an object with the word as its only field and a null under it. -/
def asWord {α : Type} (words : List (String × α)) : Json → Option α
  | .string s => words.lookup s
  | .object [(s, .null)] => words.lookup s
  | _ => none

def ofOption {α : Type} (f : α → Json) : Option α → Json
  | none => .null
  | some a => f a

end Json
end VersionTags
