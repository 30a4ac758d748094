/-! # JSON values

A JSON value. Whole numbers within 64 bits stay whole; every other number is a binary number of
64 bits, held as its bits. An object lists its members; `insertField` keeps them in increasing
order of their keys with one member a key, which is the form the reader builds. -/

namespace Dialogue.Json

/-- A JSON number. -/
inductive Number where
  | integer (value : Int)
  | real (bits : UInt64)
  deriving DecidableEq, Repr

/-- A JSON value. -/
inductive Value where
  | null
  | bool (b : Bool)
  | number (n : Number)
  | string (s : String)
  | array (items : List Value)
  | object (fields : List (String × Value))
  deriving Repr, Inhabited

/-- The members of an object. -/
abbrev Fields := List (String × Value)

namespace Value

mutual

/-- Decides whether two values are equal. -/
def decideEq : (a b : Value) → Decidable (a = b)
  | null, null => isTrue rfl
  | bool a, bool b => decidable_of_iff (a = b) (by simp)
  | number a, number b => decidable_of_iff (a = b) (by simp)
  | string a, string b => decidable_of_iff (a = b) (by simp)
  | array a, array b =>
    match decideEqItems a b with
    | isTrue h => isTrue (by rw [h])
    | isFalse h => isFalse (by simpa using h)
  | object a, object b =>
    match decideEqFields a b with
    | isTrue h => isTrue (by rw [h])
    | isFalse h => isFalse (by simpa using h)
  | null, bool _ | null, number _ | null, string _ | null, array _ | null, object _
  | bool _, null | bool _, number _ | bool _, string _ | bool _, array _ | bool _, object _
  | number _, null | number _, bool _ | number _, string _ | number _, array _
  | number _, object _ | string _, null | string _, bool _ | string _, number _
  | string _, array _ | string _, object _ | array _, null | array _, bool _
  | array _, number _ | array _, string _ | array _, object _ | object _, null
  | object _, bool _ | object _, number _ | object _, string _ | object _, array _ =>
    isFalse nofun

/-- Decides whether two lists of values are equal. -/
def decideEqItems : (a b : List Value) → Decidable (a = b)
  | [], [] => isTrue rfl
  | [], _ :: _ | _ :: _, [] => isFalse nofun
  | x :: xs, y :: ys =>
    match decideEq x y, decideEqItems xs ys with
    | isTrue hx, isTrue hxs => isTrue (by rw [hx, hxs])
    | isFalse h, _ => isFalse (by simp [h])
    | _, isFalse h => isFalse (by simp [h])

/-- Decides whether two lists of members are equal. -/
def decideEqFields : (a b : List (String × Value)) → Decidable (a = b)
  | [], [] => isTrue rfl
  | [], _ :: _ | _ :: _, [] => isFalse nofun
  | (k, x) :: xs, (l, y) :: ys =>
    if hk : k = l then
      match decideEq x y, decideEqFields xs ys with
      | isTrue hx, isTrue hxs => isTrue (by rw [hk, hx, hxs])
      | isFalse h, _ => isFalse (by simp [h])
      | _, isFalse h => isFalse (by simp [h])
    else isFalse (by simp [hk])

end

instance : DecidableEq Value := decideEq

/-- The kind of a value, as a message names it. -/
def kind : Value → String
  | null => "null"
  | bool _ => "a boolean"
  | number _ => "a number"
  | string _ => "a string"
  | array _ => "an array"
  | object _ => "an object"

/-- The text of a string value. -/
def asString? : Value → Option String
  | string s => some s
  | _ => none

end Value

/-- Puts a member in its place, instead of one with the same key. -/
def insertField (key : String) (value : Value) : Fields → Fields
  | [] => [(key, value)]
  | (k, v) :: rest =>
    if key = k then (key, value) :: rest
    else if key < k then (key, value) :: (k, v) :: rest
    else (k, v) :: insertField key value rest

/-- The members stand in increasing order of their keys. -/
def Sorted (fields : Fields) : Prop := fields.Pairwise (·.1 < ·.1)

/-- An object of the given members, put in order. -/
def Value.ofFields (fields : Fields) : Value :=
  .object (fields.foldl (fun acc (k, v) => insertField k v acc) [])

/-- A whole number. -/
def Value.ofInt (n : Int) : Value := .number (.integer n)

/-- A whole number. -/
def Value.ofNat (n : Nat) : Value := .ofInt n

/-- A text, or null. -/
def Value.ofString? : Option String → Value
  | some s => .string s
  | none => .null

end Dialogue.Json
