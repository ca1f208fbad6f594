import EntityGraph.Number.Binary64

/-!
# JSON documents

A JSON document as this library holds it. Numbers keep the distinction a reader makes: a
non-negative integer that fits 64 unsigned bits, a negative integer that fits 64 signed bits,
or a finite binary64 float. Object members are kept sorted by key with each key once, so that
two objects with the same members are the same value and writing one lists its keys in order.
-/

namespace EntityGraph

/-- A JSON number: an unsigned 64-bit integer, a negative signed 64-bit integer, or a finite
binary64 float. -/
inductive JsonNumber where
  /-- A non-negative integer below `2 ^ 64`. -/
  | nat (n : Nat)
  /-- A negative integer not below `-2 ^ 63`. -/
  | neg (n : Int)
  /-- A finite float. -/
  | float (x : Binary64)
  deriving DecidableEq, Inhabited, Repr

/-- A JSON value. Object members are sorted by key, each key once (see `Json.setField`). -/
inductive Json where
  | null
  | bool (b : Bool)
  | num (n : JsonNumber)
  | str (s : String)
  | arr (items : List Json)
  | obj (fields : List (String × Json))
  deriving Inhabited, Repr

namespace JsonNumber

/-- The number for an integer: unsigned when non-negative. -/
def ofInt (n : Int) : JsonNumber := if 0 ≤ n then .nat n.toNat else .neg n

/-- Numeric equality as a JSON library compares numbers: only numbers of the same kind are
compared, floats by value. -/
def same : JsonNumber → JsonNumber → Bool
  | .nat a, .nat b => a == b
  | .neg a, .neg b => a == b
  | .float a, .float b => a.eqv b
  | _, _ => false

end JsonNumber

namespace Json

/-- The integer number `n`. -/
def int (n : Int) : Json := .num (JsonNumber.ofInt n)

/-- Insert or replace the member `key` of a sorted member list, keeping it sorted. -/
def setField (key : String) (value : Json) : List (String × Json) → List (String × Json)
  | [] => [(key, value)]
  | (k, v) :: rest =>
    if key == k then (key, value) :: rest
    else if key < k then (key, value) :: (k, v) :: rest
    else (k, v) :: setField key value rest

/-- An object with the given members; a later member replaces an earlier one of the same key. -/
def object (members : List (String × Json)) : Json :=
  .obj (members.foldl (fun acc (k, v) => setField k v acc) [])

/-- The member `key` of an object. -/
def field? (j : Json) (key : String) : Option Json :=
  match j with
  | .obj fields => fields.lookup key
  | _ => none

mutual
/-- Equality of documents as a JSON library compares them: numbers by `JsonNumber.same`. -/
def same : Json → Json → Bool
  | .null, .null => true
  | .bool a, .bool b => a == b
  | .num a, .num b => a.same b
  | .str a, .str b => a == b
  | .arr xs, .arr ys => sameItems xs ys
  | .obj xs, .obj ys => sameFields xs ys
  | _, _ => false

/-- Pointwise `same` on two arrays of items. -/
def sameItems : List Json → List Json → Bool
  | [], [] => true
  | x :: xs, y :: ys => same x y && sameItems xs ys
  | _, _ => false

/-- Pointwise `same` on two member lists, keys compared exactly. -/
def sameFields : List (String × Json) → List (String × Json) → Bool
  | [], [] => true
  | (k, x) :: xs, (l, y) :: ys => k == l && same x y && sameFields xs ys
  | _, _ => false
end

mutual
/-- How deeply arrays and objects nest in a document: `0` for a scalar. -/
def depth : Json → Nat
  | .arr xs => itemsDepth xs + 1
  | .obj fs => fieldsDepth fs + 1
  | _ => 0

/-- The deepest item of an array. -/
def itemsDepth : List Json → Nat
  | [] => 0
  | x :: xs => max (depth x) (itemsDepth xs)

/-- The deepest member value of an object. -/
def fieldsDepth : List (String × Json) → Nat
  | [] => 0
  | (_, x) :: xs => max (depth x) (fieldsDepth xs)
end

end Json

end EntityGraph
