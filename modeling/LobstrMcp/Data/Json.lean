import LobstrMcp.Data.Dict
import Mathlib.Data.List.DropRight
import Mathlib.Data.Rat.Defs
import Mathlib.Algebra.Ring.Nat

/-!
JSON values as the server reads them: an object is a dictionary in insertion order, and a
Python float stands for the exact number it prints. The readings below are Python's: what
counts as true, `x or y`, `d.get(k)`, `str(v)`.
-/

inductive Json where
  | null
  | bool (b : Bool)
  | int (n : Int)
  | float (q : Rat)
  | str (s : String)
  | arr (items : List Json)
  | obj (fields : List (String × Json))
  deriving Inhabited

/-- The items of a JSON object. -/
abbrev Fields := Dict String Json

namespace Json

mutual
def same : Json → Json → Bool
  | .null, .null => true
  | .bool a, .bool b => a == b
  | .int a, .int b => a == b
  | .float a, .float b => a == b
  | .str a, .str b => a == b
  | .arr a, .arr b => sameItems a b
  | .obj a, .obj b => sameFields a b
  | _, _ => false
def sameItems : List Json → List Json → Bool
  | [], [] => true
  | a :: as, b :: bs => same a b && sameItems as bs
  | _, _ => false
def sameFields : List (String × Json) → List (String × Json) → Bool
  | [], [] => true
  | (k, a) :: as, (l, b) :: bs => k == l && same a b && sameFields as bs
  | _, _ => false
end

mutual
theorem same_iff (a b : Json) : same a b = true ↔ a = b := by
  cases a <;> cases b <;> simp [same, sameItems_iff, sameFields_iff]
theorem sameItems_iff (a b : List Json) : sameItems a b = true ↔ a = b := by
  cases a <;> cases b <;> simp [sameItems, same_iff, sameItems_iff]
theorem sameFields_iff (a b : List (String × Json)) : sameFields a b = true ↔ a = b := by
  rcases a with _ | ⟨⟨k, a⟩, as⟩ <;> rcases b with _ | ⟨⟨l, b⟩, bs⟩ <;>
    simp [sameFields, same_iff, sameFields_iff, and_assoc]
end

instance : DecidableEq Json := fun a b => decidable_of_iff _ (same_iff a b)

/-- What `if v` takes. -/
def truthy : Json → Bool
  | .null => false
  | .bool b => b
  | .int n => n ≠ 0
  | .float q => q ≠ 0
  | .str s => s ≠ ""
  | .arr items => !items.isEmpty
  | .obj fields => !fields.isEmpty

/-- `v or w` -/
def orElse (v w : Json) : Json := if v.truthy then v else w

def asObj? : Json → Option Fields
  | .obj fields => some fields
  | _ => none

def asArr? : Json → Option (List Json)
  | .arr items => some items
  | _ => none

def asStr? : Json → Option String
  | .str s => some s
  | _ => none

@[simp] theorem truthy_null : truthy .null = false := rfl
@[simp] theorem truthy_bool (b : Bool) : truthy (.bool b) = b := rfl
@[simp] theorem truthy_str (s : String) : truthy (.str s) = decide (s ≠ "") := rfl
@[simp] theorem asObj?_obj (fields : Fields) : asObj? (.obj fields) = some fields := rfl
@[simp] theorem asArr?_arr (items : List Json) : asArr? (.arr items) = some items := rfl

theorem orElse_of_truthy {v : Json} (h : v.truthy = true) (w : Json) : v.orElse w = v := by
  simp [orElse, h]

theorem orElse_of_not {v : Json} (h : v.truthy = false) (w : Json) : v.orElse w = w := by
  simp [orElse, h]

/-! ### Text -/

/-- The `k` low decimal digits of `m`, leading zeros included. -/
def padDigits : Nat → Nat → List Char
  | 0, _ => []
  | k + 1, m => padDigits k (m / 10) ++ [Nat.digitChar (m % 10)]

/-- A decimal numeral, with a sign in front when negative. -/
def signed (negative : Bool) (n : Nat) : List Char :=
  (if negative then ['-'] else []) ++ Nat.toDigits 10 n

def intText (n : Int) : List Char := signed (n < 0) n.natAbs

/-- How many decimals `q` needs: the least `k` with `q * 10 ^ k` whole, when there is one. -/
def decimals? (q : Rat) : Option Nat :=
  (List.range (q.den.log2 + 1)).find? fun k => 10 ^ k % q.den = 0

/-- A float in positional notation. A rational that is no decimal, which no float is, prints as a
fraction. -/
def floatText (q : Rat) : List Char :=
  match decimals? q with
  | some k =>
    let places := max k 1
    let scaled := q.num.natAbs * (10 ^ places / q.den)
    signed (q.num < 0) (scaled / 10 ^ places) ++ '.' :: padDigits places (scaled % 10 ^ places)
  | none => intText q.num ++ '/' :: Nat.toDigits 10 q.den

/-- The digits of a decimal with `k` places, read without its point. -/
def unitDigits (q : Rat) (k : Nat) : List Char := Nat.toDigits 10 (q.num.natAbs * (10 ^ k / q.den))

/-- How many digits stand before the point; negative when zeros follow it. -/
def pointOf (q : Rat) (k : Nat) : Int := (unitDigits q k).length - k

/-- The first digit, and the others behind a point. -/
def mantissa : List Char → List Char
  | [] => []
  | [d] => [d]
  | d :: rest => d :: '.' :: rest

/-- A sign and at least two digits. -/
def exponentText (e : Int) : List Char :=
  (if e < 0 then '-' else '+') ::
    if e.natAbs < 10 then padDigits 2 e.natAbs else Nat.toDigits 10 e.natAbs

def scientificText (q : Rat) (k : Nat) : List Char :=
  (if q.num < 0 then ['-'] else []) ++ mantissa ((unitDigits q k).rdropWhile (· = '0')) ++
    'e' :: exponentText (pointOf q k - 1)

/-- `repr` of a float: positional notation in the middle range, scientific notation below 1e-4 and
from 1e16 on. -/
def reprText (q : Rat) : List Char :=
  match decimals? q with
  | some k => if -4 < pointOf q k ∧ pointOf q k ≤ 16 then floatText q else scientificText q k
  | none => floatText q

def floatRepr (q : Rat) : String := String.ofList (reprText q)

/-- `repr` of a string, between single quotes. -/
def reprStr (s : String) : String :=
  let quote := if s.contains '\'' && !s.contains '"' then "\"" else "'"
  let body := s.toList.map fun c =>
    if c = '\\' then "\\\\" else if c = '\n' then "\\n" else if c = '\r' then "\\r"
    else if c = '\t' then "\\t" else if c.toString = quote then "\\" ++ quote else c.toString
  quote ++ String.join body ++ quote

mutual
def repr : Json → String
  | .null => "None"
  | .bool b => if b then "True" else "False"
  | .int n => String.ofList (intText n)
  | .float q => floatRepr q
  | .str s => reprStr s
  | .arr items => "[" ++ reprItems items ++ "]"
  | .obj fields => "\x7b" ++ reprFields fields ++ "\x7d"
def reprItems : List Json → String
  | [] => ""
  | [v] => repr v
  | v :: rest => repr v ++ ", " ++ reprItems rest
def reprFields : List (String × Json) → String
  | [] => ""
  | [(k, v)] => reprStr k ++ ": " ++ repr v
  | (k, v) :: rest => reprStr k ++ ": " ++ repr v ++ ", " ++ reprFields rest
end

/-- `str(v)`, which is also how a format string prints it. -/
def text : Json → String
  | .str s => s
  | v => repr v

end Json

namespace Fields

/-- `d.get(k)`, null when absent. -/
def get (d : Fields) (k : String) : Json := (Dict.get? d k).getD .null

@[simp] theorem get_set (d : Fields) (k l : String) (v : Json) :
    get (Dict.set d k v) l = if k = l then v else get d l := by
  by_cases same : k = l <;> simp [get, same]

@[simp] theorem get_cons (d : Fields) (k l : String) (v : Json) :
    get ((k, v) :: d) l = if k = l then v else get d l := by
  by_cases same : k = l <;> simp [get, same]

@[simp] theorem get_nil (k : String) : get [] k = .null := rfl

theorem get_of_get? {d : Fields} {k : String} {v : Json} (read : Dict.get? d k = some v) :
    get d k = v := by simp [get, read]

end Fields
