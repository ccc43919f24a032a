import LobstrMcp.Data.JsonText
import LobstrMcp.Model.Errors

/-!
`toon.py`: a JSON object as indented `key: value` lines. An array of scalars stands on one line, an
array of flat records has a header with its columns and a line a record, and any other array is
written as JSON.
-/

namespace LobstrMcp
namespace Toon

/-- `sep.join(parts)` -/
def join (sep : Char) : List (List Char) → List Char
  | [] => []
  | [part] => part
  | part :: rest => part ++ sep :: join sep rest

def indent : List Char := [' ', ' ']

/-- `_INDENT * depth` -/
def pad (depth : Nat) : List Char := (List.replicate depth indent).flatten

def keyUnsafe : List Char := [':', ',', '{', '}', '[', ']', '"', '\n', '\t', '\r']

/-- `_LEAD_UNSAFE`; the last ones are a backtick, a double and a single quote. -/
def leadUnsafe : List Char :=
  ['[', '{', '#', '-', '&', '*', '!', '|', '>', '%', '@', Char.ofNat 96, '"', Char.ofNat 39]

/-! ### `_NUM_RE` -/

/-- The zeros of the decimal digits of every script, each with nine more behind it. -/
def decimalZeros : List Nat := [
  48, 1632, 1776, 1984, 2406, 2534, 2662, 2790, 2918, 3046, 3174, 3302, 3430, 3558, 3664, 3792, 3872, 4160,
  4240, 6112, 6160, 6470, 6608, 6784, 6800, 6992, 7088, 7232, 7248, 42528, 43216, 43264, 43472, 43504, 43600,
  44016, 65296, 66720, 68912, 69734, 69872, 69942, 70096, 70384, 70736, 70864, 71248, 71360, 71472, 71904,
  72016, 72784, 73040, 73120, 73552, 92768, 92864, 93008, 120782, 120792, 120802, 120812, 120822, 123200,
  123632, 124144, 125264, 130032]

/-- `\d` -/
def isDecimal (c : Char) : Bool := decimalZeros.any fun first => first ≤ c.toNat && c.toNat < first + 10

/-- `\d+`: what follows the digits, if there are any. -/
def afterDigits? (s : List Char) : Option (List Char) :=
  if (s.takeWhile isDecimal).isEmpty then none else some (s.dropWhile isDecimal)

/-- `(\.\d+)?` -/
def afterFraction (s : List Char) : List Char :=
  match s with
  | '.' :: t => (afterDigits? t).getD s
  | _ => s

/-- `[+-]?` -/
def afterSign (s : List Char) : List Char :=
  match s with
  | '+' :: t => t
  | '-' :: t => t
  | _ => s

/-- `([eE][+-]?\d+)?` -/
def afterExponent (s : List Char) : List Char :=
  match s with
  | 'e' :: t => (afterDigits? (afterSign t)).getD s
  | 'E' :: t => (afterDigits? (afterSign t)).getD s
  | _ => s

/-- `_NUM_RE.match(s)`; no part of the pattern can take a character of the next one, and `$` also
matches before a line break at the end. -/
def numRe (s : List Char) : Bool :=
  match afterDigits? (if s.head? = some '-' then s.tail else s) with
  | none => false
  | some t => afterExponent (afterFraction t) ∈ [[], ['\n']]

/-! ### Keys and values -/

/-- `s.replace(old, new)` -/
def replace (old : Char) (new : List Char) (s : List Char) : List Char :=
  s.flatMap fun c => if c = old then new else [c]

def quote (s : String) : List Char :=
  let s := replace '"' ['\\', '"'] (replace '\\' ['\\', '\\'] s.toList)
  let s := replace '\r' ['\\', 'r'] (replace '\t' ['\\', 't'] (replace '\n' ['\\', 'n'] s))
  '"' :: (s ++ ['"'])

def needsQuote (s : String) (inCell : Bool) : Bool :=
  if s = "" then !inCell
  else if s ≠ strip s then true
  else if s.toList.any (· ∈ ['"', '\n', '\t', '\r']) then true
  else if ':' ∈ s.toList then true
  else if inCell && ',' ∈ s.toList then true
  else if s ∈ ["true", "false", "null"] || numRe s.toList then true
  else s.toList.head?.any (· ∈ leadUnsafe)

def key (k : String) : List Char :=
  if k = "" ∨ k ≠ strip k ∨ k.toList.any (· ∈ keyUnsafe) then quote k else k.toList

def boolText (b : Bool) : List Char := if b then ['t', 'r', 'u', 'e'] else ['f', 'a', 'l', 's', 'e']

/-- The double nearest to a whole number, to the even one of two. -/
def nearestDouble (n : Nat) : Nat :=
  let unit := 2 ^ (n.log2 + 1 - 53)
  let low := n / unit * unit
  if 2 * (n % unit) < unit ∨ (2 * (n % unit) = unit ∧ n / unit % 2 = 0) then low else low + unit

/-- `int(v)` of an integral float: the whole number it holds, which is the one it prints as up to
2 ^ 53. -/
def wholeOf (q : Rat) : Int := if q.num < 0 then -(nearestDouble q.num.natAbs) else nearestDouble q.num.natAbs

def num : Json → List Char
  | .bool b => boolText b
  | .float q => if q.den = 1 then Json.intText (wholeOf q) else Json.reprText q
  | .int n => Json.intText n
  | v => v.text.toList

def scalar : Json → List Char
  | .null => ['n', 'u', 'l', 'l']
  | .bool b => boolText b
  | .int n => num (.int n)
  | .float q => num (.float q)
  | v => if needsQuote v.text false then quote v.text else v.text.toList

def cell : Json → List Char
  | .null => []
  | .bool b => boolText b
  | .int n => num (.int n)
  | .float q => num (.float q)
  | v => if needsQuote v.text true then quote v.text else v.text.toList

/-! ### Lines -/

/-- Neither a dict nor a list. -/
def isScalar : Json → Bool
  | .arr _ => false
  | .obj _ => false
  | _ => true

def addColumn (cols : List String) (k : String) : List String := if k ∈ cols then cols else cols ++ [k]

/-- The keys of all rows, each where it is first seen. -/
def columns (rows : List Fields) : List String :=
  rows.foldl (fun cols row => (Dict.keys row).foldl addColumn cols) []

/-- The rows and the columns of an array of flat records. -/
def table? (arr : List Json) : Option (List Fields × List String) :=
  match arr.mapM Json.asObj? with
  | none => none
  | some rows =>
    let cols := columns rows
    if rows.all fun row => cols.all fun c => isScalar (Fields.get row c) then some (rows, cols) else none

def rowLine (cols : List String) (depth : Nat) (row : Fields) : List Char :=
  pad depth ++ indent ++ join ',' (cols.map fun c => cell (Fields.get row c))

def emitArray (k : String) (arr : List Json) (depth : Nat) : List (List Char) :=
  let n := Nat.toDigits 10 arr.length
  if arr.isEmpty then [pad depth ++ key k ++ ['[', '0', ']', ':']]
  else if arr.all isScalar then
    [pad depth ++ key k ++ '[' :: (n ++ ']' :: ':' :: ' ' :: join ',' (arr.map cell))]
  else match table? arr with
    | some (rows, cols) =>
      (pad depth ++ key k ++ '[' :: (n ++ ']' :: '{' :: (join ',' (cols.map key) ++ ['}', ':']))) ::
        rows.map (rowLine cols depth)
    | none =>
      -- anything more complex keeps its data as JSON
      [pad depth ++ key k ++ '[' :: (n ++ ']' :: ':' :: ' ' :: Json.spell Json.unicodeSpelling (.arr arr))]

mutual
def emitKv (k : String) (value : Json) (depth : Nat) : List (List Char) :=
  match value with
  | .obj fields => (pad depth ++ key k ++ [':']) :: emitFields fields (depth + 1)
  | .arr items => emitArray k items depth
  | v => [pad depth ++ key k ++ ':' :: ' ' :: scalar v]
def emitFields (fields : List (String × Json)) (depth : Nat) : List (List Char) :=
  match fields with
  | [] => []
  | (k, v) :: rest => emitKv k v depth ++ emitFields rest depth
end

/-- The lines of a document. -/
def toonLines : Json → List (List Char)
  | .obj fields => emitFields fields 0
  | .arr items => emitArray "items" items 0
  | v => [scalar v]

def toToon (v : Json) : String := String.ofList (join '\n' (toonLines v))

end Toon
end LobstrMcp
