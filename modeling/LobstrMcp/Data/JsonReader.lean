import LobstrMcp.Data.Codecs

/-!
Python's `json.loads`: the scanner of the standard library, which reads code points and answers with an exception of
one of two kinds, and the texts it reads. A nesting that the interpreter's stack does not hold and an integer of more
digits than `int` converts are failures of different kinds, though the text is JSON both times.
-/

namespace JsonReader

/-- Code points; a surrogate may stand alone. -/
abbrev Text := List Nat

/-- The two exceptions: `ValueError` (which `JSONDecodeError` and `UnicodeDecodeError` are), and `RecursionError`. -/
inductive Failure where
  | value | recursion
  deriving DecidableEq

/-- What the interpreter allows: how deep arrays and objects may nest, and the digits of an integer (0: any number). -/
structure Limits where
  depth : Nat
  digits : Nat

def fits (digits : Nat) (whole : Text) : Prop := digits = 0 ∨ whole.length ≤ digits

instance (digits : Nat) (whole : Text) : Decidable (fits digits whole) := inferInstanceAs (Decidable (_ ∨ _))

def isSpace (c : Nat) : Bool := c = 0x20 || c = 0x09 || c = 0x0A || c = 0x0D

def isDigit (c : Nat) : Bool := '0'.toNat ≤ c && c ≤ '9'.toNat

def isHex (c : Nat) : Bool :=
  isDigit c || ('a'.toNat ≤ c && c ≤ 'f'.toNat) || ('A'.toNat ≤ c && c ≤ 'F'.toNat)

def quote : Nat := '"'.toNat

def backslash : Nat := 0x5C

def text (s : String) : Text := s.toList.map Char.toNat

/-- What a backslash may stand before, other than `u`. -/
def escapes : Text := text "\"\\/bfnrt"

def constants : List Text := ["null", "true", "false", "NaN", "Infinity", "-Infinity"].map text

def skip (t : Text) : Text := t.dropWhile isSpace

/-! ### The scanner -/

/-- After the opening quote: what follows the closing one. -/
def stringRest : Text → Option Text
  | [] => none
  | c :: rest =>
    if c = quote then some rest
    else if c = backslash then
      match rest with
      | [] => none
      | e :: rest =>
        if e = 'u'.toNat then
          match rest with
          | h₁ :: h₂ :: h₃ :: h₄ :: rest =>
            if isHex h₁ && isHex h₂ && isHex h₃ && isHex h₄ then stringRest rest else none
          | _ => none
        else if e ∈ escapes then stringRest rest else none
    else if c < 0x20 then none
    else stringRest rest

def integerPart : Text → Option (Text × Text)
  | [] => none
  | c :: rest =>
    if c = '0'.toNat then some ([c], rest)
    else if isDigit c then some (c :: rest.takeWhile isDigit, rest.dropWhile isDigit)
    else none

def fraction : Text → Option Text
  | point :: d :: rest => if point = '.'.toNat ∧ isDigit d then some (rest.dropWhile isDigit) else none
  | _ => none

/-- Without the sign, where one of these comes first. -/
def unsigned (signs : Text) : Text → Text
  | [] => []
  | c :: rest => if c ∈ signs then rest else c :: rest

/-- What follows an exponent, where there is one. -/
def exponent : Text → Option Text
  | [] => none
  | e :: rest =>
    if e = 'e'.toNat ∨ e = 'E'.toNat then
      match unsigned (text "+-") rest with
      | d :: rest => if isDigit d then some (rest.dropWhile isDigit) else none
      | [] => none
    else none

/-- `_match_number_unicode`: an integer is converted by `int`, anything else by `float`. -/
def number (digits : Nat) (t : Text) : Except Failure Text :=
  match integerPart (unsigned (text "-") t) with
  | none => .error .value
  | some (whole, rest) =>
    match fraction rest with
    | some rest => .ok ((exponent rest).getD rest)
    | none =>
      match exponent rest with
      | some rest => .ok rest
      | none => if fits digits whole then .ok rest else .error .value

def constantRest (t : Text) : Option Text :=
  constants.findSome? fun constant => if constant.isPrefixOf t then some (t.drop constant.length) else none

def scalar (digits : Nat) (t : Text) : Except Failure Text :=
  match constantRest t with
  | some rest => .ok rest
  | none =>
    match t with
    | [] => .error .value
    | c :: rest =>
      if c = quote then
        match stringRest rest with
        | some rest => .ok rest
        | none => .error .value
      else number digits (c :: rest)

section
variable (item : Text → Except Failure Text) (close : Nat)

/-- After an item: the bracket that closes them all, or a comma and more of them. -/
def afterItem (more : Text → Except Failure Text) (t : Text) : Except Failure Text :=
  match skip t with
  | [] => .error .value
  | c :: rest =>
    if c = close then .ok rest
    else if c = ','.toNat then more (skip rest)
    else .error .value

/-- Items between commas, up to the bracket that closes them. Each round reads an item. -/
def elements : Nat → Text → Except Failure Text
  | 0, _ => .error .value
  | rounds + 1, t =>
    match item t with
    | .error e => .error e
    | .ok rest => afterItem close (elements rounds) rest

/-- After an opening bracket: what follows the closing one. -/
def container (t : Text) : Except Failure Text :=
  match skip t with
  | [] => .error .value
  | c :: rest => if c = close then .ok rest else elements item close t.length (c :: rest)

end

def member (value : Text → Except Failure Text) : Text → Except Failure Text
  | [] => .error .value
  | c :: rest =>
    if c = quote then
      match stringRest rest with
      | none => .error .value
      | some rest =>
        match skip rest with
        | [] => .error .value
        | c :: rest => if c = ':'.toNat then value (skip rest) else .error .value
    else .error .value

/-- `scan_once`, given how what follows an opening bracket is read. -/
def scanOnce (digits : Nat) (object array : Text → Except Failure Text) : Text → Except Failure Text
  | [] => .error .value
  | c :: rest =>
    if c = '{'.toNat then object rest
    else if c = '['.toNat then array rest
    else scalar digits (c :: rest)

/-- `scan_once` with so many levels left on the stack: what follows the value. -/
def value (digits : Nat) : Nat → Text → Except Failure Text
  | 0 => scanOnce digits (fun _ => .error .recursion) fun _ => .error .recursion
  | depth + 1 =>
    scanOnce digits (container (member (value digits depth)) '}'.toNat) (container (value digits depth) ']'.toNat)

/-- Whether what was read is a `dict`. -/
inductive Kind where
  | dict | other
  deriving DecidableEq

/-- `JSONDecoder.decode` -/
def decodeText (limits : Limits) (t : Text) : Except Failure Kind :=
  match value limits.digits limits.depth (skip t) with
  | .error e => .error e
  | .ok rest =>
    if skip rest = [] then .ok (if (skip t).head? = some '{'.toNat then .dict else .other) else .error .value

/-- `json.detect_encoding` -/
def detectEncoding (bytes : List UInt8) : Codecs.Encoding :=
  if [0x00, 0x00, 0xFE, 0xFF].isPrefixOf bytes ∨ [0xFF, 0xFE, 0x00, 0x00].isPrefixOf bytes then .utf32
  else if [0xFE, 0xFF].isPrefixOf bytes ∨ [0xFF, 0xFE].isPrefixOf bytes then .utf16
  else if [0xEF, 0xBB, 0xBF].isPrefixOf bytes then .utf8Sig
  else match bytes with
    | b₀ :: b₁ :: b₂ :: b₃ :: _ =>
      if b₀ = 0 then (if b₁ ≠ 0 then .utf16be else .utf32be)
      else if b₁ = 0 then (if b₂ ≠ 0 ∨ b₃ ≠ 0 then .utf16le else .utf32le)
      else .utf8
    | [b₀, b₁] => if b₀ = 0 then .utf16be else if b₁ = 0 then .utf16le else .utf8
    | _ => .utf8

def decodeBytes (bytes : List UInt8) : Option Text := Codecs.decode (detectEncoding bytes) bytes

/-- `json.loads` of bytes: what kind of value they hold. -/
def loads (limits : Limits) (bytes : List UInt8) : Except Failure Kind :=
  match decodeBytes bytes with
  | none => .error .value
  | some t => decodeText limits t

end JsonReader
