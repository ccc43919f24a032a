import Mathlib.Data.List.Basic

/-!
Decoding bytes to code points as Python does under `surrogatepass`: a surrogate that stands alone is a code point
like any other, and everything else that is not well formed is refused.
-/

namespace Codecs

def isTrail (b : UInt8) : Bool := 0x80 ≤ b.toNat && b.toNat < 0xC0

def low (b : UInt8) : Nat := b.toNat - 0x80

def utf8 : List UInt8 → Option (List Nat)
  | [] => some []
  | a :: rest =>
    if a.toNat < 0x80 then (utf8 rest).map (a.toNat :: ·) else
    match rest with
    | [] => none
    | b :: rest =>
      if !isTrail b then none else
      if 0xC2 ≤ a.toNat ∧ a.toNat < 0xE0 then (utf8 rest).map (((a.toNat - 0xC0) * 64 + low b) :: ·) else
      match rest with
      | [] => none
      | c :: rest =>
        if !isTrail c then none else
        let three := (a.toNat - 0xE0) * 4096 + low b * 64 + low c
        if 0xE0 ≤ a.toNat ∧ a.toNat < 0xF0 then
          if three < 0x800 then none else (utf8 rest).map (three :: ·)
        else
        match rest with
        | [] => none
        | d :: rest =>
          if !isTrail d then none else
          let four := (a.toNat - 0xF0) * 262144 + low b * 4096 + low c * 64 + low d
          if 0xF0 ≤ a.toNat ∧ 0x10000 ≤ four ∧ four ≤ 0x10FFFF then (utf8 rest).map (four :: ·) else none

/-- The 16-bit units, in either byte order. -/
def units16 (big : Bool) : List UInt8 → Option (List Nat)
  | [] => some []
  | [_] => none
  | a :: b :: rest =>
    (units16 big rest).map ((if big then a.toNat * 256 + b.toNat else b.toNat * 256 + a.toNat) :: ·)

/-- Two surrogates that make a pair are one code point. -/
def joinPairs : List Nat → List Nat
  | high :: next :: after =>
    if 0xD800 ≤ high ∧ high < 0xDC00 ∧ 0xDC00 ≤ next ∧ next < 0xE000 then
      (0x10000 + (high - 0xD800) * 1024 + (next - 0xDC00)) :: joinPairs after
    else high :: joinPairs (next :: after)
  | units => units

def utf16 (big : Bool) (bytes : List UInt8) : Option (List Nat) := (units16 big bytes).map joinPairs

def utf32 (big : Bool) : List UInt8 → Option (List Nat)
  | [] => some []
  | a :: b :: c :: d :: rest =>
    let code := if big then ((a.toNat * 256 + b.toNat) * 256 + c.toNat) * 256 + d.toNat
      else ((d.toNat * 256 + c.toNat) * 256 + b.toNat) * 256 + a.toNat
    if code ≤ 0x10FFFF then (utf32 big rest).map (code :: ·) else none
  | _ => none

inductive Encoding where
  | utf8 | utf8Sig | utf16 | utf16be | utf16le | utf32 | utf32be | utf32le
  deriving DecidableEq

/-- `bytes.decode(encoding, "surrogatepass")`; the encodings that do not say so take their byte order from the mark. -/
def decode : Encoding → List UInt8 → Option (List Nat)
  | .utf8, bytes => utf8 bytes
  | .utf8Sig, 0xEF :: 0xBB :: 0xBF :: bytes => utf8 bytes
  | .utf8Sig, bytes => utf8 bytes
  | .utf16, 0xFE :: 0xFF :: bytes => utf16 true bytes
  | .utf16, 0xFF :: 0xFE :: bytes => utf16 false bytes
  | .utf16, bytes => utf16 false bytes
  | .utf16be, bytes => utf16 true bytes
  | .utf16le, bytes => utf16 false bytes
  | .utf32, 0x00 :: 0x00 :: 0xFE :: 0xFF :: bytes => utf32 true bytes
  | .utf32, 0xFF :: 0xFE :: 0x00 :: 0x00 :: bytes => utf32 false bytes
  | .utf32, bytes => utf32 false bytes
  | .utf32be, bytes => utf32 true bytes
  | .utf32le, bytes => utf32 false bytes

theorem utf8_ascii {bytes : List UInt8} (ascii : ∀ b ∈ bytes, b.toNat < 0x80) :
    utf8 bytes = some (bytes.map UInt8.toNat) := by
  induction bytes with
  | nil => rfl
  | cons a rest ih =>
    unfold utf8
    rw [if_pos (ascii a List.mem_cons_self), ih fun b member => ascii b (List.mem_cons_of_mem _ member)]
    rfl

end Codecs
