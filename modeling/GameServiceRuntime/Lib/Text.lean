import Mathlib.Data.List.Lex
import Mathlib.Data.UInt

/-!
# Strings as bytes

A string of the source is a sequence of bytes that need not be UTF-8, so it is modelled as one.
What the validators ask of it is modelled here: whether it is UTF-8 (`validString`, after the
ranges of the Unicode standard's table of well-formed byte sequences) and whether trimming white
space changes it (`trimSpace`). Strings are ordered byte by byte.
-/

namespace GameServiceRuntime

/-- A string: its bytes. -/
abbrev Text := List UInt8

instance : LawfulBEq Text := inferInstanceAs (LawfulBEq (List UInt8))

namespace Text

/-- The bytes of an ASCII literal. -/
def ofString (s : String) : Text := s.toList.map fun c => UInt8.ofNat c.toNat

instance : Coe String Text := ⟨ofString⟩

/-- The bytes as numbers. -/
def codes (s : Text) : List ℕ := s.map UInt8.toNat

theorem codes_injective : Function.Injective codes :=
  List.map_injective_iff.mpr fun _ _ => UInt8.toNat_inj.mp

/-- `<` on strings: byte by byte. -/
def less (a b : Text) : Bool := a.codes < b.codes

theorem less_irrefl (a : Text) : less a a = false := by simp [less]

/-- A continuation byte, within bounds that depend on the byte before it. -/
def continues (lo hi : ℕ) (b : UInt8) : Bool := lo ≤ b.toNat && b.toNat ≤ hi

/-- The bounds of the second byte after a first byte, and how many bytes follow the first. -/
def leading (b : ℕ) : Option (ℕ × ℕ × ℕ) :=
  if b < 0x80 then some (0, 0, 0)
  else if b < 0xC2 then none
  else if b ≤ 0xDF then some (1, 0x80, 0xBF)
  else if b = 0xE0 then some (2, 0xA0, 0xBF)
  else if b = 0xED then some (2, 0x80, 0x9F)
  else if b ≤ 0xEF then some (2, 0x80, 0xBF)
  else if b = 0xF0 then some (3, 0x90, 0xBF)
  else if b ≤ 0xF3 then some (3, 0x80, 0xBF)
  else if b = 0xF4 then some (3, 0x80, 0x8F)
  else none

/-- The first code point and the bytes after it; `none` when the string does not start with a
well-formed sequence. -/
def decodeRune (s : Text) : Option (ℕ × Text) :=
  match s with
  | [] => none
  | a :: rest =>
    match leading a.toNat, rest with
    | some (0, _, _), rest => some (a.toNat, rest)
    | some (1, lo, hi), b :: rest =>
      if continues lo hi b then some ((a.toNat - 0xC0) * 64 + (b.toNat - 0x80), rest) else none
    | some (2, lo, hi), b :: c :: rest =>
      if continues lo hi b && continues 0x80 0xBF c then
        some (((a.toNat - 0xE0) * 64 + (b.toNat - 0x80)) * 64 + (c.toNat - 0x80), rest)
      else none
    | some (3, lo, hi), b :: c :: d :: rest =>
      if continues lo hi b && continues 0x80 0xBF c && continues 0x80 0xBF d then
        some ((((a.toNat - 0xF0) * 64 + (b.toNat - 0x80)) * 64 + (c.toNat - 0x80)) * 64
          + (d.toNat - 0x80), rest)
      else none
    | _, _ => none

/-- At most `fuel` code points of a string; every code point takes at least one byte. -/
def decode : ℕ → Text → Option (List ℕ)
  | _, [] => some []
  | 0, _ :: _ => none
  | fuel + 1, s => (decodeRune s).bind fun r => (decode fuel r.2).map (r.1 :: ·)

/-- The code points of a string; `none` when it is not UTF-8. -/
def runes (s : Text) : Option (List ℕ) := decode s.length s

def validString (s : Text) : Bool := (runes s).isSome

/-- `unicode.IsSpace` -/
def isSpace (r : ℕ) : Bool :=
  (0x09 ≤ r && r ≤ 0x0D) || r = 0x20 || r = 0x85 || r = 0xA0 || r = 0x1680 ||
    (0x2000 ≤ r && r ≤ 0x200A) || r = 0x2028 || r = 0x2029 || r = 0x202F || r = 0x205F ||
    r = 0x3000

/-- `strings.TrimSpace`, on code points. -/
def trimSpace (rs : List ℕ) : List ℕ := (rs.dropWhile isSpace).reverse.dropWhile isSpace |>.reverse

/-- Whether `strings.TrimSpace` leaves nothing. A byte that is not UTF-8 is not white space. -/
def blank (s : Text) : Bool := (runes s).any fun rs => rs.all isSpace

/-- Whether a string is UTF-8, not empty and without white space at its ends. -/
def trimmed (s : Text) : Bool :=
  validString s && s ≠ [] && (runes s).any (fun rs => trimSpace rs = rs)

/-- A trimmed string of at most `limit` bytes. -/
def valid (s : Text) (limit : ℕ) : Bool := trimmed s && s.length ≤ limit

example : valid (ofString "request-1") 128 = true := by decide

example : valid (ofString " r") 128 = false := by decide

end Text

end GameServiceRuntime
