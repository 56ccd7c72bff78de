import GameServiceRuntime.Lib.Text
import Mathlib.Data.List.GetD
import Mathlib.Data.Nat.Digits.Lemmas

/-!
# Texts for bytes and numbers

Base64 with the alphabet for URLs and without padding, and decimal numbers. Encoding is a function
into the texts; decoding accepts more than what encoding makes. The decoder of the standard library
skips line breaks wherever they stand and does not look at the bits of the last digit that no byte
needs. `Canonical` says that a text has neither, and those are exactly the texts that come back.

## Main results

* `decode_encode`, `encode_decode_iff` — the two round trips of base64
* `parse_format`, `format_parse` — those of decimal numbers
-/

namespace GameServiceRuntime

namespace Base64

/-- `encodeURL` -/
def alphabet : Text :=
  "ABCDEFGHIJKLMNOPQRSTUVWXYZabcdefghijklmnopqrstuvwxyz0123456789-_"

theorem nodup_alphabet : alphabet.Nodup := by decide

/-- The digit for six bits. -/
def digit (n : ℕ) : UInt8 := alphabet.getD n 0

/-- `decodeMap` -/
def value (c : UInt8) : Option ℕ := if c ∈ alphabet then some (alphabet.idxOf c) else none

variable {n : ℕ}

theorem value_digit (h : n < 64) : value (digit n) = some n := by
  have hn : n < alphabet.length := h
  rw [digit, List.getD_eq_getElem _ _ hn, value, if_pos (List.getElem_mem hn),
    nodup_alphabet.idxOf_getElem]

variable {c : UInt8}

theorem digit_of_value (h : value c = some n) : digit n = c ∧ n < 64 := by
  rw [value] at h
  split at h <;> cases h
  next hc =>
  have hlt : alphabet.idxOf c < alphabet.length := List.idxOf_lt_length_iff.mpr hc
  exact ⟨by rw [digit, List.getD_eq_getElem _ _ hlt, List.getElem_idxOf], hlt⟩

theorem digit_mem (h : n < 64) : digit n ∈ alphabet := by
  have hn : n < alphabet.length := h
  rw [digit, List.getD_eq_getElem _ _ hn]
  exact List.getElem_mem hn

/-! ### Six bits at a time -/

/-- The bytes of a text in groups of six bits; the last group is filled up with zeros. -/
def sextets : Text → List ℕ
  | a :: b :: c :: rest =>
    a.toNat / 4 :: (a.toNat % 4 * 16 + b.toNat / 16) :: (b.toNat % 16 * 4 + c.toNat / 64) ::
      c.toNat % 64 :: sextets rest
  | [a, b] => [a.toNat / 4, a.toNat % 4 * 16 + b.toNat / 16, b.toNat % 16 * 4]
  | [a] => [a.toNat / 4, a.toNat % 4 * 16]
  | [] => []

/-- The bytes of groups of six bits. Bits that do not make up a byte are dropped. -/
def bytes : List ℕ → Option Text
  | p :: q :: r :: s :: rest =>
    (bytes rest).map fun t =>
      UInt8.ofNat (p * 4 + q / 16) :: UInt8.ofNat (q % 16 * 16 + r / 4) ::
        UInt8.ofNat (r % 4 * 64 + s) :: t
  | [p, q, r] => some [UInt8.ofNat (p * 4 + q / 16), UInt8.ofNat (q % 16 * 16 + r / 4)]
  | [p, q] => some [UInt8.ofNat (p * 4 + q / 16)]
  | [_] => none
  | [] => some []

/-- The bits of the last group that are dropped are zero. -/
def Flush : List ℕ → Prop
  | _ :: _ :: _ :: _ :: rest => Flush rest
  | [_, _, r] => r % 4 = 0
  | [_, q] => q % 16 = 0
  | _ => True

theorem sextets_lt (t : Text) : ∀ n ∈ sextets t, n < 64 := by
  fun_induction sextets t with
  | case1 a b c rest ih =>
    have := a.toNat_lt; have := b.toNat_lt; have := c.toNat_lt
    simp only [List.forall_mem_cons]
    exact ⟨by omega, by omega, by omega, by omega, ih⟩
  | case2 a b => have := a.toNat_lt; have := b.toNat_lt; simp; omega
  | case3 a => have := a.toNat_lt; simp; omega
  | case4 => simp

theorem bytes_sextets (t : Text) : bytes (sextets t) = some t := by
  fun_induction sextets t with
  | case1 a b c rest ih =>
    have := a.toNat_lt; have := b.toNat_lt; have := c.toNat_lt
    simp only [bytes, ih, Option.map_some, Option.some.injEq, List.cons.injEq, and_true,
      ← UInt8.toNat_inj, UInt8.toNat_ofNat']
    omega
  | case2 a b =>
    have := a.toNat_lt; have := b.toNat_lt
    simp only [bytes, Option.some.injEq, List.cons.injEq, and_true, ← UInt8.toNat_inj,
      UInt8.toNat_ofNat']
    omega
  | case3 a =>
    have := a.toNat_lt
    simp only [bytes, Option.some.injEq, List.cons.injEq, and_true, ← UInt8.toNat_inj,
      UInt8.toNat_ofNat']
    omega
  | case4 => rfl

variable {vs : List ℕ}

theorem sextets_bytes_iff {t : Text} (h : bytes vs = some t) (hlt : ∀ n ∈ vs, n < 64) :
    sextets t = vs ↔ Flush vs := by
  fun_induction bytes vs generalizing t with
  | case1 p q r s rest ih =>
    obtain ⟨t, ht, rfl⟩ := Option.map_eq_some_iff.mp h
    simp only [List.forall_mem_cons] at hlt
    obtain ⟨hp, hq, hr, hs, hrest⟩ := hlt
    rw [Flush, ← ih ht hrest]
    simp only [sextets, UInt8.toNat_ofNat', List.cons.injEq]
    refine ⟨fun h => h.2.2.2.2, fun h => ⟨?_, ?_, ?_, ?_, h⟩⟩ <;> omega
  | case2 p q r =>
    cases h
    simp only [List.forall_mem_cons] at hlt
    simp only [sextets, Flush, UInt8.toNat_ofNat', List.cons.injEq, and_true]
    omega
  | case3 p q =>
    cases h
    simp only [List.forall_mem_cons] at hlt
    simp only [sextets, Flush, UInt8.toNat_ofNat', List.cons.injEq, and_true]
    omega
  | case4 => cases h
  | case5 =>
    cases h
    simp [sextets, Flush]

/-! ### The encoding -/

/-- `EncodeToString` -/
def encode (t : Text) : Text := (sextets t).map digit

/-- The characters that the decoder skips. -/
def lineBreak (c : UInt8) : Bool := c = 10 || c = 13

/-- The values of all digits, if all are digits. -/
def values : Text → Option (List ℕ)
  | [] => some []
  | c :: s => (value c).bind fun n => (values s).map (n :: ·)

/-- `DecodeString` -/
def decode (s : Text) : Option Text :=
  (values (s.filter fun c => !lineBreak c)).bind bytes

/-- There is no line break in the text and its last digit has no bit that no byte needs. -/
def Canonical (s : Text) : Prop :=
  (∀ c ∈ s, lineBreak c = false) ∧ ∀ vs, values s = some vs → Flush vs

theorem values_map_digit (h : ∀ n ∈ vs, n < 64) : values (vs.map digit) = some vs := by
  induction vs with
  | nil => rfl
  | cons n vs ih =>
    obtain ⟨hn, hvs⟩ := List.forall_mem_cons.mp h
    simp [values, value_digit hn, ih hvs]

theorem map_digit_of_values {s : Text} (h : values s = some vs) :
    vs.map digit = s ∧ ∀ n ∈ vs, n < 64 := by
  induction s generalizing vs with
  | nil =>
    cases h
    simp
  | cons c s ih =>
    obtain ⟨n, hn, h⟩ := Option.bind_eq_some_iff.mp h
    obtain ⟨vs, hvs, rfl⟩ := Option.map_eq_some_iff.mp h
    obtain ⟨hd, hlt⟩ := digit_of_value hn
    exact ⟨by rw [List.map_cons, hd, (ih hvs).1], List.forall_mem_cons.mpr ⟨hlt, (ih hvs).2⟩⟩

theorem mem_alphabet_of_mem_encode {t : Text} (h : c ∈ encode t) : c ∈ alphabet := by
  obtain ⟨n, hn, rfl⟩ := List.mem_map.mp h
  exact digit_mem (sextets_lt t n hn)

/-- A character that is no digit does not occur in what is encoded. -/
theorem notMem_encode (hc : c ∉ alphabet) (t : Text) : c ∉ encode t :=
  fun h => hc (mem_alphabet_of_mem_encode h)

theorem lineBreak_encode (t : Text) : ∀ c ∈ encode t, lineBreak c = false := by
  intro c hc
  have : ∀ c ∈ alphabet, lineBreak c = false := by decide +kernel
  exact this c (mem_alphabet_of_mem_encode hc)

theorem filter_encode (t : Text) : (encode t).filter (fun c => !lineBreak c) = encode t :=
  List.filter_eq_self.mpr fun c hc => by simp [lineBreak_encode t c hc]

/-- **What is encoded is decoded again.** -/
@[simp] theorem decode_encode (t : Text) : decode (encode t) = some t := by
  rw [decode, filter_encode, encode, values_map_digit (sextets_lt t), Option.bind_some,
    bytes_sextets]

theorem encode_injective : Function.Injective encode := fun t u h =>
  Option.some.inj (by rw [← decode_encode t, h, decode_encode])

/-- **What is decoded is what encoding makes if it is canonical, and only then.** -/
theorem encode_decode_iff {s t : Text} (h : decode s = some t) : encode t = s ↔ Canonical s := by
  obtain ⟨vs, hvs, hb⟩ := Option.bind_eq_some_iff.mp h
  obtain ⟨hd, hlt⟩ := map_digit_of_values hvs
  constructor
  · rintro rfl
    refine ⟨lineBreak_encode t, fun ws hws => ?_⟩
    rw [filter_encode, hws] at hvs
    cases hvs
    rw [encode, values_map_digit (sextets_lt t)] at hws
    exact (sextets_bytes_iff hb hlt).mp (Option.some.inj hws)
  · rintro ⟨hbreak, hflush⟩
    have hf : s.filter (fun c => !lineBreak c) = s :=
      List.filter_eq_self.mpr fun c hc => by simp [hbreak c hc]
    rw [hf] at hvs hd
    rw [encode, (sextets_bytes_iff hb hlt).mpr (hflush vs hvs), hd]

end Base64

namespace Decimal

/-- `strconv.FormatUint` -/
def format (n : ℕ) : Text :=
  if n = 0 then [48] else (Nat.digits 10 n).reverse.map fun d => UInt8.ofNat (48 + d)

/-- The character is a digit. -/
def isDigit (c : UInt8) : Bool := 48 ≤ c.toNat && c.toNat ≤ 57

/-- The loop of `strconv.ParseUint` over digits, before its check for overflow. -/
def parse (s : Text) : ℕ := s.foldl (fun n c => n * 10 + (c.toNat - 48)) 0

theorem parse_eq (s : Text) : parse s = Nat.ofDigits 10 (s.reverse.map fun c => c.toNat - 48) := by
  rw [Nat.ofDigits_eq_foldr, List.foldr_map, List.foldr_reverse, parse]
  congr 1
  funext n c
  simp
  omega

theorem format_isDigit (n : ℕ) : ∀ c ∈ format n, isDigit c = true := by
  intro c hc
  rw [format] at hc
  split at hc
  · rw [List.mem_singleton.mp hc]
    rfl
  · obtain ⟨d, hd, rfl⟩ := List.mem_map.mp hc
    have := Nat.digits_lt_base (by omega) (List.mem_reverse.mp hd)
    simp only [isDigit, UInt8.toNat_ofNat', Bool.and_eq_true, decide_eq_true_eq]
    omega

theorem parse_format {n : ℕ} (h : n ≠ 0) : parse (format n) = n := by
  rw [parse_eq, format, if_neg h, ← List.map_reverse, List.reverse_reverse, List.map_map,
    List.map_congr_left (g := id), List.map_id, Nat.ofDigits_digits]
  intro d hd
  have := Nat.digits_lt_base (by omega) hd
  simp only [Function.comp_apply, UInt8.toNat_ofNat', id]
  omega

/-- The first digit is not a zero. -/
def Leading (s : Text) : Prop := s ≠ [] ∧ s.head? ≠ some 48

theorem leading_format {n : ℕ} (h : n ≠ 0) : Leading (format n) := by
  have hne := Nat.digits_ne_nil_iff_ne_zero (b := 10).mpr h
  have hlast := Nat.getLast_digit_ne_zero 10 h
  have hlt := Nat.digits_lt_base (b := 10) (by omega) (List.getLast_mem hne)
  rw [format, if_neg h]
  refine ⟨by simpa using hne, ?_⟩
  rw [List.head?_map, List.head?_reverse, List.getLast?_eq_getLast_of_ne_nil hne, Option.map_some,
    ne_eq, Option.some.injEq, ← UInt8.toNat_inj, UInt8.toNat_ofNat']
  have : (48 : UInt8).toNat = 48 := rfl
  omega

/-- Digits that do not begin with a zero are what formatting makes of their number. -/
theorem format_parse {s : Text} (hs : Leading s) (hd : ∀ c ∈ s, isDigit c = true) :
    format (parse s) = s ∧ parse s ≠ 0 := by
  have hlt : ∀ c ∈ s, 48 ≤ c.toNat ∧ c.toNat ≤ 57 := fun c hc => by simpa [isDigit] using hd c hc
  have hdig : Nat.digits 10 (parse s) = s.reverse.map fun c => c.toNat - 48 := by
    rw [parse_eq]
    refine Nat.digits_ofDigits 10 (by omega) _ ?_ fun hne => ?_
    · intro d hd
      obtain ⟨c, hc, rfl⟩ := List.mem_map.mp hd
      have := hlt c (List.mem_reverse.mp hc)
      omega
    · obtain ⟨c, s, rfl⟩ := List.exists_cons_of_ne_nil hs.1
      have hc := hlt c List.mem_cons_self
      have h48 : c.toNat ≠ 48 := fun h => hs.2 (congrArg some (UInt8.toNat_inj.mp h))
      simp only [List.reverse_cons, List.map_append, List.map_singleton,
        List.getLast_append_singleton]
      omega
  have hne : parse s ≠ 0 := by
    intro h0
    rw [h0, Nat.digits_zero] at hdig
    exact hs.1 (by simpa using hdig.symm)
  refine ⟨?_, hne⟩
  rw [format, if_neg hne, hdig, ← List.map_reverse, List.reverse_reverse, List.map_map,
    List.map_congr_left (g := id), List.map_id]
  intro c hc
  have := hlt c hc
  rw [Function.comp_apply, id, ← UInt8.toNat_inj, UInt8.toNat_ofNat']
  omega

theorem format_injective {m n : ℕ} (hm : m ≠ 0) (hn : n ≠ 0) (h : format m = format n) : m = n := by
  rw [← parse_format hm, h, parse_format hn]

end Decimal

end GameServiceRuntime
