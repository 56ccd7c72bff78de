import GameServiceRuntime.Lib.Base64
import GameServiceRuntime.Entry.Types

/-!
# Proofs on the wire

A gateway's client sends its proof as one AUTH line of fields, and signs a text made of the same
fields. Both are texts that have to be read back in one way only: the line so that a proof has one
line, the signed text so that a code for one set of fields is not a code for another.

The signed text is read back by its line breaks, of which a field has none. The line is read by
`ParseAuthLine`, and what that accepts is decided by the decoder of the standard library, which
skips line breaks inside a field and does not look at the bits of the last digit that no byte needs.
So one proof has many lines. `CanonicalLine` says which of them `FormatAuthLine` makes.
-/

namespace GameServiceRuntime.Entry

/-! ### The line -/

def encodedText (value : Text) : Text := Base64.encode value

def decodedText (value : Text) : Option Text := (Base64.decode value).filter validText

def canonicalUint (value : Text) : Option UInt64 :=
  if value = [] || (1 < value.length && value.head? = some 48) then none
  else if !value.all Decimal.isDigit then none
  else if 2 ^ 64 ≤ Decimal.parse value || Decimal.parse value = 0 then none
  else some (UInt64.ofNat (Decimal.parse value))

def maxAuthLine : ℕ := 4096

def formatAuthLine (proof : GatewayProof) : Except Err Text :=
  if !validProofFields proof || proof.mac.length ≠ 32 then .error .invalidProof
  else
    let line := Text.ofString "AUTH " ++ encodedText proof.uid ++ Text.ofString " " ++
      encodedText proof.subID ++ Text.ofString " " ++ encodedText proof.server ++
      Text.ofString " " ++
      Decimal.format proof.generation.toNat ++ Text.ofString " " ++
      Decimal.format proof.sequence.toNat ++ Text.ofString " " ++ Base64.encode proof.mac ++
      Text.ofString "\n"
    if maxAuthLine < line.length then .error .invalidProof else .ok line

/-- What the fields of a line say. -/
def parseFields : List Text → Option GatewayProof
  | [auth, uid, subID, server, generation, sequence, mac] =>
    if auth ≠ Text.ofString "AUTH" then none
    else do
      let uid ← decodedText uid
      let subID ← decodedText subID
      let server ← decodedText server
      let generation ← canonicalUint generation
      let sequence ← canonicalUint sequence
      let mac ← (Base64.decode mac).filter fun mac => mac.length = 32
      let proof : GatewayProof := ⟨uid, subID, server, generation, sequence, mac⟩
      if validProofFields proof then some proof else none
  | _ => none

/-- `strings.Split(strings.TrimSuffix(line, "\n"), " ")` for a line that ends in a line break. -/
def fieldsOf (line : Text) : List Text := line.dropLast.splitOn 32

def parseAuthLine (line : Text) : Except Err GatewayProof :=
  if line = [] || maxAuthLine < line.length || line.getLast? ≠ some 10 || 13 ∈ line then
    .error .invalidProof
  else
    match parseFields (fieldsOf line) with
    | some proof => .ok proof
    | none => .error .invalidProof

/-- The encoded fields of a line have no line break and no bits that no byte needs. -/
def CanonicalLine (line : Text) : Prop :=
  ∀ i ∈ [1, 2, 3, 6], Base64.Canonical ((fieldsOf line).getD i [])

/-- The fields of a proof's line. -/
def GatewayProof.fields (proof : GatewayProof) : List Text :=
  [Text.ofString "AUTH", encodedText proof.uid, encodedText proof.subID, encodedText proof.server,
    Decimal.format proof.generation.toNat, Decimal.format proof.sequence.toNat,
    Base64.encode proof.mac]

/-- The line with given fields. -/
def lineOf (fields : List Text) : Text := [32].intercalate fields ++ [10]

/-- What `FormatAuthLine` asks of a proof. -/
structure Formatted (proof : GatewayProof) (line : Text) : Prop where
  valid : validProofFields proof = true
  mac : proof.mac.length = 32
  length : line.length ≤ maxAuthLine
  line : line = lineOf proof.fields

variable {proof : GatewayProof} {line : Text}

theorem formatAuthLine_iff : formatAuthLine proof = .ok line ↔ Formatted proof line := by
  have hline : lineOf proof.fields = Text.ofString "AUTH " ++ encodedText proof.uid ++
      Text.ofString " " ++ encodedText proof.subID ++ Text.ofString " " ++
      encodedText proof.server ++
      Text.ofString " " ++ Decimal.format proof.generation.toNat ++ Text.ofString " " ++
      Decimal.format proof.sequence.toNat ++ Text.ofString " " ++ Base64.encode proof.mac ++
      Text.ofString "\n" := by
    simp [lineOf, GatewayProof.fields, List.intercalate, Text.ofString]
  rw [formatAuthLine, ← hline]
  constructor
  · intro h
    split at h
    · cases h
    · next hv =>
      dsimp only at h
      split at h <;> cases h
      next hl =>
      simp only [Bool.or_eq_true, Bool.not_eq_true', decide_eq_true_eq, not_or, not_not,
        Bool.not_eq_false] at hv
      exact ⟨hv.1, hv.2, not_lt.mp hl, rfl⟩
  · rintro ⟨hv, hm, hl, rfl⟩
    simp [hv, hm, not_lt.mpr hl]

/-! ### Fields of a proof -/

theorem validText_of_filter {value text : Text} (h : decodedText value = some text) :
    Base64.decode value = some text := (Option.filter_eq_some_iff.mp h).1

theorem decodedText_encodedText {text : Text} (h : validText text = true) :
    decodedText (encodedText text) = some text := by
  rw [decodedText, encodedText, Base64.decode_encode, Option.filter_some, if_pos h]

theorem canonicalUint_format {n : UInt64} (h : n ≠ 0) :
    canonicalUint (Decimal.format n.toNat) = some n := by
  have hn : n.toNat ≠ 0 := fun h0 => h (UInt64.toNat_inj.mp h0)
  have hlead := Decimal.leading_format hn
  have hdigits : (Decimal.format n.toNat).all Decimal.isDigit = true :=
    List.all_eq_true.mpr (Decimal.format_isDigit n.toNat)
  have hlt := n.toNat_lt
  rw [canonicalUint, if_neg (by simp [hlead.1, hlead.2]), if_neg (by simp [hdigits]),
    Decimal.parse_format hn, if_neg (by simp [hn, hlt]), UInt64.ofNat_toNat]

theorem format_canonicalUint {value : Text} {n : UInt64} (h : canonicalUint value = some n) :
    Decimal.format n.toNat = value := by
  rw [canonicalUint] at h
  split at h
  · cases h
  · next h0 =>
    split at h
    · cases h
    · next hd =>
      split at h <;> cases h
      next hlt =>
      simp only [Bool.or_eq_true, decide_eq_true_eq, Bool.and_eq_true, not_or, not_and] at h0 hlt
      have hdigits : ∀ c ∈ value, Decimal.isDigit c = true := by simpa using hd
      have hlead : Decimal.Leading value := by
        refine ⟨h0.1, fun hc => ?_⟩
        -- a single zero is the number zero
        by_cases hlen : 1 < value.length
        · exact h0.2 hlen hc
        · obtain ⟨c, rfl⟩ : ∃ c, value = [c] := List.length_eq_one_iff.mp (by
            have := List.length_pos_iff.mpr h0.1; omega)
          cases hc
          exact hlt.2 rfl
      have hsize : Decimal.parse value < UInt64.size := not_le.mp hlt.1
      rw [UInt64.toNat_ofNat_of_lt' hsize, (Decimal.format_parse hlead hdigits).1]

/-! ### Round trips -/

theorem notMem_fields {c : UInt8} (hb : c ∉ Base64.alphabet) (hd : Decimal.isDigit c = false)
    (ha : c ∉ Text.ofString "AUTH") (proof : GatewayProof) : ∀ f ∈ proof.fields, c ∉ f := by
  have hnum : ∀ n, c ∉ Decimal.format n := fun n hc => by
    rw [Decimal.format_isDigit n c hc] at hd
    cases hd
  have henc := Base64.notMem_encode hb
  simp only [GatewayProof.fields, encodedText, List.forall_mem_cons, List.not_mem_nil,
    false_implies, implies_true, and_true]
  exact ⟨ha, henc _, henc _, henc _, hnum _, hnum _, henc _⟩

theorem fieldsOf_lineOf {fields : List Text} (h : ∀ f ∈ fields, (32 : UInt8) ∉ f)
    (hne : fields ≠ []) : fieldsOf (lineOf fields) = fields := by
  rw [fieldsOf, lineOf, List.dropLast_concat, List.splitOn_intercalate 32 h hne]

theorem lineOf_fieldsOf (h : line.getLast? = some 10) : lineOf (fieldsOf line) = line := by
  rw [lineOf, fieldsOf, List.intercalate_splitOn]
  exact List.dropLast_append_getLast? 10 h

/-- What `ParseAuthLine` accepts. -/
structure Parsed (line : Text) (proof : GatewayProof) : Prop where
  length : line.length ≤ maxAuthLine
  last : line.getLast? = some 10
  fields : parseFields (fieldsOf line) = some proof

theorem parseAuthLine_parsed (h : parseAuthLine line = .ok proof) : Parsed line proof := by
  rw [parseAuthLine] at h
  split at h
  · cases h
  · next hline =>
    simp only [Bool.or_eq_true, decide_eq_true_eq, not_or, not_not] at hline
    split at h <;> cases h
    next hf => exact ⟨not_lt.mp hline.1.1.2, hline.1.2, hf⟩

/-- What the fields of an accepted line are. -/
theorem parseFields_inv {fields : List Text} (h : parseFields fields = some proof) :
    validProofFields proof = true ∧ proof.mac.length = 32 ∧
      ∃ uid subID server mac, fields = [Text.ofString "AUTH", uid, subID, server,
        Decimal.format proof.generation.toNat, Decimal.format proof.sequence.toNat, mac] ∧
        Base64.decode uid = some proof.uid ∧ Base64.decode subID = some proof.subID ∧
        Base64.decode server = some proof.server ∧ Base64.decode mac = some proof.mac := by
  rw [parseFields.eq_def] at h
  split at h
  · next auth uid subID server generation sequence mac =>
    split at h
    · cases h
    · next ha =>
      simp only [Option.bind_eq_bind, Option.bind_eq_some_iff, Option.ite_none_right_eq_some] at h
      obtain ⟨u, hu, i, hi, s, hs, g, hg, n, hn, m, hm, hv, hp⟩ := h
      cases hp
      obtain ⟨hm, hlen⟩ := Option.filter_eq_some_iff.mp hm
      refine ⟨hv, by simpa using hlen, uid, subID, server, mac, ?_, validText_of_filter hu,
        validText_of_filter hi, validText_of_filter hs, hm⟩
      rw [format_canonicalUint hg, format_canonicalUint hn, not_not.mp ha]
  · cases h

theorem parse_of_formatted (h : Formatted proof line) : parseAuthLine line = .ok proof := by
  have hspace := notMem_fields (c := 32) (by decide) (by decide) (by decide) proof
  have hreturn := notMem_fields (c := 13) (by decide) (by decide) (by decide) proof
  have hfields : fieldsOf line = proof.fields := by
    rw [h.line, fieldsOf_lineOf hspace (by simp [GatewayProof.fields])]
  have hvalid := h.valid
  simp only [validProofFields, Bool.and_eq_true, decide_eq_true_eq] at hvalid
  obtain ⟨⟨⟨⟨hu, hi⟩, hs⟩, hg⟩, hn⟩ := hvalid
  have hparsed : parseFields (fieldsOf line) = some proof := by
    rw [hfields]
    simp [parseFields, GatewayProof.fields, decodedText_encodedText hu, decodedText_encodedText hi,
      decodedText_encodedText hs, canonicalUint_format hg, canonicalUint_format hn,
      Option.filter_some,
      h.mac, h.valid]
  have hcr : (13 : UInt8) ∉ line := by
    simp only [GatewayProof.fields, List.forall_mem_cons] at hreturn
    rw [h.line]
    simp [lineOf, GatewayProof.fields, List.intercalate, hreturn]
  have hlast : line.getLast? = some 10 := by rw [h.line, lineOf, List.getLast?_concat]
  have hne : line ≠ [] := by
    rintro rfl
    cases hlast
  rw [parseAuthLine, if_neg (by simp [hne, hlast, hcr, not_lt.mpr h.length]), hparsed]

/-- **Proofs and lines.** A proof's line is parsed to the proof. A line that is parsed is the line
of its proof if its encoded fields are canonical, and only then. -/
theorem authLine_roundTrip (proof : GatewayProof) (line : Text) :
    (formatAuthLine proof = .ok line → parseAuthLine line = .ok proof) ∧
      (parseAuthLine line = .ok proof →
        (formatAuthLine proof = .ok line ↔ CanonicalLine line)) := by
  refine ⟨fun h => parse_of_formatted (formatAuthLine_iff.mp h), fun h => ?_⟩
  obtain ⟨hlen, hlast, hfields⟩ := parseAuthLine_parsed h
  obtain ⟨hv, hmac, uid, subID, server, mac, hf, hu, hi, hs, hm⟩ := parseFields_inv hfields
  have hcanon : CanonicalLine line ↔ Base64.Canonical uid ∧ Base64.Canonical subID ∧
      Base64.Canonical server ∧ Base64.Canonical mac := by
    simp [CanonicalLine, hf]
  rw [formatAuthLine_iff, hcanon, ← Base64.encode_decode_iff hu, ← Base64.encode_decode_iff hi,
    ← Base64.encode_decode_iff hs, ← Base64.encode_decode_iff hm]
  constructor
  · rintro ⟨-, -, -, hline⟩
    have hspace := notMem_fields (c := 32) (by decide) (by decide) (by decide) proof
    rw [hline, fieldsOf_lineOf hspace (by simp [GatewayProof.fields])] at hf
    simpa [GatewayProof.fields, encodedText] using hf
  · rintro ⟨rfl, rfl, rfl, rfl⟩
    exact ⟨hv, hmac, hlen, by rw [← lineOf_fieldsOf hlast, hf]; rfl⟩

/-- A proof, with a code of zeros. -/
def sampleProof : GatewayProof :=
  ⟨Text.ofString "u", Text.ofString "s", Text.ofString "g", 1, 10, List.replicate 32 0⟩

/-- Its line. -/
def sampleLine : Text :=
  Text.ofString "AUTH dQ cw Zw 1 10 AAAAAAAAAAAAAAAAAAAAAAAAAAAAAAAAAAAAAAAAAAA\n"

theorem authLine_roundTrip_sampleLine : formatAuthLine sampleProof = .ok sampleLine ∧
    parseAuthLine sampleLine = .ok sampleProof ∧ CanonicalLine sampleLine := by
  have hline : formatAuthLine sampleProof = .ok sampleLine := by decide +kernel
  have hparse := (authLine_roundTrip sampleProof sampleLine).1 hline
  exact ⟨hline, hparse, ((authLine_roundTrip sampleProof sampleLine).2 hparse).mp hline⟩

/-- **One proof has many lines.** A line break inside a field, or another last digit. -/
theorem authLine_ambiguous : ∃ line other third proof, line ≠ other ∧ line ≠ third ∧
    parseAuthLine line = .ok proof ∧ parseAuthLine other = .ok proof ∧
    parseAuthLine third = .ok proof ∧ formatAuthLine proof = .ok line := by
  refine ⟨sampleLine,
    Text.ofString "AUTH d\nQ cw Zw 1 10 AAAAAAAAAAAAAAAAAAAAAAAAAAAAAAAAAAAAAAAAAAA\n",
    Text.ofString "AUTH dR cw Zw 1 10 AAAAAAAAAAAAAAAAAAAAAAAAAAAAAAAAAAAAAAAAAAA\n",
    sampleProof, ?_⟩
  decide +kernel

/-! ### The signed text -/

def gatewayProofInput (proof : GatewayProof) : Bytes :=
  Text.ofString "GSR-Gateway-Proof-v1\n" ++ Text.ofString "uid=" ++ encodedText proof.uid ++
    Text.ofString "\nsubid=" ++ encodedText proof.subID ++ Text.ofString "\nserver=" ++
    encodedText proof.server ++ Text.ofString "\ngeneration=" ++
    Decimal.format proof.generation.toNat ++ Text.ofString "\nsequence=" ++
    Decimal.format proof.sequence.toNat ++ Text.ofString "\n"

/-- `SignGatewayProof`; the keyed hash is a function of the secret and the text. -/
def signGatewayProof (hmac : Bytes → Bytes → Bytes) (secret : Bytes) (proof : GatewayProof) :
    GatewayProof :=
  if secret.length < 32 || !validProofFields proof then { proof with mac := [] }
  else { proof with mac := hmac secret (gatewayProofInput proof) }

/-- The registry's configuration with a keyed hash: `VerifyGatewayProof` signs the fields again. -/
def hashed (capacity : ℕ) (hmac : Bytes → Bytes → Bytes) : Config where
  capacity := capacity
  hmac secret proof := (signGatewayProof hmac secret { proof with mac := [] }).mac = proof.mac

/-- The proofs have the same fields, whatever their codes. -/
def GatewayProof.SameFields (p q : GatewayProof) : Prop :=
  p.uid = q.uid ∧ p.subID = q.subID ∧ p.server = q.server ∧ p.generation = q.generation ∧
    p.sequence = q.sequence

/-- A text without line breaks ends at the first one. -/
theorem append_break_inj {a b r t : Text} (ha : (10 : UInt8) ∉ a) (hb : (10 : UInt8) ∉ b)
    (h : a ++ 10 :: r = b ++ 10 :: t) : a = b ∧ r = t := by
  induction a generalizing b with
  | nil =>
    cases b with
    | nil => exact ⟨rfl, List.tail_eq_of_cons_eq h⟩
    | cons c b => exact absurd (List.head_eq_of_cons_eq h ▸ List.mem_cons_self) hb
  | cons c a ih =>
    cases b with
    | nil => exact absurd (List.head_eq_of_cons_eq h ▸ List.mem_cons_self) ha
    | cons d b =>
      obtain ⟨rfl, htail⟩ := List.cons.inj h
      obtain ⟨rfl, rfl⟩ := ih (fun hc => ha (List.mem_cons_of_mem _ hc))
        (fun hc => hb (List.mem_cons_of_mem _ hc)) htail
      exact ⟨rfl, rfl⟩

theorem input_injective {p q : GatewayProof} (hp : validProofFields p = true)
    (hq : validProofFields q = true) (h : gatewayProofInput p = gatewayProofInput q) :
    p.SameFields q := by
  have hbreak := fun p => notMem_fields (c := 10) (by decide) (by decide) (by decide) p
  simp only [GatewayProof.fields, List.forall_mem_cons] at hbreak
  have hnum : ∀ {m n : UInt64}, m ≠ 0 → n ≠ 0 → Decimal.format m.toNat = Decimal.format n.toNat →
      m = n := fun hm hn h => UInt64.toNat_inj.mp (Decimal.format_injective
    (fun h0 => hm (UInt64.toNat_inj.mp h0)) (fun h0 => hn (UInt64.toNat_inj.mp h0)) h)
  simp only [validProofFields, Bool.and_eq_true, decide_eq_true_eq] at hp hq
  simp only [gatewayProofInput, List.append_assoc, List.append_cancel_left_eq] at h
  obtain ⟨hu, h⟩ := append_break_inj (hbreak p).2.1 (hbreak q).2.1 h
  obtain ⟨hi, h⟩ := append_break_inj (hbreak p).2.2.1 (hbreak q).2.2.1 (List.append_cancel_left h)
  obtain ⟨hs, h⟩ :=
    append_break_inj (hbreak p).2.2.2.1 (hbreak q).2.2.2.1 (List.append_cancel_left h)
  obtain ⟨hg, h⟩ := append_break_inj (hbreak p).2.2.2.2.1 (hbreak q).2.2.2.2.1
    (List.append_cancel_left h)
  obtain ⟨hn, -⟩ := append_break_inj (hbreak p).2.2.2.2.2.1 (hbreak q).2.2.2.2.2.1
    (List.append_cancel_left h)
  exact ⟨Base64.encode_injective hu, Base64.encode_injective hi, Base64.encode_injective hs,
    hnum hp.1.2 hq.1.2 hg, hnum hp.2 hq.2 hn⟩

/-- **The signed text.** Valid fields are read back from it. So a code that is accepted for two sets
of fields is one hash of two texts, never one text for both. -/
theorem gatewayProofInput_injective (capacity : ℕ) (hmac : Bytes → Bytes → Bytes) :
    (∀ p q, validProofFields p = true → validProofFields q = true →
      gatewayProofInput p = gatewayProofInput q → p.SameFields q) ∧
    ∀ secret p q, verifyGatewayProof (hashed capacity hmac) secret p = true →
      verifyGatewayProof (hashed capacity hmac) secret q = true → p.mac = q.mac →
      p.SameFields q ∨ gatewayProofInput p ≠ gatewayProofInput q ∧
        hmac secret (gatewayProofInput p) = hmac secret (gatewayProofInput q) := by
  refine ⟨fun p q hp hq => input_injective hp hq, fun secret p q hp hq hmac' => ?_⟩
  have hcode : ∀ p, verifyGatewayProof (hashed capacity hmac) secret p = true →
      validProofFields p = true ∧ hmac secret (gatewayProofInput p) = p.mac := by
    intro p h
    simp only [verifyGatewayProof, hashed, Bool.and_eq_true, decide_eq_true_eq] at h
    obtain ⟨⟨⟨hlen, hv⟩, -⟩, hm⟩ := h
    have hv' : validProofFields { p with mac := [] } = true := hv
    rw [signGatewayProof, if_neg (by simp [hv', not_lt.mpr hlen])] at hm
    exact ⟨hv, hm⟩
  obtain ⟨hvp, hmp⟩ := hcode p hp
  obtain ⟨hvq, hmq⟩ := hcode q hq
  by_cases hin : gatewayProofInput p = gatewayProofInput q
  · exact .inl (input_injective hvp hvq hin)
  · exact .inr ⟨hin, by rw [hmp, hmq, hmac']⟩

theorem gatewayProofInput_injective_constantHash :
    verifyGatewayProof (hashed 1 fun _ _ => List.replicate 32 0) (List.replicate 32 7) sampleProof =
      true ∧
    (sampleProof.SameFields { sampleProof with sequence := 11 } ∨
      gatewayProofInput sampleProof ≠ gatewayProofInput { sampleProof with sequence := 11 } ∧
        List.replicate 32 (0 : UInt8) = List.replicate 32 0) := by
  have h : verifyGatewayProof (hashed 1 fun _ _ => List.replicate 32 0) (List.replicate 32 7)
      sampleProof = true := by decide +kernel
  exact ⟨h, (gatewayProofInput_injective 1 fun _ _ => List.replicate 32 0).2 (List.replicate 32 7)
    sampleProof { sampleProof with sequence := 11 } h (by decide +kernel) rfl⟩

end GameServiceRuntime.Entry
