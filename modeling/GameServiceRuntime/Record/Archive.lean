import GameServiceRuntime.Record.Recorder

/-!
# The JSON archive

`JSONArchive` writes a bundle to a file whose name is made from the bundle's key, and reads it back.
Both ends validate the bundle and copy it. Validation asks for a payload, which may be empty;
copying turns an empty payload into none. What is written is the copy, so a bundle with an empty
payload is saved and cannot be loaded again: `empty_payload_lost`.

The encoder is a parameter with its law: what it writes for a bundle of well-formed strings and
times is read back as that bundle, with none for a byte slice that is nil. The digest that makes a
key into a name may be any function; what counts between a save and a load is that no other bundle
has got the name of the file. The contents of a file are what the last rename has put there.
-/

namespace GameServiceRuntime.Record

/-- `RecordBundle` -/
structure Bundle where
  formatVersion : UInt16
  targetKey : Text
  initialState : Slice UInt8
  entries : Slice Entry
  deriving DecidableEq

/-- The loop of `validateBundle`, from an index on. -/
def validEntries (key : Text) : ℕ → List Entry → Bool
  | _, [] => true
  | index, entry :: entries =>
    validEntry entry && entry.targetKey = key && entry.sequence = UInt64.ofNat (index + 1) &&
      validEntries key (index + 1) entries

/-- `validateBundle` -/
def validBundle (bundle : Bundle) : Bool :=
  bundle.formatVersion = formatVersion && validKey bundle.targetKey &&
    validEntries bundle.targetKey 0 bundle.entries.elems

def cloneBundle (bundle : Bundle) : Bundle :=
  { bundle with
    initialState := bundle.initialState.copy
    entries := bundle.entries.map cloneEntry }

/-- The strings of an entry are UTF-8. -/
def Entry.utf8 (entry : Entry) : Bool :=
  entry.targetKey.validString && entry.target.node.validString && entry.source.node.validString &&
    entry.traceID.validString

/-- `encoding/json`: which times it can write, what it writes, if it can, and what it reads. -/
structure Json (φ : Type) where
  time : ℤ → Prop
  marshal : Bundle → Option φ
  unmarshal : φ → Option Bundle
  /-- Bundles of UTF-8 strings and times that can be written are read back. -/
  roundTrip : ∀ b file, b.targetKey.validString = true →
    (∀ entry ∈ b.entries.elems, entry.utf8 = true ∧ time entry.recordedAt) →
    marshal b = some file → unmarshal file = some b

/-- What `JSONArchive` uses: the encoder, and the digest that makes up the name of a file. -/
structure Archive (φ : Type) where
  json : Json φ
  digest : Text → Text

/-- The files of the directory by their names. -/
abbrev Files (φ : Type) := Text → Option φ

variable {φ : Type}

/-- What `Save` meets on its way: the three looks at the context, and the errors of the temporary
file and of the rename. -/
structure Conditions where
  ctx : Option Err := none
  ctxWrite : Option Err := none
  temporary : Option Err := none
  ctxRename : Option Err := none
  rename : Option Err := none

def Archive.save (a : Archive φ) (files : Files φ) (c : Conditions) (bundle : Bundle) :
    Files φ × Option Err :=
  if c.ctx.isSome then (files, c.ctx)
  else if !validBundle bundle then (files, some .invalidBundle)
  else
    match a.json.marshal (cloneBundle bundle) with
    | none => (files, some .invalidBundle)
    | some payload =>
      if c.ctxWrite.isSome then (files, c.ctxWrite)
      else if c.temporary.isSome then (files, c.temporary)
      else if c.ctxRename.isSome then (files, c.ctxRename)
      else if c.rename.isSome then (files, c.rename)
      else (Function.update files (a.digest bundle.targetKey) (some payload), none)

/-- `Load`; reading the file may fail. -/
def Archive.load (a : Archive φ) (files : Files φ) (ctx read : Option Err) (key : Text) :
    Except Err Bundle :=
  match ctx with
  | some err => .error err
  | none =>
    if !validKey key then .error .invalidKey
    else
      match read, files (a.digest key) with
      | some err, _ => .error err
      | none, none => .error .recordNotFound
      | none, some payload =>
        match a.json.unmarshal payload with
        | none => .error .invalidBundle
        | some bundle =>
          if !validBundle bundle || bundle.targetKey ≠ key then .error .invalidBundle
          else .ok (cloneBundle bundle)

/-- Other uses of the archive: saves of any bundles; loading changes nothing. -/
def Archive.run (a : Archive φ) : Files φ → List (Conditions × Bundle) → Files φ
  | files, [] => files
  | files, (c, bundle) :: saves => a.run (a.save files c bundle).1 saves

/-- The same bundle, without regard to whether an empty slice is nil. The payloads of the entries
are compared as they are. -/
def Bundle.Same (b c : Bundle) : Prop :=
  b.formatVersion = c.formatVersion ∧ b.targetKey = c.targetKey ∧
    b.initialState.elems = c.initialState.elems ∧ b.entries.elems = c.entries.elems

/-! ### Copies -/

theorem cloneEntry_eq_self {entry : Entry} (h : entry.payload.elems ≠ []) :
    cloneEntry entry = entry := by
  have hc : entry.payload.copy.elems ≠ [] := h
  have hp : entry.payload.copy = entry.payload := (Slice.ext_iff_elems hc).mpr rfl
  rw [cloneEntry, hp]

theorem validEntry_cloneEntry {entry : Entry} (h : validEntry entry = true) :
    validEntry (cloneEntry entry) = true ↔ entry.payload.elems ≠ [] := by
  simp only [validEntry, Bool.and_eq_true, decide_eq_true_eq] at h
  simp [validEntry, cloneEntry, Slice.copy, h]

theorem validEntries_cloneEntry {key : Text} {entries : List Entry} {index : ℕ}
    (h : validEntries key index entries = true) :
    validEntries key index (entries.map cloneEntry) = true ↔
      ∀ entry ∈ entries, entry.payload.elems ≠ [] := by
  induction entries generalizing index with
  | nil => simp [validEntries]
  | cons entry entries ih =>
    simp only [validEntries, Bool.and_eq_true, decide_eq_true_eq] at h
    obtain ⟨⟨⟨hv, hk⟩, hs⟩, hrest⟩ := h
    have hk' : (cloneEntry entry).targetKey = key := hk
    have hs' : (cloneEntry entry).sequence = UInt64.ofNat (index + 1) := hs
    simp only [List.map_cons, validEntries, Bool.and_eq_true, decide_eq_true_eq, hk', hs', and_true,
      validEntry_cloneEntry hv, ih hrest, List.forall_mem_cons]

theorem validBundle_cloneBundle {bundle : Bundle} (h : validBundle bundle = true) :
    validBundle (cloneBundle bundle) = true ↔
      ∀ entry ∈ bundle.entries.elems, entry.payload.elems ≠ [] := by
  simp only [validBundle, Bool.and_eq_true, decide_eq_true_eq] at h
  rw [← validEntries_cloneEntry h.2]
  simp [validBundle, cloneBundle, h]

/-! ### Runs -/

/-- A save fails and changes nothing, or it writes the copy. -/
theorem Archive.save_cases (a : Archive φ) (files : Files φ) (c : Conditions) (bundle : Bundle) :
    (∃ err, a.save files c bundle = (files, some err)) ∨
      ∃ payload, validBundle bundle = true ∧ a.json.marshal (cloneBundle bundle) = some payload ∧
        a.save files c bundle =
          (Function.update files (a.digest bundle.targetKey) (some payload), none) := by
  have hsome : ∀ {o : Option Err}, o.isSome = true → ∃ err, (files, o) = (files, some err) :=
    fun h => (Option.isSome_iff_exists.mp h).imp fun _ h => by rw [h]
  rw [Archive.save]
  split
  · next h => exact .inl (hsome h)
  · split
    · exact .inl ⟨_, rfl⟩
    · next hv =>
      split
      · exact .inl ⟨_, rfl⟩
      · next payload hp =>
        repeat' split
        all_goals first | next h => exact .inl (hsome h) | skip
        exact .inr ⟨payload, by simpa using hv, hp, rfl⟩

/-- Saves to other files leave the file of a key alone. -/
theorem Archive.run_other (a : Archive φ) {key : Text} (files : Files φ)
    {saves : List (Conditions × Bundle)} (h : ∀ p ∈ saves, a.digest p.2.targetKey ≠ a.digest key) :
    a.run files saves (a.digest key) = files (a.digest key) := by
  induction saves generalizing files with
  | nil => rfl
  | cons p saves ih =>
    obtain ⟨hp, hsaves⟩ := List.forall_mem_cons.mp h
    rw [Archive.run, ih _ hsaves]
    rcases a.save_cases files p.1 p.2 with ⟨err, hs⟩ | ⟨payload, -, -, hs⟩
    · rw [hs]
    · rw [hs]
      exact Function.update_of_ne (Ne.symm hp) ..

/-- **The archive.** A bundle of well-formed strings and times that was saved is loaded again, the
same bundle, after any saves to other files, if no entry has an empty payload. Otherwise it cannot
be loaded. -/
theorem archive_roundTrip (a : Archive φ) (files : Files φ) (c : Conditions) (bundle : Bundle)
    (hutf : bundle.targetKey.validString = true)
    (hentries : ∀ entry ∈ bundle.entries.elems, entry.utf8 = true ∧ a.json.time entry.recordedAt)
    (hsave : (a.save files c bundle).2 = none) (saves : List (Conditions × Bundle))
    (hsaves : ∀ p ∈ saves, a.digest p.2.targetKey ≠ a.digest bundle.targetKey) :
    (∃ loaded, a.load (a.run (a.save files c bundle).1 saves)
      none none bundle.targetKey = .ok loaded ∧
      loaded.Same bundle) ↔ ∀ entry ∈ bundle.entries.elems, entry.payload.elems ≠ [] := by
  rcases a.save_cases files c bundle with ⟨err, hs⟩ | ⟨payload, hv, hm, hs⟩
  · rw [hs] at hsave
    cases hsave
  have hread : a.json.unmarshal payload = some (cloneBundle bundle) := by
    refine a.json.roundTrip _ _ hutf (fun entry he => ?_) hm
    obtain ⟨e, hmem, rfl⟩ := List.mem_map.mp he
    exact hentries e hmem
  have hkey : validKey bundle.targetKey = true := by
    simp only [validBundle, Bool.and_eq_true] at hv
    exact hv.1.2
  have hload : a.load (a.run (a.save files c bundle).1 saves) none none bundle.targetKey =
      if validBundle (cloneBundle bundle) then .ok (cloneBundle (cloneBundle bundle))
      else .error .invalidBundle := by
    have htarget : (cloneBundle bundle).targetKey = bundle.targetKey := rfl
    simp only [Archive.load, hkey, a.run_other _ hsaves, hs, Function.update_self, hread, htarget]
    cases validBundle (cloneBundle bundle) <;> simp
  rw [← validBundle_cloneBundle hv, hload]
  constructor
  · rintro ⟨loaded, h, -⟩
    by_contra hc
    rw [if_neg hc] at h
    cases h
  · intro h
    refine ⟨_, if_pos h, rfl, rfl, rfl, ?_⟩
    have hne := (validBundle_cloneBundle hv).mp h
    change (bundle.entries.elems.map cloneEntry).map cloneEntry = _
    rw [List.map_map, List.map_congr_left (g := id), List.map_id]
    intro e he
    rw [Function.comp_apply, cloneEntry_eq_self (hne e he), cloneEntry_eq_self (hne e he), id]

/-- An encoder that keeps the bundle as it is, and a digest that is as long for every key. -/
def plain : Archive Bundle where
  json := ⟨fun _ => True, some, some, by rintro b _ - - ⟨⟩; rfl⟩
  digest key := [key.foldl (· + ·) 0]

/-- A bundle with one entry. -/
def sampleBundle (payload : Slice UInt8) : Bundle :=
  ⟨1, [107], .nil, .of [{ sampleEntry 1 with payload := payload }]⟩

/-- A bundle of another key is saved in between. -/
theorem archive_roundTrip_sample :
    (plain.save (fun _ => none) {} (sampleBundle (.of [7]))).2 = none ∧
    ∃ loaded, plain.load (plain.run (plain.save (fun _ => none) {} (sampleBundle (.of [7]))).1
      [({}, ⟨1, [108], .nil, .nil⟩)]) none none [107] = .ok loaded ∧
      loaded.Same (sampleBundle (.of [7])) := by
  refine ⟨by decide +kernel, (archive_roundTrip plain (fun _ => none) {} (sampleBundle (.of [7]))
    (by decide +kernel) ?_ (by decide +kernel) [({}, ⟨1, [108], .nil, .nil⟩)]
    (by decide +kernel)).mpr (by decide +kernel)⟩
  exact fun entry he => ⟨by revert entry; decide +kernel, trivial⟩

/-- **An empty payload is lost.** The bundle is saved and cannot be loaded. -/
theorem empty_payload_lost : (plain.save (fun _ => none) {} (sampleBundle (.of []))).2 = none ∧
    plain.load (plain.save (fun _ => none) {} (sampleBundle (.of []))).1 none none [107] =
      .error .invalidBundle := by
  decide +kernel

end GameServiceRuntime.Record
