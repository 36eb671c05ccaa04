import SourceMetrics.Json.Decode
import SourceMetrics.Proofs.Runs

/-!
# Decoders that read back what was encoded

An encoding and a decoder belong together if the decoder reads back every value that the encoding
can hold, and yields no other value. `ReadsBack` says both, with a predicate for the values that can
be held: a count of 64 bits, a list of such. From the two it follows that decoding, encoding and
decoding again changes nothing more, whatever the first input looked like.

Single values, optional values, lists and variants read back by one lemma each. A record is read one
field at a time, from an object or from an array, and both ways keep what taking one field keeps
(`decodeRecord_keeps`). So a statement on what a decoder yields is proved for one field, and holds
for every input.

Main results:

* `ReadsBack.decode_encode_of_decode` — what was decoded once is read back.
* `readsBack_decodeCount`, `ReadsBack.list`, `readsBack_decodeName` — the decoders of fields.
* `decodeRecord_keeps` — what every field keeps, a record keeps.
-/

namespace SourceMetrics.Json

/-! ## Reading back -/

/-- The decoder reads back what is encoded of the values with a property, and yields only these. -/
structure ReadsBack {α : Type} (encode : α → Value) (decode : Value → Decoded α) (P : α → Prop) :
    Prop where
  decode_encode : ∀ x, P x → decode (encode x) = .ok x
  holds : ∀ v x, decode v = .ok x → P x

/-- What was decoded once, from whatever input, is read back. -/
theorem ReadsBack.decode_encode_of_decode {α : Type} {encode : α → Value}
    {decode : Value → Decoded α} {P : α → Prop} (h : ReadsBack encode decode P) {v : Value} {x : α}
    (hv : decode v = .ok x) : decode (encode x) = .ok x :=
  h.decode_encode x (h.holds v x hv)

/-! ## Single values -/

/-- A number within the bound is read back. -/
theorem decodeNatural_natural {expected : String} {max n : Nat} (h : n ≤ max) :
    decodeNatural expected max (.natural n) = .ok n := by
  rw [Value.natural, decodeNatural, if_pos h]

/-- No other number is read. -/
theorem le_of_decodeNatural {expected : String} {max n : Nat} {v : Value}
    (h : decodeNatural expected max v = .ok n) : n ≤ max := by
  unfold decodeNatural at h
  split at h
  · split at h
    · next hle => exact Except.ok.inj h ▸ hle
    · cases h
  · cases h
  · cases h

/-- A count is read back if it is a word. -/
theorem readsBack_decodeCount : ReadsBack .natural decodeCount (· < UInt64.size) where
  decode_encode n hn := decodeNatural_natural (Nat.le_sub_one_of_lt hn)
  holds v n h := by
    have hle : n ≤ UInt64.size - 1 := le_of_decodeNatural h
    have hpos : 0 < UInt64.size := by decide
    omega

theorem readsBack_decodeString : ReadsBack .string decodeString fun _ => True where
  decode_encode _ _ := rfl
  holds _ _ _ := trivial

/-- A value that is there is read back where it may be absent, as null stands for nothing else. -/
theorem ReadsBack.decode_encode_option {α : Type} {encode : α → Value} {decode : Value → Decoded α}
    {P : α → Prop} (h : ReadsBack encode decode P) (hNull : ∀ x, encode x ≠ .null) {x : α}
    (hx : P x) : decodeOption decode (encode x) = .ok (some x) := by
  have hread : decode (encode x) = .ok x := h.decode_encode x hx
  unfold decodeOption
  split
  · next hnull => exact absurd hnull (hNull x)
  · rw [hread]
    rfl

/-- A value that was decoded where it may be absent has what all decoded values have. -/
theorem ReadsBack.holds_option {α : Type} {encode : α → Value} {decode : Value → Decoded α}
    {P : α → Prop} (h : ReadsBack encode decode P) {v : Value} {o : Option α}
    (hv : decodeOption decode v = .ok o) : ∀ x ∈ o, P x := by
  unfold decodeOption at hv
  split at hv
  · rw [← Except.ok.inj hv]
    simp
  · obtain ⟨x, hx, rfl⟩ := map_inv hv
    intro y hy
    rw [Option.mem_some_iff] at hy
    exact hy ▸ h.holds _ x hx

/-- A list is read back if its items are. -/
theorem ReadsBack.list {α : Type} {encode : α → Value} {decode : Value → Decoded α}
    {P : α → Prop} (h : ReadsBack encode decode P) :
    ReadsBack (fun xs => .array (xs.map encode)) (decodeList decode) fun xs => ∀ x ∈ xs, P x where
  decode_encode xs hxs := by
    -- values are decoded one by one, so both parts are by induction on the list
    show (xs.map encode).mapM decode = .ok xs
    induction xs with
    | nil => rfl
    | cons x xs ih =>
      have hx : decode (encode x) = .ok x := h.decode_encode x (hxs x (List.mem_cons_self ..))
      have hrest := ih fun y hy => hxs y (List.mem_cons_of_mem _ hy)
      rw [List.map_cons, List.mapM_cons, hx, hrest]
      rfl
  holds v xs hv := by
    unfold decodeList at hv
    split at hv
    · next items =>
      induction items generalizing xs with
      | nil =>
        rw [List.mapM_nil] at hv
        rw [← Except.ok.inj hv]
        simp
      | cons item items ih =>
        rw [List.mapM_cons] at hv
        obtain ⟨x, hx, hv⟩ := bind_inv hv
        obtain ⟨rest, hrest, hv⟩ := bind_inv hv
        rw [← Except.ok.inj hv]
        intro y hy
        rcases List.mem_cons.mp hy with rfl | hy
        · exact h.holds item y hx
        · exact ih rest hrest y hy
    · cases hv

/-- A variant without data is read back if no other has its name. -/
theorem readsBack_decodeName {α : Type} {name : α → String} {variants : List α}
    (hName : ∀ x, (variants.map fun y => (name y, y)).find? (·.1 = name x) = some (name x, x))
    (inlined : Bool) :
    ReadsBack (fun x => .string (name x)) (decodeName (variants.map fun y => (name y, y)) inlined)
      fun _ => True where
  decode_encode x _ := by
    show decodeName _ inlined (.string (name x)) = .ok x
    simp only [decodeName, decodeVariant, bind, Except.bind, hName x]
  holds _ _ _ := trivial

/-! ## Records -/

variable {δ : Type} {shape : Shape} {take : String → Value → δ → Decoded δ}

/-- A member that is a field is taken before the rest; another one changes nothing. -/
theorem takeMembers_cons (key : String) (v : Value) (rest : List (String × Value)) (d : δ) :
    takeMembers shape take ((key, v) :: rest) d =
      if shape.fields.any (·.1 = key) then take key v d >>= takeMembers shape take rest
      else takeMembers shape take rest d := by
  rw [takeMembers]
  rfl

/-- A member that can be taken as a field leads on to the rest. -/
theorem takeMembers_field {key : String} {v : Value} {rest : List (String × Value)} {d d' : δ}
    (hKey : shape.fields.any (·.1 = key) = true) (h : take key v d = .ok d') :
    takeMembers shape take ((key, v) :: rest) d = takeMembers shape take rest d' := by
  rw [takeMembers_cons, if_pos hKey, h]
  rfl

/-- What taking one field keeps, taking the members of an object keeps. -/
theorem takeMembers_keeps {P : δ → Prop}
    (hTake : ∀ key v d d', P d → take key v d = .ok d' → P d') {members : List (String × Value)}
    {d d' : δ} (hd : P d) (h : takeMembers shape take members d = .ok d') : P d' := by
  induction members generalizing d with
  | nil => exact Except.ok.inj h ▸ hd
  | cons m rest ih =>
    obtain ⟨key, v⟩ := m
    rw [takeMembers_cons] at h
    split at h
    · obtain ⟨e, he, h⟩ := bind_inv h
      exact ih (hTake key v d e hd he) h
    · exact ih hd h

/-- What taking one field keeps, taking the items of an array keeps. -/
theorem takeItems_keeps {inlined : Bool} {P : δ → Prop}
    (hTake : ∀ key v d d', P d → take key v d = .ok d' → P d') {fields : List (String × Bool)}
    {index : Nat} {items : List Value} {d d' : δ} (hd : P d)
    (h : takeItems shape inlined take fields index items d = .ok d') : P d' := by
  induction fields generalizing index items d with
  | nil =>
    cases items with
    | nil => exact Except.ok.inj h ▸ hd
    | cons v vs => cases h
  | cons f fields ih =>
    obtain ⟨key, optional⟩ := f
    cases items with
    | nil =>
      -- the fields that are left must all be such as may be missing
      rw [takeItems] at h
      split at h
      · exact ih hd h
      · cases h
    | cons v vs =>
      rw [takeItems] at h
      obtain ⟨e, he, h⟩ := bind_inv h
      exact ih (hTake key v d e hd he) h

/-- **What taking one field keeps, reading a record keeps**, from an object or from an array. -/
theorem decodeRecord_keeps {inlined : Bool} {P : δ → Prop}
    (hTake : ∀ key v d d', P d → take key v d = .ok d' → P d') {start d : δ} {v : Value}
    (hStart : P start) (h : decodeRecord shape inlined take start v = .ok d) : P d := by
  unfold decodeRecord at h
  split at h
  · obtain ⟨e, he, h⟩ := bind_inv h
    split at h
    · cases h
    · exact Except.ok.inj h ▸ takeMembers_keeps hTake hStart he
  · exact takeItems_keeps hTake hStart h
  · cases h

/-- An object with every field that must not be missing is read by taking its members. -/
theorem decodeRecord_object {inlined : Bool} {start d : δ} {members : List (String × Value)}
    (hThere : missingField? shape members = none)
    (h : takeMembers shape take members start = .ok d) :
    decodeRecord shape inlined take start (.object members) = .ok d := by
  simp only [decodeRecord, h, bind, Except.bind, hThere]

end SourceMetrics.Json
