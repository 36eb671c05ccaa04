import SourceMetrics.Proofs.Json.Codec
import SourceMetrics.Proofs.Json.Printing

/-!
# Decoders and the order of members

A value that was printed and read again has the members of its objects in the order of their keys.
What a decoder yields of it is what it yields of the value that was printed (`OrderFree`): the
fields of a record may be taken in any order, since each of them changes a part of its own
(`Commutes`).

This is about success only. If several members are wrong then it is the first of them that is
reported, so what is said of a value that cannot be decoded does depend on the order.

Main results:

* `foldlM_perm`, `foldlM_sortedMembers` — members that are taken in any order may be sorted.
* `OrderFree.record` — a record of such fields is decoded whatever the order of its members.
-/

namespace SourceMetrics.Json

/-! ## Members in the order of their keys -/

/-- A member with a new key is one more member, wherever it is put. -/
theorem insertMember_perm {key : String} {v : Value} {ms : List (String × Value)}
    (h : key ∉ ms.map (·.1)) : (insertMember key v ms).Perm ((key, v) :: ms) := by
  induction ms with
  | nil => exact .refl _
  | cons m ms ih =>
    obtain ⟨k, w⟩ := m
    rw [List.map_cons, List.mem_cons, not_or] at h
    -- the key is new, so no member is replaced
    rw [insertMember, if_neg h.1]
    split
    · exact .refl _
    · exact ((ih h.2).cons (k, w)).trans (.swap ..)

/-- A member with its value sorted. -/
def sortedMember (m : String × Value) : String × Value := (m.1, m.2.sorted)

/-- Sorting what is inside of members leaves their keys alone. -/
theorem map_key_sortedMember (ms : List (String × Value)) :
    (ms.map sortedMember).map (·.1) = ms.map (·.1) := by
  rw [List.map_map]
  rfl

/-- Sorting loses no member and adds none, as no key comes twice. -/
theorem sortedMembers_perm {ms done : List (String × Value)}
    (h : ((ms ++ done).map (·.1)).Nodup) :
    (sortedMembers ms done).Perm (ms.map sortedMember ++ done) := by
  induction ms generalizing done with
  | nil => exact .refl _
  | cons m ms ih =>
    obtain ⟨k, v⟩ := m
    -- the name is new, so inserting the member replaces no other
    have hnew : k ∉ done.map (·.1) := by
      rw [List.cons_append, List.map_cons, List.nodup_cons, List.map_append, List.mem_append] at h
      exact fun hk => h.1 (.inr hk)
    have hinsert : (insertMember k v.sorted done).Perm ((k, v.sorted) :: done) :=
      insertMember_perm hnew
    have hmiddle : (ms ++ insertMember k v.sorted done).Perm ((k, v.sorted) :: (ms ++ done)) :=
      (hinsert.append_left ms).trans List.perm_middle
    have hkeys : ((ms ++ insertMember k v.sorted done).map (·.1)).Nodup := by
      rw [(hmiddle.map (·.1)).nodup_iff]
      exact h
    rw [sortedMembers, List.map_cons, List.cons_append]
    exact (ih hkeys).trans ((hinsert.append_left _).trans List.perm_middle)

/-- The members of an object are sorted without loss. -/
theorem sortedMembers_nil_perm {ms : List (String × Value)} (h : (ms.map (·.1)).Nodup) :
    (sortedMembers ms []).Perm (ms.map sortedMember) := by
  have hperm : (sortedMembers ms []).Perm (ms.map sortedMember ++ []) :=
    sortedMembers_perm (by rwa [List.append_nil])
  rwa [List.append_nil] at hperm

/-! ## Members one after the other -/

section Steps

variable {δ : Type} {step : δ → String × Value → Decoded δ}

/-- Members with different keys are taken in one order as in the other. -/
def Swaps (step : δ → String × Value → Decoded δ) : Prop :=
  ∀ ⦃m n : String × Value⦄ ⦃d d' d'' : δ⦄, m.1 ≠ n.1 → step d m = .ok d' → step d' n = .ok d'' →
    ∃ e, step d n = .ok e ∧ step e m = .ok d''

/-- The value of a member may be sorted before it is taken. -/
def SortsFirst (step : δ → String × Value → Decoded δ) : Prop :=
  ∀ ⦃depth : Nat⦄ ⦃m : String × Value⦄ ⦃d d' : δ⦄, m.2.Plain depth → step d m = .ok d' →
    step d (sortedMember m) = .ok d'

/-- **Members are taken in any order**, if any two of them are. -/
theorem foldlM_perm (hswaps : Swaps step) {ms ns : List (String × Value)} (hperm : ms.Perm ns)
    (hkeys : (ms.map (·.1)).Nodup) {d d' : δ} (h : ms.foldlM step d = .ok d') :
    ns.foldlM step d = .ok d' := by
  -- along the permutation: only where neighbours are swapped is there something to say
  induction hperm generalizing d with
  | nil => exact h
  | cons m _ ih =>
    rw [List.foldlM_cons] at h ⊢
    obtain ⟨e, he, h⟩ := bind_inv h
    exact bind_intro he (ih (List.nodup_cons.1 hkeys).2 h)
  | swap m n ms =>
    simp only [List.foldlM_cons] at h ⊢
    obtain ⟨e, he, h⟩ := bind_inv h
    obtain ⟨e', he', h⟩ := bind_inv h
    have hne : n.1 ≠ m.1 := by
      intro heq
      simp [heq] at hkeys
    obtain ⟨f, hf, hf'⟩ := hswaps hne he he'
    exact bind_intro hf (bind_intro hf' h)
  | trans hfirst _ ihfirst ihsecond =>
    exact ihsecond (((hfirst.map (·.1)).nodup_iff).1 hkeys) (ihfirst hkeys h)

/-- Members may be sorted inside before they are taken. -/
theorem foldlM_map_sortedMember (hsorts : SortsFirst step) {depth : Nat}
    {ms : List (String × Value)} (hms : ∀ m ∈ ms, m.2.Plain depth) {d d' : δ}
    (h : ms.foldlM step d = .ok d') : (ms.map sortedMember).foldlM step d = .ok d' := by
  induction ms generalizing d with
  | nil => exact h
  | cons m ms ih =>
    obtain ⟨hm, hms⟩ := List.forall_mem_cons.1 hms
    rw [List.foldlM_cons] at h
    obtain ⟨e, he, h⟩ := bind_inv h
    rw [List.map_cons, List.foldlM_cons]
    exact bind_intro (hsorts hm he) (ih hms h)

/-- What is taken of the members of an object is taken of them when they are sorted. -/
theorem foldlM_sortedMembers (hswaps : Swaps step) (hsorts : SortsFirst step) {depth : Nat}
    {ms : List (String × Value)} (hkeys : (ms.map (·.1)).Nodup) (hms : ∀ m ∈ ms, m.2.Plain depth)
    {d d' : δ} (h : ms.foldlM step d = .ok d') : (sortedMembers ms []).foldlM step d = .ok d' := by
  have hkeys' : ((ms.map sortedMember).map (·.1)).Nodup := by rwa [map_key_sortedMember]
  exact foldlM_perm hswaps (sortedMembers_nil_perm hkeys).symm hkeys'
    (foldlM_map_sortedMember hsorts hms h)

end Steps

/-! ## Decoders -/

/-- What is decoded of a value is decoded of it with its members sorted. -/
def OrderFree {α : Type} (decode : Value → Decoded α) : Prop :=
  ∀ ⦃depth : Nat⦄ ⦃v : Value⦄ ⦃x : α⦄, v.Plain depth → decode v = .ok x → decode v.sorted = .ok x

/-- A step that decodes a value may decode the sorted one. -/
theorem OrderFree.step {α β : Type} {decode : Value → Decoded α} (hdecode : OrderFree decode)
    {depth : Nat} {v : Value} (hv : v.Plain depth) {f : α → Decoded β} {b : β}
    (h : decode v >>= f = .ok b) : decode v.sorted >>= f = .ok b := by
  obtain ⟨x, hx, h⟩ := bind_inv h
  exact bind_intro (hdecode hv hx) h

/-- A number has no members. -/
theorem orderFree_decodeNatural (expected : String) (max : Nat) :
    OrderFree (decodeNatural expected max) := by
  intro depth v x _ h
  cases v with
  | number n => exact h
  | _ => cases h

theorem orderFree_decodeCount : OrderFree decodeCount := orderFree_decodeNatural _ _

theorem orderFree_decodeBool : OrderFree decodeBool := by
  intro depth v x _ h
  cases v with
  | bool b => exact h
  | _ => cases h

theorem orderFree_decodeString : OrderFree decodeString := by
  intro depth v x _ h
  cases v with
  | string s => exact h
  | _ => cases h

/-- What may be absent is decoded whatever the order of the members in it. -/
theorem OrderFree.option {α : Type} {decode : Value → Decoded α} (hdecode : OrderFree decode) :
    OrderFree (decodeOption decode) := by
  intro depth v o hv h
  cases v with
  | null => exact h
  | _ =>
    -- what is not null is not null once it is sorted
    obtain ⟨x, hx, rfl⟩ := map_inv h
    exact congrArg (Except.map some) (hdecode hv hx)

/-- A variant without data may be written as an object, but then with what stands for no data. -/
theorem isUnit_of_decodeName {α : Type} {names : List (String × α)} {inlined : Bool} {k : String}
    {w : Value} {x : α} (h : decodeName names inlined (.object [(k, w)]) = .ok x) :
    w.isUnit inlined = true := by
  simp only [decodeName, decodeVariant, bind, Except.bind] at h
  split at h
  · cases h
  · split at h
    · next hunit => exact hunit
    · cases h

/-- What stands for no data has no members that could be sorted. -/
theorem sorted_of_isUnit {inlined : Bool} {w : Value} (h : w.isUnit inlined = true) :
    w.sorted = w := by
  unfold Value.isUnit at h
  split at h
  · rfl
  · rfl
  · cases h

/-- A name is decoded whatever the order of members: the only object that is taken for one has one
member, and no data in it. -/
theorem orderFree_decodeName {α : Type} (names : List (String × α)) (inlined : Bool) :
    OrderFree (decodeName names inlined) := by
  intro depth v x _ h
  obtain ⟨_, hvariant, -⟩ := bind_inv h
  cases v with
  | string s => exact h
  | object ms =>
    match ms, hvariant with
    | [(k, w)], _ =>
      have hsorted : w.sorted = w := sorted_of_isUnit (isUnit_of_decodeName h)
      show decodeName names inlined (.object [(k, w.sorted)]) = .ok x
      rw [hsorted, h]
  | _ => cases hvariant

/-! ## Records -/

section Records

variable {δ : Type} {shape : Shape} {take : String → Value → δ → Decoded δ}

/-- Two fields are taken in one order as in the other. -/
def Commutes (shape : Shape) (take : String → Value → δ → Decoded δ) : Prop :=
  ∀ ⦃k k' : String⦄ ⦃v v' : Value⦄ ⦃d d' d'' : δ⦄, shape.fields.any (·.1 = k) = true →
    shape.fields.any (·.1 = k') = true → k ≠ k' → take k v d = .ok d' → take k' v' d' = .ok d'' →
      ∃ e, take k' v' d = .ok e ∧ take k v e = .ok d''

/-- The value of a field may be sorted before it is taken. -/
def TakesSorted (shape : Shape) (take : String → Value → δ → Decoded δ) : Prop :=
  ∀ ⦃depth : Nat⦄ ⦃key : String⦄ ⦃v : Value⦄ ⦃d d' : δ⦄, shape.fields.any (·.1 = key) = true →
    v.Plain depth → take key v d = .ok d' → take key v.sorted d = .ok d'

/-- Takes a member, which changes nothing if it is no field. -/
def takeMember (shape : Shape) (take : String → Value → δ → Decoded δ) (d : δ)
    (m : String × Value) : Decoded δ :=
  if shape.fields.any (·.1 = m.1) then take m.1 m.2 d else .ok d

/-- Members are taken one after the other. -/
theorem takeMembers_eq_foldlM (ms : List (String × Value)) (d : δ) :
    takeMembers shape take ms d = ms.foldlM (takeMember shape take) d := by
  induction ms generalizing d with
  | nil => rfl
  | cons m ms ih =>
    rw [takeMembers_cons, List.foldlM_cons, takeMember]
    split
    · exact bind_congr ih
    · exact ih d

/-- If two fields may be taken in either order then so may two members, as those that are no fields
change nothing. -/
theorem Commutes.swaps (hcommutes : Commutes shape take) : Swaps (takeMember shape take) := by
  intro m n d d' d'' hne hm hn
  unfold takeMember at hm hn ⊢
  -- a member that is no field changes nothing, so only two fields have to be swapped
  split at hm
  · next hfield =>
    split at hn
    · next hfield' =>
      obtain ⟨e, hn', hm'⟩ := hcommutes hfield hfield' hne hm hn
      exact ⟨e, by rwa [if_pos hfield'], by rwa [if_pos hfield]⟩
    · next hfield' =>
      cases hn
      exact ⟨d, if_neg hfield', by rwa [if_pos hfield]⟩
  · next hfield =>
    cases hm
    exact ⟨d'', hn, if_neg hfield⟩

/-- If the value of a field may be sorted then so may that of a member. -/
theorem TakesSorted.sortsFirst (hsorted : TakesSorted shape take) :
    SortsFirst (takeMember shape take) := by
  intro depth m d d' hplain hm
  unfold takeMember at hm ⊢
  split at hm
  · next hfield =>
    rw [sortedMember, if_pos hfield]
    exact hsorted hfield hplain hm
  · next hfield =>
    rw [sortedMember, if_neg hfield]
    exact hm

/-- The items of an array that stands for a record may be sorted inside. -/
theorem takeItems_sorted (hsorted : TakesSorted shape take) {depth : Nat} {inlined : Bool}
    {fields : List (String × Bool)} (hfields : fields ⊆ shape.fields) {index : Nat}
    {vs : List Value} (hvs : ∀ v ∈ vs, v.Plain depth) {d d' : δ}
    (h : takeItems shape inlined take fields index vs d = .ok d') :
    takeItems shape inlined take fields index (vs.map Value.sorted) d = .ok d' := by
  -- items stand for the fields by their places, which sorting leaves alone
  induction fields generalizing index vs d with
  | nil =>
    cases vs with
    | nil => exact h
    | cons v vs => cases h
  | cons f fields ih =>
    obtain ⟨key, optional⟩ := f
    cases vs with
    | nil => exact h
    | cons v vs =>
      obtain ⟨hv, hvs⟩ := List.forall_mem_cons.1 hvs
      obtain ⟨hf, hfields⟩ := List.cons_subset.1 hfields
      have hfield : shape.fields.any (·.1 = key) = true :=
        List.any_eq_true.2 ⟨_, hf, decide_eq_true rfl⟩
      obtain ⟨e, he, h⟩ := bind_inv h
      exact bind_intro (hsorted hfield hv he) (ih hfields hvs h)

/-- Which field is missing does not depend on the order of the members. -/
theorem missingField_perm {ms ns : List (String × Value)}
    (h : (ms.map (·.1)).Perm (ns.map (·.1))) : missingField? shape ms = missingField? shape ns := by
  have hany : ∀ key, ms.any (·.1 = key) = ns.any (·.1 = key) := by
    intro key
    have hkeys : ∀ ls : List (String × Value),
        ls.any (·.1 = key) = (ls.map (·.1)).any (· = key) := by
      intro ls
      rw [List.any_map]
      rfl
    rw [hkeys, hkeys, h.any_eq]
  simp only [missingField?, hany]

/-- **A record is decoded whatever the order of its members**, if its fields change different
parts. -/
theorem OrderFree.record (hcommutes : Commutes shape take) (hsorted : TakesSorted shape take)
    (inlined : Bool) (start : δ) : OrderFree (decodeRecord shape inlined take start) := by
  intro depth v d hv h
  cases hv with
  | array hvs =>
    rw [Value.sorted, sortedItems_eq_map]
    exact takeItems_sorted hsorted (List.Subset.refl _) hvs h
  | @object _ ms hkeys hms =>
    obtain ⟨e, he, h⟩ := bind_inv h
    have hperm : (sortedMembers ms []).Perm (ms.map sortedMember) := sortedMembers_nil_perm hkeys
    rw [takeMembers_eq_foldlM] at he
    have htake := foldlM_sortedMembers hcommutes.swaps hsorted.sortsFirst hkeys hms he
    rw [← takeMembers_eq_foldlM] at htake
    -- which fields are missing is a matter of the keys
    have hmissing : missingField? shape (sortedMembers ms []) = missingField? shape ms :=
      missingField_perm ((hperm.map (·.1)).trans (by rw [map_key_sortedMember]))
    refine bind_intro htake ?_
    rw [hmissing]
    exact h
  | _ => cases h

end Records

end SourceMetrics.Json
