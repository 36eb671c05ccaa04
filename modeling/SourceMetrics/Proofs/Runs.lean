/-!
# Runs that may fail

A run gives a result or an error. Files are looked up, directories walked and values decoded by runs
that are made of others: one behind the other, or one for each member of a list. This module says
when such a run succeeds, and what it gives then, by what is known of its parts.

Main results:

* `bind_inv`, `map_inv` — a run that succeeds is made of runs that do.
* `exists_of_mem_flatten` — what the runs on a list give together, one of them gives.
* `flatten_mapM_congr` — runs that give nothing do not matter.
-/

namespace SourceMetrics

variable {ε α β : Type}

theorem isOk_iff {x : Except ε α} : x.isOk = true ↔ ∃ a, x = .ok a := by
  cases x with
  | error e => simp [Except.isOk, Except.toBool]
  | ok a => simp [Except.isOk, Except.toBool]

/-! ## One run behind the other -/

/-- A step and what follows it succeed only if both do. -/
theorem bind_inv {x : Except ε α} {f : α → Except ε β} {b : β} (h : x >>= f = .ok b) :
    ∃ a, x = .ok a ∧ f a = .ok b := by
  cases x with
  | error e => cases h
  | ok a => exact ⟨a, rfl, h⟩

/-- A step that succeeds leads on to what follows it. -/
theorem bind_intro {x : Except ε α} {f : α → Except ε β} {a : α} {b : β} (hx : x = .ok a)
    (hf : f a = .ok b) : x >>= f = .ok b := by
  rw [hx]
  exact hf

/-- What is made of a result is made of one only if there is one. -/
theorem map_inv {x : Except ε α} {f : α → β} {b : β} (h : x.map f = .ok b) :
    ∃ a, x = .ok a ∧ f a = b := by
  cases x with
  | error e => cases h
  | ok a => exact ⟨a, rfl, Except.ok.inj h⟩

/-! ## A run for each member of a list -/

/-- If every run succeeds then so do all of them together. -/
theorem mapM_eq_ok {f : α → Except ε β} {g : α → β} {as : List α}
    (h : ∀ a ∈ as, f a = .ok (g a)) : as.mapM f = .ok (as.map g) := by
  induction as with
  | nil => rfl
  | cons a as ih =>
    obtain ⟨ha, has⟩ := List.forall_mem_cons.1 h
    rw [List.mapM_cons, ha, ih has]
    rfl

/-- What some runs give together, one of them gives. -/
theorem exists_of_mem_flatten {f : α → Except ε (List β)} {as : List α}
    {out : List β} (h : List.flatten <$> as.mapM f = .ok out) {x : β} (hx : x ∈ out) :
    ∃ a ∈ as, ∃ part, f a = .ok part ∧ x ∈ part := by
  induction as generalizing out with
  | nil =>
    cases h
    cases hx
  | cons a as ih =>
    rw [List.mapM_cons, map_eq_pure_bind] at h
    obtain ⟨parts, hparts, hout⟩ := bind_inv h
    obtain ⟨part, hpart, hrest⟩ := bind_inv hparts
    obtain ⟨rest, hmapM, hcons⟩ := bind_inv hrest
    cases hcons
    cases hout
    -- a member is given by the first run or by one of the others
    rcases List.mem_append.1 hx with hx | hx
    · exact ⟨a, List.mem_cons_self, part, hpart, hx⟩
    · have hflatten : List.flatten <$> as.mapM f = .ok rest.flatten := by
        rw [hmapM]
        rfl
      obtain ⟨a', ha', hfound⟩ := ih hflatten hx
      exact ⟨a', List.mem_cons_of_mem a ha', hfound⟩

variable {f g : α → Except ε (List β)} {p : α → Bool} {as bs : List α}

/-- Runs that give nothing may be left out. -/
theorem flatten_mapM_filter (hskip : ∀ a ∈ as, p a = false → f a = .ok [])
    (hsame : ∀ a ∈ as, p a = true → f a = g a) :
    List.flatten <$> as.mapM f = List.flatten <$> (as.filter p).mapM g := by
  induction as with
  | nil => rfl
  | cons a as ih =>
    obtain ⟨hskipA, hskip⟩ := List.forall_mem_cons.1 hskip
    obtain ⟨hsameA, hsame⟩ := List.forall_mem_cons.1 hsame
    have hrest := ih hskip hsame
    rw [List.mapM_cons]
    cases hp : p a with
    | false =>
      rw [List.filter_cons_of_neg (by simp [hp]), hskipA hp, ← hrest]
      cases as.mapM f <;> rfl
    | true =>
      rw [List.filter_cons_of_pos hp, List.mapM_cons, hsameA hp]
      cases g a with
      | error e => rfl
      | ok part =>
        show List.flatten <$> (as.mapM f >>= _) = List.flatten <$> ((as.filter p).mapM g >>= _)
        -- the parts that come first are the same, and so is what the others come to
        have hfront : ∀ runs : Except ε (List (List β)),
            List.flatten <$> (runs >>= fun parts => pure (part :: parts)) =
              (part ++ ·) <$> (List.flatten <$> runs) := by
          intro runs
          cases runs <;> rfl
        rw [hfront, hfront, hrest]

/-- Of two lists of runs those that give nothing do not matter. -/
theorem flatten_mapM_congr (hfilter : as.filter p = bs.filter p)
    (hskip : ∀ a ∈ as, p a = false → f a = .ok []) (hskip' : ∀ b ∈ bs, p b = false → g b = .ok [])
    (hsame : ∀ b ∈ bs, p b = true → f b = g b) :
    List.flatten <$> as.mapM f = List.flatten <$> bs.mapM g := by
  have hleft : List.flatten <$> as.mapM f = List.flatten <$> (as.filter p).mapM g := by
    refine flatten_mapM_filter hskip fun a ha hp => hsame a ?_ hp
    exact (List.mem_filter.1 (hfilter ▸ List.mem_filter.2 ⟨ha, hp⟩)).1
  have hright : List.flatten <$> bs.mapM g = List.flatten <$> (bs.filter p).mapM g :=
    flatten_mapM_filter hskip' fun _ _ _ => rfl
  rw [hleft, hright, hfilter]

end SourceMetrics
