import ImageGateway.Files.Basic

/-!
Carrying a change over. What was done to one tree can be done to another: every place where the
tree after the change differs from the tree before it gets what it has after, and all other places
stay as they are (`get?_carry`).
-/

namespace ImageGateway.Files

/-- Puts an entry at a place or frees it. -/
def put (fs : Files) (p : Place) : Option Entry → Files
  | some e => fs.set p e
  | none => fs.erase p

/-- The places that either tree knows. -/
def placesOf (before after : Files) : List Place :=
  before.entries.map (·.1) ++ after.entries.map (·.1)

/-- The places where two trees differ. -/
def changed (before after : Files) : List Place :=
  (placesOf before after).filter fun p => before.get? p ≠ after.get? p

/-- Does to `current` what was done between `before` and `after`. -/
def carry (before after current : Files) : Files :=
  (changed before after).foldr (fun p fs => fs.put p (after.get? p)) current

theorem get?_put_self (fs : Files) {p : Place} (e : Option Entry) (h : p ≠ []) :
    (fs.put p e).get? p = e := by
  cases e with
  | some e => exact get?_set_self fs e h
  | none =>
    cases p with
    | nil => exact absurd rfl h
    | cons n p =>
      simp only [put, erase, get?, List.lookup_eq_none_iff]
      intro x hx
      exact bne_iff_ne.2 (Ne.symm (of_decide_eq_true (List.mem_filter.1 hx).2))

theorem get?_put_of_ne (fs : Files) {p q : Place} (e : Option Entry) (h : q ≠ p) :
    (fs.put p e).get? q = fs.get? q := by
  cases e with
  | some e => exact get?_set_of_ne fs e h
  | none =>
    cases q with
    | nil => rfl
    | cons n q => exact lookup_filter_ne h fs.entries

theorem mem_placesOf_of_ne {before after : Files} {p : Place}
    (h : before.get? p ≠ after.get? p) : p ∈ placesOf before after := by
  cases p with
  | nil => exact absurd rfl h
  | cons n p =>
    by_cases hb : (n :: p) ∈ before.entries.map (·.1)
    · exact List.mem_append_left _ hb
    · by_cases ha : (n :: p) ∈ after.entries.map (·.1)
      · exact List.mem_append_right _ ha
      · have none_of {fs : Files} (hf : (n :: p) ∉ fs.entries.map (·.1)) :
            fs.get? (n :: p) = none := by
          simp only [get?, List.lookup_eq_none_iff]
          intro x hx
          rw [bne_iff_ne]
          exact fun e => hf (e ▸ List.mem_map_of_mem hx)
        exact absurd ((none_of hb).trans (none_of ha).symm) h

theorem get?_carry (before after current : Files) (p : Place) :
    (carry before after current).get? p =
      if before.get? p = after.get? p then current.get? p else after.get? p := by
  have step (ps : List Place) (hps : ∀ q ∈ ps, q ≠ []) :
      (ps.foldr (fun p fs => fs.put p (after.get? p)) current).get? p =
        if p ∈ ps then after.get? p else current.get? p := by
    induction ps with
    | nil => simp
    | cons q ps ih =>
      have ih := ih fun r hr => hps r (List.mem_cons_of_mem _ hr)
      simp only [List.foldr_cons]
      by_cases h : p = q
      · subst h
        rw [get?_put_self _ _ (hps p List.mem_cons_self)]
        simp
      · rw [get?_put_of_ne _ _ h, ih]
        simp [h]
  rw [carry, step]
  · by_cases h : before.get? p = after.get? p
    · simp [changed, h]
    · simp [changed, h, mem_placesOf_of_ne h]
  · intro q hq
    rintro rfl
    have := (List.mem_filter.1 hq).2
    simp [get?] at this

end ImageGateway.Files
