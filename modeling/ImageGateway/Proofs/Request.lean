import ImageGateway.Request

/-!
What a request needs to be valid, and what it then stands for (`Request.prepare_eq_ok_iff`). A name
ends in one suffix at most (`Suffix.of?_eq_some_iff`), so a name put together from a stem and a
suffix is read back as these (`outputPath_append`).
-/

namespace ImageGateway

/-! ## Steps that may fail -/

theorem bind_eq_ok_iff {x : Except ε α} {f : α → Except ε β} {b : β} :
    (x >>= f) = .ok b ↔ ∃ a, x = .ok a ∧ f a = .ok b := by
  cases x <;> simp [bind, Except.bind]

theorem bind_eq_error_iff {x : Except ε α} {f : α → Except ε β} {e : ε} :
    (x >>= f) = .error e ↔ x = .error e ∨ ∃ a, x = .ok a ∧ f a = .error e := by
  cases x <;> simp [bind, Except.bind]

theorem mapError_eq_ok_iff {x : Except ε α} {f : ε → δ} {a : α} :
    x.mapError f = .ok a ↔ x = .ok a := by
  cases x with
  | error e => exact ⟨nofun, nofun⟩
  | ok b =>
    constructor
    · intro h
      rw [Except.ok.inj h]
    · intro h
      rw [Except.ok.inj h]
      rfl

theorem map_eq_ok_iff {x : Except ε α} {f : α → β} {b : β} :
    x.map f = .ok b ↔ ∃ a, x = .ok a ∧ b = f a := by
  cases x <;> simp [Except.map, eq_comm]

/-! ## Suffixes -/

namespace Suffix

theorem Ends.unique {s t : Suffix} {name : String} (hs : s.Ends name) (ht : t.Ends name) :
    s = t := by
  have h : s.text.toList <:+ t.text.toList ∨ t.text.toList <:+ s.text.toList :=
    List.suffix_or_suffix_of_suffix hs ht
  revert h
  cases s <;> cases t <;> decide

theorem of?_eq_some_iff {s : Suffix} {name : String} : of? name = some s ↔ s.Ends name := by
  refine ⟨ends_of_of?, fun h => ?_⟩
  cases hn : of? name with
  | none => exact absurd h (of?_eq_none_iff.1 hn s)
  | some t => rw [(ends_of_of? hn).unique h]

theorem ends_append (s : Suffix) (stem : String) : s.Ends (stem ++ s.text) :=
  ⟨stem.toList, by rw [String.toList_append]⟩

@[simp] theorem stem_append (s : Suffix) (stem : String) : s.stem (stem ++ s.text) = stem := by
  simp [Suffix.stem]

end Suffix

theorem outputPath_append (stem : String) (s : Suffix) :
    outputPath (stem ++ s.text) = .ok (stem ++ outputMark ++ s.text) := by
  rw [outputPath, Suffix.of?_eq_some_iff.2 (s.ends_append stem)]
  simp

theorem ne_empty_of_outputPath {path output : String} (h : outputPath path = .ok output) :
    output ≠ "" := by
  rw [outputPath] at h
  split at h
  · cases h
    simp [outputMark]
  · cases h

/-! ## Requests -/

namespace Request

variable {r : Request} {c : Prepared}

theorem prepare_eq_ok_iff : r.prepare = .ok c ↔
    outputPath r.inputImagePath = .ok c.outputImagePath ∧
      checkArguments r.mlConfig r.options r.facialImgDir = .ok c.optionTokens ∧
      c.args = [r.inputImagePath, r.mlConfig, c.outputImagePath] ++ c.optionTokens := by
  obtain ⟨output, tokens, args⟩ := c
  simp only [prepare, bind_eq_ok_iff]
  constructor
  · rintro ⟨o, ho, t, ht, h⟩
    cases h
    exact ⟨ho, ht, rfl⟩
  · rintro ⟨ho, ht, rfl⟩
    exact ⟨output, ho, tokens, ht, rfl⟩

end Request

end ImageGateway
