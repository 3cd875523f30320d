import ImageGateway.Proofs.Files.Growth

/-!
Two trees of files that differ at one place at most. `Files.Meets` says that a walk comes to look at
a place, and which names are left then. A walk that does not meet the place is the same in both
trees, and so is one that cannot go on behind it (`walk_congr`). Therefore a look-up gives the same
if its path does not name the place and a file is there in both, and whatever is there if its path
does not come by (`find_of_apart`).
-/

namespace ImageGateway.Files

/-- Walking on from `cur` along the names one looks at the place `p`, with the names `left` still to
go. -/
inductive Meets (fs : Files) : Place → List String → Place → List String → Prop where
  | here : Ordinary name → Meets fs cur (name :: rest) (name :: cur) rest
  | stay : Meets fs cur rest p left → Meets fs cur ("." :: rest) p left
  | back : Meets fs cur.tail rest p left → Meets fs cur (".." :: rest) p left
  | enter : Ordinary name → fs.get? (name :: cur) = some .dir →
    Meets fs (name :: cur) rest p left → Meets fs cur (name :: rest) p left
  | follow : Ordinary name → fs.get? (name :: cur) = some (.link t) →
    Meets fs (if Path.isAbsolute t then [] else cur) (Path.steps t ++ rest) p left →
    Meets fs cur (name :: rest) p left

variable {fs fs' : Files} {cwd cur p : Place} {names left : List String} {name path : String}
  {links : Nat}

/-- What is there ends every walk. -/
def Solid (fs : Files) (p : Place) : Prop :=
  ∃ e, fs.get? p = some e ∧ e ≠ .dir ∧ ∀ t, e ≠ .link t

theorem solid_of_file {content : Bytes} {mode : Nat} (h : fs.get? p = some (.file content mode)) :
    fs.Solid p := ⟨_, h, by simp, by simp⟩

/-- A walk that meets an end with nothing left leads there. -/
theorem Meets.leads (h : fs.Meets cur names p left) (hs : fs.Solid p) (hl : left = []) :
    ∃ n, fs.Leads n cur names p := by
  induction h with
  | here ho =>
    subst hl
    obtain ⟨e, he, hd, ht⟩ := hs
    exact ⟨0, .leaf ho he hd ht⟩
  | stay _ ih =>
    obtain ⟨n, h⟩ := ih hs hl
    exact ⟨n, .stay h⟩
  | back _ ih =>
    obtain ⟨n, h⟩ := ih hs hl
    exact ⟨n, .back h⟩
  | enter ho hd _ ih =>
    obtain ⟨n, h⟩ := ih hs hl
    exact ⟨n, .enter ho hd h⟩
  | follow ho ht _ ih =>
    obtain ⟨n, h⟩ := ih hs hl
    exact ⟨n + 1, .follow ho ht h⟩

theorem walk_solid (ho : Ordinary name) (hs : fs.Solid (name :: cur)) (hl : names ≠ []) :
    fs.walk true links cur (name :: names) = .error .notDirectory := by
  obtain ⟨e, he, hd, ht⟩ := hs
  rw [walk_cons ho, he]
  cases e with
  | dir => exact absurd rfl hd
  | link t => exact absurd rfl (ht t)
  | file _ _ | device _ => exact if_neg hl

theorem walk_long (h₁ : name ≠ ".") (h₂ : name ≠ "..") (h₃ : Path.maxName < octetLength name) :
    fs.walk true links cur (name :: names) = .error .nameTooLong := by
  cases links with
  | zero => rw [walk_zero, walkToLink, if_neg h₁, if_neg h₂, if_pos h₃]
  | succ => rw [walk_succ, walkToLink, if_neg h₁, if_neg h₂, if_pos h₃]

/-- A walk does not depend on what is at the place: it does not meet the place, or it meets what
ends it in both trees and has not ended yet. -/
def Blind (fs fs' : Files) (p cur : Place) (names : List String) : Prop :=
  ∀ left, fs.Meets cur names p left → left ≠ [] ∧ fs.Solid p ∧ fs'.Solid p

/-- A walk starts outside a place if the current directory is outside. -/
theorem not_suffix_start (out : ¬ p <:+ cur) : ¬ p <:+ Path.start cur path := by
  intro h
  rw [Path.start] at h
  split at h
  · exact out (List.suffix_nil.1 h ▸ List.nil_suffix)
  · exact out h

/-- One more name, or one more link. -/
theorem walk_congr_step (same : fs.Grown (· = p) fs')
    (hlink : ∀ k cur names, links = k + 1 → ¬ p <:+ cur → Blind fs fs' p cur names →
      fs.walk true k cur names = fs'.walk true k cur names)
    (out : ¬ p <:+ cur) (blind : Blind fs fs' p cur names) :
    fs.walk true links cur names = fs'.walk true links cur names := by
  induction names generalizing cur with
  | nil =>
    rw [walk_nil, walk_nil, same cur fun he => out (he ▸ List.suffix_refl _)]
  | cons name rest ih =>
    by_cases h₁ : name = "."
    · subst h₁
      rw [walk_dot, walk_dot]
      exact ih out fun left h => blind left (.stay h)
    by_cases h₂ : name = ".."
    · subst h₂
      rw [walk_dots, walk_dots]
      exact ih (fun h => out (h.trans (List.tail_suffix cur))) fun left h => blind left (.back h)
    by_cases h₃ : Path.maxName < octetLength name
    · rw [walk_long h₁ h₂ h₃, walk_long h₁ h₂ h₃]
    have ho : Ordinary name := ⟨h₁, h₂, h₃⟩
    -- the walk stays outside the place, since what is there lets nobody in
    by_cases here : name :: cur = p
    · subst here
      obtain ⟨hl, solid, solid'⟩ := blind rest (.here ho)
      rw [walk_solid ho solid hl, walk_solid ho solid' hl]
    rw [walk_cons ho, walk_cons ho, same _ here]
    have below : ¬ p <:+ name :: cur := by
      rw [List.suffix_cons_iff, not_or]
      exact ⟨fun he => here he.symm, out⟩
    cases he : fs.get? (name :: cur) with
    | none => rfl
    | some e =>
      cases e with
      | file _ _ | device _ => rfl
      | dir => exact ih below fun left h => blind left (.enter ho he h)
      | link t =>
        simp only [Bool.not_true, Bool.and_false]
        cases links with
        | zero => rfl
        | succ k =>
          exact hlink k _ _ rfl (not_suffix_start out) fun left h => blind left (.follow ho he h)

/-- What a walk finds does not depend on a place to which it is blind. -/
theorem walk_congr (same : fs.Grown (· = p) fs') (out : ¬ p <:+ cur)
    (blind : Blind fs fs' p cur names) :
    fs.walk true links cur names = fs'.walk true links cur names := by
  induction links generalizing cur names with
  | zero => exact walk_congr_step same (fun _ _ _ h => by cases h) out blind
  | succ links ih =>
    refine walk_congr_step same (fun k cur names h => ?_) out blind
    cases h
    exact ih

theorem find_congr (same : fs.Grown (· = p) fs') (out : ¬ p <:+ cwd)
    (blind : Blind fs fs' p (Path.start cwd path) (Path.steps path)) :
    fs.find cwd path = fs'.find cwd path := by
  have walk : fs.walk true maxLinks (Path.start cwd path) (Path.steps path) =
      fs'.walk true maxLinks (Path.start cwd path) (Path.steps path) :=
    walk_congr same (not_suffix_start out) blind
  rw [Path.start] at walk
  simp only [find, locate, walk]

/-- Two trees do not make a difference for a path by what they hold at a place: a file is there in
both and the path does not name it, or the path does not come by the place. -/
inductive Apart (fs fs' : Files) (cwd : Place) (path : String) (p : Place) : Prop where
  | unnamed {content content' : Bytes} {mode mode' : Nat} :
    fs.get? p = some (.file content mode) → fs'.get? p = some (.file content' mode') →
    ¬ fs.Names cwd path p → Apart fs fs' cwd path p
  | unmet : (∀ left, ¬ fs.Meets (Path.start cwd path) (Path.steps path) p left) →
    Apart fs fs' cwd path p

/-- A path leads to the same in two trees that are the same but for a place apart from it. -/
theorem find_of_apart (same : fs.Grown (· = p) fs') (out : ¬ p <:+ cwd)
    (h : Apart fs fs' cwd path p) : fs.find cwd path = fs'.find cwd path := by
  cases h with
  | unnamed file file' h =>
    by_cases hp : path = ""
    · rw [find, find, locate, locate, hp]
      rfl
    · refine find_congr same out fun left hm =>
        ⟨fun hl => h ⟨hp, ?_⟩, solid_of_file file, solid_of_file file'⟩
      exact hm.leads (solid_of_file file) hl
  | unmet h => exact find_congr same out fun left hm => absurd hm (h left)

end ImageGateway.Files
