import ImageGateway.Proofs.Files.Lookup

/-!
Making directories. What was asked for is a directory afterwards (`isDir_of_makeDirs`), asking for a
directory that is there changes nothing (`makeDirs_of_isDir`), and where it cannot be made asking
once more is of no use (`makeDirs_of_error`). All paths are absolute.
-/

namespace ImageGateway.Files

variable {fs fs' : Files} {cwd p : Place} {path up : String} {e : SystemFault} {fuel n : Nat}

/-! ## Slashes at the end -/

theorem exists_endSlashes (h : path ≠ "") : ∃ k, withoutEndSlashes path ≠ "" ∧
    path = withoutEndSlashes path ++ String.ofList (List.replicate k '/') := by
  have ne : path.toList.reverse ≠ [] := by simpa using h
  have text : path = String.ofList path.toList.reverse.reverse := by simp
  simp only [withoutEndSlashes]
  generalize path.toList.reverse = cs at ne text
  have slashes : ∀ c ∈ cs.takeWhile (· = '/'), c = '/' := fun c hc =>
    of_decide_eq_true (List.all_eq_true.1 List.all_takeWhile c hc)
  have whole := List.takeWhile_append_dropWhile (p := (· = '/')) (l := cs)
  rw [List.eq_replicate_of_mem slashes] at whole
  generalize (cs.takeWhile (· = '/')).length = k at whole
  generalize cs.dropWhile (· = '/') = rest at whole
  subst whole
  split
  · rename_i hrest
    subst hrest
    cases k with
    | zero => exact absurd rfl ne
    | succ k =>
      refine ⟨k, by simp [List.replicate_succ], ?_⟩
      rw [text, ← String.ofList_append]
      simp [List.replicate_succ, ← List.replicate_succ']
  · rename_i hrest
    refine ⟨k, by simpa using hrest, ?_⟩
    rw [text, ← String.ofList_append]
    simp

theorem parts_endSlashes (l : List Char) (k : Nat) :
    Path.parts (String.ofList (l ++ List.replicate k '/')) = Path.parts (String.ofList l) := by
  induction k with
  | zero => simp
  | succ k ih => rw [List.replicate_succ', ← List.append_assoc, Path.parts_slash, ih]

/-- Without the slashes at its end a path has the same names. -/
theorem parts_withoutEndSlashes (h : path ≠ "") :
    Path.parts (withoutEndSlashes path) = Path.parts path := by
  obtain ⟨k, -, hk⟩ := exists_endSlashes h
  have same := parts_endSlashes (withoutEndSlashes path).toList k
  rw [String.ofList_append, String.ofList_toList, ← hk] at same
  exact same.symm

theorem isAbsolute_withoutEndSlashes (h : Path.isAbsolute path = true) :
    Path.isAbsolute (withoutEndSlashes path) = true := by
  obtain ⟨k, hne, hk⟩ := exists_endSlashes (Path.ne_empty_of_isAbsolute h)
  have hc := List.head?_eq_some_head fun e => hne (String.toList_eq_nil_iff.1 e)
  rw [Path.isAbsolute, hk, String.toList_append, List.head?_append, hc] at h
  rwa [Path.isAbsolute, hc]

theorem hasNul_withoutEndSlashes (h : path ≠ "") :
    Path.hasNul (withoutEndSlashes path) = Path.hasNul path := by
  obtain ⟨k, -, hk⟩ := exists_endSlashes h
  have same : Path.hasNul (withoutEndSlashes path ++ String.ofList (List.replicate k '/')) =
      Path.hasNul (withoutEndSlashes path) := by simp [Path.hasNul]
  rw [← hk] at same
  exact same.symm

/-- A usable path stays usable without the slashes at its end. -/
theorem usable_withoutEndSlashes (h : Path.Usable path) : Path.Usable (withoutEndSlashes path) := by
  obtain ⟨k, hne, hk⟩ := exists_endSlashes h.ne_empty
  rw [hk] at h
  exact h.left hne

/-! ## Directories by path -/

/-- A directory is there if the names of the path lead to one. -/
theorem isDir_iff_leads (ha : Path.isAbsolute path = true) : fs.isDir cwd path = true ↔
    Path.Usable path ∧ ∃ p, fs.get? p = some .dir ∧
      ∃ n ≤ maxLinks, fs.Leads n [] (Path.parts path) p := by
  have start : Path.start cwd path = [] := if_pos ha
  rw [isDir_iff]
  constructor
  · rintro ⟨p, hp⟩
    obtain ⟨n, hn, hl, hd, hu⟩ := leads_parts_of_locate hp
    rw [start] at hl
    exact ⟨hu, p, hd, n, hn, hl⟩
  · rintro ⟨hu, p, hd, n, hn, hl⟩
    refine ⟨p, locate_eq_ok_iff.2 ⟨hu, hd.symm, n, hn, ?_⟩⟩
    rw [start]
    exact hl.steps hd

/-- Above the place that a path leads to are directories. -/
theorem isDir_parent (ha : Path.isAbsolute path = true) (hup : Path.parent? path = some up)
    (hu : Path.Usable path) (hn : n ≤ maxLinks) (hl : fs.Leads n [] (Path.parts path) p) :
    fs.isDir cwd up = true := by
  have above := Path.above_of_parent? ha hup
  obtain ⟨x, hx⟩ := above.start
  obtain ⟨i, name, j, hparts⟩ := above.parts
  obtain ⟨y, rest, hrest⟩ : ∃ y rest,
      List.replicate i "." ++ name :: List.replicate j "." = y :: rest :=
    List.exists_cons_of_ne_nil (by simp)
  rw [hparts, hrest] at hl
  obtain ⟨m, hm, q, hq, ground⟩ := hl.split (grounded_nil fs)
  rw [hx] at hu
  exact (isDir_iff_leads above.isAbsolute).2
    ⟨hu.left (Path.ne_empty_of_isAbsolute above.isAbsolute), q, ground q (List.suffix_refl q), m,
      Nat.le_trans hm hn, hq⟩

/-! ## Making one directory -/

theorem makeDir_of_error (h : fs.makeDir cwd path = (fs', .error e)) : fs' = fs := by
  rw [makeDir] at h
  split at h
  · cases h
    rfl
  · split at h <;> cases h <;> rfl

/-- A directory is made at a free place that the path leads to. -/
theorem leads_of_makeDir (ha : Path.isAbsolute path = true)
    (h : fs.makeDir cwd path = (fs', .ok ())) : Path.Usable path ∧
      ∃ p, fs' = fs.set p .dir ∧ fs.get? p = none ∧
        ∃ n ≤ maxLinks, fs.Leads n [] (Path.parts path) p := by
  have ne := Path.ne_empty_of_isAbsolute ha
  have bare := isAbsolute_withoutEndSlashes ha
  rw [makeDir] at h
  split at h
  · cases h
  · rename_i hlong
    split at h
    · cases h
    · rename_i p hp
      cases h
      obtain ⟨hu, hw⟩ := locate_eq_ok_iff_walk.1 hp
      have hnul := (hasNul_withoutEndSlashes ne).symm.trans hu.hasNul
      have usable : Path.Usable path := ⟨hnul, ne, by simpa [hnul] using hlong⟩
      rw [Path.start, if_pos bare] at hw
      rcases leads_of_walk hw with ⟨free, ⟨n, hn, hl⟩ | ⟨-, t, ht⟩⟩
      · have parts := hl.of_steps
        rw [parts_withoutEndSlashes ne] at parts
        exact ⟨usable, p, rfl, free.symm, n, hn, parts⟩
      · cases ht
    · cases h

theorem isDir_of_makeDir (ha : Path.isAbsolute path = true)
    (h : fs.makeDir cwd path = (fs', .ok ())) : fs'.isDir cwd path = true := by
  obtain ⟨hu, p, rfl, free, n, hn, hl⟩ := leads_of_makeDir ha h
  have place : p ≠ [] := by
    rintro rfl
    cases free
  exact (isDir_iff_leads ha).2 ⟨hu, p, get?_set_self _ _ place, n, hn, hl.set_dir free⟩

/-- A directory that is there is not made again. -/
theorem makeDir_of_isDir (ha : Path.isAbsolute path = true) (h : fs.isDir cwd path = true) :
    fs.makeDir cwd path = (fs, .error (.os .alreadyExists)) := by
  have bare := isAbsolute_withoutEndSlashes ha
  obtain ⟨hu, p, hd, n, hn, hl⟩ := (isDir_iff_leads ha).1 h
  rw [← parts_withoutEndSlashes hu.ne_empty] at hl
  obtain ⟨spot, hw, hspot⟩ := @walk_of_leads _ _ _ _ _ _ false (hl.steps hd) hn
  have taken : ∃ e, spot.entry = some e := by
    rcases hspot with rfl | ⟨-, t, ht⟩
    · exact ⟨_, hd⟩
    · exact ⟨_, ht⟩
  have located : fs.locate cwd (withoutEndSlashes path) false = .ok spot :=
    locate_eq_ok_iff_walk.2 ⟨usable_withoutEndSlashes hu, by rwa [Path.start, if_pos bare]⟩
  obtain ⟨q, entry⟩ := spot
  obtain ⟨e, rfl⟩ := taken
  rw [makeDir, if_neg (by simp [hu.hasNul, hu.short]), located]

/-! ## Making all directories on the way -/

theorem makeDirs_of_isDir (ha : Path.isAbsolute path = true) (h : fs.isDir cwd path = true) :
    makeDirs cwd (fuel + 1) fs path = (fs, .ok ()) := by
  rw [makeDirs, if_neg (Path.ne_empty_of_isAbsolute ha), makeDir_of_isDir ha h]
  simp only
  rw [if_neg (by decide), if_pos h]

/-- What the making of directories may come to: the directory is made at once, nothing is changed,
those above cannot be made, or after them this one is made or not. -/
theorem makeDirs_cases (ha : Path.isAbsolute path = true) {answer : Except SystemFault Unit}
    (h : makeDirs cwd (fuel + 1) fs path = (fs', answer)) :
    (fs.makeDir cwd path = (fs', .ok ()) ∧ answer = .ok ()) ∨
    (fs' = fs ∧ (answer = .ok () → fs.isDir cwd path = true)) ∨
    ∃ up, Path.parent? path = some up ∧
      ((∃ e, makeDirs cwd fuel fs up = (fs', .error e) ∧ answer = .error e) ∨
      (∃ fs₁, makeDirs cwd fuel fs up = (fs₁, .ok ()) ∧ fs₁.makeDir cwd path = (fs', .ok ()) ∧
        answer = .ok ()) ∨
      makeDirs cwd fuel fs up = (fs', .ok ()) ∧
        ∃ e, fs'.makeDir cwd path = (fs', .error e) ∧
          (answer = .ok () ↔ fs'.isDir cwd path = true)) := by
  have settled {fs : Files} {e : SystemFault} :
      (if fs.isDir cwd path then .ok () else .error e : Except SystemFault Unit) = .ok () ↔
        fs.isDir cwd path = true := by
    split <;> simp_all
  rw [makeDirs, if_neg (Path.ne_empty_of_isAbsolute ha)] at h
  split at h
  · rename_i hm
    cases h
    exact .inl ⟨hm, rfl⟩
  · rename_i hm
    cases makeDir_of_error hm
    split at h
    · split at h
      · cases h
        exact .inr (.inl ⟨rfl, nofun⟩)
      · rename_i up hup
        refine .inr (.inr ⟨up, hup, ?_⟩)
        split at h
        · rename_i hu
          cases h
          exact .inl ⟨_, hu, rfl⟩
        · rename_i hu
          split at h
          · rename_i hm'
            cases h
            exact .inr (.inl ⟨_, hu, hm', rfl⟩)
          · rename_i hm'
            cases makeDir_of_error hm'
            cases h
            exact .inr (.inr ⟨hu, _, hm', settled⟩)
    · cases h
      exact .inr (.inl ⟨rfl, settled.1⟩)

/-- What was to be made is a directory, if all went well. -/
theorem isDir_of_makeDirs (ha : Path.isAbsolute path = true)
    (h : makeDirs cwd fuel fs path = (fs', .ok ())) : fs'.isDir cwd path = true := by
  cases fuel with
  | zero => cases h
  | succ fuel =>
    rcases makeDirs_cases ha h with
      ⟨hm, -⟩ | ⟨rfl, hd⟩ | ⟨up, -, ⟨e, -, he⟩ | ⟨fs₁, -, hm, -⟩ | ⟨-, e, -, hd⟩⟩
    · exact isDir_of_makeDir ha hm
    · exact hd rfl
    · cases he
    · exact isDir_of_makeDir ha hm
    · exact hd.1 rfl

/-- Directories cannot be made where this one cannot and those above stay as they are. -/
theorem makeDirs_stuck (ha : Path.isAbsolute path = true) (hd : fs.isDir cwd path = false)
    (hm : fs.makeDir cwd path = (fs, .error e))
    (hup : ∀ up, Path.parent? path = some up → ∃ answer, makeDirs cwd fuel fs up = (fs, answer)) :
    ∃ e', makeDirs cwd (fuel + 1) fs path = (fs, .error e') := by
  rw [makeDirs, if_neg (Path.ne_empty_of_isAbsolute ha), hm]
  simp only [hd]
  split
  · split
    · exact ⟨_, rfl⟩
    · rename_i up hparent
      obtain ⟨answer, hanswer⟩ := hup up hparent
      rw [hanswer]
      cases answer with
      | error e => exact ⟨e, rfl⟩
      | ok => simp only [hm, hd]; exact ⟨e, rfl⟩
  · exact ⟨e, rfl⟩

/-- Below something that is no directory none can be made. -/
theorem makeDir_of_not_isDir (ha : Path.isAbsolute path = true) (hup : Path.parent? path = some up)
    (hd : ¬ fs.isDir cwd up = true) :
    fs.isDir cwd path = false ∧ ∃ e, fs.makeDir cwd path = (fs, .error e) := by
  constructor
  · refine Bool.eq_false_iff.2 fun hdir => hd ?_
    obtain ⟨hu, p, -, n, hn, hl⟩ := (isDir_iff_leads ha).1 hdir
    exact isDir_parent ha hup hu hn hl
  · cases hm : fs.makeDir cwd path with | mk fs' answer
    cases answer with
    | ok =>
      obtain ⟨hu, p, -, -, n, hn, hl⟩ := leads_of_makeDir ha hm
      exact absurd (isDir_parent ha hup hu hn hl) hd
    | error e =>
      cases makeDir_of_error hm
      exact ⟨e, rfl⟩

/-- Where directories could not be made, asking once more fails again and changes nothing. -/
theorem makeDirs_of_error (ha : Path.isAbsolute path = true)
    (h : makeDirs cwd fuel fs path = (fs', .error e)) :
    ∃ e', makeDirs cwd fuel fs' path = (fs', .error e') := by
  induction fuel generalizing path e with
  | zero => exact ⟨_, rfl⟩
  | succ fuel ih =>
    rcases makeDirs_cases ha h with ⟨-, he⟩ | ⟨rfl, -⟩ | ⟨up, hup, hcase⟩
    · cases he
    · exact ⟨e, h⟩
    · have above := (Path.above_of_parent? ha hup).isAbsolute
      have only {answer : Except SystemFault Unit} (hu : makeDirs cwd fuel fs' up = (fs', answer)) :
          ∀ up', Path.parent? path = some up' →
            ∃ answer, makeDirs cwd fuel fs' up' = (fs', answer) := by
        intro up' hup'
        cases hup.symm.trans hup'
        exact ⟨answer, hu⟩
      cases fuel with
      | zero =>
        rcases hcase with ⟨e', hu, -⟩ | ⟨fs₁, hu, -⟩ | ⟨hu, -⟩
        · cases hu
          exact ⟨e, h⟩
        · cases hu
        · cases hu
      | succ fuel =>
        rcases hcase with ⟨e', hu, -⟩ | ⟨-, -, -, he⟩ | ⟨hu, e', hm, hd⟩
        · obtain ⟨e', hu'⟩ := ih above hu
          have noDir : ¬ fs'.isDir cwd up = true := fun hdir => by
            cases (makeDirs_of_isDir above hdir).symm.trans hu'
          obtain ⟨hd, e'', hm⟩ := makeDir_of_not_isDir ha hup noDir
          exact makeDirs_stuck ha hd hm (only hu')
        · cases he
        -- All went well but for the directory itself, and this is so again.
        · have hdir : fs'.isDir cwd up = true := isDir_of_makeDirs above hu
          have hd' : fs'.isDir cwd path = false := Bool.eq_false_iff.2 fun hp => by cases hd.2 hp
          exact makeDirs_stuck ha hd' hm (only (makeDirs_of_isDir above hdir))

end ImageGateway.Files
