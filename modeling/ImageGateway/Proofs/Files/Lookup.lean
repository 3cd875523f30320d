import ImageGateway.Proofs.Files.Leads

/-!
Looking places up by path. `Files.Names` says which place a path names for a process in a
directory, the bounds of the system aside. A look-up that succeeds finds the place that the path
names (`locate_eq_ok_iff`), a path joined to a directory names what its second half names for a
process in that directory (`names_join_iff`), and what was written is found again under the same
path (`find_of_write`).
-/

namespace ImageGateway

/-- Where the walk along a path starts, for a process in `cwd`. -/
def Path.start (cwd : Place) (path : String) : Place := if Path.isAbsolute path then [] else cwd

/-- A path that the system takes. -/
structure Path.Usable (path : String) : Prop where
  hasNul : Path.hasNul path = false
  ne_empty : path ≠ ""
  short : ¬ Path.maxPath < octetLength path

theorem Path.Usable.left {a b : String} (h : Path.Usable (a ++ b)) (ha : a ≠ "") :
    Path.Usable a where
  hasNul := by
    have := h.hasNul
    rw [Path.hasNul, String.toList_append, List.any_append, Bool.or_eq_false_iff] at this
    exact this.1
  ne_empty := ha
  short := fun hlt => h.short (Nat.lt_of_lt_of_le hlt (by
    simp only [octetLength, String.utf8ByteSize_append]
    exact Nat.le_add_right _ _))

namespace Files

/-- For a process in the directory `cwd` the path names the place `p`. -/
def Names (fs : Files) (cwd : Place) (path : String) (p : Place) : Prop :=
  path ≠ "" ∧ ∃ n, fs.Leads n (Path.start cwd path) (Path.steps path) p

/-- A regular file is where the path leads, links followed to their end. -/
def RegularAt (fs : Files) (cwd : Place) (path : String) : Prop :=
  ∃ p e, fs.locate cwd path true = .ok ⟨p, some e⟩ ∧ e.isRegular = true

variable {fs fs' : Files} {cwd w D cur p q : Place} {path dir name : String} {spot : Spot} {n : Nat}

section

variable {follow : Bool}

/-- A path that is not usable is refused whatever the files are. -/
theorem locate_of_not_usable (hu : ¬ Path.Usable path) :
    ∃ e, ∀ (fs : Files) cwd follow, fs.locate cwd path follow = .error e := by
  by_cases h₁ : Path.hasNul path = true
  · exact ⟨_, fun _ _ _ => by rw [locate, if_pos h₁]⟩
  · by_cases h₂ : path = ""
    · exact ⟨_, fun _ _ _ => by rw [locate, if_neg h₁, if_pos h₂]⟩
    · by_cases h₃ : Path.maxPath < octetLength path
      · exact ⟨_, fun _ _ _ => by rw [locate, if_neg h₁, if_neg h₂, if_pos h₃]⟩
      · exact absurd ⟨by simpa using h₁, h₂, h₃⟩ hu

theorem usable_of_locate (h : fs.locate cwd path follow = .ok spot) : Path.Usable path := by
  by_cases hu : Path.Usable path
  · exact hu
  · obtain ⟨e, he⟩ := locate_of_not_usable hu
    cases (he fs cwd follow).symm.trans h

theorem locate_eq_ok_iff_walk : fs.locate cwd path follow = .ok spot ↔ Path.Usable path ∧
    fs.walk follow maxLinks (Path.start cwd path) (Path.steps path) = .ok spot := by
  have walked (hu : Path.Usable path) : fs.locate cwd path follow = .ok spot ↔
      fs.walk follow maxLinks (Path.start cwd path) (Path.steps path) = .ok spot := by
    rw [locate, if_neg (by simp [hu.hasNul]), if_neg hu.ne_empty, if_neg hu.short, Path.start]
    split <;> rename_i hw <;> simp [hw]
  constructor
  · intro h
    have hu := usable_of_locate h
    exact ⟨hu, (walked hu).1 h⟩
  · rintro ⟨hu, hw⟩
    exact (walked hu).2 hw

end

theorem locate_eq_ok_iff :
    fs.locate cwd path true = .ok spot ↔
      Path.Usable path ∧ spot.entry = fs.get? spot.place ∧
        ∃ n ≤ maxLinks, fs.Leads n (Path.start cwd path) (Path.steps path) spot.place := by
  rw [locate_eq_ok_iff_walk, walk_eq_ok_iff]

/-- An absolute path leads to the same place from every directory. -/
theorem find_of_isAbsolute (h : Path.isAbsolute path = true) (cwd' : Place) :
    fs.find cwd path = fs.find cwd' path := by
  simp only [find, locate, h, if_true]

theorem Names.unique (h : fs.Names cwd path p) (h' : fs.Names cwd path q) : p = q := by
  obtain ⟨-, n, hn⟩ := h
  obtain ⟨-, m, hm⟩ := h'
  exact hn.unique hm

theorem find_eq_ok_iff {e : Entry} :
    fs.find cwd path = .ok e ↔ ∃ p, fs.locate cwd path true = .ok ⟨p, some e⟩ := by
  rw [find]
  constructor
  · intro h
    split at h
    · cases h
      exact ⟨_, by assumption⟩
    · cases h
    · cases h
  · rintro ⟨p, hp⟩
    rw [hp]

theorem isFile_iff : fs.isFile cwd path = true ↔ fs.RegularAt cwd path := by
  rw [isFile, RegularAt]
  constructor
  · intro h
    split at h
    · rename_i e he
      obtain ⟨p, hp⟩ := find_eq_ok_iff.1 he
      exact ⟨p, e, hp, h⟩
    · cases h
  · rintro ⟨p, e, hp, he⟩
    rw [find_eq_ok_iff.2 ⟨p, hp⟩]
    exact he

theorem isDir_iff : fs.isDir cwd path = true ↔
    ∃ p, fs.locate cwd path true = .ok ⟨p, some .dir⟩ := by
  rw [isDir]
  constructor
  · intro h
    split at h
    · rename_i e he
      cases of_decide_eq_true h
      exact find_eq_ok_iff.1 he
    · cases h
  · rintro ⟨p, hp⟩
    rw [find_eq_ok_iff.2 ⟨p, hp⟩]
    exact decide_eq_true rfl

/-! ## Below a directory -/

/-- A slash at the end of a path does not change the way. -/
theorem Leads.of_steps (h : fs.Leads n cur (Path.steps path) p) :
    fs.Leads n cur (Path.parts path) p := by
  rw [Path.steps_eq] at h
  split at h
  · exact h.of_append_dot
  · rwa [List.append_nil] at h

/-- To a directory the way is the same with a slash at the end. -/
theorem Leads.steps (h : fs.Leads n cur (Path.parts path) p) (hp : fs.get? p = some .dir) :
    fs.Leads n cur (Path.steps path) p := by
  rw [Path.steps_eq, h.append_iff hp]
  refine ⟨0, rfl, ?_⟩
  split
  · exact .stay .here
  · exact .here

/-- The way to a directory, without the slash that its path may end with. -/
theorem leads_parts_of_locate (hd : fs.locate cwd dir true = .ok ⟨D, some .dir⟩) :
    ∃ n ≤ maxLinks, fs.Leads n (Path.start cwd dir) (Path.parts dir) D ∧
      fs.get? D = some .dir ∧ Path.Usable dir := by
  obtain ⟨hu, he, n, hn, hl⟩ := locate_eq_ok_iff.1 hd
  exact ⟨n, hn, hl.of_steps, he.symm, hu⟩

theorem leads_join_iff (hd : fs.locate cwd dir true = .ok ⟨D, some .dir⟩)
    (hr : Path.isAbsolute path = false) (hp : path ≠ "") :
    ∃ k ≤ maxLinks, ∀ m q, fs.Leads m (Path.start cwd (Path.join dir path))
      (Path.steps (Path.join dir path)) q ↔ ∃ n, m = k + n ∧ fs.Leads n D (Path.steps path) q := by
  obtain ⟨k, hk, hl, hD, hu⟩ := leads_parts_of_locate hd
  refine ⟨k, hk, fun m q => ?_⟩
  have hs : Path.start cwd (Path.join dir path) = Path.start cwd dir := by
    simp only [Path.start, Path.isAbsolute_join hr hu.ne_empty]
  rw [hs, Path.steps_join hr hu.ne_empty hp, hl.append_iff hD]

/-- A path joined to a directory names what it names for a process in that directory. -/
theorem names_join_iff (hd : fs.locate cwd dir true = .ok ⟨D, some .dir⟩) :
    path ≠ "" → (fs.Names cwd (Path.join dir path) q ↔ fs.Names D path q) := by
  intro hp
  cases hr : Path.isAbsolute path with
  | true => rw [Path.join_of_isAbsolute hr, Names, Names, Path.start, Path.start, hr]; simp
  | false =>
    obtain ⟨k, -, hk⟩ := leads_join_iff hd hr hp
    have hs : Path.start D path = D := by simp [Path.start, hr]
    simp only [Names, hk, hs]
    constructor
    · rintro ⟨-, m, n, -, h⟩
      exact ⟨hp, n, h⟩
    · rintro ⟨-, n, h⟩
      exact ⟨Path.join_ne_empty hp, _, n, rfl, h⟩

/-- What is found under a path joined to a directory is found under the path itself by a process
in that directory. -/
theorem locate_of_locate_join (hd : fs.locate cwd dir true = .ok ⟨D, some .dir⟩) (hp : path ≠ "")
    (h : fs.locate cwd (Path.join dir path) true = .ok spot) :
    fs.locate D path true = .ok spot := by
  obtain ⟨hu, he, m, hm, hl⟩ := locate_eq_ok_iff.1 h
  have hu' : Path.Usable path :=
    ⟨Path.hasNul_join_left hu.hasNul, hp,
      fun hlt => hu.short (Nat.lt_of_lt_of_le hlt Path.octetLength_join_le)⟩
  cases hr : Path.isAbsolute path with
  | true =>
    rw [Path.join_of_isAbsolute hr] at hl
    have hs : Path.start D path = Path.start cwd path := by simp [Path.start, hr]
    exact locate_eq_ok_iff.2 ⟨hu', he, m, hm, by rwa [hs]⟩
  | false =>
    obtain ⟨k, -, hk⟩ := leads_join_iff hd hr hp
    obtain ⟨n, rfl, hn⟩ := (hk _ _).1 hl
    have hs : Path.start D path = D := by simp [Path.start, hr]
    exact locate_eq_ok_iff.2 ⟨hu', he, n, by omega, by rwa [hs]⟩

/-! ## Writing -/

/-- What is put at the place of a path is at that place afterwards, unless there was a directory or
a link. -/
theorem locate_set {e : Entry} (h : fs.locate cwd path true = .ok spot)
    (hd : spot.entry ≠ some .dir) (hl : ∀ t, spot.entry ≠ some (.link t))
    (hd' : e ≠ .dir) (hl' : ∀ t, e ≠ .link t) :
    (fs.set spot.place e).locate cwd path true = .ok ⟨spot.place, some e⟩ := by
  obtain ⟨hu, he, n, hn, hw⟩ := locate_eq_ok_iff.1 h
  rw [he] at hd hl
  have hp : spot.place ≠ [] := fun e => hd (by rw [e]; rfl)
  exact locate_eq_ok_iff.2
    ⟨hu, (get?_set_self _ _ hp).symm, n, hn, hw.set_leaf hp hd hl hd' hl'⟩

end Files

end ImageGateway
