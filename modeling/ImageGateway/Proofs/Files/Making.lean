import ImageGateway.Proofs.Files.Directories
import Mathlib.Logic.Relation

/-!
What the making of directories and the writing of a file come to in the tree. Directories are made
at free places only, each of them where the path that was asked for leads or one above it
(`made_of_makeDirs`); a file is put where its path leads (`write_eq`). The way to a directory goes
by directories and links, and as long as these stay, it is found where it was
(`Keeps.locate_dir`).
-/

namespace ImageGateway

/-- The path itself, the one above it, the one above that, and so on. -/
def Path.Upward : String → String → Prop :=
  Relation.ReflTransGen fun path up => Path.parent? path = some up

namespace Files

variable {fs fs' fs₁ : Files} {cwd cur p q D : Place} {path up dir : String} {n fuel : Nat}
  {names : List String} {e : Entry} {data : Bytes}

/-! ## What stays -/

/-- The directories and the links of the first tree are in the second one too. -/
def Keeps (fs fs' : Files) : Prop :=
  ∀ p e, fs.get? p = some e → (e = .dir ∨ ∃ t, e = .link t) → fs'.get? p = some e

theorem keeps_set (hd : fs.get? p ≠ some .dir) (hl : ∀ t, fs.get? p ≠ some (.link t)) :
    fs.Keeps (fs.set p e) := by
  intro q e' hq he'
  rw [get?_set_of_ne, hq]
  rintro rfl
  rcases he' with rfl | ⟨t, rfl⟩
  · exact hd hq
  · exact hl t hq

theorem Leads.of_keeps (h : fs.Leads n cur names p) (hp : fs.get? p = some .dir)
    (hk : fs.Keeps fs') : fs'.Leads n cur names p := by
  induction h with
  | here => exact .here
  | stay _ ih => exact .stay (ih hp)
  | back _ ih => exact .back (ih hp)
  | enter ho hd _ ih => exact .enter ho (hk _ _ hd (.inl rfl)) (ih hp)
  | free _ hf => simp [hp] at hf
  | leaf _ he hd _ => exact absurd (Option.some.inj (he.symm.trans hp)) hd
  | follow ho ht _ ih => exact .follow ho (hk _ _ ht (.inr ⟨_, rfl⟩)) (ih hp)

theorem Keeps.locate_dir (hk : fs.Keeps fs')
    (h : fs.locate cwd dir true = .ok ⟨D, some .dir⟩) :
    fs'.locate cwd dir true = .ok ⟨D, some .dir⟩ := by
  obtain ⟨hu, he, n, hn, hl⟩ := locate_eq_ok_iff.1 h
  exact locate_eq_ok_iff.2 ⟨hu, (hk _ _ he.symm (.inl rfl)).symm, n, hn, hl.of_keeps he.symm hk⟩

/-- Every entry of the first tree is in the second one too. -/
def Extends (fs fs' : Files) : Prop := ∀ p e, fs.get? p = some e → fs'.get? p = some e

theorem Extends.keeps (h : fs.Extends fs') : fs.Keeps fs' := fun p e hp _ => h p e hp

theorem Extends.trans (h : fs.Extends fs₁) (h' : fs₁.Extends fs') : fs.Extends fs' :=
  fun p e hp => h' p e (h p e hp)

theorem Extends.set (h : fs.get? p = none) : fs.Extends (fs.set p e) := by
  intro q e' hq
  rw [get?_set_of_ne, hq]
  rintro rfl
  simp [h] at hq

/-! ## Directories -/

/-- Where the trees differ, a directory was made on the way that the path goes. -/
def Made (cwd : Place) (path : String) (fs fs' : Files) : Prop :=
  ∀ p, fs'.get? p ≠ fs.get? p → fs.get? p = none ∧
    ∃ up, Path.Upward path up ∧ fs'.locate cwd up true = .ok ⟨p, some .dir⟩

theorem made_refl (cwd : Place) (path : String) (fs : Files) : Made cwd path fs fs :=
  fun _ h => absurd rfl h

theorem Made.get?_eq (h : Made cwd path fs fs') (hp : fs.get? p = some e) :
    fs'.get? p = some e := by
  by_cases same : fs'.get? p = fs.get? p
  · rw [same, hp]
  · have free := (h p same).1
    simp [hp] at free

theorem Made.keeps (h : Made cwd path fs fs') : fs.Keeps fs' := fun _ _ hp _ => h.get?_eq hp

theorem Made.dir_of_ne (h : Made cwd path fs fs') (hp : fs'.get? p ≠ fs.get? p) :
    fs'.get? p = some .dir := by
  obtain ⟨-, up, -, hup⟩ := h p hp
  exact (locate_eq_ok_iff.1 hup).2.1.symm

theorem Made.free (h : Made cwd path fs fs') (hp : fs'.get? p = none) : fs.get? p = none := by
  cases he : fs.get? p with
  | none => rfl
  | some e => exact absurd (h.get?_eq he) (by simp [hp])

/-- First those above are made, then the directory itself. -/
theorem Made.then (hup : Path.parent? path = some up) (h : Made cwd up fs fs₁)
    (h' : Made cwd path fs₁ fs') : Made cwd path fs fs' := by
  intro p hp
  by_cases same : fs₁.get? p = fs.get? p
  · rw [← same] at hp ⊢
    exact h' p hp
  · obtain ⟨free, above, hway, hat⟩ := h p same
    exact ⟨free, above, .head hup hway, h'.keeps.locate_dir hat⟩

theorem made_of_makeDir (ha : Path.isAbsolute path = true)
    (h : fs.makeDir cwd path = (fs', .ok ())) : Made cwd path fs fs' := by
  obtain ⟨hu, p, rfl, free, n, hn, hl⟩ := leads_of_makeDir ha h
  intro q hq
  obtain rfl : q = p := Classical.not_not.1 fun ne => hq (get?_set_of_ne _ _ ne)
  have start : Path.start cwd path = [] := if_pos ha
  have place : q ≠ [] := by
    rintro rfl
    cases free
  have dir : (fs.set q .dir).get? q = some .dir := get?_set_self _ _ place
  refine ⟨free, path, .refl, locate_eq_ok_iff.2 ⟨hu, dir.symm, n, hn, ?_⟩⟩
  rw [start]
  exact (hl.set_dir free).steps dir

/-- Whether or not all the directories could be made, nothing else was changed. -/
theorem made_of_makeDirs (ha : Path.isAbsolute path = true) {answer : Except SystemFault Unit}
    (h : makeDirs cwd fuel fs path = (fs', answer)) : Made cwd path fs fs' := by
  induction fuel generalizing path fs' answer with
  | zero =>
    cases h
    exact made_refl cwd path fs
  | succ fuel ih =>
    rcases makeDirs_cases ha h with ⟨hm, -⟩ | ⟨rfl, -⟩ | ⟨up, hup, hcase⟩
    · exact made_of_makeDir ha hm
    · exact made_refl cwd path fs'
    · have above := (Path.above_of_parent? ha hup).isAbsolute
      rcases hcase with ⟨e, hu, -⟩ | ⟨fs₁, hu, hm, -⟩ | ⟨hu, -⟩
      · exact (ih above hu).then hup (made_refl cwd path fs')
      · exact (ih above hu).then hup (made_of_makeDir ha hm)
      · exact (ih above hu).then hup (made_refl cwd path fs')

/-! ## Files -/

/-- A file was put at the place `p` that the path leads to, over another file or where nothing
was. -/
structure Written (cwd : Place) (path : String) (data : Bytes) (p : Place) (mode : Nat)
    (fs fs' : Files) : Prop where
  eq : fs' = fs.set p (.file data mode)
  located : fs.locate cwd path true = .ok ⟨p, fs.get? p⟩
  mode_eq : fs.get? p = none → mode = defaultMode
  ne_dir : fs.get? p ≠ some .dir
  ne_link : ∀ t, fs.get? p ≠ some (.link t)

theorem written_of_write {answer : Except SystemFault Unit}
    (h : fs.write cwd path data = (fs', answer)) :
    fs' = fs ∨ ∃ p mode, Written cwd path data p mode fs fs' := by
  rw [write] at h
  split at h
  · cases h
    exact .inl rfl
  · rename_i p hp
    cases h
    have free : fs.get? p = none := (locate_eq_ok_iff.1 hp).2.1.symm
    exact .inr ⟨p, _, rfl, by rw [hp, free], fun _ => rfl, by simp [free], by simp [free]⟩
  · rename_i p old mode hp
    cases h
    have there : fs.get? p = some (.file old mode) := (locate_eq_ok_iff.1 hp).2.1.symm
    exact .inr ⟨p, mode, rfl, by rw [hp, there], by simp [there], by simp [there], by simp [there]⟩
  · cases h
    exact .inl rfl
  · cases h
    exact .inl rfl

namespace Written

variable {mode : Nat} (h : Written cwd path data p mode fs fs')

include h

theorem keeps : fs.Keeps fs' := h.eq ▸ keeps_set h.ne_dir h.ne_link

/-- The file is found under the path. -/
theorem locate : fs'.locate cwd path true = .ok ⟨p, some (.file data mode)⟩ := by
  rw [h.eq]
  exact @locate_set fs cwd path ⟨p, fs.get? p⟩ (.file data mode) h.located h.ne_dir h.ne_link
    nofun nofun

theorem get?_of_ne (hq : q ≠ p) : fs'.get? q = fs.get? q := by
  rw [h.eq, get?_set_of_ne _ _ hq]

end Written

end Files

end ImageGateway
