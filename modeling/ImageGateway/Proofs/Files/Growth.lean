import ImageGateway.Proofs.Files.Lookup

/-!
Trees that differ in some places only. A tree may grow at places that were free
(`Files.Grown`); a directory is then still where it was (`Grown.locate_dir`), and what a look-up
finds under a name in that directory depends on the one place of that name
(`locate_name_congr`).
-/

namespace ImageGateway.Files

variable {W : Place → Prop} {fs fs' : Files} {cwd D p : Place} {dir name : String} {e : Entry}

/-- The second tree may differ from the first at places of `W` only. -/
def Grown (W : Place → Prop) (fs fs' : Files) : Prop := ∀ p, ¬ W p → fs'.get? p = fs.get? p

theorem Grown.refl (fs : Files) : fs.Grown W fs := fun _ _ => rfl

theorem Grown.set (h : fs.Grown W fs') (hp : W p) : fs.Grown W (fs'.set p e) := by
  intro q hq
  rw [get?_set_of_ne _ _ fun (hqp : q = p) => hq (hqp ▸ hp)]
  exact h q hq

/-- What was in a tree is there after it has grown at free places. -/
theorem Grown.keeps (h : fs.Grown W fs') (free : ∀ p, W p → fs.get? p = none) {e : Entry}
    (hp : fs.get? p = some e) : fs'.get? p = some e := by
  rw [h p fun hw => by simp [free p hw] at hp, hp]

theorem Grown.locate_dir (h : fs.Grown W fs') (free : ∀ p, W p → fs.get? p = none)
    (hd : fs.locate cwd dir true = .ok ⟨D, some .dir⟩) :
    fs'.locate cwd dir true = .ok ⟨D, some .dir⟩ := by
  obtain ⟨hu, he, n, hn, hl⟩ := locate_eq_ok_iff.1 hd
  have taken : fs.get? D ≠ none := by simp [← he]
  exact locate_eq_ok_iff.2 ⟨hu, (h.keeps free he.symm).symm, n, hn,
    hl.mono taken fun _ _ => h.keeps free⟩

/-! ## Names in a directory -/

/-- A name leads to what is there in the directory where it is looked up. -/
theorem leads_name (hn : Path.IsName name) (hs : ¬ Path.maxName < octetLength name)
    (hl : ∀ t, fs.get? (name :: D) ≠ some (.link t)) : fs.Leads 0 D [name] (name :: D) := by
  have ordinary : Ordinary name := ⟨hn.ne_dot, hn.ne_dots, hs⟩
  cases he : fs.get? (name :: D) with
  | none => exact .free ordinary he
  | some e =>
    by_cases hdir : e = .dir
    · exact .enter ordinary (hdir ▸ he) .here
    · exact .leaf ordinary he hdir fun t ht => hl t (ht ▸ he)

/-- A name is looked up in the current directory. -/
theorem locate_here (hn : Path.IsName name) (hs : ¬ Path.maxName < octetLength name)
    (hl : ∀ t, fs.get? (name :: cwd) ≠ some (.link t)) (hu : Path.Usable name) :
    fs.locate cwd name true = .ok ⟨name :: cwd, fs.get? (name :: cwd)⟩ := by
  have start : Path.start cwd name = cwd := by simp [Path.start, hn.not_isAbsolute]
  refine locate_eq_ok_iff.2 ⟨hu, rfl, 0, Nat.zero_le _, ?_⟩
  rw [start, Path.steps_name hn.noSlash hn.ne_empty]
  exact leads_name hn hs hl

section

variable (hd : fs.locate cwd dir true = .ok ⟨D, some .dir⟩) (hn : Path.IsName name)
  (hs : ¬ Path.maxName < octetLength name) (hl : ∀ t, fs.get? (name :: D) ≠ some (.link t))

include hd hn hs hl

/-- A name in a directory is looked up there and nowhere else. -/
theorem locate_name (hu : Path.Usable (Path.join dir name)) :
    fs.locate cwd (Path.join dir name) true = .ok ⟨name :: D, fs.get? (name :: D)⟩ := by
  obtain ⟨k, hk, hleads⟩ := leads_join_iff hd hn.not_isAbsolute hn.ne_empty
  refine locate_eq_ok_iff.2 ⟨hu, rfl, k, hk, (hleads _ _).2 ⟨0, rfl, ?_⟩⟩
  rw [Path.steps_name hn.noSlash hn.ne_empty]
  exact leads_name hn hs hl

/-- Two trees with the same at the place of the name give the same answer. -/
theorem locate_name_congr (hd' : fs'.locate cwd dir true = .ok ⟨D, some .dir⟩)
    (he : fs'.get? (name :: D) = fs.get? (name :: D)) :
    fs'.locate cwd (Path.join dir name) true = fs.locate cwd (Path.join dir name) true := by
  by_cases hu : Path.Usable (Path.join dir name)
  · rw [locate_name hd hn hs hl hu, locate_name hd' hn hs (by rwa [he]) hu, he]
  · obtain ⟨f, hf⟩ := locate_of_not_usable hu
    rw [hf, hf]

theorem find_name_congr (hd' : fs'.locate cwd dir true = .ok ⟨D, some .dir⟩)
    (he : fs'.get? (name :: D) = fs.get? (name :: D)) :
    fs'.find cwd (Path.join dir name) = fs.find cwd (Path.join dir name) := by
  rw [find, find, locate_name_congr hd hn hs hl hd' he]

end

/-- Names that are too long are never found. -/
theorem short_of_locate {spot : Spot} (hd : fs.locate cwd dir true = .ok ⟨D, some .dir⟩)
    (hn : Path.IsName name) (h : fs.locate cwd (Path.join dir name) true = .ok spot) :
    ¬ Path.maxName < octetLength name := by
  obtain ⟨-, -, m, -, hl⟩ := locate_eq_ok_iff.1 h
  obtain ⟨k, -, hk⟩ := leads_join_iff hd hn.not_isAbsolute hn.ne_empty
  obtain ⟨n, -, hl⟩ := (hk _ _).1 hl
  rw [Path.steps_name hn.noSlash hn.ne_empty] at hl
  generalize spot.place = p at hl
  cases hl with
  | stay => exact absurd rfl hn.ne_dot
  | back => exact absurd rfl hn.ne_dots
  | enter ho | free ho | leaf ho | follow ho => exact ho.short

theorem write_name (hd : fs.locate cwd dir true = .ok ⟨D, some .dir⟩) (hn : Path.IsName name)
    (hs : ¬ Path.maxName < octetLength name) (he : fs.get? (name :: D) = none)
    (hu : Path.Usable (Path.join dir name)) (data : Bytes) :
    fs.write cwd (Path.join dir name) data =
      (fs.set (name :: D) (.file data defaultMode), .ok ()) := by
  rw [write, locate_name hd hn hs (by simp [he]) hu, he]

/-- Where at most a directory has the name, writing either changes nothing or makes a new file. -/
theorem write_name_cases (hd : fs.locate cwd dir true = .ok ⟨D, some .dir⟩) (hn : Path.IsName name)
    (he : ∀ e, fs.get? (name :: D) = some e → e = .dir) {data : Bytes}
    {answer : Except SystemFault Unit}
    (h : fs.write cwd (Path.join dir name) data = (fs', answer)) :
    (fs' = fs ∧ ∃ e, answer = .error e) ∨
      (fs' = fs.set (name :: D) (.file data defaultMode) ∧ answer = .ok () ∧
        fs.get? (name :: D) = none ∧ Path.Usable (Path.join dir name) ∧
        ¬ Path.maxName < octetLength name) := by
  cases hl : fs.locate cwd (Path.join dir name) true with
  | error f =>
    rw [write, hl] at h
    cases h
    exact .inl ⟨rfl, f, rfl⟩
  | ok spot =>
    have short := short_of_locate hd hn hl
    have usable := usable_of_locate hl
    cases hp : fs.get? (name :: D) with
    | none =>
      rw [write_name hd hn short hp usable] at h
      cases h
      exact .inr ⟨rfl, rfl, rfl, usable, short⟩
    | some e =>
      obtain rfl := he e hp
      rw [write, locate_name hd hn short (by simp [hp]) usable, hp] at h
      cases h
      exact .inl ⟨rfl, _, rfl⟩

theorem write_of_not_usable {path : String} (hu : ¬ Path.Usable path) :
    ∃ e, ∀ (fs : Files) cwd data, fs.write cwd path data = (fs, .error e) := by
  obtain ⟨e, he⟩ := locate_of_not_usable hu
  refine ⟨e, fun fs cwd data => ?_⟩
  rw [write, he]

end ImageGateway.Files
