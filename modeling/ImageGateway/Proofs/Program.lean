import ImageGateway.Processing
import ImageGateway.Program.Run
import ImageGateway.Proofs.Files.Lookup
import ImageGateway.Proofs.Path.Absolute
import ImageGateway.Uploads

/-!
The directories that are kept from the start. The directory of the image program and that of the
uploads are given as paths, and what is kept is the absolute form of these paths. It is what it is
when it is given once more, under any current directory. So neither the program nor a place that it
was told of depends on the current directory afterwards (`Program.directories_kept`).
-/

namespace ImageGateway

variable {cwdPath dir exe kept : String}

/-! ## What is kept -/

theorem UploadStore.create_of_absolute? (h : Path.absolute? cwdPath dir = some kept) :
    UploadStore.create cwdPath dir = .ok ⟨kept⟩ := by
  rw [create, h]

theorem UploadStore.exists_create_error_iff :
    (∃ t, UploadStore.create cwdPath dir = .error t) ↔ dir = "" := by
  rw [← @Path.absolute?_eq_none_iff cwdPath, create]
  cases Path.absolute? cwdPath dir <;> simp

namespace Program

theorem create_of_absolute? (h : Path.absolute? cwdPath dir = some kept) :
    create cwdPath dir exe = .ok ⟨kept, Path.join kept exe⟩ := by
  rw [create, h]

theorem exists_create_error_iff : (∃ e, create cwdPath dir exe = .error e) ↔ dir = "" := by
  rw [← @Path.absolute?_eq_none_iff cwdPath, create]
  cases Path.absolute? cwdPath dir <;> simp

/-- How a path is put below a directory that is absolute. -/
theorem join_of_relative (hd : Path.isAbsolute dir = true) (he : Path.isAbsolute exe = false) :
    Path.join dir exe = if Path.endsWithSlash dir then dir ++ exe else dir ++ "/" ++ exe := by
  simp [Path.join, he, Path.ne_empty_of_isAbsolute hd]

/-! ## Where paths lead -/

/-- A place that a program with an absolute directory was told of does not depend on the current
directory, nor does what is found there. -/
theorem resolve_of_isAbsolute (program : Program)
    (h : Path.isAbsolute program.workingDir = true) (cwd cwd' : Place) (path : String) :
    let here : Processor := ⟨program.runner, cwd⟩
    let there : Processor := ⟨program.runner, cwd'⟩
    Path.isAbsolute (here.resolve path) = true ∧ there.resolve path = here.resolve path ∧
      ∀ fs : Files, fs.find cwd' (there.resolve path) = fs.find cwd (here.resolve path) := by
  have absolute : Path.isAbsolute (Path.join program.workingDir path) = true :=
    Path.isAbsolute_join_left h
  exact ⟨absolute, rfl, fun fs => Files.find_of_isAbsolute absolute cwd⟩

/-- Setting up the program or the store of uploads fails only where the directory is the empty
path. Otherwise its absolute form is kept, and it is kept again as it is when it is given under any
other current directory, with the same program. The program is an absolute path: the executable if
it is absolute itself, and else what lies under that path in the directory. A path that the program
was told of is taken from its directory unless it is absolute, whatever the current directory is
then. -/
theorem directories_kept (hc : Path.IsNormal cwdPath) (dir exe : String) :
    ((∃ e, create cwdPath dir exe = .error e) ↔ dir = "") ∧
    ((∃ t, UploadStore.create cwdPath dir = .error t) ↔ dir = "") ∧
    (dir ≠ "" → ∃ kept path, Path.IsAbsoluteForm cwdPath dir kept ∧
      create cwdPath dir exe = .ok ⟨kept, path⟩ ∧ UploadStore.create cwdPath dir = .ok ⟨kept⟩ ∧
      (∀ other, create other kept exe = .ok ⟨kept, path⟩ ∧
        UploadStore.create other kept = .ok ⟨kept⟩) ∧
      Path.isAbsolute path = true ∧
      (Path.isAbsolute exe = true → path = exe) ∧
      (Path.isAbsolute exe = false →
        path = if Path.endsWithSlash kept then kept ++ exe else kept ++ "/" ++ exe) ∧
      ∀ (cwd cwd' : Place) (name : String),
        let here : Processor := ⟨runner ⟨kept, path⟩, cwd⟩
        let there : Processor := ⟨runner ⟨kept, path⟩, cwd'⟩
        Path.isAbsolute (here.resolve name) = true ∧
        (Path.isAbsolute name = true → here.resolve name = name) ∧
        there.resolve name = here.resolve name ∧
        ∀ fs : Files, fs.find cwd' (there.resolve name) = fs.find cwd (here.resolve name)) := by
  refine ⟨exists_create_error_iff, UploadStore.exists_create_error_iff, fun hdir => ?_⟩
  cases habs : Path.absolute? cwdPath dir with
  | none => exact absurd (Path.absolute?_eq_none_iff.1 habs) hdir
  | some kept =>
    have form := Path.isAbsoluteForm hc habs
    have again := Path.absolute?_again hc habs
    refine ⟨kept, Path.join kept exe, form, create_of_absolute? habs,
      UploadStore.create_of_absolute? habs, fun other => ⟨create_of_absolute? (again other),
        UploadStore.create_of_absolute? (again other)⟩, Path.isAbsolute_join_left form.isAbsolute,
      Path.join_of_isAbsolute, join_of_relative form.isAbsolute, fun cwd cwd' name => ?_⟩
    obtain ⟨absolute, same, found⟩ :=
      resolve_of_isAbsolute ⟨kept, Path.join kept exe⟩ form.isAbsolute cwd cwd' name
    exact ⟨absolute, Path.join_of_isAbsolute, same, found⟩

/-- A relative directory with all that goes and all that stays. -/
theorem detour_kept : Path.IsNormal "/srv/app" ∧
    create "/srv/app" "./work//../build/" "KAI-impl" =
      .ok ⟨"/srv/app/work/../build/", "/srv/app/work/../build/KAI-impl"⟩ ∧
    ∀ other, create other "/srv/app/work/../build/" "KAI-impl" =
      .ok ⟨"/srv/app/work/../build/", "/srv/app/work/../build/KAI-impl"⟩ := by
  have normal : Path.IsNormal "/srv/app" :=
    ⟨by decide, by decide, by simp [Path.Single], by decide⟩
  have created : create "/srv/app" "./work//../build/" "KAI-impl" =
      .ok ⟨"/srv/app/work/../build/", "/srv/app/work/../build/KAI-impl"⟩ := by
    decide +kernel
  obtain ⟨-, -, keeps⟩ := directories_kept normal "./work//../build/" "KAI-impl"
  obtain ⟨kept, path, -, first, -, again, -⟩ := keeps (by decide)
  cases created.symm.trans first
  exact ⟨normal, created, fun other => (again other).1⟩

end Program

end ImageGateway
