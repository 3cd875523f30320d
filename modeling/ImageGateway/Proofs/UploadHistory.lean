import ImageGateway.Proofs.Files.Growth
import ImageGateway.Proofs.Uploads

/-!
The uploads that were accepted in the course of time. As long as no identifier comes twice and
nobody else writes into the directory, a store finds the place of its upload free, so it changes
nothing that was there (`store_outcome`, `Outcome.extended`). What lies in the directory is then
found again after every turn (`Sound.turn`), and after any number of them (`Sound.run`): each
upload has a path of its own, under which exactly what was stored is read
(`accepted_uploads_stay`).
-/

namespace ImageGateway

namespace UploadStore

variable {s : UploadStore} {cwd D : Place} {fs fs' ready : Files} {n : Nat}
  {suffix name other path : String} {data : Bytes} {answer : Except Trouble String}

/-! ## The directory -/

/-- Nothing has the name where the directory for uploads is, or is made when it is needed. Only a
directory may, for the way to the one for uploads can go through it. -/
def Free (s : UploadStore) (cwd : Place) (fs : Files) (name : String) : Prop :=
  ∀ ready D, s.makeReady cwd fs = (ready, .ok ()) →
    ready.locate cwd s.path true = .ok ⟨D, some .dir⟩ →
    ∀ e, fs.get? (name :: D) = some e → e = .dir

/-- A file with the name and the content lies in the directory, and is found there. -/
def Lies (s : UploadStore) (cwd : Place) (fs : Files) (name : String) (data : Bytes) : Prop :=
  ∃ D, fs.locate cwd s.path true = .ok ⟨D, some .dir⟩ ∧
    fs.locate cwd (Path.join s.path name) true = .ok ⟨name :: D, some (.file data defaultMode)⟩

/-- What lies in the directory, and the way there, is the same in the second tree. -/
structure Spares (s : UploadStore) (cwd : Place) (fs fs' : Files) : Prop where
  keeps : fs.Keeps fs'
  entries : ∀ D, fs.locate cwd s.path true = .ok ⟨D, some .dir⟩ →
    ∀ name e, fs.get? (name :: D) = some e → fs'.get? (name :: D) = some e

theorem Spares.of_extends (h : fs.Extends fs') : s.Spares cwd fs fs' :=
  ⟨h.keeps, fun _ _ _ e => h _ e⟩

theorem Lies.spared (h : s.Lies cwd fs name data) (hn : Path.IsName name)
    (hs : s.Spares cwd fs fs') : s.Lies cwd fs' name data := by
  obtain ⟨D, hD, hfile⟩ := h
  have there : fs.get? (name :: D) = some (.file data defaultMode) :=
    (Files.locate_eq_ok_iff.1 hfile).2.1.symm
  have stays := hs.entries D hD name _ there
  have short := Files.short_of_locate hD hn hfile
  have hD' := hs.keeps.locate_dir hD
  refine ⟨D, hD', ?_⟩
  rw [Files.locate_name_congr hD hn short (by simp [there]) hD' (stays.trans there.symm), hfile]

theorem Lies.read (h : s.Lies cwd fs name data) :
    read cwd fs (Path.join s.path name) = .ok data := by
  obtain ⟨D, -, hfile⟩ := h
  rw [UploadStore.read, Files.find, hfile]
  rfl

section

variable (ha : Path.isAbsolute s.path = true)

include ha

/-- Making the directory ready leaves it ready, or as far from it as before. -/
theorem makeReady_again {answer : Except Trouble Unit}
    (h : s.makeReady cwd fs = (ready, answer)) {ready' : Files}
    (h' : s.makeReady cwd ready = (ready', .ok ())) : answer = .ok () ∧ ready' = ready := by
  cases answer with
  | error t =>
    obtain ⟨t', ht'⟩ := makeReady_of_error ha h
    cases h'.symm.trans ht'
  | ok =>
    have there := makeReady_of_isDir ha (isDir_of_makeReady ha h)
    cases h'.symm.trans there
    exact ⟨rfl, rfl⟩

theorem Free.made (h : s.Free cwd fs name) {answer : Except Trouble Unit}
    (hr : s.makeReady cwd fs = (ready, answer)) : s.Free cwd ready name := by
  intro ready' D hready' hD e he
  obtain ⟨rfl, rfl⟩ := makeReady_again ha hr hready'
  -- What was not there before is a directory on the way.
  by_cases same : ready'.get? (name :: D) = fs.get? (name :: D)
  · exact h _ D hr hD e (same ▸ he)
  · have dir := (made_of_makeReady ha hr).dir_of_ne same
    exact Option.some.inj (he.symm.trans dir)

end

/-! ## One store -/

/-- How a store ends: it is refused, with at most some directories made, or the upload is put at
its place, where nothing was. -/
inductive Outcome (s : UploadStore) (cwd : Place) (fs : Files) (name : String) (data : Bytes) :
    Files → Except Trouble String → Prop where
  | refused {ready : Files} {answer : Except Trouble Unit} {t : Trouble} :
    s.makeReady cwd fs = (ready, answer) → Outcome s cwd fs name data ready (.error t)
  | stored {ready : Files} {D : Place} : s.makeReady cwd fs = (ready, .ok ()) →
    ready.locate cwd s.path true = .ok ⟨D, some .dir⟩ → ready.get? (name :: D) = none →
    Path.Usable (Path.join s.path name) → ¬ Path.maxName < octetLength name →
    Outcome s cwd fs name data (ready.set (name :: D) (.file data defaultMode))
      (.ok (Path.join s.path name))

theorem store_outcome (ha : Path.isAbsolute s.path = true) {id : String}
    (hn : Path.IsName (id ++ suffix)) (free : s.Free cwd fs (id ++ suffix)) (data : Bytes) :
    Outcome s cwd fs (id ++ suffix) data (s.store cwd fs id suffix data).1
      (s.store cwd fs id suffix data).2.1 := by
  rw [store]
  split
  · rename_i ready t hr
    exact .refused hr
  · rename_i ready hr
    obtain ⟨D, hD⟩ := Files.isDir_iff.1 (isDir_of_makeReady ha hr)
    have dir := (free.made ha hr) ready D (makeReady_of_isDir ha (isDir_of_makeReady ha hr)) hD
    rcases hw : s.write cwd ready id suffix data with ⟨written, answer⟩
    rcases write_cases hw with ⟨rfl, h⟩ | ⟨f, t, rfl, h⟩
    · rcases Files.write_name_cases hD hn dir h with ⟨-, f, hf⟩ | ⟨rfl, -, hp, usable, short⟩
      · cases hf
      · exact .stored hr hD hp usable short
    · rcases Files.write_name_cases hD hn dir h with ⟨rfl, -⟩ | ⟨-, hok, -⟩
      · exact .refused hr
      · cases hok

namespace Outcome

variable (h : Outcome s cwd fs name data fs' answer)

include h

theorem extended (ha : Path.isAbsolute s.path = true) : fs.Extends fs' := by
  cases h with
  | refused hr => exact fun p e => (made_of_makeReady ha hr).get?_eq
  | stored hr _ hp _ _ =>
    exact .trans (fun p e => (made_of_makeReady ha hr).get?_eq) (.set hp)

/-- Other names are as free as before. -/
theorem free (ha : Path.isAbsolute s.path = true) (hf : s.Free cwd fs other) (ne : other ≠ name) :
    s.Free cwd fs' other := by
  cases h with
  | refused hr => exact hf.made ha hr
  | @stored ready D hr hD hp _ _ =>
    intro ready' D' hready' hD' e he
    have grown : ready.Extends (ready.set (name :: D) (.file data defaultMode)) := .set hp
    have there := makeReady_of_isDir ha (isDir_of_makeReady ha hr)
    have same := grown.keeps.locate_dir hD
    have still := makeReady_of_isDir ha (Files.isDir_iff.2 ⟨D, same⟩)
    cases hready'.symm.trans still
    cases hD'.symm.trans same
    rw [Files.get?_set_of_ne _ _ fun h => ne (List.cons.inj h).1] at he
    exact hf.made ha hr ready D there hD e he

end Outcome

theorem lies_of_stored (h : Outcome s cwd fs name data fs' (.ok path)) (hn : Path.IsName name) :
    path = Path.join s.path name ∧ s.Lies cwd fs' name data := by
  cases h with
  | @stored ready D hr hD hp usable short =>
    have grown : ready.Extends (ready.set (name :: D) (.file data defaultMode)) := .set hp
    have file : (ready.set (name :: D) (.file data defaultMode)).get? (name :: D) =
        some (.file data defaultMode) := Files.get?_set_self _ _ (List.cons_ne_nil name D)
    have hD' := grown.keeps.locate_dir hD
    refine ⟨rfl, D, hD', ?_⟩
    rw [Files.locate_name hD' hn short (by simp [file]) usable, file]

/-! ## Turns -/

/-- What happens next to the store or to the files around it. -/
inductive Turn where
  /-- An upload under the identifier with this number. -/
  | store (n : Nat) (suffix : String) (data : Bytes)
  | read (path : String)
  /-- Other programs change the files into these. -/
  | others (after : Files)

/-- An upload that was accepted, with the path that was given for it. -/
structure Accepted where
  path : String
  suffix : String
  data : Bytes
  deriving DecidableEq, Repr

structure History where
  files : Files
  /-- The uploads accepted so far, the first one first. -/
  accepted : List Accepted
  deriving DecidableEq, Repr

namespace Turn

def id? : Turn → Option String
  | store n _ _ => some (Uuid.v4 n)
  | _ => none

def files (s : UploadStore) (cwd : Place) (fs : Files) : Turn → Files
  | store n suffix data => (s.store cwd fs (Uuid.v4 n) suffix data).1
  | read _ => fs
  | others after => after

def accepted (s : UploadStore) (cwd : Place) (fs : Files) : Turn → List Accepted
  | store n suffix data =>
    match (s.store cwd fs (Uuid.v4 n) suffix data).2.1 with
    | .ok path => [⟨path, suffix, data⟩]
    | .error _ => []
  | read _ | others _ => []

end Turn

namespace History

def turn (s : UploadStore) (cwd : Place) (h : History) (t : Turn) : History :=
  ⟨t.files s cwd h.files, h.accepted ++ t.accepted s cwd h.files⟩

def run (s : UploadStore) (cwd : Place) (h : History) (turns : List Turn) : History :=
  turns.foldl (turn s cwd) h

end History

/-- Other programs leave the directory alone: the way to it and what is in it stay, and no name is
taken there. -/
structure Elsewhere (s : UploadStore) (cwd : Place) (fs fs' : Files) : Prop extends
    s.Spares cwd fs fs' where
  free : ∀ name, s.Free cwd fs name → s.Free cwd fs' name

/-- Whenever it is the turn of other programs, they leave the directory alone. -/
def Alone (s : UploadStore) (cwd : Place) : Files → List Turn → Prop
  | _, [] => True
  | fs, t :: turns =>
    (∀ after, t = .others after → s.Elsewhere cwd fs after) ∧ Alone s cwd (t.files s cwd fs) turns

/-- Turns among which no identifier comes twice and nobody else writes into the directory. No name
that will be given is taken there from the start. -/
structure Orderly (s : UploadStore) (cwd : Place) (fs : Files) (turns : List Turn) : Prop where
  distinct : (turns.filterMap Turn.id?).Nodup
  suffixes : ∀ n suffix data, .store n suffix data ∈ turns → '/' ∉ suffix.toList
  free : ∀ n suffix data, .store n suffix data ∈ turns → s.Free cwd fs (Uuid.v4 n ++ suffix)
  alone : s.Alone cwd fs turns

section

variable {t : Turn} {turns front back : List Turn} {h : History} {u : Accepted}

theorem Orderly.outcome (ho : s.Orderly cwd fs (.store n suffix data :: turns))
    (ha : Path.isAbsolute s.path = true) :
    Path.IsName (Uuid.v4 n ++ suffix) ∧ Outcome s cwd fs (Uuid.v4 n ++ suffix) data
      (s.store cwd fs (Uuid.v4 n) suffix data).1 (s.store cwd fs (Uuid.v4 n) suffix data).2.1 := by
  have hn : Path.IsName (Uuid.v4 n ++ suffix) :=
    isName_of_append (ho.suffixes n suffix data List.mem_cons_self)
  exact ⟨hn, store_outcome ha hn (ho.free n suffix data List.mem_cons_self) data⟩

/-- After one turn the others are in order still. -/
theorem Orderly.tail (ho : s.Orderly cwd fs (t :: turns)) (ha : Path.isAbsolute s.path = true) :
    s.Orderly cwd (t.files s cwd fs) turns where
  distinct := ho.distinct.sublist ((List.sublist_cons_self t turns).filterMap _)
  suffixes n suffix data hm := ho.suffixes n suffix data (List.mem_cons_of_mem _ hm)
  free := by
    intro n suffix data hm
    have before := ho.free n suffix data (List.mem_cons_of_mem _ hm)
    cases t with
    | read => exact before
    | others after => exact (ho.alone.1 after rfl).free _ before
    | store m suffix' data' =>
      refine (ho.outcome ha).2.free ha before fun he => ?_
      have fresh : Uuid.v4 m ∉ turns.filterMap Turn.id? := (List.nodup_cons.1 ho.distinct).1
      exact fresh ((v4_inj he).1 ▸ List.mem_filterMap.2 ⟨_, hm, rfl⟩)
  alone := ho.alone.2

/-- One turn leaves the directory as it is, but for what is stored in it. -/
theorem Orderly.spares (ho : s.Orderly cwd fs (t :: turns)) (ha : Path.isAbsolute s.path = true) :
    s.Spares cwd fs (t.files s cwd fs) := by
  cases t with
  | read => exact .of_extends fun _ _ => id
  | others after => exact (ho.alone.1 after rfl).toSpares
  | store n suffix data => exact .of_extends ((ho.outcome ha).2.extended ha)

/-! ## Accepted uploads -/

/-- The upload lies in the directory, where its path says. -/
def Holds (s : UploadStore) (cwd : Place) (fs : Files) (u : Accepted) : Prop :=
  ∃ n, Path.IsName (Uuid.v4 n ++ u.suffix) ∧
    u.path = Path.join s.path (Uuid.v4 n ++ u.suffix) ∧
    s.Lies cwd fs (Uuid.v4 n ++ u.suffix) u.data

theorem Holds.spared (h : s.Holds cwd fs u) (hs : s.Spares cwd fs fs') : s.Holds cwd fs' u := by
  obtain ⟨n, hn, hp, hl⟩ := h
  exact ⟨n, hn, hp, hl.spared hn hs⟩

/-- What was accepted lies in the directory, each upload under a path of its own. -/
structure Sound (s : UploadStore) (cwd : Place) (h : History) : Prop where
  holds : ∀ u ∈ h.accepted, s.Holds cwd h.files u
  nodup : (h.accepted.map (·.path)).Nodup

/-- What lies in the directory has not the path of an upload that is put into a free place. -/
theorem Sound.path_notMem (hs : s.Sound cwd h) (ha : Path.isAbsolute s.path = true)
    (hn : Path.IsName name) (ho : Outcome s cwd h.files name data fs' (.ok path)) :
    path ∉ h.accepted.map (·.path) := by
  intro hm
  obtain ⟨u, hu, hpath⟩ := List.mem_map.1 hm
  obtain ⟨n, hn', hp, D, hD, hfile⟩ := hs.holds u hu
  have there : h.files.get? ((Uuid.v4 n ++ u.suffix) :: D) = some (.file u.data defaultMode) :=
    (Files.locate_eq_ok_iff.1 hfile).2.1.symm
  have same : name = Uuid.v4 n ++ u.suffix :=
    hn.join_inj hn' (Path.ne_empty_of_isAbsolute ha)
      (((lies_of_stored ho hn).1.symm.trans hpath.symm).trans hp)
  cases ho with
  | stored hr hD' free _ _ =>
    have made := made_of_makeReady ha hr
    cases hD'.symm.trans (made.keeps.locate_dir hD)
    rw [same, made.get?_eq there] at free
    cases free

/-- Every turn keeps what lies in the directory. An upload that is accepted joins it. -/
theorem Sound.turn (hs : s.Sound cwd h) (ho : s.Orderly cwd h.files (t :: turns))
    (ha : Path.isAbsolute s.path = true) : s.Sound cwd (h.turn s cwd t) := by
  have old : ∀ u ∈ h.accepted, s.Holds cwd (t.files s cwd h.files) u :=
    fun u hu => (hs.holds u hu).spared (ho.spares ha)
  have unchanged (none : t.accepted s cwd h.files = []) : s.Sound cwd (h.turn s cwd t) := by
    rw [History.turn, none, List.append_nil]
    exact ⟨old, hs.nodup⟩
  cases t with
  | read => exact unchanged rfl
  | others => exact unchanged rfl
  | store n suffix data =>
    obtain ⟨hn, outcome⟩ := ho.outcome ha
    cases answer : (s.store cwd h.files (Uuid.v4 n) suffix data).2.1 with
    | error => exact unchanged (by rw [Turn.accepted, answer])
    | ok path =>
      rw [answer] at outcome
      obtain ⟨hp, hl⟩ := lies_of_stored outcome hn
      rw [History.turn, Turn.accepted, answer]
      constructor
      · intro u hu
        rcases List.mem_append.1 hu with hu | hu
        · exact old u hu
        · rw [List.mem_singleton.1 hu]
          exact ⟨n, hn, hp, hl⟩
      · rw [List.map_append, List.nodup_append]
        refine ⟨hs.nodup, List.pairwise_singleton _ _, fun old hold new hnew => ?_⟩
        rw [List.mem_singleton.1 hnew]
        exact fun (same : old = path) => hs.path_notMem ha hn outcome (same ▸ hold)

theorem Sound.run (hs : s.Sound cwd h) (ho : s.Orderly cwd h.files turns)
    (ha : Path.isAbsolute s.path = true) : s.Sound cwd (h.run s cwd turns) := by
  induction turns generalizing h with
  | nil => exact hs
  | cons t turns ih => exact ih (hs.turn ho ha) (ho.tail ha)

/-! ## Runs -/

theorem Orderly.run (ho : s.Orderly cwd h.files (front ++ back))
    (ha : Path.isAbsolute s.path = true) : s.Orderly cwd (h.run s cwd front).files back := by
  induction front generalizing h with
  | nil => exact ho
  | cons t front ih =>
    rw [List.cons_append] at ho
    exact ih (ho.tail ha)

theorem alone_append_iff : s.Alone cwd h.files (front ++ back) ↔
    s.Alone cwd h.files front ∧ s.Alone cwd (h.run s cwd front).files back := by
  induction front generalizing h with
  | nil => exact (and_iff_right trivial).symm
  | cons t front ih =>
    rw [List.cons_append, Alone, Alone, and_assoc]
    exact and_congr_right fun _ => @ih (h.turn s cwd t)

theorem Orderly.left (ho : s.Orderly cwd h.files (front ++ back)) :
    s.Orderly cwd h.files front where
  distinct := ho.distinct.sublist ((List.sublist_append_left front back).filterMap _)
  suffixes n suffix data hm := ho.suffixes n suffix data (List.mem_append_left _ hm)
  free n suffix data hm := ho.free n suffix data (List.mem_append_left _ hm)
  alone := (alone_append_iff.1 ho.alone).1

theorem run_append (h : History) (front back : List Turn) :
    h.run s cwd (front ++ back) = (h.run s cwd front).run s cwd back := List.foldl_append

theorem accepted_prefix_run (h : History) (turns : List Turn) :
    h.accepted <+: (h.run s cwd turns).accepted := by
  induction turns generalizing h with
  | nil => exact List.prefix_refl _
  | cons t turns ih => exact (List.prefix_append _ _).trans (ih (h.turn s cwd t))

/-- The upload is a file in the directory, under an absolute path that ends as it was asked for,
and what is read there is what was stored. -/
structure Stays (s : UploadStore) (cwd : Place) (fs : Files) (u : Accepted) : Prop where
  absolute : Path.isAbsolute u.path = true
  ends : u.suffix.toList <:+ u.path.toList
  child : ∃ name D, u.path = Path.join s.path name ∧
    Path.parts u.path = Path.parts s.path ++ [name] ∧
    fs.locate cwd s.path true = .ok ⟨D, some .dir⟩ ∧
    fs.locate cwd u.path true = .ok ⟨name :: D, some (.file u.data defaultMode)⟩
  read : read cwd fs u.path = .ok u.data

theorem Sound.stays (hs : s.Sound cwd h) (ha : Path.isAbsolute s.path = true)
    (hu : u ∈ h.accepted) : s.Stays cwd h.files u := by
  obtain ⟨n, hn, hp, hl⟩ := hs.holds u hu
  obtain ⟨D, hD, hfile⟩ := id hl
  have parts := hn.parts_join (Path.ne_empty_of_isAbsolute ha)
  rw [← hp] at parts hfile
  obtain ⟨x, -, text⟩ := Path.toList_join hn.not_isAbsolute (Path.ne_empty_of_isAbsolute ha)
  refine ⟨hp ▸ Path.isAbsolute_join_left ha, ?_, ⟨_, D, hp, parts, hD, hfile⟩, hp ▸ hl.read⟩
  rw [hp, text, String.toList_append]
  exact ⟨x.toList ++ '/' :: (Uuid.v4 n).toList, by simp⟩

/-- At every time in the course of orderly turns, each upload accepted until then is a file in the
directory, under an absolute path of its own that ends as it was asked for, and what is read there
is what was stored; this is still so after all the turns that come. A store that comes next changes
nothing that is there, whether or not the upload is accepted, and a reading changes nothing at
all. -/
theorem accepted_uploads_stay {cwdPath asked : String} {now : History}
    (hs : create cwdPath asked = .ok s) (hc : Path.isAbsolute cwdPath = true)
    (ho : s.Orderly cwd fs (front ++ back)) (hnow : History.run s cwd ⟨fs, []⟩ front = now) :
    (∀ u ∈ now.accepted, s.Stays cwd now.files u ∧ s.Stays cwd (now.run s cwd back).files u) ∧
    (now.accepted.map (·.path)).Nodup ∧
    now.accepted <+: (now.run s cwd back).accepted ∧
    (∀ n suffix data rest, back = .store n suffix data :: rest →
      now.files.Extends (s.store cwd now.files (Uuid.v4 n) suffix data).1) ∧
    ∀ path, now.turn s cwd (.read path) = now := by
  have ha := isAbsolute_of_create hs hc
  have start : s.Sound cwd ⟨fs, []⟩ := ⟨nofun, List.nodup_nil⟩
  have sound := start.run (@Orderly.left _ _ _ _ ⟨fs, []⟩ ho) ha
  have order : s.Orderly cwd now.files back := by
    rw [← hnow]
    exact ho.run ha
  rw [hnow] at sound
  have later := sound.run order ha
  have kept : now.accepted <+: (now.run s cwd back).accepted := accepted_prefix_run now back
  refine ⟨fun u hu => ⟨sound.stays ha hu, later.stays ha (kept.subset hu)⟩, sound.nodup, kept,
    ?_, ?_⟩
  · rintro n suffix data rest rfl
    exact (order.outcome ha).2.extended ha
  · intro path
    rw [History.turn, Turn.accepted, List.append_nil, Turn.files]

/-- Other programs that put a file somewhere else leave the directory alone. -/
theorem elsewhere_set {p : Place} {e : Entry} (ha : Path.isAbsolute s.path = true)
    (hD : fs.locate cwd s.path true = .ok ⟨D, some .dir⟩) (hp : p.tail ≠ D)
    (hd : fs.get? p ≠ some .dir) (hl : ∀ t, fs.get? p ≠ some (.link t)) :
    s.Elsewhere cwd fs (fs.set p e) := by
  have same (name : String) : (fs.set p e).get? (name :: D) = fs.get? (name :: D) :=
    Files.get?_set_of_ne _ _ fun h => hp (h ▸ rfl)
  have keeps : fs.Keeps (fs.set p e) := Files.keeps_set hd hl
  have hD' := keeps.locate_dir hD
  refine ⟨⟨keeps, fun D' h name e he => ?_⟩, fun name free ready D' hr h e he => ?_⟩
  · cases hD.symm.trans h
    rw [same, he]
  · cases hr.symm.trans (makeReady_of_isDir ha (Files.isDir_iff.2 ⟨D, hD'⟩))
    cases hD'.symm.trans h
    rw [same] at he
    exact free fs D (makeReady_of_isDir ha (Files.isDir_iff.2 ⟨D, hD⟩)) hD e he

end

/-! ### A box of uploads -/

def box : UploadStore := ⟨"/up"⟩

/-- One upload is accepted, one is refused, and then something is read that is not there. -/
def early : List Turn := [.store 1 ".png" [0x89], .store 2 "\x00" [], .read "/up/none"]

/-- The box with one upload in it. -/
def oneUpload : Files :=
  ⟨[(["00000000-0000-4000-8000-000000000001.png", "up"], .file [0x89] defaultMode),
    (["up"], .dir)]⟩

/-- Another program leaves a note beside the box. -/
def noted : Files := oneUpload.set ["note"] (.file [] defaultMode)

def first : Accepted := ⟨"/up/00000000-0000-4000-8000-000000000001.png", ".png", [0x89]⟩

theorem run_early : History.run box [] ⟨.empty, []⟩ early = ⟨oneUpload, [first]⟩ := by
  decide +kernel

theorem located_box : oneUpload.locate [] box.path true = .ok ⟨["up"], some .dir⟩ := by
  decide +kernel

/-- Up to the note all is in order, and so it is if an empty upload follows. -/
theorem orderly_box : box.Orderly [] .empty ((early ++ [.others noted]) ++ [.store 3 "" []]) where
  distinct := by decide +kernel
  suffixes := by
    intro n suffix data hm
    simp only [early, List.cons_append, List.nil_append, List.mem_cons, List.not_mem_nil,
      Turn.store.injEq, reduceCtorEq, or_false, false_or] at hm
    rcases hm with ⟨-, rfl, -⟩ | ⟨-, rfl, -⟩ | ⟨-, rfl, -⟩ <;> decide
  free := fun _ _ _ _ _ _ _ _ _ he => nomatch he
  alone := by
    have beside : box.Elsewhere [] oneUpload noted :=
      elsewhere_set rfl located_box (by decide) (by decide) fun _ => nofun
    rw [List.append_assoc]
    refine (@alone_append_iff _ _ _ _ ⟨.empty, []⟩).2 ⟨⟨nofun, nofun, nofun, trivial⟩, ?_⟩
    rw [run_early]
    refine ⟨?_, nofun, trivial⟩
    rintro after ⟨⟩
    exact beside

/-- The first upload is read again when other uploads were refused and accepted and a note was put
beside the box. -/
theorem first_stays_in_box :
    (create "/" "up" = .ok box ∧ Path.isAbsolute "/" = true) ∧
    box.Orderly [] .empty ((early ++ [.others noted]) ++ [.store 3 "" []]) ∧
    History.run box [] ⟨.empty, []⟩ (early ++ [.others noted]) = ⟨noted, [first]⟩ ∧
    read [] ((History.mk noted [first]).run box [] [.store 3 "" []]).files first.path =
      .ok [0x89] := by
  have created : create "/" "up" = .ok box := by decide +kernel
  have run : History.run box [] ⟨.empty, []⟩ (early ++ [.others noted]) = ⟨noted, [first]⟩ := by
    rw [run_append, run_early]
    rfl
  obtain ⟨stays, -⟩ := accepted_uploads_stay created (by decide) orderly_box run
  exact ⟨⟨created, by decide⟩, orderly_box, run, (stays first List.mem_cons_self).2.read⟩

end UploadStore

end ImageGateway
