import ImageGateway.Config
import ImageGateway.Proofs.Request
import ImageGateway.Proofs.Toml.Keys

/-!
What a configuration is read from. A document has a table for the service, one for the image
program, which counts as empty if it is left out, and one for the uploads (`Config.Sections`). A
configuration is read from it if its values stand there under their names (`Config.StatedIn`); this
is so for some configuration if the values that have to be there are there and all have the right
type (`Config.Acceptable`). So neither other names nor the order count
(`Config.sections_decide_config`).
-/

namespace ImageGateway

namespace Toml

variable {α : Type} {f : Decoder α} {toToml : α → Toml} {name : String} {es es' : Entries} {v : Toml}
  {a : α} {o : Option α}

/-! ## Values that are taken -/

theorem asText_eq_ok_iff {wanted s : String} : asText wanted v = .ok s ↔ v = .string s := by
  cases v <;> simp [asText, wrongType]

theorem asNatural_eq_ok_iff {wanted : String} {n : Nat} :
    asNatural wanted v = .ok n ↔ v = .integer n := by
  cases v with
  | integer k =>
    by_cases hk : 0 ≤ k
    · simp only [asNatural, if_pos hk, Except.ok.injEq, integer.injEq]
      omega
    · simp only [asNatural, if_neg hk, integer.injEq, reduceCtorEq, false_iff]
      omega
  | _ => simp [asNatural, wrongType]

theorem asBoolean_eq_ok_iff {b : Bool} : asBoolean v = .ok b ↔ v = .boolean b := by
  cases v <;> simp [asBoolean, wrongType]

/-! ## Fields -/

theorem field?_of_mem (h : (es.map Prod.fst).Nodup) (hv : (name, v) ∈ es) :
    field? name f es = (f v).map some := by
  rw [field?, (Entries.mem_iff_lookup h).1 hv]

theorem field?_of_absent (h : ∀ v, (name, v) ∉ es) : field? name f es = .ok none := by
  rw [field?]
  split
  · rename_i v hv
    exact absurd (Entries.mem_of_lookup hv) (h v)
  · rfl

theorem field_eq_ok_iff : field name f es = .ok a ↔ field? name f es = .ok (some a) := by
  rw [field]
  cases field? name f es with
  | error e => simp [bind, Except.bind]
  | ok o => cases o <;> simp [bind, Except.bind, pure, Except.pure, throw, throwThe,
      MonadExceptOf.throw]

theorem field_of_mem (h : (es.map Prod.fst).Nodup) (hv : (name, v) ∈ es) :
    field name f es = .ok a ↔ f v = .ok a := by
  rw [field_eq_ok_iff, field?_of_mem h hv, map_eq_ok_iff]
  simp

theorem field_of_absent (h : ∀ v, (name, v) ∉ es) : field name f es ≠ .ok a := by
  rw [ne_eq, field_eq_ok_iff, field?_of_absent h]
  simp

/-- A field that was taken has the right shape wherever it stands. -/
theorem shape_of_field? (h : (es.map Prod.fst).Nodup) (ho : field? name f es = .ok o)
    (v : Toml) (hv : (name, v) ∈ es) : shape f v = .ok ⟨⟩ := by
  rw [field?_of_mem h hv, map_eq_ok_iff] at ho
  obtain ⟨a, ha, -⟩ := ho
  rw [shape, ha]
  rfl

theorem forM_eq_ok_iff {β : Type} {xs : List β} {g : β → Except Mismatch PUnit} {u : PUnit} :
    xs.forM g = .ok u ↔ ∀ x ∈ xs, g x = .ok ⟨⟩ := by
  induction xs with
  | nil => simp [List.forM, pure, Except.pure]
  | cons x xs ih =>
    rw [List.forM, bind_eq_ok_iff, List.forall_mem_cons, ← ih]
    exact ⟨fun ⟨_, hx, hxs⟩ => ⟨hx, hxs⟩, fun ⟨hx, hxs⟩ => ⟨_, hx, hxs⟩⟩

/-- The entries pass if whatever stands under a known name does. -/
theorem checkEntries_of_forall {known : List (String × Decoder PUnit)}
    (h : ∀ x ∈ known, ∀ v, (x.1, v) ∈ es → x.2 v = .ok ⟨⟩) : checkEntries known es = .ok ⟨⟩ := by
  refine forM_eq_ok_iff.2 fun e he => ?_
  split
  · rename_i f hf
    exact h (e.1, f) (Entries.mem_of_lookup hf) e.2 he
  · rfl

/-! ## Fields of a table -/

/-- What an optional field holds: what stands under its name, and nothing if there is no such
entry. -/
inductive Given (name : String) (toToml : α → Toml) (es : Entries) : Option α → Prop where
  | absent : (∀ v, (name, v) ∉ es) → Given name toToml es none
  | present {a : α} : (name, toToml a) ∈ es → Given name toToml es (some a)

theorem given_some_iff : Given name toToml es (some a) ↔ (name, toToml a) ∈ es := by
  constructor
  · rintro ⟨⟩
    assumption
  · exact .present

section

variable (h : (es.map Prod.fst).Nodup)
include h

theorem eq_of_mem {v w : Toml} (hv : (name, v) ∈ es) (hw : (name, w) ∈ es) : v = w := by
  rw [Entries.mem_iff_lookup h] at hv hw
  exact Option.some.inj (hv.symm.trans hw)

theorem exists_given_iff :
    (∃ o, Given name toToml es o) ↔ ∀ v, (name, v) ∈ es → ∃ a, v = toToml a := by
  constructor
  · rintro ⟨_, absent | ⟨present⟩⟩ v hv
    · exact absurd hv (absent v)
    · exact ⟨_, eq_of_mem h hv present⟩
  · intro shapes
    by_cases found : ∃ v, (name, v) ∈ es
    · obtain ⟨v, hv⟩ := found
      obtain ⟨a, rfl⟩ := shapes v hv
      exact ⟨_, .present hv⟩
    · exact ⟨none, .absent fun v hv => found ⟨v, hv⟩⟩

variable (hf : ∀ v a, f v = .ok a ↔ v = toToml a)
include hf

/-- An optional field is taken for what it holds. -/
theorem field?_eq_ok_iff : field? name f es = .ok o ↔ Given name toToml es o := by
  by_cases found : ∃ v, (name, v) ∈ es
  · obtain ⟨v, hv⟩ := found
    rw [field?_of_mem h hv, map_eq_ok_iff]
    simp only [hf]
    constructor
    · rintro ⟨a, rfl, rfl⟩
      exact .present hv
    · rintro (absent | ⟨present⟩)
      · exact absurd hv (absent v)
      · exact ⟨_, eq_of_mem h hv present, rfl⟩
  · have absent : ∀ v, (name, v) ∉ es := fun v hv => found ⟨v, hv⟩
    rw [field?_of_absent absent, Except.ok.injEq]
    constructor
    · rintro rfl
      exact .absent absent
    · rintro (_ | ⟨present⟩)
      · rfl
      · exact absurd present (absent _)

theorem field_eq_ok_iff_mem : field name f es = .ok a ↔ (name, toToml a) ∈ es := by
  rw [field_eq_ok_iff, field?_eq_ok_iff h hf, given_some_iff]

end

end Toml

open Toml

variable {es app program uploads : Entries}

/-! ## The tables -/

/-- The settings of the service stand among the entries. -/
structure AppSettings.StatedIn (s : AppSettings) (es : Entries) : Prop where
  listen : ("listen", .string s.listen) ∈ es
  metricsListen : ("metrics_listen", .string s.metricsListen) ∈ es
  maxBodySizeMb : ("max_body_size_mb", .integer s.maxBodySizeMb) ∈ es
  workerThreads : ("worker_threads", .integer s.workerThreads) ∈ es
  requestTimeoutSecs : Given "request_timeout_secs" (fun n : Nat => .integer n) es
    s.requestTimeoutSecs
  enableOpenApi : Given "enable_openapi" .boolean es s.enableOpenApi

theorem AppSettings.ofEntries_eq_ok_iff (h : (es.map Prod.fst).Nodup) {s : AppSettings} :
    AppSettings.ofEntries es = .ok s ↔ s.StatedIn es := by
  have text {name t : String} : field name (asText "a string") es = .ok t ↔
    (name, .string t) ∈ es := field_eq_ok_iff_mem h fun _ _ => asText_eq_ok_iff
  have size {name : String} {n : Nat} : field name (asNatural "usize") es = .ok n ↔
    (name, .integer n) ∈ es := field_eq_ok_iff_mem h fun _ _ => asNatural_eq_ok_iff
  have seconds {name : String} {o : Option Nat} : field? name (asNatural "u64") es = .ok o ↔
    Given name (fun n : Nat => .integer n) es o := field?_eq_ok_iff h fun _ _ => asNatural_eq_ok_iff
  have switch {name : String} {o : Option Bool} : field? name asBoolean es = .ok o ↔
    Given name .boolean es o := field?_eq_ok_iff h fun _ _ => asBoolean_eq_ok_iff
  simp only [AppSettings.ofEntries, bind_eq_ok_iff, pure, Except.pure, Except.ok.injEq]
  constructor
  · rintro ⟨_, -, _, hl, _, hm, _, hs, _, hw, _, ht, _, ho, rfl⟩
    exact ⟨text.1 hl, text.1 hm, size.1 hs, size.1 hw, seconds.1 ht, switch.1 ho⟩
  · rintro ⟨hl, hm, hs, hw, ht, ho⟩
    rw [← text] at hl hm
    rw [← size] at hs hw
    rw [← seconds] at ht
    rw [← switch] at ho
    refine ⟨⟨⟩, checkEntries_of_forall ?_, _, hl, _, hm, _, hs, _, hw, _, ht, _, ho, rfl⟩
    simp only [List.forall_mem_cons]
    exact ⟨shape_of_field? h (field_eq_ok_iff.1 hl), shape_of_field? h (field_eq_ok_iff.1 hm),
      shape_of_field? h (field_eq_ok_iff.1 hs), shape_of_field? h (field_eq_ok_iff.1 hw),
      shape_of_field? h ht, shape_of_field? h ho, List.forall_mem_nil _⟩

/-- The settings of the program stand among the entries, or are the usual ones where nothing stands
there. -/
structure ProgramSettings.StatedIn (s : ProgramSettings) (es : Entries) : Prop where
  workingDir : ∃ o, Given "working_dir" .string es o ∧ s.workingDir = o.getD "build"
  executable : ∃ o, Given "executable" .string es o ∧ s.executable = o.getD "KAI-impl"

theorem ProgramSettings.ofEntries_eq_ok_iff (h : (es.map Prod.fst).Nodup) {s : ProgramSettings} :
    ProgramSettings.ofEntries es = .ok s ↔ s.StatedIn es := by
  have dir {o : Option String} : field? "working_dir" (asText "path string") es = .ok o ↔
    Given "working_dir" .string es o := field?_eq_ok_iff h fun _ _ => asText_eq_ok_iff
  have exe {o : Option String} : field? "executable" (asText "a string") es = .ok o ↔
    Given "executable" .string es o := field?_eq_ok_iff h fun _ _ => asText_eq_ok_iff
  simp only [ProgramSettings.ofEntries, bind_eq_ok_iff, pure, Except.pure, Except.ok.injEq]
  constructor
  · rintro ⟨_, -, d, hd, e, he, rfl⟩
    exact ⟨⟨d, dir.1 hd, rfl⟩, ⟨e, exe.1 he, rfl⟩⟩
  · obtain ⟨workingDir, executable⟩ := s
    rintro ⟨⟨d, hd, rfl⟩, ⟨e, he, rfl⟩⟩
    rw [← dir] at hd
    rw [← exe] at he
    refine ⟨⟨⟩, checkEntries_of_forall ?_, d, hd, e, he, rfl⟩
    simp only [List.forall_mem_cons]
    exact ⟨shape_of_field? h hd, shape_of_field? h he, List.forall_mem_nil _⟩

/-- An empty table stands for the usual program. -/
theorem ProgramSettings.statedIn_nil_iff {s : ProgramSettings} : s.StatedIn [] ↔ s = {} := by
  have nothing {name : String} {o : Option String} : Given name .string [] o ↔ o = none := by
    constructor
    · rintro (_ | ⟨⟨⟩⟩)
      rfl
    · rintro rfl
      exact .absent fun _ => List.not_mem_nil
  obtain ⟨dir, exe⟩ := s
  constructor
  · rintro ⟨⟨_, hd, rfl⟩, ⟨_, he, rfl⟩⟩
    rw [nothing.1 hd, nothing.1 he]
    rfl
  · rintro ⟨⟩
    exact ⟨⟨none, nothing.2 rfl, rfl⟩, ⟨none, nothing.2 rfl, rfl⟩⟩

namespace Config

/-- The tables of a document. The one for the image program counts as empty if it is left out. -/
structure Sections (es app program uploads : Entries) : Prop where
  app : ∃ origin, ("app", .table origin app) ∈ es
  program : (∃ origin, ("kai", .table origin program) ∈ es) ∨
    (∀ v, ("kai", v) ∉ es) ∧ program = []
  uploads : ∃ origin, ("uploads", .table origin uploads) ∈ es

/-- No key stands twice in one of the tables. -/
theorem Sections.nodup (hs : Sections es app program uploads) (h : es.WellKeyed) :
    (app.map Prod.fst).Nodup ∧ (program.map Prod.fst).Nodup ∧ (uploads.map Prod.fst).Nodup := by
  have table {name : String} {origin : Origin} {sub : Entries}
      (hsub : (name, .table origin sub) ∈ es) : (sub.map Prod.fst).Nodup :=
    (wellKeyed_table_iff.1 (h.values _ hsub)).nodup
  obtain ⟨⟨_, ha⟩, hp, ⟨_, hu⟩⟩ := hs
  refine ⟨table ha, ?_, table hu⟩
  rcases hp with ⟨_, hp⟩ | ⟨-, rfl⟩
  · exact table hp
  · exact List.nodup_nil

/-- The values of the configuration stand in the tables under their names. -/
structure StatedIn (c : Config) (app program uploads : Entries) : Prop where
  app : c.app.StatedIn app
  program : c.program.StatedIn program
  uploadsPath : ("path", .string c.uploadsPath) ∈ uploads

/-- The values that have to be there are there, and all have the right type. -/
structure Acceptable (app program uploads : Entries) : Prop where
  listen : ∃ s, ("listen", .string s) ∈ app
  metricsListen : ∃ s, ("metrics_listen", .string s) ∈ app
  maxBodySizeMb : ∃ n : Nat, ("max_body_size_mb", .integer n) ∈ app
  workerThreads : ∃ n : Nat, ("worker_threads", .integer n) ∈ app
  requestTimeoutSecs : ∀ v, ("request_timeout_secs", v) ∈ app → ∃ n : Nat, v = .integer n
  enableOpenApi : ∀ v, ("enable_openapi", v) ∈ app → ∃ b, v = .boolean b
  workingDir : ∀ v, ("working_dir", v) ∈ program → ∃ s, v = .string s
  executable : ∀ v, ("executable", v) ∈ program → ∃ s, v = .string s
  uploadsPath : ∃ s, ("path", .string s) ∈ uploads

theorem exists_statedIn_iff (happ : (app.map Prod.fst).Nodup)
    (hprogram : (program.map Prod.fst).Nodup) :
    (∃ c : Config, c.StatedIn app program uploads) ↔ Acceptable app program uploads := by
  constructor
  · rintro ⟨c, ⟨hl, hm, hs, hw, ht, ho⟩, ⟨⟨d, hd, -⟩, ⟨e, he, -⟩⟩, hp⟩
    exact ⟨⟨_, hl⟩, ⟨_, hm⟩, ⟨_, hs⟩, ⟨_, hw⟩, (exists_given_iff happ).1 ⟨_, ht⟩,
      (exists_given_iff happ).1 ⟨_, ho⟩, (exists_given_iff hprogram).1 ⟨_, hd⟩,
      (exists_given_iff hprogram).1 ⟨_, he⟩, ⟨_, hp⟩⟩
  · rintro ⟨⟨listen, hl⟩, ⟨metrics, hm⟩, ⟨size, hs⟩, ⟨workers, hw⟩, ht, ho, hd, he, ⟨path, hp⟩⟩
    obtain ⟨timeout, ht⟩ := (exists_given_iff happ).2 ht
    obtain ⟨openApi, ho⟩ := (exists_given_iff happ).2 ho
    obtain ⟨dir, hd⟩ := (exists_given_iff hprogram).2 hd
    obtain ⟨exe, he⟩ := (exists_given_iff hprogram).2 he
    exact ⟨⟨⟨listen, metrics, size, workers, timeout, openApi⟩, .ofParts dir exe, path⟩,
      ⟨hl, hm, hs, hw, ht, ho⟩, ⟨⟨_, hd, rfl⟩, ⟨_, he, rfl⟩⟩, hp⟩

/-- The configuration in the entries of a document is the one that its tables state. -/
theorem ofEntries_eq_ok_iff (h : es.WellKeyed) (hs : Sections es app program uploads) {c : Config} :
    ofEntries es = .ok c ↔ c.StatedIn app program uploads := by
  obtain ⟨napp, nprogram, nuploads⟩ := hs.nodup h
  obtain ⟨⟨_, ha⟩, hp, ⟨_, hu⟩⟩ := hs
  have app_iff {a : AppSettings} : field "app" AppSettings.ofToml es = .ok a ↔
      a.StatedIn app := by
    rw [field_of_mem h.nodup ha]
    exact AppSettings.ofEntries_eq_ok_iff napp
  have uploads_iff {path : String} : field "uploads" uploadsPathOfToml es = .ok path ↔
      ("path", .string path) ∈ uploads := by
    rw [field_of_mem h.nodup hu]
    exact field_eq_ok_iff_mem nuploads fun _ _ => asText_eq_ok_iff
  have program_iff {s : ProgramSettings} :
      (∃ o, field? "kai" ProgramSettings.ofToml es = .ok o ∧ o.getD {} = s) ↔
        s.StatedIn program := by
    rcases hp with ⟨_, hp⟩ | ⟨absent, rfl⟩
    · rw [field?_of_mem h.nodup hp, ← ProgramSettings.ofEntries_eq_ok_iff nprogram]
      simp only [map_eq_ok_iff]
      constructor
      · rintro ⟨_, ⟨s, hs, rfl⟩, rfl⟩
        exact hs
      · exact fun hs => ⟨_, ⟨s, hs, rfl⟩, rfl⟩
    · rw [field?_of_absent absent, ProgramSettings.statedIn_nil_iff]
      simp [eq_comm]
  simp only [ofEntries, bind_eq_ok_iff, pure, Except.pure, Except.ok.injEq]
  constructor
  · rintro ⟨_, -, a, ha, o, ho, path, hpath, rfl⟩
    exact ⟨app_iff.1 ha, program_iff.1 ⟨o, ho, rfl⟩, uploads_iff.1 hpath⟩
  · obtain ⟨a, s, path⟩ := c
    rintro ⟨ha, hs, hpath⟩
    rw [← app_iff] at ha
    rw [← uploads_iff] at hpath
    obtain ⟨o, ho, rfl⟩ := program_iff.2 hs
    refine ⟨⟨⟩, checkEntries_of_forall ?_, _, ha, _, ho, _, hpath, rfl⟩
    simp only [List.forall_mem_cons]
    exact ⟨shape_of_field? h.nodup (field_eq_ok_iff.1 ha), shape_of_field? h.nodup ho,
      shape_of_field? h.nodup (field_eq_ok_iff.1 hpath), List.forall_mem_nil _⟩

theorem ofText_eq_ok_iff {text : String} (h : Toml.read? text.toList = some es) {c : Config} :
    ofText text = .ok c ↔ ofEntries es = .ok c := by
  rw [ofText, h]
  exact mapError_eq_ok_iff

end Config

/-! ## Order and other names -/

/-- The entries under the names are the same in both, in whatever order; other entries do not
count. -/
def Toml.Rearranged (names : List String) (es es' : Entries) : Prop :=
  (es.filter (·.1 ∈ names)).Perm (es'.filter (·.1 ∈ names))

namespace Toml

variable {names : List String}

theorem Rearranged.mem_iff (h : Rearranged names es es') (hn : name ∈ names) :
    (name, v) ∈ es ↔ (name, v) ∈ es' := by
  have same : (name, v) ∈ es.filter (·.1 ∈ names) ↔ (name, v) ∈ es'.filter (·.1 ∈ names) :=
    List.Perm.mem_iff h
  simpa [hn] using same

theorem Rearranged.symm (h : Rearranged names es es') : Rearranged names es' es := List.Perm.symm h

theorem Given.congr (h : ∀ v, (name, v) ∈ es ↔ (name, v) ∈ es') (hg : Given name toToml es o) :
    Given name toToml es' o := by
  rcases hg with absent | ⟨present⟩
  · exact .absent fun v hv => absent v ((h v).2 hv)
  · exact .present ((h _).1 present)

end Toml

variable {es' app' program' uploads' : Entries}

/-- The names that the table for the service knows. -/
def AppSettings.names : List String :=
  ["listen", "metrics_listen", "max_body_size_mb", "worker_threads", "request_timeout_secs",
    "enable_openapi"]

/-- The names that the table for the image program knows. -/
def ProgramSettings.names : List String := ["working_dir", "executable"]

theorem AppSettings.StatedIn.rearranged {s : AppSettings} (h : Rearranged names es es')
    (hs : s.StatedIn es) : s.StatedIn es' := by
  have same {name : String} (hn : name ∈ names) (v : Toml) := h.mem_iff hn (v := v)
  obtain ⟨listen, metrics, size, workers, timeout, openApi⟩ := hs
  exact ⟨(same (by decide) _).1 listen, (same (by decide) _).1 metrics,
    (same (by decide) _).1 size, (same (by decide) _).1 workers, timeout.congr (same (by decide)),
    openApi.congr (same (by decide))⟩

theorem ProgramSettings.StatedIn.rearranged {s : ProgramSettings} (h : Rearranged names es es')
    (hs : s.StatedIn es) : s.StatedIn es' := by
  have same {name : String} (hn : name ∈ names) (v : Toml) := h.mem_iff hn (v := v)
  obtain ⟨⟨dir, hdir, rdir⟩, ⟨exe, hexe, rexe⟩⟩ := hs
  exact ⟨⟨dir, hdir.congr (same (by decide)), rdir⟩, ⟨exe, hexe.congr (same (by decide)), rexe⟩⟩

namespace Config

theorem StatedIn.rearranged {c : Config} (ha : Rearranged AppSettings.names app app')
    (hp : Rearranged ProgramSettings.names program program')
    (hu : Rearranged ["path"] uploads uploads') (hc : c.StatedIn app program uploads) :
    c.StatedIn app' program' uploads' :=
  ⟨hc.app.rearranged ha, hc.program.rearranged hp, (hu.mem_iff (by decide)).1 hc.uploadsPath⟩

/-- Without a table that has to be there no configuration is read. -/
theorem ofEntries_of_absent {name : String} (hn : name ∈ ["app", "uploads"])
    (h : ∀ v, (name, v) ∉ es) (c : Config) : ofEntries es ≠ .ok c := by
  simp only [ofEntries, ne_eq, bind_eq_ok_iff]
  rintro ⟨_, -, a, ha, _, -, path, hpath, -⟩
  simp only [List.mem_cons, List.not_mem_nil, or_false] at hn
  rcases hn with rfl | rfl
  · exact field_of_absent h ha
  · exact field_of_absent h hpath

/-- A document with a table for the service, one for the uploads and, if it is not left out, one
for the image program is accepted if and only if the values that have to be there are there and all
have the right type. Then the configuration holds these values, and the usual ones where the table
for the program has none. Other names do not count, at the top or in one of the tables, nor does
the order. A document without a table for the service or for the uploads is refused. -/
theorem sections_decide_config {text : String} (h : Toml.read? text.toList = some es) :
    (∀ app program uploads, Sections es app program uploads →
      ((∃ c, ofText text = .ok c) ↔ Acceptable app program uploads) ∧
      (∀ c, ofText text = .ok c ↔ c.StatedIn app program uploads) ∧
      ∀ text' es' app' program' uploads', Toml.read? text'.toList = some es' →
        Sections es' app' program' uploads' → Rearranged AppSettings.names app app' →
        Rearranged ProgramSettings.names program program' → Rearranged ["path"] uploads uploads' →
        ∀ c, ofText text = .ok c ↔ ofText text' = .ok c) ∧
    ∀ name ∈ ["app", "uploads"], (∀ v, (name, v) ∉ es) → ∃ e, ofText text = .error e := by
  have read {text : String} {es app program uploads : Entries}
      (h : Toml.read? text.toList = some es) (hs : Sections es app program uploads) (c : Config) :
      ofText text = .ok c ↔ c.StatedIn app program uploads := by
    rw [ofText_eq_ok_iff h, ofEntries_eq_ok_iff (wellKeyed_of_read? h) hs]
  refine ⟨fun app program uploads hs => ⟨?_, read h hs, ?_⟩, fun name hn absent => ?_⟩
  · obtain ⟨happ, hprogram, -⟩ := hs.nodup (wellKeyed_of_read? h)
    simp only [read h hs]
    exact exists_statedIn_iff happ hprogram
  · intro text' es' app' program' uploads' h' hs' ha hp hu c
    rw [read h hs, read h' hs']
    exact ⟨.rearranged ha hp hu, .rearranged ha.symm hp.symm hu.symm⟩
  · cases hc : ofText text with
    | error e => exact ⟨e, rfl⟩
    | ok c => exact absurd ((ofText_eq_ok_iff h).1 hc) (ofEntries_of_absent hn absent c)

/-! ### One configuration in two documents -/

/-- A document with nothing but what has to be there. -/
def shortText : String :=
  "[app]\nlisten = \"a\"\nmetrics_listen = \"b\"\nmax_body_size_mb = 10\nworker_threads = 2\n" ++
    "[uploads]\npath = \"in\"\n"

def shortApp : Entries :=
  [("listen", .string "a"), ("metrics_listen", .string "b"), ("max_body_size_mb", .integer 10),
    ("worker_threads", .integer 2)]

def shortDocument : Entries :=
  [("app", .table .header shortApp), ("uploads", .table .header [("path", .string "in")])]

/-- The same in another order, among names that are not known there. -/
def longText : String :=
  "uploads.path = \"in\"\nuploads.listen = []\n[kai]\npath = 1\n[note]\npath = 1\n[app]\n" ++
    "worker_threads = 2\nkai = 1\nmax_body_size_mb = 10\nmetrics_listen = \"b\"\nlisten = \"a\"\n"

def longApp : Entries :=
  [("worker_threads", .integer 2), ("kai", .integer 1), ("max_body_size_mb", .integer 10),
    ("metrics_listen", .string "b"), ("listen", .string "a")]

def longDocument : Entries :=
  [("uploads", .table .dotted [("path", .string "in"), ("listen", .array [])]),
    ("kai", .table .header [("path", .integer 1)]),
    ("note", .table .header [("path", .integer 1)]), ("app", .table .header longApp)]

set_option maxRecDepth 10000 in
theorem read?_shortText : Toml.read? shortText.toList = some shortDocument := by
  with_unfolding_all rfl

set_option maxRecDepth 10000 in
theorem read?_longText : Toml.read? longText.toList = some longDocument := by
  with_unfolding_all rfl

theorem sections_shortDocument : Sections shortDocument shortApp [] [("path", .string "in")] :=
  ⟨⟨_, List.mem_cons_self ..⟩, .inr ⟨by simp [shortDocument], rfl⟩,
    ⟨.header, by simp [shortDocument]⟩⟩

theorem sections_longDocument : Sections longDocument longApp [("path", .integer 1)]
    [("path", .string "in"), ("listen", .array [])] :=
  ⟨⟨.header, by simp [longDocument]⟩, .inl ⟨.header, by simp [longDocument]⟩,
    ⟨_, List.mem_cons_self ..⟩⟩

def shortConfig : Config := ⟨⟨"a", "b", 10, 2, none, none⟩, {}, "in"⟩

theorem statedIn_shortApp : shortConfig.StatedIn shortApp [] [("path", .string "in")] := by
  have absent (name : String) (hn : name ∉ shortApp.map Prod.fst) (v : Toml) :
      (name, v) ∉ shortApp := fun hv => hn (List.mem_map_of_mem hv)
  refine ⟨⟨?_, ?_, ?_, ?_, .absent (absent _ (by decide)), .absent (absent _ (by decide))⟩,
    ProgramSettings.statedIn_nil_iff.2 rfl, List.mem_cons_self ..⟩
  all_goals simp [shortApp, shortConfig]

/-- The two documents are read as one configuration. -/
theorem longText_as_shortText :
    Toml.read? shortText.toList = some shortDocument ∧
    Sections shortDocument shortApp [] [("path", .string "in")] ∧
    Acceptable shortApp [] [("path", .string "in")] ∧ ofText shortText = .ok shortConfig ∧
    Rearranged AppSettings.names shortApp longApp ∧ ofText longText = .ok shortConfig := by
  obtain ⟨sections, -⟩ := sections_decide_config read?_shortText
  obtain ⟨accepted, decided, same⟩ := sections _ _ _ sections_shortDocument
  have read : ofText shortText = .ok shortConfig := (decided _).2 statedIn_shortApp
  have app : Rearranged AppSettings.names shortApp longApp := by
    -- backwards, and without the name that is not known
    have order : longApp.filter (·.1 ∈ AppSettings.names) =
        (shortApp.filter (·.1 ∈ AppSettings.names)).reverse := rfl
    rw [Rearranged, order]
    exact (List.reverse_perm _).symm
  exact ⟨read?_shortText, sections_shortDocument, accepted.1 ⟨_, read⟩, read, app,
    (same _ _ _ _ _ read?_longText sections_longDocument app (.refl _) (.refl _) _).1 read⟩

end Config

end ImageGateway
