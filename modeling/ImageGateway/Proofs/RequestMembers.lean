import ImageGateway.Proofs.RequestJson

/-!
Requests as JSON objects. Of the members only those with the four known keys count, and of these
only what stands at each key, in whatever order the members come (`Spelled`). Taking in one member
keeps track of what stands at each key (`drafted_snoc_iff`), so the members are taken in if every
known key stands there at most once with a value that its field takes (`foldlM_add_eq_ok_iff`). A
request is decoded if the members spell it (`ofJson_object_eq_ok_iff`); so order and unknown
members do not count, and a known key that is repeated is an error (`members_decide_request`).
-/

namespace ImageGateway

namespace Json

variable {α : Type} {f : Decoder α} {v : Json} {vs : List Json}

/-! ## Values that are taken -/

theorem wrongType_ne_ok {wanted : String} {a : α} : wrongType wanted v ≠ .ok a := by
  rw [wrongType]
  split <;> exact nofun

theorem asText_eq_ok_iff {s : String} : asText v = .ok s ↔ v = .string s := by
  cases v <;> simp [asText, wrongType_ne_ok]

theorem asList_eq_ok_iff {as : List α} : asList f v = .ok as ↔
    ∃ items, v = .array items ∧ List.Forall₂ (fun v a => f v = .ok a) items as := by
  cases v <;> simp [asList, wrongType_ne_ok, decodeItems_eq_ok_iff]

theorem asOptional_asText_eq_ok_iff {o : Option String} :
    asOptional asText v = .ok o ↔ (v = .null ∧ o = none) ∨ ∃ s, v = .string s ∧ o = some s := by
  by_cases null : v = .null
  · subst null
    simp [asOptional, eq_comm]
  · rw [asOptional, map_eq_ok_iff]
    · simp [null, asText_eq_ok_iff]
    · exact null

/-- A field takes one value, its first. -/
theorem fill_eq_ok_iff {name : String} {old new : Option α} : fill name f old v = .ok new ↔
    old = none ∧ ∃ a, f v = .ok a ∧ new = some a := by
  cases old with
  | some a => simp [fill]
  | none =>
    rw [fill, map_eq_ok_iff]
    simp [mapError_eq_ok_iff]

theorem skip_eq_ok_iff {u : PUnit} : skip v = .ok u ↔ v.wellFormed = true := by
  cases h : v.wellFormed <;> simp [skip, h]

/-- What a field holds when the values were met for it: nothing yet, or what its only value is
decoded to. -/
inductive Slot (f : Decoder α) : List Json → Option α → Prop where
  | empty : Slot f [] none
  | filled {v : Json} {a : α} : f v = .ok a → Slot f [v] (some a)

theorem slot_nil_iff {o : Option α} : Slot f [] o ↔ o = none := by
  constructor
  · rintro ⟨⟩
    rfl
  · rintro rfl
    exact .empty

theorem slot_none_iff : Slot f vs none ↔ vs = [] := by
  constructor
  · rintro ⟨⟩
    rfl
  · rintro rfl
    exact .empty

theorem slot_some_iff {a : α} : Slot f vs (some a) ↔ ∃ v, vs = [v] ∧ f v = .ok a := by
  constructor
  · rintro ⟨⟩
    exact ⟨_, rfl, ‹_›⟩
  · rintro ⟨v, rfl, h⟩
    exact .filled h

theorem exists_slot_iff {p : Option α → Prop} : (∃ o, Slot f vs o ∧ p o) ↔
    (vs = [] ∧ p none) ∨ ∃ v a, vs = [v] ∧ f v = .ok a ∧ p (some a) := by
  rw [Option.exists]
  simp only [slot_none_iff, slot_some_iff]
  constructor
  · rintro (h | ⟨a, ⟨v, rfl, ha⟩, hp⟩)
    · exact .inl h
    · exact .inr ⟨v, a, rfl, ha, hp⟩
  · rintro (h | ⟨v, a, rfl, ha, hp⟩)
    · exact .inl h
    · exact .inr ⟨a, ⟨v, rfl, ha⟩, hp⟩

theorem slot_asText_iff {s : String} : Slot asText vs (some s) ↔ vs = [.string s] := by
  simp only [slot_some_iff, asText_eq_ok_iff, exists_eq_right]

/-- One more value has to be the first. -/
theorem slot_snoc_iff {name : String} {new : Option α} :
    Slot f (vs ++ [v]) new ↔ ∃ old, Slot f vs old ∧ fill name f old v = .ok new := by
  simp only [fill_eq_ok_iff]
  cases new with
  | none => simp [slot_none_iff]
  | some a =>
    rw [slot_some_iff]
    constructor
    · rintro ⟨w, hw, ha⟩
      have alone : vs = [] ∧ v = w := by simpa [List.append_eq_singleton_iff] using hw
      obtain ⟨rfl, rfl⟩ := alone
      exact ⟨none, .empty, rfl, a, ha, rfl⟩
    · rintro ⟨_, hslot, rfl, a, ha, h⟩
      cases h
      rw [slot_none_iff.1 hslot]
      exact ⟨v, rfl, ha⟩

/-! ## Values that are read to their end -/

theorem itemsWellFormed_iff {vs : List Json} :
    itemsWellFormed vs = true ↔ ∀ v ∈ vs, v.wellFormed = true := by
  induction vs with
  | nil => simp [itemsWellFormed]
  | cons v vs ih => simp [itemsWellFormed, ih]

theorem membersWellFormed_iff {ms : List (Option String × Json)} :
    membersWellFormed ms = true ↔ ∀ m ∈ ms, m.2.wellFormed = true := by
  induction ms with
  | nil => simp [membersWellFormed]
  | cons m ms ih => simp [membersWellFormed, ih]

theorem wellFormed_of_readWord {word : String} {v w : Json} {s r : Source}
    (h : readWord word v s = (w, some r)) : w = v := by
  rw [readWord] at h
  split at h <;> cases h
  rfl

section

variable {fuel : Nat} {s rest : Source}
  (value : ∀ s v rest, readValue fuel s = (v, some rest) → v.wellFormed = true)
  (items : ∀ done s vs rest, readItems fuel done s = (vs, some rest) →
    (∀ v ∈ done, v.wellFormed = true) → ∀ v ∈ vs, v.wellFormed = true)
  (members : ∀ done s ms rest, readMembers fuel done s = (ms, some rest) →
    (∀ m ∈ done, m.2.wellFormed = true) → ∀ m ∈ ms, m.2.wellFormed = true)

include items members in
theorem wellFormed_of_readValue_succ (h : readValue (fuel + 1) s = (v, some rest)) :
    v.wellFormed = true := by
  rw [readValue] at h
  split at h
  · rw [wellFormed_of_readWord h]
    rfl
  · rw [wellFormed_of_readWord h]
    rfl
  · rw [wellFormed_of_readWord h]
    rfl
  · split at h <;> cases h <;> rfl
  · split at h
    · cases h
      rfl
    · obtain ⟨rfl, hrest⟩ := Prod.mk.inj h
      exact itemsWellFormed_iff.2 (items _ _ _ _ (Prod.ext rfl hrest) (List.forall_mem_nil _))
  · split at h
    · cases h
      rfl
    · obtain ⟨rfl, hrest⟩ := Prod.mk.inj h
      exact membersWellFormed_iff.2
        (members _ _ _ _ (Prod.ext rfl hrest) (List.forall_mem_nil _))
  · split at h <;> cases h
    rfl

include value items in
theorem wellFormed_of_readItems_succ {done : List Json}
    (h : readItems (fuel + 1) done s = (vs, some rest)) (hdone : ∀ v ∈ done, v.wellFormed = true) :
    ∀ v ∈ vs, v.wellFormed = true := by
  rw [readItems] at h
  split at h
  · cases h
  · rename_i w _ hw
    have hdone : ∀ v ∈ w :: done, v.wellFormed = true :=
      List.forall_mem_cons.2 ⟨value _ _ _ hw, hdone⟩
    split at h
    · cases h
      exact fun v hv => hdone v (List.mem_reverse.1 hv)
    · exact items _ _ _ _ h hdone
    · cases h

include value members in
theorem wellFormed_of_readMembers_succ {done ms : List (Option String × Json)}
    (h : readMembers (fuel + 1) done s = (ms, some rest))
    (hdone : ∀ m ∈ done, m.2.wellFormed = true) : ∀ m ∈ ms, m.2.wellFormed = true := by
  rw [readMembers] at h
  split at h
  · split at h
    · cases h
    · rename_i key _ _
      split at h
      · split at h
        · cases h
        · rename_i w _ hw
          have hdone : ∀ m ∈ (key, w) :: done, m.2.wellFormed = true :=
            List.forall_mem_cons.2 ⟨value _ _ _ hw, hdone⟩
          split at h
          · cases h
            exact fun m hm => hdone m (List.mem_reverse.1 hm)
          · exact members _ _ _ _ h hdone
          · cases h
      · cases h
  · cases h

end

/-- What is read to its end has nothing broken in it. -/
theorem wellFormed_of_reads (fuel : Nat) :
    (∀ s v rest, readValue fuel s = (v, some rest) → v.wellFormed = true) ∧
    (∀ done s vs rest, readItems fuel done s = (vs, some rest) →
      (∀ v ∈ done, v.wellFormed = true) → ∀ v ∈ vs, v.wellFormed = true) ∧
    ∀ done s ms rest, readMembers fuel done s = (ms, some rest) →
      (∀ m ∈ done, m.2.wellFormed = true) → ∀ m ∈ ms, m.2.wellFormed = true := by
  induction fuel with
  | zero =>
    refine ⟨fun _ _ _ h => ?_, fun _ _ _ _ h => ?_, fun _ _ _ _ h => ?_⟩
    · rw [readValue] at h
      cases h
    · rw [readItems] at h
      cases h
    · rw [readMembers] at h
      cases h
  | succ fuel ih =>
    obtain ⟨value, items, members⟩ := ih
    exact ⟨fun _ _ _ => wellFormed_of_readValue_succ items members,
      fun _ _ _ _ => wellFormed_of_readItems_succ value items,
      fun _ _ _ _ => wellFormed_of_readMembers_succ value members⟩

end Json

namespace Request

open Json

variable {ms ms' : List (String × Json)} {m : String × Json} {key k : String} {v : Json}
  {d d' : Draft} {r : Request}

/-! ## Taking in members -/

/-- The keys that a request knows. -/
def keys : List String := ["input_image_path", "options", "ml_config", "facial_img_dir"]

/-- The values that the members have at a key. -/
def valuesAt (key : String) (ms : List (String × Json)) : List Json :=
  (ms.filter (·.1 = key)).map (·.2)

theorem valuesAt_append (front back : List (String × Json)) :
    valuesAt key (front ++ back) = valuesAt key front ++ valuesAt key back := by
  rw [valuesAt, List.filter_append, List.map_append, valuesAt, valuesAt]

theorem valuesAt_cons :
    valuesAt key (m :: ms) = if m.1 = key then m.2 :: valuesAt key ms else valuesAt key ms := by
  by_cases h : m.1 = key <;> simp [valuesAt, h]

theorem valuesAt_nil : valuesAt key [] = [] := rfl

/-- What a member does to the field of a key: it fills it if it has that key. -/
def Takes {α : Type} (key : String) (f : Decoder α) (k : String) (v : Json) (old new : Option α) :
    Prop :=
  if k = key then fill key f old v = .ok new else new = old

theorem Draft.add_eq_ok_iff : d.add (some k, v) = .ok d' ↔
    (Takes "input_image_path" asText k v d.inputImagePath d'.inputImagePath ∧
      Takes "options" (asList Flag.ofJson) k v d.options d'.options ∧
      Takes "ml_config" asText k v d.mlConfig d'.mlConfig ∧
      Takes "facial_img_dir" (asOptional asText) k v d.facialImgDir d'.facialImgDir) ∧
      (k ∉ keys → v.wellFormed = true) := by
  obtain ⟨path, options, config, dir⟩ := d
  obtain ⟨path', options', config', dir'⟩ := d'
  rw [add]
  -- one case for each field, and one for a member that no field takes
  split_ifs with path options config dir
  · simp [Takes, path, keys, map_eq_ok_iff]
  · simp [Takes, options, keys, map_eq_ok_iff, and_left_comm]
  · simp [Takes, config, keys, map_eq_ok_iff, and_left_comm]
  · simp [Takes, dir, keys, map_eq_ok_iff, and_assoc, and_comm, and_left_comm]
  · simp [Takes, path, options, config, dir, keys, map_eq_ok_iff, skip_eq_ok_iff, and_comm]

theorem slot_valuesAt_snoc_iff {α : Type} {f : Decoder α} {new : Option α} :
    Slot f (valuesAt key (ms ++ [(k, v)])) new ↔
      ∃ old, Slot f (valuesAt key ms) old ∧ Takes key f k v old new := by
  simp only [valuesAt_append, valuesAt_cons, valuesAt_nil, Takes]
  split_ifs with h
  · exact slot_snoc_iff
  · simp

/-- The fields hold what the members have for them. -/
structure Drafted (ms : List (String × Json)) (d : Draft) : Prop where
  inputImagePath : Slot asText (valuesAt "input_image_path" ms) d.inputImagePath
  options : Slot (asList Flag.ofJson) (valuesAt "options" ms) d.options
  mlConfig : Slot asText (valuesAt "ml_config" ms) d.mlConfig
  facialImgDir : Slot (asOptional asText) (valuesAt "facial_img_dir" ms) d.facialImgDir
  others : ∀ m ∈ ms, m.1 ∉ keys → m.2.wellFormed = true

theorem drafted_nil_iff : Drafted [] d ↔ d = {} := by
  constructor
  · rintro ⟨path, options, config, dir, -⟩
    rw [Draft.mk.injEq]
    exact ⟨slot_nil_iff.1 path, slot_nil_iff.1 options, slot_nil_iff.1 config, slot_nil_iff.1 dir⟩
  · rintro rfl
    exact ⟨.empty, .empty, .empty, .empty, nofun⟩

/-- Taking in one more member keeps track of it. -/
theorem drafted_snoc_iff : Drafted (ms ++ [(k, v)]) d' ↔
    ∃ d, Drafted ms d ∧ d.add (some k, v) = .ok d' := by
  simp only [Draft.add_eq_ok_iff]
  constructor
  · rintro ⟨hpath, hoptions, hconfig, hdir, others⟩
    obtain ⟨path, hpath, tpath⟩ := slot_valuesAt_snoc_iff.1 hpath
    obtain ⟨options, hoptions, toptions⟩ := slot_valuesAt_snoc_iff.1 hoptions
    obtain ⟨config, hconfig, tconfig⟩ := slot_valuesAt_snoc_iff.1 hconfig
    obtain ⟨dir, hdir, tdir⟩ := slot_valuesAt_snoc_iff.1 hdir
    exact ⟨⟨path, options, config, dir⟩,
      ⟨hpath, hoptions, hconfig, hdir, fun m hm => others m (List.mem_append_left _ hm)⟩,
      ⟨tpath, toptions, tconfig, tdir⟩, others (k, v) (by simp)⟩
  · rintro ⟨d, h, ⟨tpath, toptions, tconfig, tdir⟩, last⟩
    refine ⟨slot_valuesAt_snoc_iff.2 ⟨_, h.inputImagePath, tpath⟩,
      slot_valuesAt_snoc_iff.2 ⟨_, h.options, toptions⟩,
      slot_valuesAt_snoc_iff.2 ⟨_, h.mlConfig, tconfig⟩,
      slot_valuesAt_snoc_iff.2 ⟨_, h.facialImgDir, tdir⟩, fun m hm => ?_⟩
    rcases List.mem_append.1 hm with hm | hm
    · exact h.others m hm
    · rw [List.mem_singleton.1 hm]
      exact last

/-- Members are taken in one after another if each known key stands there at most once, with a
value that its field takes. -/
theorem foldlM_add_eq_ok_iff :
    (ms.map (Prod.map some id)).foldlM Draft.add {} = .ok d ↔ Drafted ms d := by
  -- from the end, since what a member does depends on those before it
  induction ms using List.reverseRecOn generalizing d with
  | nil =>
    change Except.ok ({} : Draft) = .ok d ↔ Drafted [] d
    rw [drafted_nil_iff, Except.ok.injEq, eq_comm]
  | append_singleton ms m ih =>
    rw [List.map_append, List.foldlM_append, bind_eq_ok_iff, drafted_snoc_iff]
    simp only [ih, List.map_cons, List.map_nil, List.foldlM_cons, List.foldlM_nil, bind_pure]
    rfl

/-! ## Whole objects -/

/-- What stands at each known key spells the request. -/
structure Spelled (ms : List (String × Json)) (r : Request) : Prop where
  inputImagePath : valuesAt "input_image_path" ms = [.string r.inputImagePath]
  options : (valuesAt "options" ms = [] ∧ r.options = []) ∨
    ∃ items, valuesAt "options" ms = [.array items] ∧
      List.Forall₂ (fun v f => Flag.ofJson v = .ok f) items r.options
  mlConfig : valuesAt "ml_config" ms = [.string r.mlConfig]
  facialImgDir : (valuesAt "facial_img_dir" ms = [] ∧ r.facialImgDir = none) ∨
    (valuesAt "facial_img_dir" ms = [.null] ∧ r.facialImgDir = none) ∨
    ∃ dir, valuesAt "facial_img_dir" ms = [.string dir] ∧ r.facialImgDir = some dir

theorem Draft.finish_eq_ok_iff : d.finish = .ok r ↔
    d.inputImagePath = some r.inputImagePath ∧ d.options.getD [] = r.options ∧
      d.mlConfig = some r.mlConfig ∧ d.facialImgDir.join = r.facialImgDir := by
  have need_eq_ok_iff {name s : String} {o : Option String} : need name o = .ok s ↔ o = some s := by
    cases o <;> simp [need]
  obtain ⟨path, options, config, dir⟩ := r
  simp only [finish, bind_eq_ok_iff, need_eq_ok_iff, pure, Except.pure, Except.ok.injEq,
    Request.mk.injEq]
  constructor
  · rintro ⟨_, hpath, _, hconfig, rfl, hoptions, rfl, hdir⟩
    exact ⟨hpath, hoptions, hconfig, hdir⟩
  · rintro ⟨hpath, hoptions, hconfig, hdir⟩
    exact ⟨path, hpath, config, hconfig, rfl, hoptions, rfl, hdir⟩

theorem slot_options_iff {vs : List Json} {flags : List Flag} :
    (∃ o, Slot (asList Flag.ofJson) vs o ∧ o.getD [] = flags) ↔ (vs = [] ∧ flags = []) ∨
      ∃ items, vs = [.array items] ∧
        List.Forall₂ (fun v f => Flag.ofJson v = .ok f) items flags := by
  simp only [exists_slot_iff, asList_eq_ok_iff, Option.getD_none, Option.getD_some]
  refine or_congr (and_congr_right fun _ => eq_comm) ?_
  constructor
  · rintro ⟨_, _, rfl, ⟨items, rfl, h⟩, rfl⟩
    exact ⟨items, rfl, h⟩
  · rintro ⟨items, rfl, h⟩
    exact ⟨_, flags, rfl, ⟨items, rfl, h⟩, rfl⟩

theorem slot_facialImgDir_iff {vs : List Json} {dir : Option String} :
    (∃ o, Slot (asOptional asText) vs o ∧ o.join = dir) ↔ (vs = [] ∧ dir = none) ∨
      (vs = [.null] ∧ dir = none) ∨ ∃ s, vs = [.string s] ∧ dir = some s := by
  simp only [exists_slot_iff, asOptional_asText_eq_ok_iff]
  refine or_congr (and_congr_right fun _ => eq_comm) ?_
  constructor
  · rintro ⟨_, _, rfl, ⟨rfl, rfl⟩ | ⟨s, rfl, rfl⟩, rfl⟩
    · exact .inl ⟨rfl, rfl⟩
    · exact .inr ⟨s, rfl, rfl⟩
  · rintro (⟨rfl, rfl⟩ | ⟨s, rfl, rfl⟩)
    · exact ⟨_, none, rfl, .inl ⟨rfl, rfl⟩, rfl⟩
    · exact ⟨_, some s, rfl, .inr ⟨s, rfl, rfl⟩, rfl⟩

/-- The object with the given members. -/
def objectOf (ms : List (String × Json)) : Json := .object (ms.map (Prod.map some id))

/-- An object is decoded to the request that its members spell. -/
theorem ofJson_objectOf_eq_ok_iff : Request.ofJson (objectOf ms) = .ok r ↔
    Spelled ms r ∧ ∀ m ∈ ms, m.1 ∉ keys → m.2.wellFormed = true := by
  rw [objectOf, Request.ofJson, ofMembers, bind_eq_ok_iff]
  simp only [foldlM_add_eq_ok_iff, Draft.finish_eq_ok_iff]
  constructor
  · rintro ⟨d, h, path, options, config, dir⟩
    have hpath := h.inputImagePath
    have hconfig := h.mlConfig
    rw [path, slot_asText_iff] at hpath
    rw [config, slot_asText_iff] at hconfig
    exact ⟨⟨hpath, slot_options_iff.1 ⟨_, h.options, options⟩, hconfig,
      slot_facialImgDir_iff.1 ⟨_, h.facialImgDir, dir⟩⟩, h.others⟩
  · rintro ⟨⟨hpath, hoptions, hconfig, hdir⟩, others⟩
    obtain ⟨options, soptions, eoptions⟩ := slot_options_iff.2 hoptions
    obtain ⟨dir, sdir, edir⟩ := slot_facialImgDir_iff.2 hdir
    exact ⟨⟨some r.inputImagePath, options, some r.mlConfig, dir⟩,
      ⟨slot_asText_iff.2 hpath, soptions, slot_asText_iff.2 hconfig, sdir, others⟩,
      rfl, eoptions, rfl, edir⟩

/-! ## Presentation and content -/

theorem valuesAt_eq_nil (h : ∀ m ∈ ms, m.1 ≠ key) : valuesAt key ms = [] := by
  rw [valuesAt, List.map_eq_nil_iff, List.filter_eq_nil_iff]
  simpa using h

theorem valuesAt_perm (h : ms.Perm ms') : (valuesAt key ms).Perm (valuesAt key ms') :=
  (h.filter _).map _

theorem Spelled.length_le_one (h : Spelled ms r) (hkey : key ∈ keys) :
    (valuesAt key ms).length ≤ 1 := by
  obtain ⟨path, options, config, dir⟩ := h
  simp only [keys, List.mem_cons, List.not_mem_nil, or_false] at hkey
  rcases hkey with rfl | rfl | rfl | rfl
  · simp [path]
  · rcases options with ⟨h, -⟩ | ⟨_, h, -⟩ <;> simp [h]
  · simp [config]
  · rcases dir with ⟨h, -⟩ | ⟨h, -⟩ | ⟨_, h, -⟩ <;> simp [h]

/-- Only what stands at the known keys counts. -/
theorem Spelled.congr (h : ∀ key ∈ keys, valuesAt key ms' = valuesAt key ms) (hs : Spelled ms r) :
    Spelled ms' r := by
  obtain ⟨path, options, config, dir⟩ := hs
  rw [← h _ (by simp [keys])] at path options config dir
  exact ⟨path, options, config, dir⟩

theorem Spelled.perm (h : ms.Perm ms') (hs : Spelled ms r) : Spelled ms' r := by
  refine hs.congr fun key hkey => ?_
  have same : (valuesAt key ms).Perm (valuesAt key ms') := valuesAt_perm h
  match hv : valuesAt key ms, hs.length_le_one hkey with
  | [], _ => exact List.perm_nil.1 (hv ▸ same.symm)
  | [v], _ => exact List.perm_singleton.1 (hv ▸ same.symm)

variable {front back : List (String × Json)}

theorem valuesAt_insert (h : m.1 ≠ key) :
    valuesAt key (front ++ m :: back) = valuesAt key (front ++ back) := by
  rw [valuesAt_append, valuesAt_cons, if_neg h, valuesAt_append]

theorem spelled_insert_iff (h : m.1 ∉ keys) :
    Spelled (front ++ m :: back) r ↔ Spelled (front ++ back) r := by
  have same : ∀ key ∈ keys, valuesAt key (front ++ m :: back) = valuesAt key (front ++ back) :=
    fun key hkey => valuesAt_insert fun hm => h (hm ▸ hkey)
  exact ⟨.congr fun key hkey => (same key hkey).symm, .congr same⟩

/-- Null stands for no directory. -/
theorem spelled_null_iff (h : ∀ m ∈ front ++ back, m.1 ≠ "facial_img_dir") :
    Spelled (front ++ ("facial_img_dir", .null) :: back) r ↔ Spelled (front ++ back) r := by
  have missing := valuesAt_eq_nil h
  have null : valuesAt "facial_img_dir" (front ++ ("facial_img_dir", .null) :: back) = [.null] := by
    rw [valuesAt_append, List.append_eq_nil_iff] at missing
    rw [valuesAt_append, valuesAt_cons, if_pos rfl, missing.1, missing.2, List.nil_append]
  have same {key : String} (hkey : "facial_img_dir" ≠ key) :
      valuesAt key (front ++ ("facial_img_dir", .null) :: back) = valuesAt key (front ++ back) :=
    valuesAt_insert hkey
  constructor
  · rintro ⟨path, options, config, dir⟩
    rw [same (by decide)] at path options config
    rw [null] at dir
    exact ⟨path, options, config, .inl ⟨missing, by simpa using dir⟩⟩
  · rintro ⟨path, options, config, dir⟩
    rw [← same (by decide)] at path options config
    rw [missing] at dir
    exact ⟨path, options, config, .inr (.inl ⟨null, by simpa using dir⟩)⟩

/-- A document is decoded as its object is, in which nothing is broken then. -/
theorem decodeText_eq_ok_iff {alone : Bool} {source rest : Source}
    (h : read source = (objectOf ms, some rest)) : decodeText alone Request.ofJson source = .ok r ↔
      Spelled ms r ∧ (alone = true → skipBlank rest = []) := by
  have whole : ∀ m ∈ ms, m.2.wellFormed = true := fun m hm =>
    membersWellFormed_iff.1 ((wellFormed_of_reads _).1 _ _ _ h) _ (List.mem_map_of_mem hm)
  have object (r : Request) : Request.ofJson (objectOf ms) = .ok r ↔ Spelled ms r := by
    rw [ofJson_objectOf_eq_ok_iff, and_iff_left fun m hm _ => whole m hm]
  rw [decodeText, h]
  simp only [bind_eq_ok_iff, object]
  cases alone with
  | false => simp [pure, Except.pure]
  | true =>
    by_cases blank : skipBlank rest = []
    · simp [blank, pure, Except.pure]
    · simp [blank, throw, throwThe, MonadExceptOf.throw]

/-- Only what stands at the known keys of an object counts. A request is decoded if the keys that
it needs stand there once and the others at most once, with values of the right shape; then these
are its values. So the order of the members does not count, nor does any member with another key,
and no directory is the same as null; a known key that is repeated is an error. This is so for
whole documents too, which have nothing broken in them. -/
theorem members_decide_request :
    (∀ ms r, Request.ofJson (objectOf ms) = .ok r ↔
      Spelled ms r ∧ ∀ m ∈ ms, m.1 ∉ keys → m.2.wellFormed = true) ∧
    (∀ ms ms' r, ms.Perm ms' →
      (Request.ofJson (objectOf ms) = .ok r ↔ Request.ofJson (objectOf ms') = .ok r)) ∧
    (∀ front m back r, m.1 ∉ keys → m.2.wellFormed = true →
      (Request.ofJson (objectOf (front ++ m :: back)) = .ok r ↔
        Request.ofJson (objectOf (front ++ back)) = .ok r)) ∧
    (∀ front back r, (∀ m ∈ front ++ back, m.1 ≠ "facial_img_dir") →
      (Request.ofJson (objectOf (front ++ ("facial_img_dir", .null) :: back)) = .ok r ↔
        Request.ofJson (objectOf (front ++ back)) = .ok r)) ∧
    (∀ ms, ∀ key ∈ keys, 2 ≤ (ms.filter (·.1 = key)).length →
      ∃ e, Request.ofJson (objectOf ms) = .error e) ∧
    ∀ alone source ms rest r, Json.read source = (objectOf ms, some rest) →
      (Json.decodeText alone Request.ofJson source = .ok r ↔
        Spelled ms r ∧ (alone = true → skipBlank rest = [])) := by
  refine ⟨fun ms r => ofJson_objectOf_eq_ok_iff, fun ms ms' r same => ?_,
    fun front m back r other whole => ?_, fun front back r missing => ?_,
    fun ms key hkey repeated => ?_, fun alone source ms rest r h => decodeText_eq_ok_iff h⟩
  · simp only [ofJson_objectOf_eq_ok_iff, same.mem_iff]
    exact and_congr_left fun _ => ⟨.perm same, .perm same.symm⟩
  · simp only [ofJson_objectOf_eq_ok_iff, spelled_insert_iff other]
    refine and_congr_right fun _ => ?_
    simp [or_imp, forall_and, whole]
  · simp only [ofJson_objectOf_eq_ok_iff, spelled_null_iff missing]
    refine and_congr_right fun _ => ?_
    simp [or_imp, forall_and, keys]
  · cases h : Request.ofJson (objectOf ms) with
    | error e => exact ⟨e, rfl⟩
    | ok r =>
      have once := (ofJson_objectOf_eq_ok_iff.1 h).1.length_le_one hkey
      rw [valuesAt, List.length_map] at once
      omega

/-- Members in an order of their own, with two that a request does not know and a flag that is
written as an object. -/
def shuffled : List (String × Json) := [
  ("note", .null),
  ("options", .array [.string "-MLConfig", .object [(some "-facialImgDir", .null)]]),
  ("ml_config", .string "task.json"),
  ("note", .array [.bool true]),
  ("input_image_path", .string "photo.png")]

def shuffledRequest : Request := ⟨"photo.png", [.mlConfig, .facialImgDir], "task.json", none⟩

/-- The members may come backwards, lack the first one or have null for the directory, and the
request is the same; with a second task configuration it is an error. -/
theorem shuffled_decoded :
    (Spelled shuffled shuffledRequest ∧ ∀ m ∈ shuffled, m.1 ∉ keys → m.2.wellFormed = true) ∧
    Request.ofJson (objectOf shuffled) = .ok shuffledRequest ∧
    Request.ofJson (objectOf shuffled.reverse) = .ok shuffledRequest ∧
    Request.ofJson (objectOf shuffled.tail) = .ok shuffledRequest ∧
    Request.ofJson (objectOf (("facial_img_dir", .null) :: shuffled)) = .ok shuffledRequest ∧
    (∃ e, Request.ofJson (objectOf (("ml_config", .string "other.json") :: shuffled)) = .error e) ∧
    Json.decodeText true Request.ofJson (Text.Utf8.decode (octets shuffledRequest.toJson)) =
      .ok shuffledRequest := by
  obtain ⟨decodes, perm, insert, null, twice, document⟩ := members_decide_request
  have decoded : Request.ofJson (objectOf shuffled) = .ok shuffledRequest := rfl
  let written : List (String × Json) := [("input_image_path", .string "photo.png"),
    ("options", .array [.string "-MLConfig", .string "-facialImgDir"]),
    ("ml_config", .string "task.json"), ("facial_img_dir", .null)]
  have spelled : Spelled written shuffledRequest := ((decodes _ _).1 rfl).1
  have read : Json.read (Text.Utf8.decode (octets shuffledRequest.toJson)) =
      (objectOf written, some []) := read_octets shuffledRequest.reads_toJson
  refine ⟨(decodes _ _).1 decoded, decoded, ?_, ?_, ?_, ?_, ?_⟩
  · exact (perm _ _ _ (List.reverse_perm shuffled).symm).1 decoded
  · exact (insert [] ("note", .null) shuffled.tail _ (by decide) rfl).1 decoded
  · exact (null [] shuffled _ (by decide)).2 decoded
  · exact twice _ "ml_config" (by decide) (by decide)
  · exact (document true _ _ _ _ read).2 ⟨spelled, fun _ => rfl⟩

end Request

end ImageGateway
