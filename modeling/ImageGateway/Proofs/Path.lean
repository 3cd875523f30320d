import ImageGateway.Files.Walk

/-!
Path names and the names they are made of. The names of a joined path are those of the two paths
one after the other (`steps_join`), a slash at the end of a path adds one `.` only (`steps_eq`),
and the names of the path above it are the first of its own (`above_of_parent?`). The name of the
file is what stands behind the last slash (`IsName.fileName?_directory`), and its extension what
stands behind the last dot of that name (`extension?_of_fileName`).
-/

namespace ImageGateway.Path

/-! ## Segments -/

variable {sep c : Char} {a b : List Char}

theorem segments_ne_nil : segments sep a ≠ [] := by
  cases a with
  | nil => simp [segments]
  | cons c a =>
    simp only [segments, List.foldr_cons]
    split
    · simp
    · split <;> simp

theorem segments_cons_self : segments sep (sep :: a) = [] :: segments sep a := by
  simp [segments]

theorem segments_cons_of_ne (h : c ≠ sep) :
    ∃ p ps, segments sep a = p :: ps ∧ segments sep (c :: a) = (c :: p) :: ps := by
  obtain ⟨p, ps, hp⟩ := List.exists_cons_of_ne_nil (@segments_ne_nil sep a)
  refine ⟨p, ps, hp, ?_⟩
  rw [segments, List.foldr_cons, ← segments, hp]
  simp [h]

theorem segments_append : segments sep (a ++ sep :: b) = segments sep a ++ segments sep b := by
  induction a with
  | nil => exact segments_cons_self
  | cons c a ih =>
    rw [List.cons_append]
    by_cases h : c = sep
    · subst h
      rw [segments_cons_self, segments_cons_self, ih, List.cons_append]
    · obtain ⟨p, ps, h₁, h₂⟩ := segments_cons_of_ne (a := a ++ sep :: b) h
      obtain ⟨q, qs, h₃, h₄⟩ := segments_cons_of_ne (a := a) h
      rw [ih, h₃, List.cons_append] at h₁
      cases h₁
      rw [h₂, h₄, List.cons_append]

theorem segments_of_notMem (h : sep ∉ a) : segments sep a = [a] := by
  induction a with
  | nil => rfl
  | cons c a ih =>
    obtain ⟨p, ps, h₁, h₂⟩ := segments_cons_of_ne (a := a) (List.ne_of_not_mem_cons h).symm
    rw [ih (List.not_mem_of_not_mem_cons h)] at h₁
    cases h₁
    exact h₂

/-! ## Lengths -/

theorem octetLength_ofList_le (l : List Char) : octetLength (String.ofList l) ≤ 4 * l.length := by
  induction l with
  | nil => exact Nat.le_refl _
  | cons c l ih =>
    have text : String.ofList (c :: l) = String.singleton c ++ String.ofList l := by simp
    have hc := c.utf8Size_le_four
    rw [text, octetLength, String.utf8ByteSize_append, String.utf8ByteSize_singleton,
      List.length_cons]
    rw [octetLength] at ih
    omega

/-- No character takes more than four octets. -/
theorem octetLength_le (s : String) : octetLength s ≤ 4 * s.toList.length := by
  have := octetLength_ofList_le s.toList
  rwa [String.ofList_toList] at this

/-! ## The names of a path -/

/-- The names between the slashes of a path, `.` and `..` among them. -/
def parts (path : String) : List String :=
  ((segments '/' path.toList).filter (· ≠ [])).map String.ofList

theorem steps_eq (path : String) :
    steps path = parts path ++ if endsWithSlash path then ["."] else [] := rfl

theorem parts_of_append {path x y : String} (h : path.toList = x.toList ++ '/' :: y.toList) :
    parts path = parts x ++ parts y := by
  simp only [parts, h, segments_append, List.filter_append, List.map_append]

@[simp] theorem parts_empty : parts "" = [] := by decide

theorem parts_name {name : String} (h : '/' ∉ name.toList) (h' : name ≠ "") :
    parts name = [name] := by
  have : name.toList ≠ [] := fun e => h' (String.toList_eq_nil_iff.1 e)
  simp [parts, segments_of_notMem h, this]

theorem not_endsWithSlash_name {name : String} (h : '/' ∉ name.toList) :
    endsWithSlash name = false := by
  simp only [endsWithSlash, decide_eq_false_iff_not]
  exact fun e => h (List.mem_of_getLast? e)

theorem not_isAbsolute_name {name : String} (h : '/' ∉ name.toList) :
    isAbsolute name = false := by
  simp only [isAbsolute, decide_eq_false_iff_not]
  exact fun e => h (List.mem_of_head? e)

theorem steps_name {name : String} (h : '/' ∉ name.toList) (h' : name ≠ "") :
    steps name = [name] := by
  simp [steps_eq, parts_name h h', not_endsWithSlash_name h]

/-! ## Joined paths -/

variable {base path : String}

@[simp] theorem join_of_isAbsolute (h : isAbsolute path = true) : join base path = path := by
  simp [join, h]

theorem toList_join (h : isAbsolute path = false) (hb : base ≠ "") :
    ∃ x : String, parts x = parts base ∧
      (join base path).toList = x.toList ++ '/' :: path.toList := by
  by_cases hs : endsWithSlash base = true
  · obtain ⟨l, hl⟩ := List.getLast?_eq_some_iff.1 (of_decide_eq_true hs)
    refine ⟨String.ofList l, ?_, ?_⟩
    · have : parts base = parts (String.ofList l) ++ parts "" :=
        parts_of_append (by simpa using hl)
      simpa using this.symm
    · simp [join, h, hs, hl]
  · exact ⟨base, rfl, by simp [join, h, hs, hb]⟩

theorem parts_join (h : isAbsolute path = false) (hb : base ≠ "") :
    parts (join base path) = parts base ++ parts path := by
  obtain ⟨x, hx, hj⟩ := toList_join h hb
  rw [parts_of_append hj, hx]

theorem parts_join_name {name : String} (h : '/' ∉ name.toList) (h' : name ≠ "") (hb : base ≠ "") :
    parts (join base name) = parts base ++ [name] := by
  rw [parts_join (not_isAbsolute_name h) hb, parts_name h h']

theorem endsWithSlash_join (h : isAbsolute path = false) (hp : path ≠ "") :
    endsWithSlash (join base path) = endsWithSlash path := by
  by_cases hb : base = ""
  · simp [join, h, hb]
  · obtain ⟨x, -, hj⟩ := toList_join h hb
    have hc := List.getLast?_eq_some_getLast fun e => hp (String.toList_eq_nil_iff.1 e)
    simp [endsWithSlash, hj, List.getLast?_append, List.getLast?_cons, hc]

theorem isAbsolute_join (h : isAbsolute path = false) (hb : base ≠ "") :
    isAbsolute (join base path) = isAbsolute base := by
  have hc := List.head?_eq_some_head fun e => hb (String.toList_eq_nil_iff.1 e)
  rw [join, if_neg (by simp [h]), isAbsolute, isAbsolute]
  split <;> simp [List.head?_append, hc]

theorem ne_empty_of_isAbsolute (h : isAbsolute path = true) : path ≠ "" := by
  rintro rfl
  simp [isAbsolute] at h

theorem isAbsolute_join_left (h : isAbsolute base = true) :
    isAbsolute (join base path) = true := by
  cases hp : isAbsolute path with
  | true => rw [join_of_isAbsolute hp, hp]
  | false => rw [isAbsolute_join hp (ne_empty_of_isAbsolute h), h]

theorem steps_join (h : isAbsolute path = false) (hb : base ≠ "") (hp : path ≠ "") :
    steps (join base path) = parts base ++ steps path := by
  rw [steps_eq, steps_eq, parts_join h hb, endsWithSlash_join h hp, List.append_assoc]

theorem join_ne_empty (hp : path ≠ "") : join base path ≠ "" := by
  simp only [join]
  split
  · exact hp
  · split <;> simp [hp]

theorem octetLength_join_le : octetLength path ≤ octetLength (join base path) := by
  simp only [join, octetLength]
  split
  · exact Nat.le_refl _
  · split <;> simp [String.utf8ByteSize_append]

theorem hasNul_join_left (h : hasNul (join base path) = false) : hasNul path = false := by
  simp only [join, hasNul] at h ⊢
  split at h
  · exact h
  · split at h <;> simp_all

/-! ## Names -/

variable {name x : String}

/-- What is no absolute path follows the joined path. -/
theorem join_append (hx : isAbsolute x = false) :
    join base (path ++ x) = join base path ++ x := by
  have first : isAbsolute (path ++ x) = isAbsolute path := by
    rw [isAbsolute, isAbsolute, String.toList_append]
    cases hp : path.toList with
    | nil => simpa [isAbsolute] using hx
    | cons c l => rfl
  simp only [join, first]
  split
  · rfl
  · split <;> simp [String.append_assoc]

theorem names_eq (path : String) : names path = (parts path).filter (· ≠ ".") := by
  have : (fun p => decide (p ≠ ".")) ∘ String.ofList = fun p : List Char => decide (p ≠ ['.']) := by
    funext p
    have : String.ofList p = "." ↔ p = ['.'] := by
      rw [← String.toList_inj, String.toList_ofList]
      rfl
    simp [this]
  rw [names, parts, List.filter_map, this, List.filter_filter]
  congr 2
  funext p
  simp [Bool.and_comm]

/-- A name that can stand in a path: it is one of its parts and neither `.` nor `..`. -/
structure IsName (name : String) : Prop where
  noSlash : '/' ∉ name.toList
  ne_empty : name ≠ ""
  ne_dot : name ≠ "."
  ne_dots : name ≠ ".."

/-- Names of three and more characters are never special. -/
theorem isName_of_length (h : '/' ∉ name.toList) (hl : 2 < name.toList.length) : IsName name := by
  have long {y : String} (hy : y.toList.length ≤ 2) : name ≠ y := by
    rintro rfl
    omega
  exact ⟨h, long (by simp), long (by simp), long (by simp)⟩

namespace IsName

theorem not_isAbsolute (h : IsName name) : isAbsolute name = false :=
  not_isAbsolute_name h.noSlash

theorem parts_join (h : IsName name) (hb : base ≠ "") :
    parts (join base name) = parts base ++ [name] := parts_join_name h.noSlash h.ne_empty hb

/-- Paths in a directory are as different as the names. -/
theorem join_inj (h : IsName name) (hx : IsName x) (hb : base ≠ "")
    (hj : join base name = join base x) : name = x := by
  have parts := congrArg Path.parts hj
  rw [h.parts_join hb, hx.parts_join hb] at parts
  exact List.singleton_inj.1 (List.append_cancel_left parts)

end IsName

/-! ## Extensions -/

/-- A text of one part has no separator. -/
theorem eq_of_segments_eq {p : List Char} (h : segments sep a = [p]) : p = a := by
  by_cases hs : sep ∈ a
  · obtain ⟨x, y, rfl⟩ := List.append_of_mem hs
    rw [segments_append] at h
    have hx := List.length_pos_iff.2 (@segments_ne_nil sep x)
    have hy := List.length_pos_iff.2 (@segments_ne_nil sep y)
    have length := congrArg List.length h
    rw [List.length_append, List.length_singleton] at length
    omega
  · rw [segments_of_notMem hs] at h
    cases h
    rfl

/-- The extension of a file is what follows the last dot in its name. -/
theorem extension?_of_fileName {stem ext : String} (h : fileName? path = some name)
    (hn : name.toList = stem.toList ++ '.' :: ext.toList) (hs : stem ≠ "")
    (he : '.' ∉ ext.toList) : extension? path = some ext := by
  have parts : (segments '.' name.toList).reverse =
      ext.toList :: (segments '.' stem.toList).reverse := by
    rw [hn, segments_append, segments_of_notMem he, List.reverse_append, List.reverse_singleton,
      List.singleton_append]
  have before : (segments '.' stem.toList).reverse ≠ [] ∧
      (segments '.' stem.toList).reverse ≠ [[]] := by
    constructor
    · simpa using segments_ne_nil
    · intro hr
      have := eq_of_segments_eq (List.reverse_eq_iff.1 hr)
      exact hs (String.toList_eq_nil_iff.1 this.symm)
  simp only [extension?, h, Option.bind_eq_bind, Option.bind_some, parts]
  generalize (segments '.' stem.toList).reverse = l at before
  match l with
  | [] => exact absurd rfl before.1
  | [p] =>
    have : p ≠ [] := fun hp => before.2 (by rw [hp])
    simp [this]
  | _ :: _ :: _ => simp

/-- A file whose name has its only dot in front has no extension. -/
theorem extension?_of_hidden {ext : String} (h : fileName? path = some name)
    (hn : name.toList = '.' :: ext.toList) (he : '.' ∉ ext.toList) : extension? path = none := by
  have parts : segments '.' name.toList = [[], ext.toList] := by
    rw [hn, segments_cons_self, segments_of_notMem he]
  simp [extension?, h, parts]

/-! ## Directories -/

theorem dropWhile_append_of_notMem {l r : List Char} (h : '/' ∉ l) :
    (l ++ r).dropWhile (· ≠ '/') = r.dropWhile (· ≠ '/') := by
  apply List.dropWhile_append_of_pos
  intro c hc
  refine decide_eq_true fun hs => h ?_
  rwa [← hs]

/-- A path up to its last slash, the slash included. -/
def directory (path : String) : String :=
  String.ofList (path.toList.reverse.dropWhile (· ≠ '/')).reverse

theorem directory_append (h : '/' ∉ x.toList) : directory (path ++ x) = directory path := by
  rw [directory, String.toList_append, List.reverse_append,
    dropWhile_append_of_notMem (by rwa [List.mem_reverse]), ← directory]

/-- Behind its directory a path has no slash. -/
theorem exists_eq_directory_append (path : String) :
    ∃ x : String, '/' ∉ x.toList ∧ path = directory path ++ x := by
  refine ⟨String.ofList (path.toList.reverse.takeWhile (· ≠ '/')).reverse, ?_, ?_⟩
  · rw [String.toList_ofList, List.mem_reverse]
    intro h
    have all := List.all_takeWhile (p := (· ≠ '/')) (l := path.toList.reverse)
    exact absurd (List.all_eq_true.1 all _ h) (by decide)
  · apply String.toList_inj.1
    rw [directory, String.toList_append, String.toList_ofList, String.toList_ofList,
      ← List.reverse_append, List.takeWhile_append_dropWhile, List.reverse_reverse]

/-- A directory is empty or ends in its only slash that counts. -/
theorem directory_cases (path : String) :
    directory path = "" ∨ ∃ x : String, (directory path).toList = x.toList ++ ['/'] := by
  rw [directory, String.toList_ofList]
  have stop := List.head?_dropWhile_not (· ≠ '/') path.toList.reverse
  cases h : path.toList.reverse.dropWhile (· ≠ '/') with
  | nil => exact .inl rfl
  | cons c r =>
    rw [h] at stop
    have hc : c = '/' := by simpa using stop
    subst hc
    exact .inr ⟨String.ofList r.reverse, by simp⟩

/-- The name of a file is what follows its directory. -/
theorem IsName.fileName?_directory (h : IsName name) (hp : path = directory path ++ name) :
    fileName? path = some name := by
  have last : ∃ ps, parts path = ps ++ [name] := by
    rcases directory_cases path with hd | ⟨x, hx⟩
    · rw [hd, String.empty_append] at hp
      exact ⟨[], by rw [hp, parts_name h.noSlash h.ne_empty, List.nil_append]⟩
    · have text : path.toList = x.toList ++ '/' :: name.toList := by
        rw [hp, String.toList_append, hx, List.append_assoc, List.singleton_append]
      exact ⟨parts x, by rw [parts_of_append text, parts_name h.noSlash h.ne_empty]⟩
  obtain ⟨ps, hps⟩ := last
  rw [fileName?, names_eq, hps, List.filter_append]
  simp [h.ne_dot, h.ne_dots]

/-! ## Absolute forms -/

theorem isAbsolute_below {ns : List String} (h : isAbsolute base = true) :
    isAbsolute (below base ns) = true := by
  induction ns generalizing base with
  | nil => exact h
  | cons n ns ih => exact ih (isAbsolute_join_left h)

/-- The absolute form of a path is absolute, if the current directory is given by an absolute
path. -/
theorem isAbsolute_of_absolute? {cwd full : String} (hc : isAbsolute cwd = true)
    (h : absolute? cwd path = some full) : isAbsolute full = true := by
  have start : isAbsolute (if isAbsolute path then rootText path else cwd) = true := by
    split
    · rw [rootText.eq_def]
      split <;> decide
    · exact hc
  have body := @isAbsolute_below _ (names path) start
  rw [absolute?] at h
  split at h
  · cases h
  · simp only [Option.some.injEq] at h
    generalize below (if isAbsolute path then rootText path else cwd) (names path) = text
      at h body
    have first := of_decide_eq_true body
    subst h
    split
    · simp [isAbsolute, List.head?_append, first]
    · exact body

/-! ## Parents -/

theorem parts_slash (l : List Char) :
    parts (String.ofList (l ++ ['/'])) = parts (String.ofList l) := by
  have h : (String.ofList (l ++ ['/'])).toList =
      (String.ofList l).toList ++ '/' :: ("" : String).toList := by simp
  rw [parts_of_append h, parts_empty, List.append_nil]

/-- Nothing but `.` names is dropped from the end of a path. -/
theorem parts_dropIdleEnd (cs : List Char) : ∃ k,
    parts (String.ofList cs.reverse) =
      parts (String.ofList (dropIdleEnd cs).reverse) ++ List.replicate k "." := by
  fun_induction dropIdleEnd cs with
  | case1 c r ih =>
    obtain ⟨k, hk⟩ := ih
    refine ⟨k, ?_⟩
    rw [← hk, List.reverse_cons, parts_slash]
  | case2 r ih =>
    obtain ⟨k, hk⟩ := ih
    refine ⟨k + 1, ?_⟩
    have h : (String.ofList ('.' :: '/' :: r).reverse).toList =
        (String.ofList r.reverse).toList ++ '/' :: ("." : String).toList := by simp
    rw [List.reverse_cons, parts_slash] at hk
    have hdot : parts "." = ["."] := by decide
    rw [parts_of_append h, hk, hdot, List.append_assoc, ← List.replicate_succ']
  | case3 cs => exact ⟨0, by simp⟩

theorem dropIdleEnd_suffix (cs : List Char) : dropIdleEnd cs <:+ cs := by
  fun_induction dropIdleEnd cs with
  | case1 c r ih => exact ih.trans (List.suffix_cons _ _)
  | case2 r ih => exact ih.trans (List.suffix_cons _ _)
  | case3 cs => exact List.suffix_refl _

theorem dropIdleEnd_eq_nil_iff {cs : List Char} : dropIdleEnd cs = [] ↔ cs = [] := by
  fun_induction dropIdleEnd cs with
  | case1 c r ih => simp [ih]
  | case2 r ih => simp [ih]
  | case3 cs => rfl

/-- What is left ends in a slash only if it is nothing else. -/
theorem eq_nil_of_dropIdleEnd {cs r : List Char} (h : dropIdleEnd cs = '/' :: r) : r = [] := by
  fun_induction dropIdleEnd cs with
  | case1 c r' ih => exact ih h
  | case2 r' ih => exact ih h
  | case3 cs hslash =>
    cases r with
    | nil => rfl
    | cons c r => exact absurd h (hslash c r)

theorem getLast?_dropIdleEnd (cs : List Char) : (dropIdleEnd cs).getLast? = cs.getLast? := by
  obtain ⟨l, hl⟩ := dropIdleEnd_suffix cs
  by_cases h : dropIdleEnd cs = []
  · rw [h, dropIdleEnd_eq_nil_iff.1 h]
  · have hlast : (l ++ dropIdleEnd cs).getLast? = (dropIdleEnd cs).getLast? := by
      rw [List.getLast?_append, List.getLast?_eq_some_getLast h, Option.some_or]
    rw [← hlast, hl]

/-- A path and one above it: between their names stands the last name, and `.` names may. -/
structure Above (up path : String) : Prop where
  isAbsolute : isAbsolute up = true
  start : ∃ x, path = up ++ x
  parts : ∃ i name j, parts path =
    parts up ++ (List.replicate i "." ++ name :: List.replicate j ".")

theorem above_of_parent? {up : String} (ha : isAbsolute path = true)
    (h : parent? path = some up) : Above up path := by
  have first : path.toList.reverse.getLast? = some '/' := by
    rw [List.getLast?_reverse]
    exact of_decide_eq_true ha
  have whole : String.ofList path.toList.reverse.reverse = path := by simp
  rw [parent?] at h
  obtain ⟨j, hj⟩ := parts_dropIdleEnd path.toList.reverse
  have hlast := (getLast?_dropIdleEnd path.toList.reverse).trans first
  obtain ⟨idle, hidle⟩ := dropIdleEnd_suffix path.toList.reverse
  have hslash := @eq_nil_of_dropIdleEnd path.toList.reverse
  rw [whole] at hj
  generalize dropIdleEnd path.toList.reverse = cs at h hj hlast hidle hslash
  split at h
  · cases h
  · cases h
  · rename_i hne hroot
    cases h
    obtain ⟨last, e, rfl, hnew⟩ := List.eq_append_cons_of_mem (List.mem_of_getLast? hlast)
    have ne : last ≠ [] := by
      rintro rfl
      exact hroot (by rw [List.nil_append, hslash rfl])
    -- what is left when the last name is dropped
    have drop : (last ++ '/' :: e).dropWhile (· ≠ '/') = '/' :: e := by
      rw [dropWhile_append_of_notMem hnew, List.dropWhile_cons_of_neg (by simp)]
    rw [drop]
    obtain ⟨i, hi⟩ := parts_dropIdleEnd ('/' :: e)
    obtain ⟨idle', hidle'⟩ := dropIdleEnd_suffix ('/' :: e)
    have hlast' : (dropIdleEnd ('/' :: e)).getLast? = some '/' := by
      rw [getLast?_dropIdleEnd, ← hlast, List.getLast?_append, List.getLast?_cons, Option.some_or]
    refine ⟨?_, ?_, i, String.ofList last.reverse, j, ?_⟩
    · simp [isAbsolute, List.head?_reverse, hlast']
    · refine ⟨String.ofList (idle ++ last ++ idle').reverse, String.toList_inj.1 ?_⟩
      have text := congrArg List.reverse hidle
      rw [← hidle', ← List.append_assoc, ← List.append_assoc, List.reverse_append,
        List.reverse_reverse] at text
      rw [← text, String.toList_append, String.toList_ofList, String.toList_ofList]
    · have hname : parts (String.ofList last.reverse) = [String.ofList last.reverse] :=
        parts_name (by simpa using hnew) (by simpa using ne)
      have hsplit : (String.ofList (last ++ '/' :: e).reverse).toList =
          (String.ofList e.reverse).toList ++ '/' :: (String.ofList last.reverse).toList := by simp
      rw [List.reverse_cons, parts_slash] at hi
      rw [hj, parts_of_append hsplit, hname, hi]
      simp

end ImageGateway.Path
