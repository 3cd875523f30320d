import ImageGateway.Proofs.Path
import Mathlib.Data.List.Chain

/-!
The absolute form of a path. It is laid out from a root, names and perhaps a slash at its end
(`laidOut`), and these three are read off it again, so laying it out anew gives the same text
(`absolute?_laidOut`). A current directory in normal form is laid out below the plain root
(`IsNormal.eq_below`), and therefore every absolute form is (`exists_laidOut`). From this come its
names and slashes (`isAbsoluteForm`), and that the directory it was made in does not count any more
(`absolute?_again`).
-/

namespace ImageGateway.Path

variable {cwd path base root name full : String} {ns : List String} {l m : List Char}

/-! ## Slashes that follow each other -/

/-- No slash follows a slash. -/
def Single (cs : List Char) : Prop := cs.IsChain fun c d => ¬ (c = '/' ∧ d = '/')

/-- The path starts with two slashes and not with three. -/
def DoubleRoot (path : String) : Prop :=
  ∃ r, path.toList = '/' :: '/' :: r ∧ r.head? ≠ some '/'

theorem single_of_notMem (h : '/' ∉ l) : Single l := by
  induction l with
  | nil => exact .nil
  | cons c l ih =>
    rw [List.mem_cons, not_or] at h
    exact List.isChain_cons.2 ⟨fun _ _ hs => h.1 hs.1.symm, ih h.2⟩

theorem Single.append (hl : Single l) (hm : Single m)
    (h : ¬ (l.getLast? = some '/' ∧ m.head? = some '/')) : Single (l ++ m) := by
  refine List.isChain_append.2 ⟨hl, hm, ?_⟩
  rintro x hx y hy ⟨rfl, rfl⟩
  exact h ⟨hx, hy⟩

theorem Single.left (h : Single (l ++ m)) : Single l := (List.isChain_append.1 h).1

theorem not_single_double : ¬ Single ('/' :: '/' :: l) := by
  intro h
  exact (List.isChain_cons_cons.1 h).1 ⟨rfl, rfl⟩

theorem DoubleRoot.isAbsolute (h : DoubleRoot path) : isAbsolute path = true := by
  obtain ⟨r, hr, -⟩ := h
  simp [Path.isAbsolute, hr]

theorem rootText_of_doubleRoot (h : DoubleRoot path) : rootText path = "//" := by
  obtain ⟨r, hr, hs⟩ := h
  rw [rootText, hr]
  cases r with
  | nil => rfl
  | cons c r =>
    rw [List.head?_cons, ne_eq, Option.some.injEq] at hs
    split
    · rename_i heq
      cases heq
      exact absurd rfl hs
    · rfl
    · rename_i hn
      exact absurd rfl (hn _)

theorem rootText_of_not_doubleRoot (h : ¬ DoubleRoot path) : rootText path = "/" := by
  rw [rootText]
  split
  · rfl
  · rename_i r hn heq
    refine absurd ⟨r, heq, fun hs => ?_⟩ h
    obtain ⟨r', rfl⟩ := List.head?_eq_some_iff.1 hs
    exact hn r' rfl
  · rfl

/-! ## Names that are kept -/

/-- A name that stays in the absolute form of a path; so does `..`. -/
structure IsKept (name : String) : Prop where
  noSlash : '/' ∉ name.toList
  ne_empty : name ≠ ""
  ne_dot : name ≠ "."

theorem notMem_segments {sep : Char} {a p : List Char} (h : p ∈ segments sep a) : sep ∉ p := by
  induction a generalizing p with
  | nil =>
    rw [segments, List.foldr_nil, List.mem_singleton] at h
    simp [h]
  | cons c a ih =>
    by_cases hc : c = sep
    · subst hc
      rw [segments_cons_self, List.mem_cons] at h
      rcases h with rfl | h
      · simp
      · exact ih h
    · obtain ⟨q, qs, hq, hcq⟩ := segments_cons_of_ne (a := a) hc
      rw [hcq, List.mem_cons] at h
      rw [hq] at ih
      rcases h with rfl | h
      · have first := ih (List.mem_cons_self ..)
        simp [first, Ne.symm hc]
      · exact ih (List.mem_cons_of_mem _ h)

theorem isKept_of_mem_names (h : name ∈ names path) : IsKept name := by
  rw [names] at h
  obtain ⟨p, hp, rfl⟩ := List.mem_map.1 h
  obtain ⟨hs, hp⟩ := List.mem_filter.1 hp
  have hp : p ≠ [] ∧ p ≠ ['.'] := by simpa using hp
  refine ⟨by simpa using notMem_segments hs, fun he => hp.1 ?_, fun hd => hp.2 ?_⟩
  · simpa using congrArg String.toList he
  · simpa using congrArg String.toList hd

namespace IsKept

theorem not_isAbsolute (h : IsKept name) : isAbsolute name = false := not_isAbsolute_name h.noSlash

theorem endsWithSlash_join (h : IsKept name) : endsWithSlash (join base name) = false := by
  rw [Path.endsWithSlash_join h.not_isAbsolute h.ne_empty, not_endsWithSlash_name h.noSlash]

/-- What is joined to a path never makes a second slash. -/
theorem exists_toList_join (h : IsKept name) (hb : base ≠ "") : ∃ r : List Char,
    (join base name).toList = base.toList ++ r ∧
      ∀ l, l <:+ base.toList → Single l → Single (l ++ r) := by
  have hname := single_of_notMem h.noSlash
  have hfirst : name.toList.head? ≠ some '/' := fun he => h.noSlash (List.mem_of_head? he)
  by_cases hs : endsWithSlash base = true
  · refine ⟨name.toList, by simp [join, h.not_isAbsolute, hs], fun l _ hl => ?_⟩
    exact hl.append hname fun he => hfirst he.2
  · refine ⟨'/' :: name.toList, by simp [join, h.not_isAbsolute, hs, hb], fun l hlb hl => ?_⟩
    refine hl.append (List.isChain_cons.2 ⟨?_, hname⟩) fun he => hs ?_
    · rintro c hc ⟨-, rfl⟩
      exact hfirst hc
    · obtain ⟨f, hf⟩ := hlb
      simp [endsWithSlash, ← hf, List.getLast?_append, he.1]

end IsKept

/-! ## Names below a directory -/

theorem below_snoc : below base (ns ++ [name]) = join (below base ns) name := by
  rw [below, List.foldl_append, List.foldl_cons, List.foldl_nil, below]

theorem below_append {ns' : List String} : below base (ns ++ ns') = below (below base ns) ns' := by
  rw [below, List.foldl_append, below, below]

/-- What the text below a directory looks like. -/
structure Below (base : String) (ns : List String) (full : String) : Prop where
  ne_empty : full ≠ ""
  parts : parts full = parts base ++ ns
  endsWithSlash : endsWithSlash full = if ns = [] then endsWithSlash base else false
  text : ∃ r : List Char, full.toList = base.toList ++ r ∧
    ∀ l, l <:+ base.toList → Single l → Single (l ++ r)

theorem below_below (hb : base ≠ "") (hns : ∀ n ∈ ns, IsKept n) :
    Below base ns (below base ns) := by
  induction ns using List.reverseRecOn with
  | nil => exact ⟨hb, by simp [below], by simp [below], [], by simp [below]⟩
  | append_singleton ns n ih =>
    have hn : IsKept n := hns n (by simp)
    have ih := ih fun n hn => hns n (List.mem_append_left _ hn)
    obtain ⟨r, hr, single⟩ := ih.text
    obtain ⟨r', hr', single'⟩ := hn.exists_toList_join ih.ne_empty
    rw [below_snoc]
    refine ⟨join_ne_empty hn.ne_empty, ?_, ?_, r ++ r', ?_, fun l hl hs => ?_⟩
    · rw [parts_join_name hn.noSlash hn.ne_empty ih.ne_empty, ih.parts, List.append_assoc]
    · rw [hn.endsWithSlash_join, if_neg (by simp)]
    · rw [hr', hr, List.append_assoc]
    · rw [← List.append_assoc]
      refine single' _ ?_ (single l hl hs)
      obtain ⟨f, hf⟩ := hl
      exact ⟨f, by rw [hr, ← hf, List.append_assoc]⟩

/-! ## Layout -/

/-- The text of an absolute path: a root, the names, and a slash at the end if there is to be
one. -/
def laidOut (root : String) (ns : List String) (slash : Bool) : String :=
  let full := below root ns
  if slash && !endsWithSlash full then full ++ "/" else full

/-- The two roots of a path. -/
inductive IsRoot : String → Prop where
  | single : IsRoot "/"
  | double : IsRoot "//"

theorem IsRoot.parts_eq (h : IsRoot root) : parts root = [] := by
  cases h <;> decide

theorem IsRoot.endsWithSlash (h : IsRoot root) : endsWithSlash root = true := by
  cases h <;> decide

theorem IsRoot.ne_empty (h : IsRoot root) : root ≠ "" := by
  cases h <;> decide

theorem isRoot_rootText : IsRoot (rootText path) := by
  by_cases h : DoubleRoot path
  · rw [rootText_of_doubleRoot h]
    exact .double
  · rw [rootText_of_not_doubleRoot h]
    exact .single

theorem parts_append_slash : parts (path ++ "/") = parts path := by
  have h := parts_slash path.toList
  rwa [String.ofList_toList, String.ofList_append, String.ofList_toList] at h

section

variable {slash : Bool}

theorem parts_laidOut (hr : IsRoot root) (hns : ∀ n ∈ ns, IsKept n) :
    parts (laidOut root ns slash) = ns := by
  have below := below_below hr.ne_empty hns
  rw [laidOut]
  split
  · rw [parts_append_slash, below.parts, hr.parts_eq, List.nil_append]
  · rw [below.parts, hr.parts_eq, List.nil_append]

theorem endsWithSlash_laidOut (hr : IsRoot root) (hns : ∀ n ∈ ns, IsKept n) :
    endsWithSlash (laidOut root ns slash) = (slash || ns = []) := by
  have ends := (below_below hr.ne_empty hns).endsWithSlash
  rw [hr.endsWithSlash] at ends
  rw [laidOut, ends]
  by_cases h : ns = []
  · simp [h, below, hr.endsWithSlash]
  · rw [if_neg h] at ends
    cases slash with
    | true => simp [h, endsWithSlash]
    | false => simpa [h] using ends

/-- The text starts with the root and has no two slashes that do not belong to it. -/
theorem exists_toList_laidOut (hr : IsRoot root) (hns : ∀ n ∈ ns, IsKept n) (slash : Bool) :
    ∃ r : List Char, (laidOut root ns slash).toList = root.toList ++ r ∧
      ∀ l, l <:+ root.toList → Single l → Single (l ++ r) := by
  have below := below_below hr.ne_empty hns
  obtain ⟨r, hr', single⟩ := below.text
  rw [laidOut]
  split
  · rename_i h
    have hns : ns ≠ [] := by
      rintro rfl
      simp [below.endsWithSlash, hr.endsWithSlash] at h
    have open_ : endsWithSlash (Path.below root ns) = false := by
      rw [below.endsWithSlash, if_neg hns]
    refine ⟨r ++ ['/'], by simp [hr'], fun l hl hs => ?_⟩
    rw [← List.append_assoc]
    refine (single l hl hs).append (List.isChain_singleton _) fun he => ?_
    obtain ⟨f, hf⟩ := hl
    have : (Path.below root ns).toList.getLast? = some '/' := by
      rw [hr', ← hf, List.append_assoc, List.getLast?_append, he.1, Option.some_or]
    simp [endsWithSlash, this] at open_
  · exact ⟨r, hr', single⟩

theorem names_laidOut (hr : IsRoot root) (hns : ∀ n ∈ ns, IsKept n) :
    names (laidOut root ns slash) = ns := by
  rw [names_eq, parts_laidOut hr hns, List.filter_eq_self]
  exact fun n hn => decide_eq_true (hns n hn).ne_dot

theorem single_tail_laidOut (hr : IsRoot root) (hns : ∀ n ∈ ns, IsKept n) (slash : Bool) :
    Single (laidOut root ns slash).toList.tail := by
  obtain ⟨r, hr', single⟩ := exists_toList_laidOut hr hns slash
  have last : root.toList.tail <:+ root.toList := List.tail_suffix _
  rw [hr', List.tail_append_of_ne_nil fun he => hr.ne_empty (String.toList_eq_nil_iff.1 he)]
  refine single _ last ?_
  cases hr with
  | single => exact .nil
  | double => exact List.isChain_singleton _

theorem single_laidOut (hns : ∀ n ∈ ns, IsKept n) (slash : Bool) :
    Single (laidOut "/" ns slash).toList := by
  obtain ⟨r, hr, single⟩ := exists_toList_laidOut .single hns slash
  rw [hr]
  exact single _ (List.suffix_refl _) (List.isChain_singleton _)

theorem doubleRoot_laidOut (hns : ∀ n ∈ ns, IsKept n) : DoubleRoot (laidOut "//" ns slash) := by
  obtain ⟨r, hr, -⟩ := exists_toList_laidOut .double hns slash
  have tail := single_tail_laidOut .double hns slash
  refine ⟨r, hr, fun hs => ?_⟩
  obtain ⟨r', rfl⟩ := List.head?_eq_some_iff.1 hs
  rw [hr] at tail
  exact not_single_double tail

theorem rootText_laidOut (hr : IsRoot root) (hns : ∀ n ∈ ns, IsKept n) :
    rootText (laidOut root ns slash) = root := by
  cases hr with
  | single =>
    refine rootText_of_not_doubleRoot fun ⟨r, hr, _⟩ => ?_
    have single := single_laidOut hns slash
    rw [hr] at single
    exact not_single_double single
  | double => exact rootText_of_doubleRoot (doubleRoot_laidOut hns)

theorem isAbsolute_laidOut (hr : IsRoot root) (hns : ∀ n ∈ ns, IsKept n) (slash : Bool) :
    isAbsolute (laidOut root ns slash) = true := by
  obtain ⟨r, hr', -⟩ := exists_toList_laidOut hr hns slash
  cases hr <;> simp [isAbsolute, hr']

/-- A path that is laid out already is its own absolute form in every directory. -/
theorem absolute?_laidOut (hr : IsRoot root) (hns : ∀ n ∈ ns, IsKept n) (cwd : String) :
    absolute? cwd (laidOut root ns slash) = some (laidOut root ns slash) := by
  have first := isAbsolute_laidOut hr hns slash
  have again : laidOut root ns (slash || ns = []) = laidOut root ns slash := by
    by_cases h : ns = []
    · simp [laidOut, h, below, hr.endsWithSlash]
    · simp [h]
  rw [absolute?, if_neg (ne_empty_of_isAbsolute first), if_pos first, rootText_laidOut hr hns,
    names_laidOut hr hns, endsWithSlash_laidOut hr hns]
  exact congrArg some again

end

/-! ## Directories in normal form -/

/-- An absolute path without `.` names, repeated slashes and a slash that is not needed. -/
structure IsNormal (path : String) : Prop where
  isAbsolute : isAbsolute path = true
  noDot : "." ∉ parts path
  single : Single path.toList
  noSlash : endsWithSlash path = true → path = "/"

/-- What stands before a slash is in normal form again, and no slash ends it. -/
theorem IsNormal.left {dir : String} (h : IsNormal path)
    (text : path.toList = dir.toList ++ '/' :: name.toList) (hd : dir ≠ "") :
    IsNormal dir ∧ endsWithSlash dir = false := by
  have hne : dir.toList ≠ [] := fun he => hd (String.toList_eq_nil_iff.1 he)
  have single := h.single
  have first := h.isAbsolute
  rw [text] at single
  rw [Path.isAbsolute, text, List.head?_append_of_ne_nil _ hne] at first
  have bare : endsWithSlash dir = false := by
    by_contra hs
    rw [Bool.not_eq_false] at hs
    obtain ⟨l, hl⟩ := List.getLast?_eq_some_iff.1 (of_decide_eq_true hs)
    rw [hl, List.append_assoc] at single
    exact not_single_double (List.isChain_append.1 single).2.1
  refine ⟨⟨first, fun hdot => h.noDot ?_, single.left, fun hs => ?_⟩, bare⟩
  · rw [parts_of_append text]
    exact List.mem_append_left _ hdot
  · rw [bare] at hs
    cases hs

/-- A directory in normal form is laid out below the root. -/
theorem IsNormal.eq_below (h : IsNormal path) : path = below "/" (parts path) := by
  -- by the length of the path, from its end: what precedes the last slash is shorter
  induction hk : path.toList.length using Nat.strongRecOn generalizing path with
  | ind k ih =>
    obtain ⟨name, hname, hpath⟩ := exists_eq_directory_append path
    rcases directory_cases path with hd | ⟨dir, hdir⟩
    · have first := h.isAbsolute
      rw [hd, String.empty_append] at hpath
      rw [hpath, not_isAbsolute_name hname] at first
      cases first
    · have text : path.toList = dir.toList ++ '/' :: name.toList := by
        rw [hpath, String.toList_append, hdir, List.append_assoc, List.singleton_append]
      by_cases root : path = "/"
      · subst root
        decide
      have ne : name ≠ "" := by
        rintro rfl
        exact root (h.noSlash (by simp [endsWithSlash, text]))
      rw [parts_of_append text, parts_name hname ne, below_snoc]
      by_cases top : dir = ""
      · subst top
        have last : path = "/" ++ name := String.toList_inj.1 (by simpa using text)
        rw [parts_empty, last, below, List.foldl_nil, join, not_isAbsolute_name hname]
        rfl
      · obtain ⟨normal, bare⟩ := h.left text top
        have shorter : dir.toList.length < k := by
          rw [← hk, text, List.length_append, List.length_cons]
          omega
        rw [← ih _ shorter normal rfl, join, not_isAbsolute_name hname]
        refine String.toList_inj.1 ?_
        simp [bare, top, text]

/-! ## Absolute forms -/

/-- How the absolute form of a path for a process in `cwd` reads. -/
structure IsAbsoluteForm (cwd path full : String) : Prop where
  isAbsolute : isAbsolute full = true
  /-- Every name stays in its order, `..` as well, and only `.` goes. -/
  parts : parts full = (if Path.isAbsolute path then [] else parts cwd) ++
    (Path.parts path).filter (· ≠ ".")
  noDot : "." ∉ Path.parts full
  /-- No slashes are repeated, except for two at the start if the path starts with just two. -/
  single : ¬ DoubleRoot path → Single full.toList
  double : DoubleRoot path → DoubleRoot full ∧ Single full.toList.tail
  /-- The path is a root or ends in a slash if the given one does. -/
  endsWithSlash : endsWithSlash full = true ↔
    Path.endsWithSlash path = true ∨ Path.parts full = []

theorem absolute?_eq_none_iff : absolute? cwd path = none ↔ path = "" := by
  rw [absolute?]
  split <;> simp_all

/-- Every absolute form is laid out, below the root that the path asks for. -/
theorem exists_laidOut (hc : IsNormal cwd) (hp : path ≠ "") : ∃ root ns,
    IsRoot root ∧ (root = "//" ↔ DoubleRoot path) ∧ (∀ n ∈ ns, IsKept n) ∧
    ns = (if isAbsolute path then [] else parts cwd) ++ names path ∧
    absolute? cwd path = some (laidOut root ns (endsWithSlash path)) := by
  have kept : ∀ n ∈ names path, IsKept n := fun n hn => isKept_of_mem_names hn
  have form : absolute? cwd path = some (laidOut (if isAbsolute path then rootText path else cwd)
      (names path) (endsWithSlash path)) := by rw [absolute?, if_neg hp, laidOut]
  cases ha : isAbsolute path with
  | true =>
    refine ⟨rootText path, names path, isRoot_rootText, ?_, kept, by simp, by rw [form, ha]; rfl⟩
    by_cases hd : DoubleRoot path
    · simp [rootText_of_doubleRoot hd, hd]
    · simp [rootText_of_not_doubleRoot hd, hd]
  | false =>
    have single : ¬ DoubleRoot path := fun hd => by
      rw [hd.isAbsolute] at ha
      cases ha
    have names_cwd : names cwd = parts cwd := by
      rw [names_eq, List.filter_eq_self]
      exact fun n hn => decide_eq_true fun he => hc.noDot (he ▸ hn)
    refine ⟨"/", parts cwd ++ names path, .single, by simp [single], fun n hn => ?_, by simp, ?_⟩
    · rcases List.mem_append.1 hn with hn | hn
      · exact isKept_of_mem_names (names_cwd ▸ hn)
      · exact kept n hn
    · rw [form, ha, laidOut, laidOut, below_append, ← hc.eq_below]
      rfl

/-- The absolute form of a path reads as it should. -/
theorem isAbsoluteForm (hc : IsNormal cwd) (h : absolute? cwd path = some full) :
    IsAbsoluteForm cwd path full := by
  have hp : path ≠ "" := fun hp => by
    rw [absolute?_eq_none_iff.2 hp] at h
    cases h
  obtain ⟨root, ns, hr, double, kept, hns, form⟩ := exists_laidOut hc hp
  cases h.symm.trans form
  refine ⟨isAbsolute_laidOut hr kept _, ?_, ?_, fun hd => ?_, fun hd => ?_, ?_⟩
  · rw [parts_laidOut hr kept, hns, names_eq]
  · rw [parts_laidOut hr kept]
    exact fun hdot => (kept _ hdot).ne_dot rfl
  · cases hr with
    | single => exact single_laidOut kept _
    | double => exact absurd (double.1 rfl) hd
  · obtain rfl := double.2 hd
    exact ⟨doubleRoot_laidOut kept, single_tail_laidOut .double kept _⟩
  · rw [endsWithSlash_laidOut hr kept, parts_laidOut hr kept, Bool.or_eq_true, decide_eq_true_iff]

/-- The absolute form of an absolute form is itself, whatever the current directory is then. -/
theorem absolute?_again (hc : IsNormal cwd) (h : absolute? cwd path = some full)
    (cwd' : String) : absolute? cwd' full = some full := by
  have hp : path ≠ "" := fun hp => by
    rw [absolute?_eq_none_iff.2 hp] at h
    cases h
  obtain ⟨root, ns, hr, -, kept, -, form⟩ := exists_laidOut hc hp
  cases h.symm.trans form
  exact absolute?_laidOut hr kept cwd'

end ImageGateway.Path
