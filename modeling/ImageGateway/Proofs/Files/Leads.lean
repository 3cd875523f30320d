import ImageGateway.Files.Access
import ImageGateway.Proofs.Path

/-!
Where a path leads. `Files.Leads` is the way from a directory along a list of names, stated
without the bounds of the system on links and on lengths; it counts the links instead. A walk ends
well exactly where the names lead within its number of links (`walk_eq_ok_iff`). The way through a
directory is the way to it and the way on from there (`Leads.append_iff`), and it stays what it is
when entries are added elsewhere (`Leads.mono`) or at its end (`Leads.set_dir`, `Leads.set_leaf`).
-/

namespace ImageGateway.Files

/-- A name that is looked up in the directory where the walk is. -/
structure Ordinary (name : String) : Prop where
  ne_dot : name ≠ "."
  ne_dots : name ≠ ".."
  short : ¬ Path.maxName < octetLength name

/-- From the directory `cur` the names lead to a place, by way of `n` links. The last name may be
free; all before it are directories, or links to directories. -/
inductive Leads (fs : Files) : Nat → Place → List String → Place → Prop where
  | here : Leads fs 0 cur [] cur
  | stay : Leads fs n cur rest p → Leads fs n cur ("." :: rest) p
  | back : Leads fs n cur.tail rest p → Leads fs n cur (".." :: rest) p
  | enter : Ordinary name → fs.get? (name :: cur) = some .dir → Leads fs n (name :: cur) rest p →
    Leads fs n cur (name :: rest) p
  | free : Ordinary name → fs.get? (name :: cur) = none → Leads fs 0 cur [name] (name :: cur)
  | leaf : Ordinary name → fs.get? (name :: cur) = some e → e ≠ .dir → (∀ t, e ≠ .link t) →
    Leads fs 0 cur [name] (name :: cur)
  | follow : Ordinary name → fs.get? (name :: cur) = some (.link t) →
    Leads fs n (if Path.isAbsolute t then [] else cur) (Path.steps t ++ rest) p →
    Leads fs (n + 1) cur (name :: rest) p

variable {fs fs' : Files} {n m links : Nat} {cur p q : Place} {names a b : List String}
  {name : String}

/-! ## Walks -/

/-- What a walk ends at: the place that the names lead to, or a link that is not followed. -/
def Ends (fs : Files) (follow : Bool) (links : Nat) (cur : Place) (names : List String)
    (spot : Spot) : Prop :=
  (∃ n ≤ links, fs.Leads n cur names spot.place) ∨
    follow = false ∧ ∃ t, spot.entry = some (.link t)

section

variable {follow : Bool} {spot : Spot}

theorem leads_of_walkToLink {onLink : Place → List String → Except Errno Spot}
    (hlink : ∀ cur names, onLink cur names = .ok spot → spot.entry = fs.get? spot.place ∧
      ((∃ n < links, fs.Leads n cur names spot.place) ∨
        follow = false ∧ ∃ t, spot.entry = some (.link t)))
    (h : fs.walkToLink follow onLink cur names = .ok spot) :
    spot.entry = fs.get? spot.place ∧ fs.Ends follow links cur names spot := by
  fun_induction walkToLink fs follow onLink cur names with
  | case1 cur =>
    cases h
    exact ⟨rfl, .inl ⟨0, Nat.zero_le _, .here⟩⟩
  | case2 cur rest ih =>
    rcases ih h with ⟨he, ⟨n, hn, hl⟩ | hlast⟩
    · exact ⟨he, .inl ⟨n, hn, .stay hl⟩⟩
    · exact ⟨he, .inr hlast⟩
  | case3 cur rest _ ih =>
    rcases ih h with ⟨he, ⟨n, hn, hl⟩ | hlast⟩
    · exact ⟨he, .inl ⟨n, hn, .back hl⟩⟩
    · exact ⟨he, .inr hlast⟩
  | case5 cur name h₁ h₂ h₃ hf =>
    cases h
    exact ⟨hf.symm, .inl ⟨0, Nat.zero_le _, .free ⟨h₁, h₂, h₃⟩ hf⟩⟩
  | case7 cur name rest h₁ h₂ h₃ hd ih =>
    rcases ih h with ⟨he, ⟨n, hn, hl⟩ | hlast⟩
    · exact ⟨he, .inl ⟨n, hn, .enter ⟨h₁, h₂, h₃⟩ hd hl⟩⟩
    · exact ⟨he, .inr hlast⟩
  | case8 cur name rest h₁ h₂ h₃ t ht hf =>
    cases h
    exact ⟨ht.symm, .inr ⟨by simpa using (Bool.and_eq_true_iff.1 hf).2, t, rfl⟩⟩
  | case9 cur name rest h₁ h₂ h₃ t ht _ =>
    rcases hlink _ _ h with ⟨he, ⟨n, hn, hl⟩ | hlast⟩
    · exact ⟨he, .inl ⟨n + 1, hn, .follow ⟨h₁, h₂, h₃⟩ ht hl⟩⟩
    · exact ⟨he, .inr hlast⟩
  | case10 cur name h₁ h₂ h₃ e hd hl he =>
    cases h
    exact ⟨he.symm, .inl ⟨0, Nat.zero_le _, .leaf ⟨h₁, h₂, h₃⟩ he hd hl⟩⟩
  | _ => cases h

theorem leads_of_walk (h : fs.walk follow links cur names = .ok spot) :
    spot.entry = fs.get? spot.place ∧ fs.Ends follow links cur names spot := by
  induction links generalizing cur names with
  | zero =>
    rw [walk_zero] at h
    refine leads_of_walkToLink (fun _ _ hlink => ?_) h
    cases hlink
  | succ links ih =>
    rw [walk_succ] at h
    refine leads_of_walkToLink (fun cur names hlink => ?_) h
    rcases ih hlink with ⟨he, ⟨n, hn, hl⟩ | hlast⟩
    · exact ⟨he, .inl ⟨n, Nat.lt_succ_of_le hn, hl⟩⟩
    · exact ⟨he, .inr hlast⟩

theorem walk_nil : fs.walk follow links cur [] = .ok ⟨cur, fs.get? cur⟩ := by
  cases links with
  | zero => rw [walk_zero, walkToLink]
  | succ => rw [walk_succ, walkToLink]

theorem walk_dot : fs.walk follow links cur ("." :: a) = fs.walk follow links cur a := by
  cases links with
  | zero => rw [walk_zero, walkToLink, if_pos rfl]
  | succ => rw [walk_succ, walkToLink, if_pos rfl]

theorem walk_dots : fs.walk follow links cur (".." :: a) = fs.walk follow links cur.tail a := by
  cases links with
  | zero => rw [walk_zero, walkToLink, if_neg (by decide), if_pos rfl]
  | succ => rw [walk_succ, walkToLink, if_neg (by decide), if_pos rfl]

/-- A name is looked up in the directory where the walk is. -/
theorem walk_cons (ho : Ordinary name) : fs.walk follow links cur (name :: a) =
    match fs.get? (name :: cur) with
    | none => if a = [] then .ok ⟨name :: cur, none⟩ else .error .notFound
    | some .dir => fs.walk follow links (name :: cur) a
    | some (.link target) =>
      if a = [] && !follow then .ok ⟨name :: cur, some (.link target)⟩
      else match links with
        | 0 => .error .tooManyLinks
        | links + 1 =>
          fs.walk follow links (if Path.isAbsolute target then [] else cur) (Path.steps target ++ a)
    | some e => if a = [] then .ok ⟨name :: cur, some e⟩ else .error .notDirectory := by
  cases links with
  | zero =>
    rw [walk_zero]
    apply Eq.trans
    · rw [walkToLink, if_neg ho.ne_dot, if_neg ho.ne_dots, if_neg ho.short]
    · rfl
  | succ =>
    rw [walk_succ]
    apply Eq.trans
    · rw [walkToLink, if_neg ho.ne_dot, if_neg ho.ne_dots, if_neg ho.short]
    · rfl

theorem walk_of_leads (h : fs.Leads n cur names p) (hn : n ≤ links) :
    ∃ spot, fs.walk follow links cur names = .ok spot ∧
      (spot = ⟨p, fs.get? p⟩ ∨ follow = false ∧ ∃ t, spot.entry = some (.link t)) := by
  induction h generalizing links with
  | here => exact ⟨_, walk_nil, .inl rfl⟩
  | stay _ ih =>
    rw [walk_dot]
    exact ih hn
  | back _ ih =>
    rw [walk_dots]
    exact ih hn
  | enter ho hd _ ih =>
    rw [walk_cons ho, hd]
    exact ih hn
  | free ho hf =>
    rw [walk_cons ho, hf]
    exact ⟨_, rfl, .inl rfl⟩
  | @leaf name cur e ho he hd hl =>
    rw [walk_cons ho, he]
    cases e with
    | dir => exact absurd rfl hd
    | link t => exact absurd rfl (hl t)
    | file _ _ | device _ => exact ⟨_, rfl, .inl rfl⟩
  | @follow name cur t _ rest _ ho ht _ ih =>
    obtain ⟨links, rfl⟩ := Nat.exists_eq_add_of_le' hn
    rw [walk_cons ho, ht]
    by_cases hlast : rest = [] && !follow
    · exact ⟨_, if_pos hlast, .inr ⟨by simpa using (Bool.and_eq_true_iff.1 hlast).2, t, rfl⟩⟩
    · simp only [if_neg hlast]
      exact ih (Nat.le_add_left _ links)

end

theorem walk_eq_ok_iff {spot : Spot} :
    fs.walk true links cur names = .ok spot ↔
      spot.entry = fs.get? spot.place ∧ ∃ n ≤ links, fs.Leads n cur names spot.place := by
  constructor
  · intro h
    rcases leads_of_walk h with ⟨he, hl | ⟨hf, -⟩⟩
    · exact ⟨he, hl⟩
    · cases hf
  · rintro ⟨he, n, hn, hl⟩
    rcases @walk_of_leads _ _ _ _ _ _ true hl hn with ⟨spot', hw, rfl | ⟨hf, -⟩⟩
    · rw [hw, ← he]
    · cases hf

/-- The names lead to one place only. -/
theorem Leads.unique (h : fs.Leads n cur names p) (h' : fs.Leads m cur names q) : p = q := by
  have h₁ : fs.walk true (max n m) cur names = .ok ⟨p, fs.get? p⟩ :=
    walk_eq_ok_iff.2 ⟨rfl, n, Nat.le_max_left n m, h⟩
  have h₂ : fs.walk true (max n m) cur names = .ok ⟨q, fs.get? q⟩ :=
    walk_eq_ok_iff.2 ⟨rfl, m, Nat.le_max_right n m, h'⟩
  exact congrArg Spot.place (Except.ok.inj (h₁.symm.trans h₂))

/-! ## Grounds -/

/-- A place that is a directory, as are all places above it. -/
def Grounded (fs : Files) (p : Place) : Prop := ∀ q, q <:+ p → fs.get? q = some .dir

theorem grounded_nil (fs : Files) : fs.Grounded [] := by
  intro q hq
  rw [List.suffix_nil.1 hq]
  rfl

theorem Grounded.tail (h : fs.Grounded p) : fs.Grounded p.tail :=
  fun q hq => h q (hq.trans (List.tail_suffix p))

theorem Grounded.cons (h : fs.Grounded p) (hd : fs.get? (name :: p) = some .dir) :
    fs.Grounded (name :: p) := by
  intro q hq
  rcases List.suffix_cons_iff.1 hq with rfl | hq
  · exact hd
  · exact h q hq

/-! ## One name after another -/

theorem leads_dot_iff : fs.Leads n cur ("." :: a) p ↔ fs.Leads n cur a p := by
  constructor
  · intro h
    generalize hl : "." :: a = l at h
    cases h with
    | here => cases hl
    | stay h =>
      cases hl
      exact h
    | back => exact absurd (List.cons.inj hl).1 (by decide)
    | enter ho | free ho | leaf ho | follow ho =>
      exact absurd (List.cons.inj hl).1.symm ho.ne_dot
  · exact .stay

theorem leads_dots_iff : fs.Leads n cur (".." :: a) p ↔ fs.Leads n cur.tail a p := by
  constructor
  · intro h
    generalize hl : ".." :: a = l at h
    cases h with
    | here => cases hl
    | stay => exact absurd (List.cons.inj hl).1 (by decide)
    | back h =>
      cases hl
      exact h
    | enter ho | free ho | leaf ho | follow ho =>
      exact absurd (List.cons.inj hl).1.symm ho.ne_dots
  · exact .back

theorem leads_enter_iff (ho : Ordinary name) (hd : fs.get? (name :: cur) = some .dir) :
    fs.Leads n cur (name :: a) p ↔ fs.Leads n (name :: cur) a p := by
  constructor
  · intro h
    cases h with
    | stay => exact absurd rfl ho.ne_dot
    | back => exact absurd rfl ho.ne_dots
    | enter _ _ h => exact h
    | free _ hf => simp [hd] at hf
    | leaf _ he hd' _ => exact absurd (Option.some.inj (he.symm.trans hd)) hd'
    | follow _ ht => simp [hd] at ht
  · exact .enter ho hd

theorem leads_follow_iff {t : String} (ho : Ordinary name)
    (ht : fs.get? (name :: cur) = some (.link t)) :
    fs.Leads n cur (name :: a) p ↔ ∃ k, n = k + 1 ∧
      fs.Leads k (if Path.isAbsolute t then [] else cur) (Path.steps t ++ a) p := by
  constructor
  · intro h
    cases h with
    | stay => exact absurd rfl ho.ne_dot
    | back => exact absurd rfl ho.ne_dots
    | enter _ hd => simp [ht] at hd
    | free _ hf => simp [ht] at hf
    | leaf _ he _ hl => exact absurd (Option.some.inj (he.symm.trans ht)) (hl t)
    | follow _ ht' h =>
      cases ht.symm.trans ht'
      exact ⟨_, rfl, h⟩
  · rintro ⟨k, rfl, h⟩
    exact .follow ho ht h

/-- Behind a directory the way goes on from there. -/
theorem Leads.append_iff (h : fs.Leads n cur a q) (hq : fs.get? q = some .dir) :
    fs.Leads m cur (a ++ b) p ↔ ∃ k, m = n + k ∧ fs.Leads k q b p := by
  induction h generalizing m with
  | here => simp
  | stay _ ih => rw [List.cons_append, leads_dot_iff, ih hq]
  | back _ ih => rw [List.cons_append, leads_dots_iff, ih hq]
  | enter ho hd _ ih => rw [List.cons_append, leads_enter_iff ho hd, ih hq]
  | free _ hf => simp [hq] at hf
  | leaf _ he hd _ => exact absurd (Option.some.inj (he.symm.trans hq)) hd
  | follow ho ht _ ih =>
    simp only [List.cons_append, leads_follow_iff ho ht, ← List.append_assoc, ih hq]
    constructor
    · rintro ⟨k, rfl, j, rfl, hj⟩
      exact ⟨j, by omega, hj⟩
    · rintro ⟨k, rfl, hk⟩
      exact ⟨_, by omega, k, rfl, hk⟩

/-- The first part of a way ends in a directory. -/
theorem Leads.split {x : String} (h : fs.Leads n cur (a ++ x :: b) p) (hc : fs.Grounded cur) :
    ∃ m ≤ n, ∃ q, fs.Leads m cur a q ∧ fs.Grounded q := by
  generalize hl : a ++ x :: b = l at h
  induction h generalizing a with
  | here => simp at hl
  | stay _ ih =>
    cases a with
    | nil => exact ⟨0, Nat.zero_le _, _, .here, hc⟩
    | cons y a =>
      cases hl
      obtain ⟨m, hm, q, hq, hg⟩ := ih hc rfl
      exact ⟨m, hm, q, .stay hq, hg⟩
  | back _ ih =>
    cases a with
    | nil => exact ⟨0, Nat.zero_le _, _, .here, hc⟩
    | cons y a =>
      cases hl
      obtain ⟨m, hm, q, hq, hg⟩ := ih hc.tail rfl
      exact ⟨m, hm, q, .back hq, hg⟩
  | enter ho hd _ ih =>
    cases a with
    | nil => exact ⟨0, Nat.zero_le _, _, .here, hc⟩
    | cons y a =>
      cases hl
      obtain ⟨m, hm, q, hq, hg⟩ := ih (hc.cons hd) rfl
      exact ⟨m, hm, q, .enter ho hd hq, hg⟩
  | free | leaf =>
    cases a with
    | nil => exact ⟨0, Nat.zero_le _, _, .here, hc⟩
    | cons y a => simp at hl
  | @follow name cur t n rest p ho ht _ ih =>
    cases a with
    | nil => exact ⟨0, Nat.zero_le _, _, .here, hc⟩
    | cons y a =>
      cases hl
      have ground : fs.Grounded (if Path.isAbsolute t then [] else cur) := by
        split
        · exact grounded_nil fs
        · exact hc
      obtain ⟨m, hm, q, hq, hg⟩ := ih ground (List.append_assoc _ _ _)
      exact ⟨m + 1, Nat.succ_le_succ hm, q, .follow ho ht hq, hg⟩

/-- A directory that is asked for as one is a directory without asking. -/
theorem Leads.of_append_dot (h : fs.Leads n cur (a ++ ["."]) p) : fs.Leads n cur a p := by
  generalize hl : a ++ ["."] = l at h
  induction h generalizing a with
  | here => simp at hl
  | stay h ih =>
    cases a with
    | nil =>
      cases hl
      exact h
    | cons x a =>
      cases hl
      exact .stay (ih rfl)
  | back h ih =>
    cases a with
    | nil => simp at hl
    | cons x a =>
      cases hl
      exact .back (ih rfl)
  | enter ho hd _ ih =>
    cases a with
    | nil =>
      cases hl
      exact absurd rfl ho.ne_dot
    | cons x a =>
      cases hl
      exact .enter ho hd (ih rfl)
  | free ho _ | leaf ho _ _ _ =>
    cases a with
    | nil =>
      cases hl
      exact absurd rfl ho.ne_dot
    | cons x a => simp at hl
  | follow ho ht _ ih =>
    cases a with
    | nil =>
      cases hl
      exact absurd rfl ho.ne_dot
    | cons x a =>
      cases hl
      exact .follow ho ht (ih (List.append_assoc _ _ _))

/-! ## Ends -/

/-- From sound ground a way ends at a directory on sound ground, or right below one. -/
theorem Leads.ends (h : fs.Leads n cur names p) (hc : fs.Grounded cur) :
    fs.Grounded p ∨ ∃ name D, p = name :: D ∧ fs.Grounded D ∧ Ordinary name ∧
      fs.get? p ≠ some .dir ∧ ∀ t, fs.get? p ≠ some (.link t) := by
  induction h with
  | here => exact .inl hc
  | stay _ ih => exact ih hc
  | back _ ih => exact ih hc.tail
  | enter _ hd _ ih => exact ih (hc.cons hd)
  | free ho hf => exact .inr ⟨_, _, rfl, hc, ho, by simp [hf], by simp [hf]⟩
  | leaf ho he hd hl => exact .inr ⟨_, _, rfl, hc, ho, by simpa [he], by simpa [he]⟩
  | follow _ _ _ ih =>
    apply ih
    split
    · exact grounded_nil fs
    · exact hc

/-! ## Other trees -/

/-- Entries that are added do not change the way to a place that is taken. -/
theorem Leads.mono (h : fs.Leads n cur names p) (hp : fs.get? p ≠ none)
    (hle : ∀ q e, fs.get? q = some e → fs'.get? q = some e) : fs'.Leads n cur names p := by
  induction h with
  | here => exact .here
  | stay _ ih => exact .stay (ih hp)
  | back _ ih => exact .back (ih hp)
  | enter ho hd _ ih => exact .enter ho (hle _ _ hd) (ih hp)
  | free _ hf => exact absurd hf hp
  | leaf ho he hd hl => exact .leaf ho (hle _ _ he) hd hl
  | follow ho ht _ ih => exact .follow ho (hle _ _ ht) (ih hp)

/-- The place where a way ends may be made a directory. -/
theorem Leads.set_dir (h : fs.Leads n cur names p) (hp : fs.get? p = none) :
    (fs.set p .dir).Leads n cur names p := by
  have keep {q : Place} {e : Entry} (hq : fs.get? q = some e) :
      (fs.set p .dir).get? q = some e := by
    rw [get?_set_of_ne, hq]
    rintro rfl
    simp [hp] at hq
  induction h with
  | here => exact .here
  | stay _ ih => exact .stay (ih hp keep)
  | back _ ih => exact .back (ih hp keep)
  | enter ho hd _ ih => exact .enter ho (keep hd) (ih hp keep)
  | free ho _ => exact .enter ho (get?_set_self _ _ (List.cons_ne_nil _ _)) .here
  | leaf ho he hd hl => simp [hp] at he
  | follow ho ht _ ih => exact .follow ho (keep ht) (ih hp keep)

/-- The place where a way ends may get any entry that is no directory and no link, unless it holds
one of these. -/
theorem Leads.set_leaf {e : Entry} (h : fs.Leads n cur names p) (hp : p ≠ [])
    (hpd : fs.get? p ≠ some .dir) (hpl : ∀ t, fs.get? p ≠ some (.link t))
    (hd : e ≠ .dir) (hl : ∀ t, e ≠ .link t) : (fs.set p e).Leads n cur names p := by
  have keep {q : Place} {e' : Entry} (hq : fs.get? q = some e')
      (he' : e' = .dir ∨ ∃ t, e' = .link t) : (fs.set p e).get? q = some e' := by
    rw [get?_set_of_ne, hq]
    rintro rfl
    rcases he' with rfl | ⟨t, rfl⟩
    · exact hpd hq
    · exact hpl t hq
  induction h with
  | here => exact .here
  | stay _ ih => exact .stay (ih hp hpd hpl keep)
  | back _ ih => exact .back (ih hp hpd hpl keep)
  | enter ho hd' _ ih => exact .enter ho (keep hd' (.inl rfl)) (ih hp hpd hpl keep)
  | free ho _ | leaf ho _ _ _ => exact .leaf ho (get?_set_self _ _ hp) hd hl
  | follow ho ht _ ih => exact .follow ho (keep ht (.inr ⟨_, rfl⟩)) (ih hp hpd hpl keep)

end ImageGateway.Files
