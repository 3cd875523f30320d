import ImageGateway.Toml.Reader
import Mathlib.Tactic.SplitIfs

/-!
Keys of documents. In a document that was read no table has a key twice
(`wellKeyed_of_read?`). Whatever adds entries goes through `insertAt`, which keeps it so if the
change at its end does (`wellKeyed_insertAt`), and an entry is only added under a key that is free.
So an entry of such a table is what is found under its key (`mem_iff_lookup`).
-/

namespace ImageGateway.Toml

/-- No table in the tree has a key twice. -/
inductive WellKeyed : Toml → Prop where
  | string (s : String) : WellKeyed (.string s)
  | integer (n : Int) : WellKeyed (.integer n)
  | float (f : Float) : WellKeyed (.float f)
  | boolean (b : Bool) : WellKeyed (.boolean b)
  | moment : WellKeyed .moment
  | array {items : List Toml} : (∀ v ∈ items, WellKeyed v) → WellKeyed (.array items)
  | table {origin : Origin} {es : Entries} : (es.map Prod.fst).Nodup → (∀ e ∈ es, WellKeyed e.2) →
    WellKeyed (.table origin es)
  | tables {items : List Entries} : (∀ es ∈ items, (es.map Prod.fst).Nodup) →
    (∀ es ∈ items, ∀ e ∈ es, WellKeyed e.2) → WellKeyed (.tables items)

/-- No key stands twice among the entries or in a table below them. -/
structure Entries.WellKeyed (es : Entries) : Prop where
  nodup : (es.map Prod.fst).Nodup
  values : ∀ e ∈ es, e.2.WellKeyed

variable {es es' sub root : Entries} {key : String} {path : List String} {v : Toml}
  {origin : Origin} {items : List Entries}

theorem wellKeyed_table_iff : (table origin es).WellKeyed ↔ es.WellKeyed := by
  constructor
  · rintro ⟨⟩
    exact ⟨‹_›, ‹_›⟩
  · rintro ⟨nodup, values⟩
    exact .table nodup values

theorem wellKeyed_tables_iff : (tables items).WellKeyed ↔ ∀ es ∈ items, es.WellKeyed := by
  constructor
  · rintro ⟨⟩ es hes
    rename_i nodup values
    exact ⟨nodup es hes, values es hes⟩
  · intro h
    exact .tables (fun es hes => (h es hes).nodup) fun es hes => (h es hes).values

/-! ## Entries -/

namespace Entries

theorem mem_of_lookup {α : Type} {l : List (String × α)} {a : α} (h : l.lookup key = some a) :
    (key, a) ∈ l := by
  obtain ⟨front, back, rfl, -⟩ := List.lookup_eq_some_iff.1 h
  simp

theorem notMem_of_lookup (h : es.lookup key = none) : key ∉ es.map Prod.fst := by
  rintro hmem
  obtain ⟨e, he, rfl⟩ := List.mem_map.1 hmem
  have := List.lookup_eq_none_iff.1 h e he
  simp at this

/-- An entry is what is found under its key. -/
theorem mem_iff_lookup (h : (es.map Prod.fst).Nodup) : (key, v) ∈ es ↔ es.lookup key = some v := by
  refine ⟨fun hmem => ?_, mem_of_lookup⟩
  obtain ⟨front, back, rfl⟩ := List.append_of_mem hmem
  refine List.lookup_eq_some_iff.2 ⟨front, back, rfl, fun e he => ?_⟩
  rw [List.map_append, List.map_cons, List.nodup_append] at h
  have : e.1 ≠ key := h.2.2 _ (List.mem_map_of_mem he) _ (List.mem_cons_self ..)
  simpa using this.symm

namespace WellKeyed

theorem nil : WellKeyed [] := ⟨List.nodup_nil, nofun⟩

theorem of_lookup (h : es.WellKeyed) (hl : es.lookup key = some v) : v.WellKeyed :=
  h.values _ (mem_of_lookup hl)

theorem append (h : es.WellKeyed) (hk : es.lookup key = none) (hv : v.WellKeyed) :
    WellKeyed (es ++ [(key, v)]) := by
  refine ⟨?_, fun e he => ?_⟩
  · rw [List.map_append, List.nodup_append]
    refine ⟨h.nodup, by simp, fun a ha b hb => ?_⟩
    rw [List.map_singleton, List.mem_singleton] at hb
    rintro rfl
    subst hb
    exact notMem_of_lookup hk ha
  · rcases List.mem_append.1 he with he | he
    · exact h.values e he
    · rw [List.mem_singleton.1 he]
      exact hv

theorem replace (h : es.WellKeyed) (hv : v.WellKeyed) : (es.replace key v).WellKeyed := by
  have keys : (es.replace key v).map Prod.fst = es.map Prod.fst := by
    rw [Entries.replace, List.map_map]
    refine List.map_congr_left fun e _ => ?_
    by_cases he : e.1 = key <;> simp [he]
  refine ⟨keys ▸ h.nodup, fun e he => ?_⟩
  obtain ⟨d, hd, rfl⟩ := List.mem_map.1 he
  split
  · exact hv
  · exact h.values d hd

theorem filter (h : es.WellKeyed) (p : String × Toml → Bool) : WellKeyed (es.filter p) :=
  ⟨h.nodup.sublist (List.filter_sublist.map _), fun e he => h.values e (List.mem_filter.1 he).1⟩

end WellKeyed

end Entries

/-! ## Adding entries -/

theorem of_changeLast? {α : Type} {p : α → Prop} {f : α → Option α} {as bs : List α}
    (hf : ∀ a b, p a → f a = some b → p b) (has : ∀ a ∈ as, p a)
    (h : changeLast? f as = some bs) : ∀ b ∈ bs, p b := by
  rw [changeLast?] at h
  split at h
  · cases h
  · rename_i a before hrev
    obtain ⟨c, hc, rfl⟩ := Option.map_eq_some_iff.1 h
    have old (b : α) (hb : b ∈ a :: before) : p b := has b (List.mem_reverse.1 (hrev ▸ hb))
    intro b hb
    rw [List.mem_reverse, List.mem_cons] at hb
    rcases hb with rfl | hb
    · exact hf a b (old a (List.mem_cons_self ..)) hc
    · exact old b (List.mem_cons_of_mem _ hb)

/-- Entries stay well keyed if the change at the end of the path keeps them so. -/
theorem wellKeyed_insertAt {viaDots : Bool} {act : Origin → Entries → Option Entries}
    (hact : ∀ o es es', es.WellKeyed → act o es = some es' → es'.WellKeyed) (hes : es.WellKeyed)
    (h : insertAt viaDots act path origin es = some es') : es'.WellKeyed := by
  induction path generalizing origin es es' with
  | nil => exact hact _ _ _ hes h
  | cons key path ih =>
    rw [insertAt] at h
    split at h
    · rename_i free
      obtain ⟨sub, hsub, hes'⟩ := Option.bind_eq_some_iff.1 h
      cases hes'
      exact hes.append free (wellKeyed_table_iff.2 (ih .nil hsub))
    · cases h
    · rename_i o sub _ found
      split at h
      · cases h
      · obtain ⟨sub', hsub, hes'⟩ := Option.bind_eq_some_iff.1 h
        cases hes'
        have old := wellKeyed_table_iff.1 (hes.of_lookup found)
        exact hes.replace (wellKeyed_table_iff.2 (ih old hsub))
    · rename_i items found
      obtain ⟨items', hitems, hes'⟩ := Option.bind_eq_some_iff.1 h
      cases hes'
      have old := wellKeyed_tables_iff.1 (hes.of_lookup found)
      exact hes.replace (wellKeyed_tables_iff.2 (of_changeLast? (fun _ _ => ih) old hitems))
    · cases h

theorem wellKeyed_addNew (hv : v.WellKeyed) (hes : es.WellKeyed) (h : addNew key v es = some es') :
    es'.WellKeyed := by
  rw [addNew] at h
  split at h
  · cases h
  · rename_i free
    cases h
    rw [Bool.not_eq_true, Option.isSome_eq_false_iff, Option.isNone_iff_eq_none] at free
    exact hes.append free hv

theorem wellKeyed_setKey (hv : v.WellKeyed) (hes : es.WellKeyed)
    (h : setKey origin es path key v = some es') : es'.WellKeyed := by
  refine wellKeyed_insertAt (fun o es es' hes h => ?_) hes h
  split at h
  · cases h
  · exact wellKeyed_addNew hv hes h

theorem wellKeyed_setTable (hes : es.WellKeyed) (hroot : root.WellKeyed)
    (h : setTable root path key es = some es') : es'.WellKeyed :=
  wellKeyed_insertAt (fun _ _ _ => wellKeyed_addNew (wellKeyed_table_iff.2 hes)) hroot h

theorem wellKeyed_pushTable (hes : es.WellKeyed) (hroot : root.WellKeyed)
    (h : pushTable root path key es = some es') : es'.WellKeyed := by
  refine wellKeyed_insertAt (fun o siblings es' hs h => ?_) hroot h
  split at h
  · rename_i free
    cases h
    refine hs.append free (wellKeyed_tables_iff.2 fun sub hsub => ?_)
    rw [List.mem_singleton.1 hsub]
    exact hes
  · rename_i items found
    cases h
    have old := wellKeyed_tables_iff.1 (hs.of_lookup found)
    refine hs.replace (wellKeyed_tables_iff.2 fun sub hsub => ?_)
    rcases List.mem_append.1 hsub with hsub | hsub
    · exact old sub hsub
    · rw [List.mem_singleton.1 hsub]
      exact hes
  · cases h

theorem wellKeyed_entriesAt (hes : es.WellKeyed) : (reopen.entriesAt path es).WellKeyed := by
  induction path generalizing es with
  | nil => exact hes
  | cons key path ih =>
    rw [reopen.entriesAt]
    split
    · rename_i found
      exact ih (wellKeyed_table_iff.1 (hes.of_lookup found))
    · rename_i items found
      have old := wellKeyed_tables_iff.1 (hes.of_lookup found)
      refine ih ?_
      rw [List.getLastD_eq_getLast?]
      cases hlast : items.getLast? with
      | none => exact .nil
      | some es => exact old es (List.mem_of_getLast? hlast)
    · exact .nil

theorem wellKeyed_reopen (hroot : root.WellKeyed) (h : reopen root path key = some (es, sub)) :
    es.WellKeyed ∧ sub.WellKeyed := by
  obtain ⟨root', hroot', hsub⟩ := Option.bind_eq_some_iff.1 h
  cases hsub
  constructor
  · refine wellKeyed_insertAt (fun o es es' hes h => ?_) hroot hroot'
    split at h
    · cases h
      exact hes.filter _
    · cases h
  · have old : (reopen.entriesAt path root).WellKeyed := wellKeyed_entriesAt hroot
    dsimp only
    split
    · rename_i found
      exact wellKeyed_table_iff.1 (old.of_lookup found)
    · exact .nil

/-! ## Values -/

variable {s r : Source} {depth fuel : Nat} {item : Source → Option (Toml × Source)}

theorem wellKeyed_integer? {n : Int} (h : integer? n = some v) : v.WellKeyed := by
  rw [integer?] at h
  split at h
  · cases h
    exact .integer n
  · cases h

theorem wellKeyed_readBased {base : Nat} (h : readBased base s = some (v, r)) : v.WellKeyed := by
  obtain ⟨⟨ds, r'⟩, -, h⟩ := Option.bind_eq_some_iff.1 h
  obtain ⟨w, hw, h⟩ := Option.bind_eq_some_iff.1 h
  cases h
  exact wellKeyed_integer? hw

theorem wellKeyed_readInteger (h : readInteger s = some (v, r)) : v.WellKeyed := by
  rw [readInteger.eq_def] at h
  generalize readSign s = signed at h
  split at h
  · exact wellKeyed_readBased h
  · exact wellKeyed_readBased h
  · exact wellKeyed_readBased h
  · obtain ⟨⟨ds, r'⟩, -, h⟩ := Option.bind_eq_some_iff.1 h
    obtain ⟨w, hw, h⟩ := Option.bind_eq_some_iff.1 h
    cases h
    exact wellKeyed_integer? hw

theorem wellKeyed_readSpecial (h : readSpecial s = some (v, r)) : v.WellKeyed := by
  rw [readSpecial] at h
  generalize readSign s = signed at h
  dsimp only at h
  split at h <;> cases h <;> exact .float _

theorem wellKeyed_readFloat (h : readFloat s = some (v, r)) : v.WellKeyed := by
  rw [readFloat] at h
  generalize readSign s = signed at h
  obtain ⟨⟨whole, s₁⟩, -, h⟩ := Option.bind_eq_some_iff.1 h
  obtain ⟨⟨fraction, s₂⟩, -, h⟩ := Option.bind_eq_some_iff.1 h
  obtain ⟨⟨exponent, s₃⟩, -, h⟩ := Option.bind_eq_some_iff.1 h
  dsimp only at h
  -- too little, a negative number, too much, and a number
  split_ifs at h
  · cases h
    exact .float _
  · cases h
    exact .float _

theorem wellKeyed_readMoment (h : readMoment s = some (v, r)) : v.WellKeyed := by
  rw [readMoment] at h
  split at h
  · cases h
    exact .moment
  · obtain ⟨_, -, h⟩ := Option.map_eq_some_iff.1 h
    cases h
    exact .moment

theorem wellKeyed_readNumber (h : readNumber s = some (v, r)) : v.WellKeyed := by
  simp only [readNumber, Option.orElse_eq_orElse, Option.orElse_eq_or, Option.or_eq_some_iff] at h
  rcases h with h | ⟨-, h | ⟨-, h | ⟨-, h⟩⟩⟩
  · exact wellKeyed_readMoment h
  · exact wellKeyed_readFloat h
  · exact wellKeyed_readSpecial h
  · exact wellKeyed_readInteger h

theorem wellKeyed_readItems (hitem : ∀ s v r, item s = some (v, r) → v.WellKeyed)
    {done vs : List Toml} (hdone : ∀ v ∈ done, v.WellKeyed)
    (h : readItems item fuel done s = some (vs, r)) : ∀ v ∈ vs, v.WellKeyed := by
  induction fuel generalizing done s with
  | zero => cases h
  | succ fuel ih =>
    rw [readItems] at h
    split at h
    · cases h
      exact fun v hv => hdone v (List.mem_reverse.1 hv)
    · obtain ⟨⟨w, s'⟩, hw, h⟩ := Option.bind_eq_some_iff.1 h
      have hdone : ∀ v ∈ w :: done, v.WellKeyed :=
        List.forall_mem_cons.2 ⟨hitem _ _ _ hw, hdone⟩
      dsimp only at h
      split at h
      · exact ih hdone h
      · cases h
        exact fun v hv => hdone v (List.mem_reverse.1 hv)
      · cases h

theorem wellKeyed_readPair (hitem : ∀ s v r, item s = some (v, r) → v.WellKeyed) {key : Key}
    (h : readPair item s = some (key, v, r)) : v.WellKeyed := by
  obtain ⟨⟨key', s₁⟩, -, h⟩ := Option.bind_eq_some_iff.1 h
  obtain ⟨s₂, -, h⟩ := Option.bind_eq_some_iff.1 h
  obtain ⟨⟨w, s₃⟩, hw, h⟩ := Option.bind_eq_some_iff.1 h
  cases h
  exact hitem _ _ _ hw

theorem wellKeyed_readPairs (hitem : ∀ s v r, item s = some (v, r) → v.WellKeyed)
    (hes : es.WellKeyed) (h : readPairs item fuel es s = some (es', r)) : es'.WellKeyed := by
  induction fuel generalizing es s with
  | zero => cases h
  | succ fuel ih =>
    rw [readPairs] at h
    obtain ⟨⟨key, w, s'⟩, hw, h⟩ := Option.bind_eq_some_iff.1 h
    obtain ⟨es₁, hset, h⟩ := Option.bind_eq_some_iff.1 h
    have hes₁ : es₁.WellKeyed := wellKeyed_setKey (wellKeyed_readPair hitem hw) hes hset
    split at h
    · exact ih hes₁ h
    · cases h
      exact hes₁
    · cases h

theorem wellKeyed_readValue (h : readValue depth s = some (v, r)) : v.WellKeyed := by
  induction depth using Nat.strongRecOn generalizing s v r with
  | ind depth ih =>
    have string {s : Source} (h : (readString s).map (fun x => (.string x.1, x.2)) = some (v, r)) :
        v.WellKeyed := by
      obtain ⟨_, -, h⟩ := Option.map_eq_some_iff.1 h
      cases h
      exact .string _
    rw [readValue.eq_def] at h
    dsimp only at h
    -- one case for what may come first
    split at h
    · cases h
    · exact string h
    · exact string h
    · split at h
      · cases h
      · rename_i depth
        obtain ⟨⟨vs, _⟩, hvs, h⟩ := Option.map_eq_some_iff.1 h
        cases h
        have item : ∀ s v r, readValue depth s = some (v, r) → v.WellKeyed :=
          fun _ _ _ => ih depth (Nat.lt_succ_self _)
        exact .array (wellKeyed_readItems item (List.forall_mem_nil _) hvs)
    · split at h
      · cases h
      · rename_i depth
        have item : ∀ s v r, readValue depth s = some (v, r) → v.WellKeyed :=
          fun _ _ _ => ih depth (Nat.lt_succ_self _)
        split at h
        · cases h
          exact wellKeyed_table_iff.2 .nil
        · obtain ⟨⟨es, _⟩, hes, h⟩ := Option.map_eq_some_iff.1 h
          cases h
          exact wellKeyed_table_iff.2 (wellKeyed_readPairs item .nil hes)
    · cases h
      exact .boolean _
    · cases h
      exact .boolean _
    · exact wellKeyed_readSpecial h
    · exact wellKeyed_readSpecial h
    · split at h
      · exact wellKeyed_readNumber h
      · cases h

/-! ## Documents -/

variable {d d' : Draft} {key : Key}

namespace Draft

/-- Nothing that was read so far has a key twice. -/
structure WellKeyed (d : Draft) : Prop where
  root : d.root.WellKeyed
  current : d.current.WellKeyed

theorem WellKeyed.close (hd : d.WellKeyed) (h : d.close = some es) : es.WellKeyed := by
  rw [Draft.close] at h
  split at h
  · cases h
    exact hd.current
  · exact wellKeyed_pushTable hd.current hd.root h
  · exact wellKeyed_setTable hd.current hd.root h

theorem WellKeyed.openTable (hd : d.WellKeyed) (h : d.openTable key = some d') :
    d'.WellKeyed := by
  obtain ⟨closed, hclosed, h⟩ := Option.bind_eq_some_iff.1 h
  obtain ⟨⟨root, there⟩, hroot, h⟩ := Option.bind_eq_some_iff.1 h
  cases h
  obtain ⟨root, current⟩ := wellKeyed_reopen (hd.close hclosed) hroot
  exact ⟨root, current⟩

theorem WellKeyed.openItem (hd : d.WellKeyed) (h : d.openItem key = some d') : d'.WellKeyed := by
  obtain ⟨closed, hclosed, h⟩ := Option.bind_eq_some_iff.1 h
  obtain ⟨root, hroot, h⟩ := Option.bind_eq_some_iff.1 h
  cases h
  refine ⟨wellKeyed_insertAt (fun o es es' hes h => ?_) (hd.close hclosed) hroot, .nil⟩
  split at h <;> cases h
  · exact hes
  · exact hes

theorem WellKeyed.set (hd : d.WellKeyed) (hv : v.WellKeyed) (h : d.set key v = some d') :
    d'.WellKeyed := by
  obtain ⟨current, hcurrent, h⟩ := Option.bind_eq_some_iff.1 h
  cases h
  exact ⟨hd.root, wellKeyed_setKey hv hd.current hcurrent⟩

end Draft

/-- One line more keeps the document well keyed. -/
theorem wellKeyed_readLine (hd : d.WellKeyed) (h : readLine d s = some (d', r)) :
    d'.WellKeyed := by
  rw [readLine.eq_def] at h
  split at h
  · obtain ⟨_, -, h⟩ := Option.map_eq_some_iff.1 h
    cases h
    exact hd
  · obtain ⟨⟨key, _⟩, -, h⟩ := Option.bind_eq_some_iff.1 h
    obtain ⟨_, -, h⟩ := Option.bind_eq_some_iff.1 h
    obtain ⟨_, -, h⟩ := Option.bind_eq_some_iff.1 h
    obtain ⟨_, hitem, h⟩ := Option.bind_eq_some_iff.1 h
    obtain ⟨_, -, h⟩ := Option.bind_eq_some_iff.1 h
    cases h
    exact hd.openItem hitem
  · obtain ⟨⟨key, _⟩, -, h⟩ := Option.bind_eq_some_iff.1 h
    obtain ⟨_, -, h⟩ := Option.bind_eq_some_iff.1 h
    obtain ⟨_, htable, h⟩ := Option.bind_eq_some_iff.1 h
    obtain ⟨_, -, h⟩ := Option.bind_eq_some_iff.1 h
    cases h
    exact hd.openTable htable
  · split at h
    · cases h
      exact hd
    · obtain ⟨⟨key, v, _⟩, hpair, h⟩ := Option.bind_eq_some_iff.1 h
      obtain ⟨_, hset, h⟩ := Option.bind_eq_some_iff.1 h
      obtain ⟨_, -, h⟩ := Option.bind_eq_some_iff.1 h
      cases h
      exact hd.set (wellKeyed_readPair (fun _ _ _ => wellKeyed_readValue) hpair) hset

theorem wellKeyed_readLines (hd : d.WellKeyed) (h : readLines fuel d s = some d') :
    d'.WellKeyed := by
  induction fuel generalizing d s with
  | zero => cases h
  | succ fuel ih =>
    rw [readLines] at h
    split at h
    · cases h
      exact hd
    · obtain ⟨⟨d₁, s₁⟩, hline, h⟩ := Option.bind_eq_some_iff.1 h
      exact ih (wellKeyed_readLine hd hline) h

/-- No table of a document that was read has a key twice. -/
theorem wellKeyed_of_read? (h : read? s = some es) : es.WellKeyed := by
  obtain ⟨d, hd, hclose⟩ := Option.bind_eq_some_iff.1 h
  exact (wellKeyed_readLines ⟨.nil, .nil⟩ hd).close hclose

end ImageGateway.Toml
