import ImageGateway.Text.Utf8
import Mathlib.Data.List.Induction
import Mathlib.Tactic.SplitIfs

/-!
Reading what was written in UTF-8. A character takes one to four octets; the first of them tells how
many, and the range that it leaves to the second one holds just the characters that have no shorter
form and are no surrogates (`decodeFrom_encodeChar`). So a text is read back as it was
(`decode_encode`). An octet below 0x80 is a character of its own and no part of another one, so the
octets of a text end in an ASCII text only if its characters do (`encode_suffix_iff`).
-/

namespace ImageGateway.Text.Utf8

variable {n k acc lo hi : Nat} {s : List UInt8} {done : List (Option Char)}

theorem toNat_octet (h : n < 256) : (octet n).toNat = n := by
  rw [octet, UInt8.toNat_ofNat', Nat.mod_eq_of_lt h]

/-! ## Octets -/

theorem decodeFrom_ascii (h : n < 0x80) :
    decodeFrom done (octet n :: s) = decodeFrom (some (Char.ofNat n) :: done) s := by
  rw [decodeFrom, toNat_octet (by omega), if_pos h]

/-- An octet that announces others is read together with them. -/
theorem decodeFrom_lead (hn : n < 256) (h : lead? n = some (k, acc, lo, hi)) :
    decodeFrom done (octet n :: s) =
      decodeFrom ((tail k acc lo hi s).1 :: done) (tail k acc lo hi s).2 := by
  have high : ¬ n < 0x80 := by
    intro hlow
    rw [lead?, if_pos (by omega)] at h
    cases h
  rw [decodeFrom, toNat_octet hn, if_neg high, h]

theorem tail_octet (hlo : lo ≤ n) (hhi : n ≤ hi) (hn : n < 256) :
    tail (k + 1) acc lo hi (octet n :: s) = tail k (acc * 64 + (n - 0x80)) 0x80 0xBF s := by
  rw [tail, toNat_octet hn, if_pos ⟨hlo, hhi⟩]

theorem lead?_two (h : 2 ≤ n) (hn : n < 32) : lead? (0xC0 + n) = some (1, n, 0x80, 0xBF) := by
  rw [lead?, if_neg (by omega), if_pos (by omega), Nat.add_sub_cancel_left]

theorem lead?_three (hn : n < 16) : lead? (0xE0 + n) =
    some (2, n, if n = 0 then 0xA0 else 0x80, if n = 0xD then 0x9F else 0xBF) := by
  have first : 0xE0 + n = 0xE0 ↔ n = 0 := by omega
  have surrogate : 0xE0 + n = 0xED ↔ n = 0xD := by omega
  rw [lead?, if_neg (by omega), if_neg (by omega), if_pos (by omega), Nat.add_sub_cancel_left]
  simp only [first, surrogate]

theorem lead?_four (hn : n < 5) : lead? (0xF0 + n) =
    some (3, n, if n = 0 then 0x90 else 0x80, if n = 4 then 0x8F else 0xBF) := by
  have first : 0xF0 + n = 0xF0 ↔ n = 0 := by omega
  have last : 0xF0 + n = 0xF4 ↔ n = 4 := by omega
  rw [lead?, if_neg (by omega), if_neg (by omega), if_neg (by omega), if_pos (by omega),
    Nat.add_sub_cancel_left]
  simp only [first, last]

/-! ## Characters -/

/-- The octets of a character are read as that character. -/
theorem decodeFrom_encodeChar (c : Char) :
    decodeFrom done (encodeChar c ++ s) = decodeFrom (some c :: done) s := by
  have valid : c.toNat < 0xD800 ∨ 0xDFFF < c.toNat ∧ c.toNat < 0x110000 := c.valid
  have back (acc : Nat) (h : acc = c.toNat) : Char.ofNat acc = c := by rw [h, Char.ofNat_toNat]
  rw [encodeChar]
  generalize c.toNat = n at valid back
  split
  · rename_i h
    rw [List.singleton_append, decodeFrom_ascii h, back n rfl]
  · split
    · have lead := @lead?_two (n / 64) (by omega) (by omega)
      simp only [List.cons_append, List.nil_append]
      rw [decodeFrom_lead (by omega) lead, tail_octet (by omega) (by omega) (by omega), tail,
        back _ (by omega)]
    · split
      · have lead := @lead?_three (n / 4096) (by omega)
        simp only [List.cons_append, List.nil_append]
        rw [decodeFrom_lead (by omega) lead,
          tail_octet (by split <;> omega) (by split <;> omega) (by omega),
          tail_octet (by omega) (by omega) (by omega), tail, back _ (by omega)]
      · have lead := @lead?_four (n / 262144) (by omega)
        simp only [List.cons_append, List.nil_append]
        rw [decodeFrom_lead (by omega) lead,
          tail_octet (by split <;> omega) (by split <;> omega) (by omega),
          tail_octet (by omega) (by omega) (by omega), tail_octet (by omega) (by omega) (by omega),
          tail, back _ (by omega)]

theorem decodeFrom_flatMap (l : List Char) :
    decodeFrom done (l.flatMap encodeChar) = done.reverse ++ l.map some := by
  induction l generalizing done with
  | nil => rw [List.flatMap_nil, decodeFrom, List.map_nil, List.append_nil]
  | cons c l ih =>
    rw [List.flatMap_cons, decodeFrom_encodeChar, ih, List.reverse_cons, List.append_assoc,
      List.singleton_append, List.map_cons]

/-- A text that was written is read back. -/
theorem decode_encode (s : String) : decode (encode s) = s.toList.map some := by
  rw [decode, encode, decodeFrom_flatMap, List.reverse_nil, List.nil_append]

theorem lossy_encode (s : String) : lossy (encode s) = s := by
  have back : (fun o : Option Char => o.getD '\uFFFD') ∘ some = id := rfl
  rw [lossy, decode_encode, List.map_map, back, List.map_id, String.ofList_toList]

/-! ## Octets that are read throughout -/

theorem toNat_charOfNat (h : n < 0xD800 ∨ 0xDFFF < n ∧ n < 0x110000) :
    (Char.ofNat n).toNat = n := by
  have valid : n.isValidChar := h
  rw [Char.ofNat, dif_pos valid]
  rfl

theorem eq_octet {b : UInt8} (h : b.toNat = n) : b = octet n := by
  rw [octet, ← h, UInt8.ofNat_toNat]

theorem tail_succ_eq_some {c : Char} {rest : List UInt8}
    (h : tail (k + 1) acc lo hi s = (some c, rest)) : ∃ b r, s = b :: r ∧ lo ≤ b.toNat ∧
      b.toNat ≤ hi ∧ tail k (acc * 64 + (b.toNat - 0x80)) 0x80 0xBF r = (some c, rest) := by
  cases s with
  | nil => cases h
  | cons b r =>
    rw [tail] at h
    split at h
    · rename_i hb
      exact ⟨b, r, rfl, hb.1, hb.2, h⟩
    · cases h

theorem lead?_eq_some_iff {m : Nat} : lead? m = some (k, acc, lo, hi) ↔
    (0xC2 ≤ m ∧ m < 0xE0 ∧ k = 1 ∧ acc = m - 0xC0 ∧ lo = 0x80 ∧ hi = 0xBF) ∨
    (0xE0 ≤ m ∧ m < 0xF0 ∧ k = 2 ∧ acc = m - 0xE0 ∧ lo = (if m = 0xE0 then 0xA0 else 0x80) ∧
      hi = if m = 0xED then 0x9F else 0xBF) ∨
    (0xF0 ≤ m ∧ m < 0xF5 ∧ k = 3 ∧ acc = m - 0xF0 ∧ lo = (if m = 0xF0 then 0x90 else 0x80) ∧
      hi = if m = 0xF4 then 0x8F else 0xBF) := by
  rw [lead?]
  split_ifs <;> simp <;> omega

/-- Whatever comes first, the second octet is one that can follow. -/
theorem range_of_lead? {m : Nat} (h : lead? m = some (k, acc, lo, hi)) : 0x80 ≤ lo ∧ hi ≤ 0xBF := by
  rcases lead?_eq_some_iff.1 h with ⟨-, -, -, -, rfl, rfl⟩ | ⟨-, -, -, -, rfl, rfl⟩ |
    ⟨-, -, -, -, rfl, rfl⟩
  · omega
  · constructor <;> split <;> omega
  · constructor <;> split <;> omega

/-- What is read as a character is what is written for it. -/
theorem eq_encodeChar_append {b : UInt8} {c : Char} {rest : List UInt8}
    (hl : lead? b.toNat = some (k, acc, lo, hi)) (ht : tail k acc lo hi s = (some c, rest)) :
    b :: s = encodeChar c ++ rest := by
  have follows := range_of_lead? hl
  -- by the number of octets that follow the first
  rcases lead?_eq_some_iff.1 hl with ⟨low, high, rfl, hacc, rfl, rfl⟩ |
    ⟨low, high, rfl, hacc, rfl, rfl⟩ | ⟨low, high, rfl, hacc, rfl, rfl⟩
  · obtain ⟨b₁, r, rfl, lo₁, hi₁, ht⟩ := tail_succ_eq_some ht
    rw [tail, Prod.mk.injEq, Option.some.injEq] at ht
    obtain ⟨rfl, rfl⟩ := ht
    rw [encodeChar, toNat_charOfNat (by omega), if_neg (by omega), if_pos (by omega)]
    simp only [List.cons_append, List.nil_append, List.cons.injEq, and_true]
    exact ⟨eq_octet (by omega), eq_octet (by omega)⟩
  · obtain ⟨b₁, r, rfl, lo₁, hi₁, ht⟩ := tail_succ_eq_some ht
    obtain ⟨b₂, r, rfl, lo₂, hi₂, ht⟩ := tail_succ_eq_some ht
    rw [tail, Prod.mk.injEq, Option.some.injEq] at ht
    obtain ⟨rfl, rfl⟩ := ht
    have bounds : 0xA0 ≤ b₁.toNat ∨ b.toNat ≠ 0xE0 := by
      split at lo₁ <;> omega
    have surrogate : b₁.toNat ≤ 0x9F ∨ b.toNat ≠ 0xED := by
      split at hi₁ <;> omega
    have tail₁ : 0x80 ≤ b₁.toNat ∧ b₁.toNat ≤ 0xBF :=
      ⟨Nat.le_trans follows.1 lo₁, Nat.le_trans hi₁ follows.2⟩
    clear lo₁ hi₁ hl
    rw [encodeChar, toNat_charOfNat (by omega), if_neg (by omega), if_neg (by omega),
      if_pos (by omega)]
    simp only [List.cons_append, List.nil_append, List.cons.injEq, and_true]
    exact ⟨eq_octet (by omega), eq_octet (by omega), eq_octet (by omega)⟩
  · obtain ⟨b₁, r, rfl, lo₁, hi₁, ht⟩ := tail_succ_eq_some ht
    obtain ⟨b₂, r, rfl, lo₂, hi₂, ht⟩ := tail_succ_eq_some ht
    obtain ⟨b₃, r, rfl, lo₃, hi₃, ht⟩ := tail_succ_eq_some ht
    rw [tail, Prod.mk.injEq, Option.some.injEq] at ht
    obtain ⟨rfl, rfl⟩ := ht
    have bounds : 0x90 ≤ b₁.toNat ∨ b.toNat ≠ 0xF0 := by
      split at lo₁ <;> omega
    have largest : b₁.toNat ≤ 0x8F ∨ b.toNat ≠ 0xF4 := by
      split at hi₁ <;> omega
    have tail₁ : 0x80 ≤ b₁.toNat ∧ b₁.toNat ≤ 0xBF :=
      ⟨Nat.le_trans follows.1 lo₁, Nat.le_trans hi₁ follows.2⟩
    clear lo₁ hi₁ hl
    rw [encodeChar, toNat_charOfNat (by omega), if_neg (by omega), if_neg (by omega),
      if_neg (by omega)]
    simp only [List.cons_append, List.nil_append, List.cons.injEq, and_true]
    exact ⟨eq_octet (by omega), eq_octet (by omega), eq_octet (by omega), eq_octet (by omega)⟩

theorem prefix_decodeFrom : done.reverse <+: decodeFrom done s := by
  fun_induction decodeFrom done s with
  | case1 done => exact List.prefix_refl _
  | case2 done b s h ih | case3 done b s h hl ih | case4 done b s h k acc lo hi hl ih =>
    rw [List.reverse_cons] at ih
    exact (List.prefix_append _ _).trans ih

/-- What was read last is the next character of the text, if there is a text in the octets. -/
theorem exists_cons_of_decodeFrom {x : Option Char} {l : List Char}
    (h : decodeFrom (x :: done) s = done.reverse ++ l.map some) : ∃ c r, l = c :: r ∧ x = some c ∧
      decodeFrom (x :: done) s = (x :: done).reverse ++ r.map some := by
  obtain ⟨t, ht⟩ := @prefix_decodeFrom s (x :: done)
  rw [← ht, List.reverse_cons, List.append_assoc, List.append_cancel_left_eq] at h
  cases l with
  | nil => cases h
  | cons c r =>
    obtain ⟨rfl, rfl⟩ := List.cons.inj h
    exact ⟨c, r, rfl, rfl, ht.symm⟩

theorem eq_flatMap_of_decodeFrom {l : List Char}
    (h : decodeFrom done s = done.reverse ++ l.map some) : s = l.flatMap encodeChar := by
  fun_induction decodeFrom done s generalizing l with
  | case1 done =>
    have nothing : l = [] := by simpa using h
    rw [nothing, List.flatMap_nil]
  | case2 done b s hb ih =>
    obtain ⟨c, r, rfl, hc, hr⟩ := exists_cons_of_decodeFrom h
    obtain rfl := Option.some.inj hc
    have value : (Char.ofNat b.toNat).toNat = b.toNat := toNat_charOfNat (by omega)
    rw [List.flatMap_cons, ← ih hr, encodeChar, value, if_pos hb, octet, UInt8.ofNat_toNat]
    rfl
  | case3 done b s hb hl ih =>
    obtain ⟨c, r, -, hc, -⟩ := exists_cons_of_decodeFrom h
    cases hc
  | case4 done b s hb k acc lo hi hl ih =>
    obtain ⟨c, r, rfl, hc, hr⟩ := exists_cons_of_decodeFrom h
    rw [List.flatMap_cons, ← ih hr]
    exact eq_encodeChar_append hl (Prod.ext hc rfl)

theorem mapM_id_eq_some_iff {α : Type} {os : List (Option α)} {l : List α} :
    os.mapM id = some l ↔ os = l.map some := by
  induction os generalizing l with
  | nil => cases l <;> simp
  | cons o os ih =>
    cases l with
    | nil => simp [Option.bind_eq_some_iff]
    | cons a l => simp [Option.bind_eq_some_iff, ih]

/-- A text is in the octets if they are what is written for it. -/
theorem strict?_eq_some_iff {t : String} : strict? s = some t ↔ s = encode t := by
  rw [strict?, Option.map_eq_some_iff]
  simp only [mapM_id_eq_some_iff]
  constructor
  · rintro ⟨l, hl, rfl⟩
    rw [encode, String.toList_ofList]
    exact eq_flatMap_of_decodeFrom hl
  · rintro rfl
    exact ⟨_, decode_encode t, String.ofList_toList⟩

variable {c d : Char} {cs ds : List Char} {front : List UInt8}

/-- Every character of the list is below U+0080. -/
def Ascii (cs : List Char) : Prop := ∀ c ∈ cs, c.toNat < 0x80

theorem encodeChar_of_ascii (h : c.toNat < 0x80) : encodeChar c = [octet c.toNat] := by
  rw [encodeChar, if_pos h]

/-- The last octet of any other character is no ASCII character. -/
theorem encodeChar_of_not_ascii (h : ¬ c.toNat < 0x80) :
    ∃ (l : List UInt8) (n : Nat), encodeChar c = l ++ [octet n] ∧ 0x80 ≤ n ∧ n < 256 := by
  rw [encodeChar, if_neg h]
  split
  · exact ⟨[_], 0x80 + c.toNat % 64, rfl, by omega, by omega⟩
  · split
    · exact ⟨[_, _], 0x80 + c.toNat % 64, rfl, by omega, by omega⟩
    · exact ⟨[_, _, _], 0x80 + c.toNat % 64, rfl, by omega, by omega⟩

/-- An ASCII character at the end of the octets is the last character. -/
theorem eq_of_encodeChar_end (hc : c.toNat < 0x80) {l r : List UInt8}
    (h : l ++ encodeChar c = r ++ encodeChar d) : c = d ∧ l = r := by
  rw [encodeChar_of_ascii hc] at h
  by_cases hd : d.toNat < 0x80
  · rw [encodeChar_of_ascii hd] at h
    obtain ⟨hl, hn⟩ := List.append_inj' h rfl
    have value := congrArg UInt8.toNat (List.singleton_inj.1 hn)
    rw [toNat_octet (by omega), toNat_octet (by omega)] at value
    exact ⟨Char.toNat_inj.1 value, hl⟩
  · obtain ⟨m, n, hm, low, high⟩ := encodeChar_of_not_ascii hd
    rw [hm, ← List.append_assoc] at h
    obtain ⟨-, hn⟩ := List.append_inj' h rfl
    have value := congrArg UInt8.toNat (List.singleton_inj.1 hn)
    rw [toNat_octet (by omega), toNat_octet high] at value
    omega

theorem suffix_of_flatMap_suffix (hcs : Ascii cs)
    (h : front ++ cs.flatMap encodeChar = ds.flatMap encodeChar) : cs <:+ ds := by
  -- from the end, where the characters can be told apart
  induction cs using List.reverseRecOn generalizing ds with
  | nil => exact List.nil_suffix
  | append_singleton cs c ih =>
    have hc : c.toNat < 0x80 := hcs c (by simp)
    have hcs' : Ascii cs := fun x hx => hcs x (List.mem_append_left _ hx)
    rw [List.flatMap_append, List.flatMap_singleton, ← List.append_assoc] at h
    rcases List.eq_nil_or_concat ds with rfl | ⟨es, d, rfl⟩
    · rw [encodeChar_of_ascii hc] at h
      simp at h
    · rw [List.concat_eq_append, List.flatMap_append, List.flatMap_singleton] at h
      obtain ⟨rfl, hrest⟩ := eq_of_encodeChar_end hc h
      obtain ⟨t, rfl⟩ := ih hcs' hrest
      exact ⟨t, by rw [List.concat_eq_append, List.append_assoc]⟩

/-- A text ends in an ASCII text in octets if and only if it does in characters. -/
theorem encode_suffix_iff {s t : String} (h : Ascii s.toList) :
    encode s <:+ encode t ↔ s.toList <:+ t.toList := by
  constructor
  · rintro ⟨front, hfront⟩
    exact suffix_of_flatMap_suffix h hfront
  · rintro ⟨front, hfront⟩
    exact ⟨front.flatMap encodeChar, by rw [encode, encode, ← hfront, List.flatMap_append]⟩

end ImageGateway.Text.Utf8
