import ImageGateway.Proofs.Text.Utf8
import ImageGateway.RequestJson
import Mathlib.Data.List.Forall2

/-!
Reading JSON that was written here. A text that is written for a value is read as that value, and
the reading stops right behind it, whatever follows (`Reads`); this is so for strings with all
their escapes (`reads_string`), and lists and objects inherit it from what they are made of
(`reads_array`, `reads_object`). A type whose texts are read as trees that it decodes makes the
round trip (`RoundTrips.of_reads`).
-/

namespace ImageGateway.Json

variable {text : List Char} {v : Json} {rest : Source}

/-! ## Strings -/

/-- A unit of a string that stands for one character alone. -/
inductive Unit.Spells : Unit → Char → Prop where
  | char (c : Char) : Spells (.char c) c
  /-- No surrogate is given by number. -/
  | code {c : Char} : c.toNat < 0xD800 → Spells (.code c.toNat) c

theorem joinUnits_of_spells {us : List Unit} {cs done : List Char}
    (h : List.Forall₂ Unit.Spells us cs) : joinUnits done us = some (done.reverse ++ cs) := by
  induction h generalizing done with
  | nil => rw [joinUnits, List.append_nil]
  | @cons u c us cs hu _ ih =>
    cases hu with
    | char => rw [joinUnits, ih, List.reverse_cons, List.append_assoc, List.singleton_append]
    | code hc =>
      have high : isHighSurrogate c.toNat = false := by simp [isHighSurrogate]; omega
      have low : isLowSurrogate c.toNat = false := by simp [isLowSurrogate]; omega
      rw [joinUnits.eq_def]
      simp only [high, low, Bool.false_eq_true, if_false]
      rw [Char.ofNat_toNat, ih, List.reverse_cons, List.append_assoc, List.singleton_append]

theorem fourHex?_hexDigit : ∀ n < 0x20,
    fourHex? '0' '0' (Writer.hexDigit (n / 16)) (Writer.hexDigit (n % 16)) = some n := by
  decide

/-- A short escape is read as the character that it stands for. -/
theorem scanString_short {e c : Char} (done : List Unit) (he : e ≠ 'u')
    (h : shortEscape? e = some c) :
    scanString done (some '\\' :: some e :: rest) = scanString (.char c :: done) rest := by
  rw [scanString, h]
  exact fun _ _ _ _ _ _ hu => he hu

theorem scanString_plain {c : Char} (done : List Unit) (rest : Source) (quote : c ≠ '"')
    (backslash : c ≠ '\\') (plain : 0x20 ≤ c.toNat) :
    scanString done (some c :: rest) = scanString (.char c :: done) rest := by
  rw [scanString]
  · exact if_neg (Nat.not_lt.2 plain)
  · exact quote
  · exact fun _ _ _ _ _ _ h => backslash h
  · exact fun _ _ _ h => backslash h
  · exact backslash

/-- What a character is escaped to is read as one unit for it. -/
theorem scanString_escape (c : Char) : ∃ u : Unit, u.Spells c ∧ ∀ done rest,
    scanString done ((Writer.escape c).map some ++ rest) = scanString (u :: done) rest := by
  have short {c e : Char} (he : e ≠ 'u') (h : shortEscape? e = some c) : ∃ u : Unit, u.Spells c ∧
      ∀ done rest, scanString done (['\\', e].map some ++ rest) = scanString (u :: done) rest :=
    ⟨.char c, .char c, fun done _ => scanString_short done he h⟩
  rw [Writer.escape]
  split_ifs with quote backslash plain b f n r t
  · subst quote
    exact short (by decide) rfl
  · subst backslash
    exact short (by decide) rfl
  · exact ⟨.char c, .char c, fun done rest => scanString_plain done rest quote backslash plain⟩
  · subst b
    exact short (by decide) rfl
  · subst f
    exact short (by decide) rfl
  · subst n
    exact short (by decide) rfl
  · subst r
    exact short (by decide) rfl
  · subst t
    exact short (by decide) rfl
  · have control : c.toNat < 0x20 := by omega
    refine ⟨.code c.toNat, .code (by omega), fun done rest => ?_⟩
    simp only [List.map_cons, List.map_nil, List.cons_append, List.nil_append]
    rw [scanString, fourHex?_hexDigit _ control]

theorem scanString_flatMap (cs : List Char) : ∃ us, List.Forall₂ Unit.Spells us cs ∧
    ∀ done rest, scanString done ((cs.flatMap Writer.escape).map some ++ some '"' :: rest) =
      some (done.reverse ++ us, rest) := by
  induction cs with
  | nil => exact ⟨[], .nil, fun done rest => by rw [List.flatMap_nil, List.map_nil,
      List.nil_append, scanString, List.append_nil]⟩
  | cons c cs ih =>
    obtain ⟨us, hus, hscan⟩ := ih
    obtain ⟨u, hu, hc⟩ := scanString_escape c
    refine ⟨u :: us, .cons hu hus, fun done rest => ?_⟩
    rw [List.flatMap_cons, List.map_append, List.append_assoc, hc, hscan, List.reverse_cons,
      List.append_assoc, List.singleton_append]

/-- A string that was written is read back from behind its first quote. -/
theorem readString_escaped (s : String) (rest : Source) :
    readString ((s.toList.flatMap Writer.escape).map some ++ some '"' :: rest) =
      some (some s, rest) := by
  obtain ⟨us, hus, hscan⟩ := scanString_flatMap s.toList
  rw [readString, hscan, Option.map_some]
  simp only [List.reverse_nil, List.nil_append, joinUnits_of_spells hus, Option.map_some,
    String.ofList_toList]

/-! ## Values -/

theorem skipBlank_cons {c : Char} (h : isBlank (some c) = false) :
    skipBlank (some c :: rest) = some c :: rest := by
  rw [skipBlank, List.dropWhile_cons_of_neg (by simp [h])]

/-- The text is read as the value, and no further than to its end. -/
structure Reads (text : List Char) (v : Json) : Prop where
  /-- It is not taken for a blank or for the end of a list. -/
  head : ∃ c cs, text = c :: cs ∧ isBlank (some c) = false ∧ c ≠ ']'
  value : ∀ fuel, text.length ≤ fuel → ∀ rest,
    readValue fuel (text.map some ++ rest) = (v, some rest)

theorem reads_string (s : String) : Reads (Writer.string s) (.string s) where
  head := ⟨'"', _, rfl, rfl, by decide⟩
  value := by
    intro fuel hfuel rest
    obtain ⟨fuel, rfl⟩ := Nat.exists_eq_add_of_le' hfuel
    simp only [Writer.string, List.map_cons, List.map_append, List.map_nil, List.cons_append,
      List.append_assoc, List.nil_append, List.length_cons, ← Nat.add_assoc]
    rw [readValue, skipBlank_cons rfl]
    simp only [readString_escaped]

theorem reads_null : Reads Writer.null .null where
  head := ⟨'n', _, rfl, rfl, by decide⟩
  value := by
    intro fuel hfuel rest
    obtain ⟨fuel, rfl⟩ := Nat.exists_eq_add_of_le' hfuel
    have word : Writer.null.map some ++ rest = some 'n' :: ("ull".toList.map some ++ rest) := rfl
    have length : Writer.null.length = 3 + 1 := rfl
    rw [word, length, ← Nat.add_assoc, readValue, skipBlank_cons rfl]
    simp only [readWord]
    rw [if_pos (by simp), List.drop_left' (by simp)]

/-! ### Lists -/

/-- Items with commas between them are read up to the bracket behind them. -/
theorem readItems_commas {texts : List (List Char)} {vs : List Json}
    (h : List.Forall₂ Reads (text :: texts) (v :: vs)) (fuel : Nat) (done : List Json)
    (hfuel : (Writer.commas (text :: texts)).length < fuel) (rest : Source) :
    readItems fuel done ((Writer.commas (text :: texts)).map some ++ some ']' :: rest) =
      (done.reverse ++ v :: vs, some rest) := by
  induction texts generalizing text v vs fuel done with
  | nil =>
    obtain ⟨ht, htail⟩ := List.forall₂_cons.1 h
    cases List.forall₂_nil_left_iff.1 htail
    obtain ⟨fuel, rfl⟩ := Nat.exists_eq_add_of_lt hfuel
    simp only [Writer.commas] at hfuel ⊢
    rw [readItems, ht.value _ (by omega)]
    simp only
    rw [skipBlank_cons rfl]
    simp
  | cons next texts ih =>
    obtain ⟨ht, htail⟩ := List.forall₂_cons.1 h
    obtain ⟨v', vs, hnext, hlater, rfl⟩ := List.forall₂_cons_left_iff.1 htail
    obtain ⟨fuel, rfl⟩ := Nat.exists_eq_add_of_lt hfuel
    simp only [Writer.commas, List.length_append, List.length_cons, List.map_append,
      List.map_cons, List.append_assoc, List.cons_append] at hfuel ⊢
    rw [readItems, ht.value _ (by omega)]
    simp only
    rw [skipBlank_cons rfl]
    simp only
    rw [ih (.cons hnext hlater) _ _ (by omega)]
    simp

theorem reads_array {texts : List (List Char)} {vs : List Json} (h : List.Forall₂ Reads texts vs) :
    Reads (Writer.array texts) (.array vs) where
  head := ⟨'[', _, rfl, rfl, by decide⟩
  value := by
    intro fuel hfuel rest
    simp only [Writer.array, List.length_cons, List.length_append, List.length_nil] at hfuel
    obtain ⟨fuel, rfl⟩ := Nat.exists_eq_add_of_le' hfuel
    simp only [Writer.array, List.map_cons, List.map_append, List.map_nil, List.cons_append,
      List.append_assoc, List.nil_append, ← Nat.add_assoc]
    rw [readValue, skipBlank_cons rfl]
    simp only
    cases h with
    | nil =>
      rw [Writer.commas, List.map_nil, List.nil_append, skipBlank_cons rfl]
      rfl
    | @cons text v texts vs ht htail =>
      obtain ⟨c, cs, hc, blank, bracket⟩ : ∃ c cs, Writer.commas (text :: texts) = c :: cs ∧
          isBlank (some c) = false ∧ c ≠ ']' := by
        obtain ⟨c, cs, rfl, hblank, hbracket⟩ := ht.head
        cases texts with
        | nil => exact ⟨c, cs, rfl, hblank, hbracket⟩
        | cons => exact ⟨c, _, rfl, hblank, hbracket⟩
      have items := readItems_commas (.cons ht htail) (fuel + (c :: cs).length + 1) []
        (by rw [hc]; omega) rest
      rw [hc] at items ⊢
      rw [List.map_cons, List.cons_append, skipBlank_cons blank]
      rw [List.map_cons, List.cons_append] at items
      split
      · rename_i heq
        exact absurd (Option.some.inj (List.cons.inj heq).1) bracket
      · rw [items]
        rfl

/-! ### Objects -/

/-- The member is read as the key with the value. -/
def ReadsMember (m : String × List Char) (x : Option String × Json) : Prop :=
  x.1 = some m.1 ∧ Reads m.2 x.2

/-- A member is read up to its end, and then what stands behind it counts. -/
theorem readMembers_member {m : String × List Char} {x : Option String × Json}
    (h : ReadsMember m x) {fuel : Nat} (hfuel : m.2.length ≤ fuel)
    (done : List (Option String × Json)) (rest : Source) :
    readMembers (fuel + 1) done ((Writer.member m.1 m.2).map some ++ rest) =
      match skipBlank rest with
      | some '\x7d' :: r => ((x :: done).reverse, some r)
      | some ',' :: r => readMembers fuel (x :: done) r
      | _ => (((none, broken) :: x :: done).reverse, none) := by
  obtain ⟨key, v⟩ := x
  obtain ⟨rfl, hv⟩ := h
  simp only [Writer.member, Writer.string, List.map_cons, List.map_append, List.cons_append,
    List.append_assoc, List.nil_append]
  rw [readMembers, skipBlank_cons rfl]
  simp only [readString_escaped]
  rw [skipBlank_cons rfl]
  have value := hv.value fuel hfuel rest
  simp only
  generalize readValue fuel (m.2.map some ++ rest) = read at value ⊢
  subst value
  rfl

theorem readMembers_commas {m : String × List Char} {ms : List (String × List Char)}
    {x : Option String × Json} {xs : List (Option String × Json)}
    (h : List.Forall₂ ReadsMember (m :: ms) (x :: xs)) (fuel : Nat)
    (done : List (Option String × Json))
    (hfuel : (Writer.commas ((m :: ms).map fun m => Writer.member m.1 m.2)).length < fuel)
    (rest : Source) :
    readMembers fuel done
        ((Writer.commas ((m :: ms).map fun m => Writer.member m.1 m.2)).map some ++
          some '\x7d' :: rest) =
      (done.reverse ++ x :: xs, some rest) := by
  have short (m : String × List Char) : m.2.length ≤ (Writer.member m.1 m.2).length := by
    simp only [Writer.member, List.length_append, List.length_cons]
    omega
  induction ms generalizing m x xs fuel done with
  | nil =>
    obtain ⟨hm, htail⟩ := List.forall₂_cons.1 h
    cases List.forall₂_nil_left_iff.1 htail
    obtain ⟨fuel, rfl⟩ := Nat.exists_eq_add_of_lt hfuel
    have := short m
    simp only [List.map_cons, List.map_nil, Writer.commas] at hfuel ⊢
    rw [readMembers_member hm (by omega), skipBlank_cons rfl]
    simp
  | cons next ms ih =>
    obtain ⟨hm, htail⟩ := List.forall₂_cons.1 h
    obtain ⟨x', xs, hnext, hlater, rfl⟩ := List.forall₂_cons_left_iff.1 htail
    obtain ⟨fuel, rfl⟩ := Nat.exists_eq_add_of_lt hfuel
    have := short m
    simp only [List.map_cons, Writer.commas, List.length_append, List.length_cons,
      List.map_append, List.append_assoc, List.cons_append] at hfuel ih ⊢
    rw [readMembers_member hm (by omega), skipBlank_cons rfl]
    simp only
    rw [ih (.cons hnext hlater) _ _ (by omega)]
    simp

theorem reads_object {ms : List (String × List Char)} {xs : List (Option String × Json)}
    (h : List.Forall₂ ReadsMember ms xs) : Reads (Writer.object ms) (.object xs) where
  head := ⟨'\x7b', _, rfl, rfl, by decide⟩
  value := by
    intro fuel hfuel rest
    simp only [Writer.object, List.length_cons, List.length_append, List.length_nil] at hfuel
    obtain ⟨fuel, rfl⟩ := Nat.exists_eq_add_of_le' hfuel
    simp only [Writer.object, List.map_cons, List.map_append, List.map_nil, List.cons_append,
      List.append_assoc, List.nil_append, ← Nat.add_assoc]
    rw [readValue, skipBlank_cons rfl]
    simp only
    cases h with
    | nil =>
      rw [List.map_nil, Writer.commas, List.map_nil, List.nil_append, skipBlank_cons rfl]
      rfl
    | @cons m x ms xs hm htail =>
      obtain ⟨cs, hcs⟩ : ∃ cs,
          Writer.commas ((m :: ms).map fun m => Writer.member m.1 m.2) = '"' :: cs := by
        cases ms <;> exact ⟨_, rfl⟩
      have members := readMembers_commas (.cons hm htail) (fuel + ('"' :: cs).length + 1) []
        (by rw [hcs]; omega) rest
      rw [hcs] at members ⊢
      rw [List.map_cons, List.cons_append, skipBlank_cons rfl]
      rw [List.map_cons, List.cons_append] at members
      split
      · rename_i heq
        exact absurd (Option.some.inj (List.cons.inj heq).1) (by decide)
      · rw [members]
        rfl

/-! ## Documents -/

/-- The octets of a text that was written. -/
def octets (text : List Char) : Bytes := Text.Utf8.encode (String.ofList text)

theorem read_octets (h : Reads text v) : read (Text.Utf8.decode (octets text)) = (v, some []) := by
  have whole := h.value (2 * (text.map some).length + 2) (by rw [List.length_map]; omega) []
  rw [List.append_nil] at whole
  rw [octets, Text.Utf8.decode_encode, String.toList_ofList, read, whole]

/-- A text that is read as a value is decoded as that value is. -/
theorem decodeText_octets_eq {α : Type} (h : Reads text v) (f : Decoder α) (alone : Bool) :
    decodeText alone f (Text.Utf8.decode (octets text)) = f v := by
  rw [decodeText, read_octets h]
  simp only [bind, Except.bind]
  cases f v with
  | error e => rfl
  | ok a => cases alone <;> rfl

theorem decodeText_octets {α : Type} {f : Decoder α} {a : α} (h : Reads text v) (hf : f v = .ok a)
    (alone : Bool) : decodeText alone f (Text.Utf8.decode (octets text)) = .ok a := by
  rw [decodeText_octets_eq h, hf]

/-- What is written for a value is read back as that value, to the last octet. A document that is
read as a value may be written anew: it is still read as that value, and what is written for it
does not change any more. -/
structure RoundTrips {α : Type} (ofJson : Decoder α) (toJson : α → List Char) : Prop where
  whole : ∀ a, (read (Text.Utf8.decode (octets (toJson a)))).2 = some []
  back : ∀ a, decodeBytes ofJson (octets (toJson a)) = .ok a
  again : ∀ bytes a, decodeBytes ofJson bytes = .ok a →
    ∃ a', decodeBytes ofJson (octets (toJson a)) = .ok a' ∧ a' = a ∧ toJson a' = toJson a

theorem RoundTrips.of_reads {α : Type} {ofJson : Decoder α} {toJson : α → List Char}
    (tree : α → Json) (reads : ∀ a, Reads (toJson a) (tree a))
    (decodes : ∀ a, ofJson (tree a) = .ok a) : RoundTrips ofJson toJson where
  whole a := by rw [read_octets (reads a)]
  back a := decodeText_octets (reads a) (decodes a) true
  again _ a _ := ⟨a, decodeText_octets (reads a) (decodes a) true, rfl, rfl⟩

end ImageGateway.Json
