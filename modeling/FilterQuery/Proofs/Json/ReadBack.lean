import FilterQuery.Proofs.Json.Depth
import FilterQuery.Proofs.Json.Numeral
import FilterQuery.Text.Blank

/-!
# Values that are read back

The text of a well-formed value is read as the value, as long as the reader has room for its
containers, and refused otherwise. Two characters of fuel are enough for each character of the text.
-/

namespace FilterQuery.Json

open Text (isDigit)

/-! ### Strings -/

theorem hexValue?_hexDigit {d : Nat} (hd : d < 16) :
    hexValue? (Text.hexDigits.hexDigit d) = some d := by
  revert d
  decide

/-- A number of two hexadecimal digits is padded to four. -/
theorem padded_hexDigits {n : Nat} (hn : n < 256) :
    List.replicate (4 - (Text.hexDigits n).length) '0' ++ Text.hexDigits n =
      ['0', '0', Text.hexDigits.hexDigit (n / 16), Text.hexDigits.hexDigit (n % 16)] := by
  by_cases hsmall : n < 16
  · have hzero : n / 16 = 0 := by omega
    rw [Text.hexDigits, if_pos hsmall, hzero, Nat.mod_eq_of_lt hsmall]
    rfl
  · rw [Text.hexDigits, if_neg hsmall, Text.hexDigits, if_pos (by omega)]
    rfl

/-- Two hexadecimal digits behind two zeros are the unit of a control character. -/
theorem hexUnit?_padded {n : Nat} (hn : n < 256) :
    hexUnit? '0' '0' (Text.hexDigits.hexDigit (n / 16)) (Text.hexDigits.hexDigit (n % 16)) =
      some n := by
  have hzero : hexValue? '0' = some 0 := by decide
  rw [hexUnit?, hzero, hexValue?_hexDigit (by omega), hexValue?_hexDigit (by omega)]
  simp only [Option.bind_eq_bind, Option.bind_some, Option.pure_def, Option.some.injEq]
  omega

/-- A character that needs no escape is read as it stands. -/
theorem readString_plain {c : Char} (hquote : c ≠ '\x22') (hbackslash : c ≠ '\\')
    (hcontrol : ¬ c.toNat < 0x20) (read rest : List Char) :
    readString read (c :: rest) = readString (c :: read) rest := by
  rw [readString.eq_def]
  split
  · rename_i heq
    cases heq
  · rename_i heq
    exact absurd (List.cons.inj heq).1 hquote
  · rename_i heq
    exact absurd (List.cons.inj heq).1 hbackslash
  · rename_i heq
    exact absurd (List.cons.inj heq).1 hbackslash
  · rename_i heq
    cases heq
    rw [if_neg hcontrol]

/-- A control character is read back from its number. -/
theorem readString_control {c : Char} (hcontrol : c.toNat < 0x20) (read rest : List Char) :
    readString read (['\\', 'u'] ++ (List.replicate (4 - (Text.hexDigits c.toNat).length) '0' ++
      Text.hexDigits c.toNat) ++ rest) = readString (c :: read) rest := by
  have hhigh : isHighUnit c.toNat = false := by
    simp only [isHighUnit, Bool.and_eq_false_iff, decide_eq_false_iff_not]
    omega
  have hlow : isLowUnit c.toNat = false := by
    simp only [isLowUnit, Bool.and_eq_false_iff, decide_eq_false_iff_not]
    omega
  rw [padded_hexDigits (by omega)]
  simp only [List.cons_append, List.nil_append]
  rw [readString, hexUnit?_padded (by omega)]
  simp [hhigh, hlow, Char.ofNat_toNat]

/-- The characters that have an escape of two characters. -/
def shortEscaped : List Char := ['\x22', '\\', '\x08', '\x0c', '\n', '\r', '\t']

/-- An escape is read as the character that it was written for. -/
theorem readString_escapeChar (c : Char) (read rest : List Char) :
    readString read (escapeChar c ++ rest) = readString (c :: read) rest := by
  by_cases hshort : c ∈ shortEscaped
  · simp only [shortEscaped, List.mem_cons, List.not_mem_nil, or_false] at hshort
    rcases hshort with rfl | rfl | rfl | rfl | rfl | rfl | rfl <;> rfl
  · simp only [shortEscaped, List.mem_cons, List.not_mem_nil, or_false, not_or] at hshort
    obtain ⟨hquote, hbackslash, hbackspace, hfeed, hnewline, hreturn, htab⟩ := hshort
    rw [escapeChar, if_neg hquote, if_neg hbackslash, if_neg hbackspace, if_neg hfeed,
      if_neg hnewline, if_neg hreturn, if_neg htab]
    by_cases hcontrol : c.toNat < 0x20
    · rw [if_pos hcontrol, List.append_assoc ['\\', 'u']]
      exact readString_control hcontrol read rest
    · rw [if_neg hcontrol]
      exact readString_plain hquote hbackslash hcontrol read rest

theorem readString_flatMap (cs read rest : List Char) :
    readString read (cs.flatMap escapeChar ++ '\x22' :: rest) =
      some (String.ofList (read.reverse ++ cs), rest) := by
  induction cs generalizing read with
  | nil => rw [List.flatMap_nil, List.nil_append, readString, List.append_nil]
  | cons c cs ih =>
    rw [List.flatMap_cons, List.append_assoc, readString_escapeChar, ih, List.reverse_cons,
      List.append_assoc, List.singleton_append]

/-- A string is read back from its text behind the opening quote. -/
theorem readString_text (s : String) (rest : List Char) :
    readString [] (s.toList.flatMap escapeChar ++ '\x22' :: rest) = some (s, rest) := by
  rw [readString_flatMap, List.reverse_nil, List.nil_append, String.ofList_toList]

/-! ### Containers -/

mutual

/-- The number of containers that stand inside each other. -/
def nesting : Json → Nat
  | .array items => 1 + nestingOfItems items
  | .object members => 1 + nestingOfMembers members
  | _ => 0

/-- The number of containers that stand inside each other in some items. -/
def nestingOfItems : List Json → Nat
  | [] => 0
  | j :: rest => max (nesting j) (nestingOfItems rest)

/-- The number of containers that stand inside each other in some members. -/
def nestingOfMembers : List (String × Json) → Nat
  | [] => 0
  | (_, j) :: rest => max (nesting j) (nestingOfMembers rest)

end

theorem nesting_of_isScalar {j : Json} (h : j.isScalar) : j.nesting = 0 := by
  cases j with
  | array | object => cases h
  | _ => rfl

mutual

/-- Containers are no more than the values on a way down. -/
theorem nesting_le_depth : (j : Json) → j.nesting ≤ j.depth
  | .null | .bool _ | .number _ | .string _ => Nat.zero_le _
  | .array items => by
    have := nestingOfItems_le_depthOfItems items
    rw [nesting, depth]
    omega
  | .object members => by
    have := nestingOfMembers_le_depthOfMembers members
    rw [nesting, depth]
    omega

theorem nestingOfItems_le_depthOfItems : (items : List Json) →
    nestingOfItems items ≤ depthOfItems items
  | [] => Nat.le_refl _
  | j :: rest => by
    have := nesting_le_depth j
    have := nestingOfItems_le_depthOfItems rest
    rw [nestingOfItems, depthOfItems]
    omega

theorem nestingOfMembers_le_depthOfMembers : (members : List (String × Json)) →
    nestingOfMembers members ≤ depthOfMembers members
  | [] => Nat.le_refl _
  | (_, j) :: rest => by
    have := nesting_le_depth j
    have := nestingOfMembers_le_depthOfMembers rest
    rw [nestingOfMembers, depthOfMembers]
    omega

end

/-! ### Values -/

/-- A text that starts like a number is read as one. -/
theorem readValue_of_startsNumber {c : Char} (hc : StartsNumber c) (fuel room : Nat)
    (cs : List Char) :
    readValue (fuel + 1) room (c :: cs) =
      (readNumber (c :: cs)).map fun (n, rest) => (.number n, rest) := by
  have hother : ∀ d, ¬ StartsNumber d → c ≠ d := fun d hd heq => hd (heq ▸ hc)
  rw [readValue.eq_def]
  dsimp only
  split
  · rename_i heq
    exact absurd (List.cons.inj heq).1 (hother 'n' (by decide))
  · rename_i heq
    exact absurd (List.cons.inj heq).1 (hother 't' (by decide))
  · rename_i heq
    exact absurd (List.cons.inj heq).1 (hother 'f' (by decide))
  · rename_i heq
    exact absurd (List.cons.inj heq).1 (hother '\x22' (by decide))
  · rename_i heq
    exact absurd (List.cons.inj heq).1 (hother '[' (by decide))
  · rename_i heq
    exact absurd (List.cons.inj heq).1 (hother '\x7b' (by decide))
  · rfl

theorem skipSpace_cons {c : Char} (hc : isSpace c = false) (cs : List Char) :
    skipSpace (c :: cs) = c :: cs := by
  rw [skipSpace, List.dropWhile_cons_of_neg (by simp [hc])]

theorem isSpace_of_not_isBlank {c : Char} (hc : Text.isBlank c = false) : isSpace c = false := by
  have hother : ∀ d, Text.isBlank d = true → c ≠ d := by
    rintro d hd rfl
    rw [hd] at hc
    cases hc
  simp [isSpace, hother ' ' (by decide), hother '\t' (by decide), hother '\n' (by decide),
    hother '\r' (by decide)]

theorem isBlank_of_startsNumber {c : Char} (hc : StartsNumber c) : Text.isBlank c = false := by
  rcases hc with rfl | hc
  · decide
  · exact Text.isBlank_of_isDigit hc

/-- The text of a value starts with no blank and closes no array. -/
theorem exists_chars_eq_cons (j : Json) :
    ∃ c cs, j.chars = c :: cs ∧ Text.isBlank c = false ∧ c ≠ ']' := by
  cases j with
  | null => exact ⟨'n', _, rfl, by decide, by decide⟩
  | bool b => cases b <;> exact ⟨_, _, rfl, by decide, by decide⟩
  | string s => exact ⟨'\x22', _, rfl, by decide, by decide⟩
  | array items => exact ⟨'[', _, rfl, by decide, by decide⟩
  | object members => exact ⟨'\x7b', _, rfl, by decide, by decide⟩
  | number n =>
    obtain ⟨c, cs, hchars, hc⟩ := exists_text_eq_cons n
    refine ⟨c, cs, hchars, isBlank_of_startsNumber hc, ?_⟩
    rintro rfl
    exact absurd hc (by decide)

theorem skipSpace_chars (j : Json) (rest : List Char) :
    skipSpace (j.chars ++ rest) = j.chars ++ rest := by
  obtain ⟨c, cs, hchars, hblank, -⟩ := exists_chars_eq_cons j
  rw [hchars, List.cons_append, skipSpace_cons (isSpace_of_not_isBlank hblank)]

/-- An array that is not empty is read by its items. -/
theorem readValue_array {c : Char} (hspace : isSpace c = false) (hclose : c ≠ ']')
    (fuel room : Nat) (cs : List Char) :
    readValue (fuel + 1) (room + 1) ('[' :: c :: cs) =
      (readItems fuel room (c :: cs)).map fun (items, rest) => (.array items, rest) := by
  rw [readValue, skipSpace_cons hspace]
  split
  · rename_i heq
    exact absurd (List.cons.inj heq).1 hclose
  · rfl

theorem itemChars_cons_cons (j k : Json) (rest : List Json) :
    itemChars (j :: k :: rest) = j.chars ++ ',' :: itemChars (k :: rest) := by
  rw [itemChars]
  exact List.cons_ne_nil k rest

theorem memberChars_cons_cons (m n : String × Json) (rest : List (String × Json)) :
    memberChars (m :: n :: rest) =
      stringChars m.1 ++ ':' :: m.2.chars ++ ',' :: memberChars (n :: rest) := by
  rw [memberChars]
  exact List.cons_ne_nil n rest

theorem exists_itemChars_eq_cons {items : List Json} (h : items ≠ []) :
    ∃ c cs, itemChars items = c :: cs ∧ Text.isBlank c = false ∧ c ≠ ']' := by
  match items, h with
  | [j], _ => exact exists_chars_eq_cons j
  | j :: k :: rest, _ =>
    obtain ⟨c, cs, hchars, hc⟩ := exists_chars_eq_cons j
    exact ⟨c, cs ++ ',' :: itemChars (k :: rest), by rw [itemChars_cons_cons, hchars]; rfl, hc⟩

theorem skipSpace_itemChars {items : List Json} (h : items ≠ []) (rest : List Char) :
    skipSpace (itemChars items ++ rest) = itemChars items ++ rest := by
  obtain ⟨c, cs, hchars, hblank, -⟩ := exists_itemChars_eq_cons h
  rw [hchars, List.cons_append, skipSpace_cons (isSpace_of_not_isBlank hblank)]

/-- The members of an object start with a quote. -/
theorem exists_memberChars_eq_cons {members : List (String × Json)} (h : members ≠ []) :
    ∃ cs, memberChars members = '\x22' :: cs := by
  match members, h with
  | [(key, j)], _ => exact ⟨_, rfl⟩
  | m :: n :: rest, _ => exact ⟨_, memberChars_cons_cons m n rest⟩

/-- A member is read by its key and its value. -/
theorem readMembers_stringChars (fuel room : Nat) (key : String) (cs : List Char) :
    readMembers (fuel + 1) room (stringChars key ++ ':' :: cs) =
      match readValue fuel room (skipSpace cs) with
      | none => none
      | some (value, rest) =>
        match skipSpace rest with
        | '\x7d' :: rest => some ([(key, value)], rest)
        | ',' :: rest =>
          (readMembers fuel room (skipSpace rest)).map fun (members, rest) =>
            ((key, value) :: members, rest)
        | _ => none := by
  rw [stringChars, List.append_assoc, List.cons_append, List.singleton_append, readMembers,
    readString_text]
  rfl

theorem endsNumber_cons {c : Char}
    (hc : isDigit c = false ∧ c ≠ '.' ∧ c ≠ 'e' ∧ c ≠ 'E') (rest : List Char) :
    EndsNumber (c :: rest) := by
  rintro _ ⟨⟩
  exact hc

/-- A container takes one of the places that its reader has. -/
theorem map_within {α β : Type} (n room : Nat) (a : α) (f : α → β) :
    (if n ≤ room then some a else none).map f =
      if 1 + n ≤ room + 1 then some (f a) else none := by
  by_cases h : n ≤ room
  · rw [if_pos h, if_pos (by omega), Option.map_some]
  · rw [if_neg h, if_neg (by omega), Option.map_none]

mutual

-- The induction is on the value. Room is spent by containers and fuel by every call, so fuel only has
-- to outlast the text, and what is left of it does not matter.

/-- A value is read back where there is room for its containers and refused otherwise. -/
theorem readValue_chars : {j : Json} → j.WellFormed → {fuel room : Nat} →
    2 * j.chars.length ≤ fuel + 1 → {rest : List Char} → EndsNumber rest →
    readValue (fuel + 1) room (j.chars ++ rest) =
      if j.nesting ≤ room then some (j, rest) else none
  | .null, _, fuel, room, _, rest, _ => rfl
  | .bool true, _, fuel, room, _, rest, _ => rfl
  | .bool false, _, fuel, room, _, rest, _ => rfl
  | .string s, _, fuel, room, _, rest, _ => by
    rw [chars, stringChars, List.append_assoc, List.cons_append, readValue]
    change (readString [] (s.toList.flatMap escapeChar ++ '\x22' :: rest)).map _ = _
    rw [readString_text, nesting_of_isScalar rfl, if_pos (Nat.zero_le _)]
    rfl
  | .number n, hj, fuel, room, _, rest, hrest => by
    obtain ⟨c, cs, hchars, hc⟩ := exists_text_eq_cons n
    have hread := readNumber_text hj hrest
    rw [hchars, List.cons_append] at hread
    rw [chars, hchars, List.cons_append, readValue_of_startsNumber hc, hread,
      nesting_of_isScalar rfl, if_pos (Nat.zero_le _)]
    rfl
  | .array [], _, fuel, room, _, rest, _ => by
    rw [chars, itemChars, nesting, nestingOfItems]
    cases room with
    | zero => rfl
    | succ room =>
      rw [if_pos (by omega)]
      rfl
  | .array (j :: items), hj, fuel, room, hfuel, rest, _ => by
    obtain ⟨c, cs, hchars, hblank, hclose⟩ := exists_itemChars_eq_cons (List.cons_ne_nil j items)
    simp only [chars, List.length_append, List.length_cons, List.length_nil] at hfuel
    obtain ⟨fuel, rfl⟩ : ∃ f, fuel = f + 2 := ⟨fuel - 2, by omega⟩
    rw [chars, List.append_assoc, List.cons_append, nesting]
    cases room with
    | zero =>
      rw [if_neg (by omega)]
      rfl
    | succ room =>
      have hread : readItems (fuel + 2) room (itemChars (j :: items) ++ ']' :: rest) =
          if nestingOfItems (j :: items) ≤ room then some (j :: items, rest) else none :=
        readItems_chars hj (List.cons_ne_nil j items) (by omega)
      change readValue (fuel + 2 + 1) (room + 1)
        ('[' :: (itemChars (j :: items) ++ ']' :: rest)) = _
      rw [hchars, List.cons_append] at hread ⊢
      rw [readValue_array (isSpace_of_not_isBlank hblank) hclose, hread, map_within]
  | .object [], _, fuel, room, _, rest, _ => by
    rw [chars, memberChars, nesting, nestingOfMembers]
    cases room with
    | zero => rfl
    | succ room =>
      rw [if_pos (by omega)]
      rfl
  | .object (m :: members), hj, fuel, room, hfuel, rest, _ => by
    obtain ⟨cs, hchars⟩ := exists_memberChars_eq_cons (List.cons_ne_nil m members)
    simp only [chars, List.length_append, List.length_cons, List.length_nil] at hfuel
    obtain ⟨fuel, rfl⟩ : ∃ f, fuel = f + 2 := ⟨fuel - 2, by omega⟩
    rw [chars, List.append_assoc, List.cons_append, nesting]
    cases room with
    | zero =>
      rw [if_neg (by omega)]
      rfl
    | succ room =>
      have hread : readMembers (fuel + 2) room (memberChars (m :: members) ++ '\x7d' :: rest) =
          if nestingOfMembers (m :: members) ≤ room then some (m :: members, rest) else none :=
        readMembers_chars hj.2 (List.cons_ne_nil m members) (by omega)
      change readValue (fuel + 2 + 1) (room + 1)
        ('\x7b' :: (memberChars (m :: members) ++ '\x7d' :: rest)) = _
      rw [hchars, List.cons_append] at hread ⊢
      change (readMembers (fuel + 2) room ('\x22' :: (cs ++ '\x7d' :: rest))).map _ = _
      rw [hread, map_within]
      simp only [ofMembers, Dictionary.ofList_of_ascends hj.1]

theorem readItems_chars : {items : List Json} → WellFormedItems items → items ≠ [] →
    {fuel room : Nat} → 2 * (itemChars items).length + 1 ≤ fuel + 2 → {rest : List Char} →
    readItems (fuel + 2) room (itemChars items ++ ']' :: rest) =
      if nestingOfItems items ≤ room then some (items, rest) else none
  | [j], hitems, _, fuel, room, hfuel, rest => by
    rw [itemChars] at hfuel ⊢
    rw [readItems, readValue_chars hitems.1 (by omega) (endsNumber_cons (by decide) rest), nestingOfItems,
      nestingOfItems, Nat.max_zero]
    by_cases hroom : j.nesting ≤ room
    · rw [if_pos hroom, if_pos hroom]
      rfl
    · rw [if_neg hroom, if_neg hroom]
  | j :: k :: items, hitems, _, fuel, room, hfuel, rest => by
    rw [itemChars_cons_cons, List.length_append, List.length_cons] at hfuel
    have hpos : 0 < (itemChars (k :: items)).length := by
      obtain ⟨c, cs, hchars, -⟩ := exists_itemChars_eq_cons (List.cons_ne_nil k items)
      rw [hchars]
      exact Nat.succ_pos _
    obtain ⟨fuel, rfl⟩ : ∃ f, fuel = f + 1 := ⟨fuel - 1, by omega⟩
    have hothers : readItems (fuel + 2) room (itemChars (k :: items) ++ ']' :: rest) =
        if nestingOfItems (k :: items) ≤ room then some (k :: items, rest) else none :=
      readItems_chars hitems.2 (List.cons_ne_nil k items) (by omega)
    rw [itemChars_cons_cons, List.append_assoc, List.cons_append, readItems,
      readValue_chars hitems.1 (by omega) (endsNumber_cons (by decide) _), nestingOfItems]
    by_cases hj : j.nesting ≤ room
    · rw [if_pos hj]
      change (readItems (fuel + 2) room
        (skipSpace (itemChars (k :: items) ++ ']' :: rest))).map _ = _
      rw [skipSpace_itemChars (List.cons_ne_nil k items), hothers]
      by_cases hroom : nestingOfItems (k :: items) ≤ room
      · rw [if_pos hroom, if_pos (by omega)]
        rfl
      · rw [if_neg hroom, if_neg (by omega)]
        rfl
    · rw [if_neg hj, if_neg (by omega)]

theorem readMembers_chars : {members : List (String × Json)} → WellFormedMembers members →
    members ≠ [] → {fuel room : Nat} → 2 * (memberChars members).length + 1 ≤ fuel + 2 →
    {rest : List Char} →
    readMembers (fuel + 2) room (memberChars members ++ '\x7d' :: rest) =
      if nestingOfMembers members ≤ room then some (members, rest) else none
  | [(key, j)], hmembers, _, fuel, room, hfuel, rest => by
    rw [memberChars, List.length_append, List.length_cons] at hfuel
    rw [memberChars, List.append_assoc, List.cons_append, readMembers_stringChars,
      skipSpace_chars, readValue_chars hmembers.1 (by omega) (endsNumber_cons (by decide) rest),
      nestingOfMembers, nestingOfMembers, Nat.max_zero]
    by_cases hroom : j.nesting ≤ room
    · rw [if_pos hroom, if_pos hroom]
      rfl
    · rw [if_neg hroom, if_neg hroom]
  | (key, j) :: n :: members, hmembers, _, fuel, room, hfuel, rest => by
    simp only [memberChars_cons_cons, List.length_append, List.length_cons] at hfuel
    obtain ⟨cs, hchars⟩ := exists_memberChars_eq_cons (List.cons_ne_nil n members)
    have hpos : 0 < (memberChars (n :: members)).length := by
      rw [hchars]
      exact Nat.succ_pos _
    obtain ⟨fuel, rfl⟩ : ∃ f, fuel = f + 1 := ⟨fuel - 1, by omega⟩
    have hothers : readMembers (fuel + 2) room (memberChars (n :: members) ++ '\x7d' :: rest) =
        if nestingOfMembers (n :: members) ≤ room then some (n :: members, rest) else none :=
      readMembers_chars hmembers.2 (List.cons_ne_nil n members) (by omega)
    rw [memberChars_cons_cons, List.append_assoc, List.append_assoc, List.cons_append,
      List.cons_append, readMembers_stringChars, skipSpace_chars,
      readValue_chars hmembers.1 (by omega) (endsNumber_cons (by decide) _), nestingOfMembers]
    by_cases hj : j.nesting ≤ room
    · rw [if_pos hj]
      change (readMembers (fuel + 2) room
        (skipSpace (memberChars (n :: members) ++ '\x7d' :: rest))).map _ = _
      have hskip : skipSpace (memberChars (n :: members) ++ '\x7d' :: rest) =
          memberChars (n :: members) ++ '\x7d' :: rest := by
        rw [hchars, List.cons_append, skipSpace_cons (by decide)]
      rw [hskip, hothers]
      by_cases hroom : nestingOfMembers (n :: members) ≤ room
      · rw [if_pos hroom, if_pos (by omega)]
        rfl
      · rw [if_neg hroom, if_neg (by omega)]
        rfl
    · rw [if_neg hj, if_neg (by omega)]

end

/-- A value is read back from its text unless it has too many containers in each other. -/
theorem parse?_text {j : Json} (hj : j.WellFormed) :
    parse? j.text = if j.nesting ≤ maxNesting then some j else none := by
  have hread : readValue (2 * j.chars.length + 2) maxNesting (j.chars ++ []) =
      if j.nesting ≤ maxNesting then some (j, []) else none :=
    readValue_chars hj (by omega) nofun
  have hskip := skipSpace_chars j []
  rw [List.append_nil] at hread hskip
  simp only [parse?, text, String.toList_ofList, hskip, hread]
  by_cases hnesting : j.nesting ≤ maxNesting
  · simp [hnesting, skipSpace]
  · simp [hnesting]

/-- The text of a value is never blank. -/
theorem isBlankText_text (j : Json) : Text.isBlankText j.text = false := by
  obtain ⟨c, cs, hchars, hblank, -⟩ := exists_chars_eq_cons j
  rw [Text.isBlankText, text, String.toList_ofList, hchars, List.all_cons, hblank, Bool.false_and]

end FilterQuery.Json
