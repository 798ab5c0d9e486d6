import ShapeFlow.Json.Printer
import ShapeFlow.Proofs.Json.Number

/-!
The reader takes back what the printer writes: strings with their escapes, numbers up to what stands
behind them, and arrays and objects item by item. A value is read back from its text.
-/

namespace ShapeFlow.Json

/-! ### Strings -/

theorem readPieces_escape {letter c : Char} (h : escape? letter = some c) (rest : List Char) :
    readPieces ('\\' :: letter :: rest) =
      (readPieces rest).map fun (pieces, rest) => (.char c :: pieces, rest) := by
  rw [readPieces.eq_def]
  split
  · next heq => cases heq
  · next heq => cases heq
  · next heq =>
    cases heq
    cases h
  · next heq =>
    cases heq
    rw [h]
    cases readPieces rest <;> rfl
  · next hletter heq =>
    cases heq
    exact absurd rfl (hletter _ _ rfl)

theorem unit?_hexDigit : ∀ value < 0x20,
    unit? '0' '0' (hexDigit (value / 16)) (hexDigit (value % 16)) = some value := by
  decide

theorem readPieces_control {c : Char} (h : c.toNat < 0x20) (rest : List Char) :
    readPieces (['\\', 'u', '0', '0', hexDigit (c.toNat / 16), hexDigit (c.toNat % 16)] ++ rest) =
      (readPieces rest).map fun (pieces, rest) => (.char c :: pieces, rest) := by
  have hpiece : Piece.ofUnit c.toNat = .char c := by
    have hplane : isSurrogate c.toNat = false := by
      simp [isSurrogate]
      omega
    rw [Piece.ofUnit, hplane, Char.ofNat_toNat]
    rfl
  simp only [List.cons_append, List.nil_append]
  rw [readPieces, unit?_hexDigit _ h]
  simp only [Option.bind_eq_bind, Option.bind_some, hpiece]
  cases readPieces rest <;> rfl

theorem readPieces_plain {c : Char} (hquote : c ≠ '"') (hslash : c ≠ '\\') (h : ¬ c.toNat < 0x20)
    (rest : List Char) : readPieces (c :: rest) =
      (readPieces rest).map fun (pieces, rest) => (.char c :: pieces, rest) := by
  rw [readPieces.eq_def]
  split
  · next heq => cases heq
  · next heq =>
    cases heq
    exact absurd rfl hquote
  · next heq =>
    cases heq
    exact absurd rfl hslash
  · next heq =>
    cases heq
    exact absurd rfl hslash
  · next heq =>
    cases heq
    rw [if_neg (by simp [hslash, h])]
    cases readPieces rest <;> rfl

/-- An escaped character is one piece. -/
theorem readPieces_escapeChar (c : Char) (rest : List Char) :
    readPieces (escapeChar c ++ rest) =
      (readPieces rest).map fun (pieces, rest) => (.char c :: pieces, rest) := by
  by_cases hquote : c = '"'
  · exact hquote ▸ readPieces_escape rfl rest
  by_cases hslash : c = '\\'
  · exact hslash ▸ readPieces_escape rfl rest
  rw [escapeChar, if_neg hquote, if_neg hslash]
  split
  · next heq => exact heq ▸ readPieces_escape rfl rest
  split
  · next heq => exact heq ▸ readPieces_escape rfl rest
  split
  · next heq => exact heq ▸ readPieces_escape rfl rest
  split
  · next heq => exact heq ▸ readPieces_escape rfl rest
  split
  · next heq => exact heq ▸ readPieces_escape rfl rest
  split
  · next hcontrol => exact readPieces_control hcontrol rest
  · next hplain => exact readPieces_plain hquote hslash hplain rest

theorem readPieces_escaped (text rest : List Char) :
    readPieces (text.flatMap escapeChar ++ '"' :: rest) = some (text.map Piece.char, rest) := by
  induction text with
  | nil => rfl
  | cons c text ih =>
    rw [List.flatMap_cons, List.append_assoc, readPieces_escapeChar, ih]
    rfl

theorem joinPieces_map_char (text : List Char) : joinPieces (text.map Piece.char) = some text := by
  induction text with
  | nil => rfl
  | cons c text ih =>
    rw [List.map_cons, joinPieces, ih]
    rfl

/-- What follows the opening quote of a string. -/
def quoteTail (text : Option String) : List Char :=
  (quote text).tail

theorem quote_eq (text : Option String) : quote text = '"' :: quoteTail text := by
  cases text <;> rfl

theorem readString_quoteTail (text : Option String) (rest : List Char) :
    readString (quoteTail text ++ rest) = some (text, rest) := by
  cases text with
  | none =>
    have hunit : unit? 'd' '8' '0' '0' = some 0xD800 := by decide
    simp [quoteTail, quote, readString, readPieces, hunit, Piece.ofUnit, isSurrogate, joinPieces]
  | some text =>
    have hread := readPieces_escaped text.toList rest
    simp [quoteTail, quote, readString, hread, joinPieces_map_char]

theorem readKey_quoteTail (key : Option String) (rest : List Char) :
    readKey (quoteTail key ++ ':' :: rest) = some (key, rest) := by
  rw [readKey, readString_quoteTail]
  rfl

/-! ### Blanks -/

section

variable {blanks rest : List Char}

theorem skipBlanks_append (h : ∀ c ∈ blanks, isBlank c = true) (rest : List Char) :
    skipBlanks (blanks ++ rest) = skipBlanks rest :=
  List.dropWhile_append_of_pos h

theorem isBlank_of_isDigit {c : Char} (h : c.isDigit = true) : isBlank c = false := by
  rw [Bool.eq_false_iff]
  intro hblank
  simp only [isBlank, Bool.or_eq_true, beq_iff_eq, or_assoc] at hblank
  rcases hblank with rfl | rfl | rfl | rfl <;> cases h

theorem isBlank_newLine (level : Nat) : ∀ c ∈ newLine level, isBlank c = true := by
  intro c hc
  rcases List.mem_cons.1 hc with rfl | hc
  · rfl
  · rw [List.eq_of_mem_replicate hc]
    rfl

theorem skipBlanks_newLine (level : Nat) {c : Char} (h : isBlank c = false) (rest : List Char) :
    skipBlanks (newLine level ++ c :: rest) = c :: rest := by
  rw [skipBlanks_append (isBlank_newLine level), skipBlanks, List.dropWhile_cons_of_neg (by simp [h])]

theorem readValue_append (h : ∀ c ∈ blanks, isBlank c = true) (fuel : Nat) (rest : List Char) :
    readValue fuel (blanks ++ rest) = readValue fuel rest := by
  cases fuel with
  | zero => rfl
  | succ fuel => rw [readValue, readValue, skipBlanks_append h]

theorem readItems_append (h : ∀ c ∈ blanks, isBlank c = true) (fuel : Nat) (rest : List Char) :
    readItems fuel (blanks ++ rest) = readItems fuel rest := by
  cases fuel with
  | zero => rfl
  | succ fuel => rw [readItems, readItems, readValue_append h]

theorem readMembers_append (h : ∀ c ∈ blanks, isBlank c = true) (fuel : Nat) (rest : List Char) :
    readMembers fuel (blanks ++ rest) = readMembers fuel rest := by
  cases fuel with
  | zero => rfl
  | succ fuel => rw [readMembers, readMembers, skipBlanks_append h]

end

/-! ### Values -/

/-- All numbers of the value follow the grammar. -/
inductive Valid : Json → Prop
  | null : Valid .null
  | bool (value : Bool) : Valid (.bool value)
  | number {token : NumberToken} (h : token.Valid) : Valid (.number token)
  | string (text : Option String) : Valid (.string text)
  | array {items : List Json} (h : ∀ item ∈ items, Valid item) : Valid (.array items)
  | object {members : List (Option String × Json)} (h : ∀ member ∈ members, Valid member.2) :
    Valid (.object members)

/-- A number starts with its sign or a digit. -/
theorem exists_head_text {token : NumberToken} (h : token.Valid) :
    ∃ c tail, token.text = c :: tail ∧ (c = '-' ∨ c.isDigit = true) := by
  obtain ⟨digit, digits, hwhole⟩ := List.exists_cons_of_ne_nil h.whole_ne_nil
  have hdigit : digit.isDigit = true := h.whole_digits digit (by simp [hwhole])
  unfold NumberToken.text
  cases token.negative with
  | true => exact ⟨'-', _, rfl, .inl rfl⟩
  | false => exact ⟨digit, _, by rw [hwhole]; rfl, .inr hdigit⟩

theorem exists_head_print {json : Json} (h : json.Valid) (level : Nat) :
    ∃ c tail, print level json = c :: tail ∧ isBlank c = false ∧ c ≠ ']' := by
  cases h with
  | null => exact ⟨_, _, rfl, rfl, by decide⟩
  | bool value => cases value <;> exact ⟨_, _, rfl, rfl, by decide⟩
  | number h =>
    obtain ⟨c, tail, htext, hc⟩ := exists_head_text h
    refine ⟨c, tail, htext, ?_, ?_⟩
    · rcases hc with rfl | hdigit
      · rfl
      · exact isBlank_of_isDigit hdigit
    · rintro rfl
      simp at hc
  | string text => exact ⟨_, _, quote_eq text, rfl, by decide⟩
  | array h =>
    rename_i items
    cases items <;> exact ⟨_, _, rfl, rfl, by decide⟩
  | object h =>
    rename_i members
    cases members <;> exact ⟨_, _, rfl, rfl, by decide⟩

theorem readValue_number {c : Char} (h : c = '-' ∨ c.isDigit = true) (fuel : Nat) (rest : List Char) :
    readValue (fuel + 1) (c :: rest) =
      (readNumber (c :: rest)).map fun (token, rest) => (.number token, rest) := by
  have hblank : isBlank c = false := by
    rcases h with rfl | hdigit
    · rfl
    · exact isBlank_of_isDigit hdigit
  have hskip : skipBlanks (c :: rest) = c :: rest := List.dropWhile_cons_of_neg (by simp [hblank])
  -- no other value starts so
  have hother : ∀ {letter : Char} {tail : List Char}, letter ≠ '-' → letter.isDigit = false →
      c :: rest ≠ letter :: tail := by
    rintro letter tail hsign hdigit heq
    cases heq
    simp [hsign, hdigit] at h
  rw [readValue, hskip]
  split
  · next heq => exact absurd heq (hother (by decide) rfl)
  · next heq => exact absurd heq (hother (by decide) rfl)
  · next heq => exact absurd heq (hother (by decide) rfl)
  · next heq => exact absurd heq (hother (by decide) rfl)
  · next heq => exact absurd heq (hother (by decide) rfl)
  · next heq => exact absurd heq (hother (by decide) rfl)
  · rfl

theorem readValue_bracket {fuel : Nat} {c : Char} {rest : List Char} (h : isBlank c = false)
    (hne : c ≠ ']') (level : Nat) :
    readValue (fuel + 1) ('[' :: (newLine level ++ c :: rest)) =
      (readItems fuel (c :: rest)).map fun (items, rest) => (.array items, rest) := by
  have hopen : skipBlanks ('[' :: (newLine level ++ c :: rest)) = '[' :: (newLine level ++ c :: rest) :=
    List.dropWhile_cons_of_neg (by decide)
  have hskip := skipBlanks_newLine level h rest
  rw [readValue, hopen]
  simp only [hskip]
  split
  · next heq =>
    cases heq
    exact absurd rfl hne
  · rfl

theorem readValue_brace (fuel level : Nat) (rest : List Char) :
    readValue (fuel + 1) ('{' :: (newLine level ++ '"' :: rest)) =
      (readMembers fuel ('"' :: rest)).map fun (members, rest) => (.object members, rest) := by
  have hopen : skipBlanks ('{' :: (newLine level ++ '"' :: rest)) =
      '{' :: (newLine level ++ '"' :: rest) := List.dropWhile_cons_of_neg (by decide)
  have hskip : skipBlanks (newLine level ++ '"' :: rest) = '"' :: rest :=
    skipBlanks_newLine level rfl rest
  rw [readValue, hopen]
  simp only [hskip]
  rfl

theorem readItems_last {fuel level : Nat} {text rest : List Char} {item : Json}
    (h : readValue fuel text = some (item, newLine level ++ ']' :: rest)) :
    readItems (fuel + 1) text = some ([item], rest) := by
  rw [readItems, h]
  simp only [Option.bind_eq_bind, Option.bind_some]
  rw [skipBlanks_newLine level rfl]
  rfl

theorem readItems_comma {fuel : Nat} {text more rest : List Char} {item : Json} {items : List Json}
    (h : readValue fuel text = some (item, ',' :: more))
    (hmore : readItems fuel more = some (items, rest)) :
    readItems (fuel + 1) text = some (item :: items, rest) := by
  have hskip : skipBlanks (',' :: more) = ',' :: more := List.dropWhile_cons_of_neg (by decide)
  rw [readItems, h]
  simp only [Option.bind_eq_bind, Option.bind_some, hskip, hmore]

/-- A member is its key, a colon and a value. -/
theorem readMembers_key (fuel : Nat) (key : Option String) (text : List Char) :
    readMembers (fuel + 1) ('"' :: (quoteTail key ++ ':' :: text)) =
      (readValue fuel text).bind fun (value, rest) =>
        match skipBlanks rest with
        | ',' :: rest =>
          (readMembers fuel rest).bind fun (members, rest) => some ((key, value) :: members, rest)
        | '}' :: rest => some ([(key, value)], rest)
        | _ => none := by
  have hskip : skipBlanks ('"' :: (quoteTail key ++ ':' :: text)) =
      '"' :: (quoteTail key ++ ':' :: text) := List.dropWhile_cons_of_neg (by decide)
  rw [readMembers, hskip]
  exact congrArg (Option.bind · _) (readKey_quoteTail key text)

theorem readMembers_last {fuel level : Nat} {text rest : List Char} {key : Option String}
    {value : Json} (h : readValue fuel text = some (value, newLine level ++ '}' :: rest)) :
    readMembers (fuel + 1) ('"' :: (quoteTail key ++ ':' :: text)) = some ([(key, value)], rest) := by
  rw [readMembers_key, h]
  simp only [Option.bind_some]
  rw [skipBlanks_newLine level rfl]
  rfl

theorem readMembers_comma {fuel : Nat} {text more rest : List Char} {key : Option String}
    {value : Json} {members : List (Option String × Json)}
    (h : readValue fuel text = some (value, ',' :: more))
    (hmore : readMembers fuel more = some (members, rest)) :
    readMembers (fuel + 1) ('"' :: (quoteTail key ++ ':' :: text)) =
      some ((key, value) :: members, rest) := by
  have hskip : skipBlanks (',' :: more) = ',' :: more := List.dropWhile_cons_of_neg (by decide)
  rw [readMembers_key, h]
  simp only [Option.bind_some, hskip, hmore]

/-- The value is read back from its text at every level, with two steps for each character. -/
def Reads (json : Json) : Prop :=
  ∀ (level fuel : Nat) (rest : List Char), 2 * (print level json).length ≤ fuel → Ends rest →
    readValue fuel (print level json ++ rest) = some (json, rest)

theorem ends_newLine (level : Nat) (rest : List Char) : Ends (newLine level ++ rest) := by
  intro c hc
  cases hc
  exact .inr rfl

theorem ends_comma (rest : List Char) : Ends (',' :: rest) := by
  intro c hc
  cases hc
  exact .inl rfl

theorem readItems_print {items : List Json} (hitems : ∀ item ∈ items, item.Reads) {item : Json}
    (hitem : item.Reads) (level lower : Nat) (rest : List Char) {fuel : Nat}
    (hfuel : 2 * ((print level item).length + (printItems level items).length) < fuel) :
    readItems fuel (print level item ++ (printItems level items ++ (newLine lower ++ ']' :: rest))) =
      some (item :: items, rest) := by
  induction items generalizing item fuel with
  | nil =>
    obtain ⟨fuel, rfl⟩ := Nat.exists_eq_add_one_of_ne_zero (Nat.ne_zero_of_lt hfuel)
    exact readItems_last (hitem level fuel _ (by omega) (ends_newLine lower _))
  | cons next items ih =>
    obtain ⟨fuel, rfl⟩ := Nat.exists_eq_add_one_of_ne_zero (Nat.ne_zero_of_lt hfuel)
    obtain ⟨hnext, hitems⟩ := List.forall_mem_cons.1 hitems
    simp only [printItems, List.cons_append, List.append_assoc, List.length_cons,
      List.length_append] at hfuel ⊢
    refine readItems_comma (hitem level fuel _ (by omega) (ends_comma _)) ?_
    rw [readItems_append (isBlank_newLine level)]
    exact ih hitems hnext (by omega)

theorem readMembers_print {members : List (Option String × Json)}
    (hmembers : ∀ member ∈ members, member.2.Reads) (key : Option String) {value : Json}
    (hvalue : value.Reads) (level lower : Nat) (rest : List Char) {fuel : Nat}
    (hfuel : 2 * ((print level value).length + (printMembers level members).length) < fuel) :
    readMembers fuel ('"' :: (quoteTail key ++ ':' :: ' ' :: (print level value ++
      (printMembers level members ++ (newLine lower ++ '}' :: rest))))) =
        some ((key, value) :: members, rest) := by
  have hblank : ∀ {fuel rest}, readValue fuel (' ' :: rest) = readValue fuel rest :=
    readValue_append (List.forall_mem_singleton.2 rfl) _ _
  induction members generalizing key value fuel with
  | nil =>
    obtain ⟨fuel, rfl⟩ := Nat.exists_eq_add_one_of_ne_zero (Nat.ne_zero_of_lt hfuel)
    exact readMembers_last
      (hblank.trans (hvalue level fuel _ (by omega) (ends_newLine lower _)))
  | cons next members ih =>
    obtain ⟨fuel, rfl⟩ := Nat.exists_eq_add_one_of_ne_zero (Nat.ne_zero_of_lt hfuel)
    obtain ⟨hnext, hmembers⟩ := List.forall_mem_cons.1 hmembers
    simp only [printMembers, quote_eq, List.cons_append, List.append_assoc, List.length_cons,
      List.length_append, List.nil_append] at hfuel ⊢
    refine readMembers_comma (hblank.trans (hvalue level fuel _ (by omega) (ends_comma _))) ?_
    rw [readMembers_append (isBlank_newLine level)]
    exact ih hmembers next.1 hnext (by omega)

/-! ### Whole texts -/

theorem reads_array {items : List Json} (hvalid : ∀ item ∈ items, item.Valid)
    (hitems : ∀ item ∈ items, item.Reads) : (Json.array items).Reads := by
  intro level fuel rest hfuel hrest
  cases items with
  | nil =>
    obtain ⟨fuel, rfl⟩ := Nat.exists_eq_add_of_le' hfuel
    rfl
  | cons item items =>
    obtain ⟨hitem, hitems⟩ := List.forall_mem_cons.1 hitems
    obtain ⟨c, tail, htext, hblank, hne⟩ :=
      exists_head_print (hvalid item List.mem_cons_self) (level + 1)
    simp only [print, List.cons_append, List.append_assoc, List.length_cons, List.length_append,
      List.nil_append] at hfuel ⊢
    obtain ⟨fuel, rfl⟩ := Nat.exists_eq_add_one_of_ne_zero (n := fuel) (by omega)
    have hlength : 2 * ((print (level + 1) item).length +
        (printItems (level + 1) items).length) < fuel := by omega
    have hread := readItems_print hitems hitem (level + 1) level rest hlength
    simp only [htext, List.cons_append] at hread ⊢
    rw [readValue_bracket hblank hne, hread]
    rfl

theorem reads_object {members : List (Option String × Json)}
    (hmembers : ∀ member ∈ members, member.2.Reads) : (Json.object members).Reads := by
  intro level fuel rest hfuel hrest
  cases members with
  | nil =>
    obtain ⟨fuel, rfl⟩ := Nat.exists_eq_add_of_le' hfuel
    rfl
  | cons member members =>
    obtain ⟨hmember, hmembers⟩ := List.forall_mem_cons.1 hmembers
    simp only [print, quote_eq, List.cons_append, List.append_assoc, List.length_cons,
      List.length_append, List.nil_append] at hfuel ⊢
    obtain ⟨fuel, rfl⟩ := Nat.exists_eq_add_one_of_ne_zero (n := fuel) (by omega)
    rw [readValue_brace, readMembers_print hmembers member.1 hmember (level + 1) level rest (by omega)]
    rfl

/-- Every value is read back from its text. -/
theorem Valid.reads {json : Json} (h : json.Valid) : json.Reads := by
  induction h with
  | null =>
    intro level fuel rest hfuel hrest
    obtain ⟨fuel, rfl⟩ := Nat.exists_eq_add_of_le' hfuel
    rfl
  | bool value =>
    intro level fuel rest hfuel hrest
    obtain ⟨fuel, rfl⟩ := Nat.exists_eq_add_of_le' hfuel
    cases value <;> rfl
  | number h =>
    intro level fuel rest hfuel hrest
    obtain ⟨c, tail, htext, hc⟩ := exists_head_text h
    have hread := readNumber_append h hrest
    simp only [print, htext, List.length_cons, List.cons_append] at hfuel hread ⊢
    obtain ⟨fuel, rfl⟩ := Nat.exists_eq_add_one_of_ne_zero (n := fuel) (by omega)
    rw [readValue_number hc, hread]
    rfl
  | string text =>
    intro level fuel rest hfuel hrest
    have hread := readString_quoteTail text rest
    simp only [print, quote_eq, List.length_cons, List.cons_append] at hfuel ⊢
    obtain ⟨fuel, rfl⟩ := Nat.exists_eq_add_of_le' hfuel
    change (readString (quoteTail text ++ rest)).map _ = _
    rw [hread]
    rfl
  | array hitems ih => exact reads_array hitems ih
  | object hmembers ih => exact reads_object ih

theorem read?_pretty {json : Json} (h : json.Valid) : read? json.pretty = some json := by
  have hread := h.reads 0 (2 * (print 0 json).length + 2) [] (by omega) (by simp [Ends])
  rw [List.append_nil] at hread
  simp only [read?, pretty, String.toList_ofList, hread]
  rfl

end ShapeFlow.Json
