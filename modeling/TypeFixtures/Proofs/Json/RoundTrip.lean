import Mathlib.Data.List.Basic
import TypeFixtures.Proofs.Json.Reader
import TypeFixtures.Proofs.Yaml.Quoted

/-!
# What is written is read back

Every value is written so that a reader of JSON gets it back from its text: each text character by
character, and each array and object item by item, past the layout between them.

* `readText_escape` — one character of a text;
* `read_write` — a value, whatever comes after it;
* `ofText?_render` — a value as a text of its own.
-/

namespace TypeFixtures.Json

/-! ## The value that is written -/

mutual

/-- A written value among all values. -/
def value : Json → Value
  | bool value => .bool value
  | text value => .text value
  | array items => .array (itemValues items)
  | object fields => .object (fieldValues fields)

/-- The values of items. -/
def itemValues : List Json → List Value
  | [] => []
  | item :: rest => item.value :: itemValues rest

/-- The values of fields. -/
def fieldValues : List (String × Json) → List (String × Value)
  | [] => []
  | (name, content) :: rest => (name, content.value) :: fieldValues rest

end

theorem itemValues_eq_map (items : List Json) : itemValues items = items.map value := by
  induction items with
  | nil => rfl
  | cons item rest ih => rw [itemValues, ih, List.map_cons]

/-! ## Layout -/

section

variable {c : Char} {level : Nat} {cs : List Char}

theorem skipBlank_lineStart : skipBlank (lineStart level ++ cs) = skipBlank cs := by
  have hspaces (n : Nat) : skipBlank (List.replicate n ' ' ++ cs) = skipBlank cs := by
    induction n with
    | zero => rfl
    | succ n ih => exact ih
  exact hspaces (2 * level)

theorem skipBlank_cons (h : isBlank c = false) : skipBlank (c :: cs) = c :: cs := by
  simp [skipBlank, h]

theorem length_lineStart (level : Nat) : (lineStart level).length = 2 * level + 1 := by
  simp [lineStart]

theorem sign?_lineStart : sign? c (lineStart level ++ cs) = sign? c cs := by
  rw [sign?, skipBlank_lineStart, sign?]

theorem sign?_self (h : isBlank c = false) : sign? c (c :: cs) = some cs := by
  simp [sign?, skipBlank_cons h]

theorem sign?_of_ne {sign : Char} (h : isBlank c = false) (hne : c ≠ sign) :
    sign? sign (c :: cs) = none := by
  simp [sign?, skipBlank_cons h, hne]

theorem read_lineStart (fuel : Nat) : read fuel (lineStart level ++ cs) = read fuel cs := by
  cases fuel with
  | zero => rfl
  | succ fuel => rw [read, skipBlank_lineStart, read]

/-! ## Texts -/

/-- The closing quote ends a text. -/
theorem readText_quote : readText ('"' :: cs) = some ([], cs) := by
  rw [readText.eq_def]
  exact if_pos rfl

/-- A character that needs no escape stands for itself. -/
theorem readText_cons (hquote : c ≠ '"') (hbackslash : c ≠ '\\') (hcontrol : ¬ c.toNat < 0x20) :
    readText (c :: cs) = push c (readText cs) := by
  rw [readText.eq_def]
  dsimp only
  rw [if_neg hquote, if_neg hbackslash, if_neg hcontrol]

/-- A letter after a backslash stands for its character. -/
theorem readText_letter {letter : Char} (hletter : escaped? letter = some c) :
    readText ('\\' :: letter :: cs) = push c (readText cs) := by
  have hcode : letter ≠ 'u' := by
    rintro rfl
    contradiction
  rw [readText.eq_def]
  simp [hletter, hcode]

/-- The code of a control character stands for it. -/
theorem readText_byCode (hc : c.toNat < 0x20) :
    readText (byCode c ++ cs) = push c (readText cs) := by
  have hcode : ∀ n < 0x20, code? '0' '0' (hexDigit (n / 16)) (hexDigit (n % 16)) = some n ∧
      isFirstHalf n = false := by
    decide +kernel
  obtain ⟨hcode, hhalf⟩ := hcode c.toNat hc
  rw [byCode, readText.eq_def]
  simp [hcode, hhalf, Yaml.Token.charOf?_toNat]

/-- A character is read back from what is written for it. -/
theorem readText_escape (c : Char) (cs : List Char) :
    readText (escape c ++ cs) = push c (readText cs) := by
  unfold escape
  split_ifs with hquote hbackslash hbackspace hfeed hline hreturn htab hcontrol
  iterate 7
    · subst_vars
      exact readText_letter rfl
  · exact readText_byCode hcontrol
  · exact readText_cons hquote hbackslash hcontrol

/-- A text is read back from what is written for its characters. -/
theorem readText_flatMap_escape (chars rest : List Char) :
    readText (chars.flatMap escape ++ '"' :: rest) = some (chars, rest) := by
  induction chars with
  | nil => exact readText_quote
  | cons c others ih =>
      rw [List.flatMap_cons, List.append_assoc, readText_escape, ih]
      rfl

end

/-! ## Values -/

section

variable {fuel level : Nat} {cs tail : List Char}

theorem quoted_append (s : String) (rest : List Char) :
    quoted s ++ rest = '"' :: (s.toList.flatMap escape ++ '"' :: rest) := by
  simp [quoted]

/-- A text in quotes is read. -/
theorem read_quoted (s : String) : read (fuel + 1) (quoted s ++ tail) = some (.text s, tail) := by
  rw [quoted_append, read, skipBlank_cons (by decide)]
  simp only [readText_flatMap_escape, Option.map_some, String.ofList_toList]

/-! ### How they are laid out -/

theorem write_array_append (item : Json) (rest : List Json) :
    (array (item :: rest)).write level ++ tail =
      '[' :: (lineStart (level + 1) ++ (item.write (level + 1) ++
        (writeItems level rest ++ tail))) := by
  simp [write]

theorem writeItems_nil_append :
    writeItems level [] ++ tail = lineStart level ++ ']' :: tail := by
  simp [writeItems]

theorem writeItems_cons_append (item : Json) (rest : List Json) :
    writeItems level (item :: rest) ++ tail =
      ',' :: (lineStart (level + 1) ++ (item.write (level + 1) ++
        (writeItems level rest ++ tail))) := by
  simp [writeItems]

/-- The name of a field at the start of a line, and what comes after its colon. -/
def field (level : Nat) (name : String) (after : List Char) : List Char :=
  lineStart level ++ (quoted name ++ ':' :: ' ' :: after)

theorem write_object_append (name : String) (content : Json) (rest : List (String × Json)) :
    (object ((name, content) :: rest)).write level ++ tail =
      '\x7b' :: field (level + 1) name (content.write (level + 1) ++
        (writeFields level rest ++ tail)) := by
  simp [write, field]

theorem writeFields_nil_append :
    writeFields level [] ++ tail = lineStart level ++ '\x7d' :: tail := by
  simp [writeFields]

theorem writeFields_cons_append (name : String) (content : Json) (rest : List (String × Json)) :
    writeFields level ((name, content) :: rest) ++ tail =
      ',' :: field (level + 1) name (content.write (level + 1) ++
        (writeFields level rest ++ tail)) := by
  simp [writeFields, field]

/-- No value starts with the end of an array. -/
theorem sign?_write (v : Json) : sign? ']' (v.write level ++ tail) = none := by
  cases v with
  | bool b =>
      cases b with
      | false => simp [write, sign?, skipBlank, isBlank]
      | true => simp [write, sign?, skipBlank, isBlank]
  | text s =>
      rw [write, quoted_append]
      exact sign?_of_ne (by decide) (by decide)
  | array items =>
      cases items with
      | nil => simp [write, sign?, skipBlank, isBlank]
      | cons item rest =>
          rw [write_array_append]
          exact sign?_of_ne (by decide) (by decide)
  | object fields =>
      cases fields with
      | nil => simp [write, sign?, skipBlank, isBlank]
      | cons entry rest =>
          rw [write_object_append]
          exact sign?_of_ne (by decide) (by decide)

theorem length_write_pos (v : Json) (level : Nat) : 1 ≤ (v.write level).length := by
  cases v with
  | bool b => cases b <;> simp [write]
  | text s => simp [write, quoted]
  | array items => cases items <;> simp [write]
  | object fields => cases fields <;> simp [write]

/-! ### How the reader takes them -/

theorem read_bool (b : Bool) :
    read (fuel + 1) ((bool b).write level ++ tail) = some (.bool b, tail) := by
  cases b with
  | false =>
      simp [write, read, skipBlank, isBlank, readWord, words, List.findSome?, List.isPrefixOf?]
  | true =>
      simp [write, read, skipBlank, isBlank, readWord, words, List.findSome?, List.isPrefixOf?]

theorem read_emptyArray :
    read (fuel + 1) ((array []).write level ++ tail) = some (.array [], tail) := by
  simp [write, read, skipBlank, isBlank, sign?]

theorem read_emptyObject :
    read (fuel + 1) ((object []).write level ++ tail) = some (.object [], tail) := by
  simp [write, read, skipBlank, isBlank, sign?]

theorem read_array {items : List Value} (hend : sign? ']' cs = none)
    (hitems : readItems fuel cs = some (items, tail)) :
    read (fuel + 1) ('[' :: cs) = some (.array items, tail) := by
  rw [read, skipBlank_cons (by decide)]
  simp only [hend, hitems, Option.map_some]

theorem read_object {fields : List (String × Value)} (hend : sign? '\x7d' cs = none)
    (hfields : readFields fuel cs = some (fields, tail)) :
    read (fuel + 1) ('\x7b' :: cs) = some (.object fields, tail) := by
  rw [read, skipBlank_cons (by decide)]
  simp only [hend, hfields, Option.map_some]

section

variable {item : Value} {items : List Value} {rest others : List Char}

theorem readItems_last (hitem : read fuel cs = some (item, rest))
    (hend : sign? ']' rest = some tail) : readItems (fuel + 1) cs = some ([item], tail) := by
  simp [readItems, hitem, hend]

theorem readItems_more (hitem : read fuel cs = some (item, rest)) (hend : sign? ']' rest = none)
    (hcomma : sign? ',' rest = some others) (hitems : readItems fuel others = some (items, tail)) :
    readItems (fuel + 1) cs = some (item :: items, tail) := by
  simp [readItems, hitem, hend, hcomma, hitems]

variable {name : String} {content : Value} {fields : List (String × Value)}

theorem sign?_field : sign? '"' (field level name cs) =
    some (name.toList.flatMap escape ++ '"' :: ':' :: ' ' :: cs) := by
  rw [field, sign?_lineStart, quoted_append]
  exact sign?_self (by decide)

theorem sign?_field_of_ne {sign : Char} (hne : '"' ≠ sign) :
    sign? sign (field level name cs) = none := by
  rw [field, sign?_lineStart, quoted_append]
  exact sign?_of_ne (by decide) hne

theorem read_space : read fuel (' ' :: cs) = read fuel cs := by
  cases fuel with
  | zero => rfl
  | succ fuel => rw [read, read]; rfl

theorem readFields_last (hcontent : read fuel cs = some (content, rest))
    (hend : sign? '\x7d' rest = some tail) :
    readFields (fuel + 1) (field level name cs) = some ([(name, content)], tail) := by
  simp [readFields, sign?_field, readText_flatMap_escape, sign?_self, isBlank, read_space, hcontent,
    hend]

theorem readFields_more (hcontent : read fuel cs = some (content, rest))
    (hend : sign? '\x7d' rest = none) (hcomma : sign? ',' rest = some others)
    (hfields : readFields fuel others = some (fields, tail)) :
    readFields (fuel + 1) (field level name cs) = some ((name, content) :: fields, tail) := by
  simp [readFields, sign?_field, readText_flatMap_escape, sign?_self, isBlank, read_space, hcontent,
    hend, hcomma, hfields]

end

end

mutual

/-- A value is read back from its text, whatever comes after it.  The text is as long as the fuel
that its reading takes. -/
theorem read_write (v : Json) {fuel level : Nat} {tail : List Char}
    (hfuel : (v.write level).length ≤ fuel) :
    read fuel (v.write level ++ tail) = some (v.value, tail) := by
  obtain ⟨fuel, rfl⟩ := Nat.exists_eq_add_of_le' (Nat.le_trans (length_write_pos v level) hfuel)
  cases v with
  | bool b => exact read_bool b
  | text s => exact read_quoted s
  | array items =>
      cases items with
      | nil => exact read_emptyArray
      | cons item rest =>
          simp only [write, List.length_cons, List.length_append, length_lineStart] at hfuel
          -- The start of the line makes up for the fuel that the items take.
          obtain ⟨fuel, rfl⟩ := Nat.exists_eq_add_of_le' (show 1 ≤ fuel by omega)
          have hitem : read fuel (lineStart (level + 1) ++ (item.write (level + 1) ++
              (writeItems level rest ++ tail))) =
                some (item.value, writeItems level rest ++ tail) := by
            rw [read_lineStart]
            exact read_write item (by omega)
          have hend : sign? ']' (lineStart (level + 1) ++ (item.write (level + 1) ++
              (writeItems level rest ++ tail))) = none := by
            rw [sign?_lineStart]
            exact sign?_write item
          rw [write_array_append]
          exact read_array hend (readItems_writeItems rest (by omega) hitem)
  | object fields =>
      cases fields with
      | nil => exact read_emptyObject
      | cons entry rest =>
          obtain ⟨name, content⟩ := entry
          simp only [write, List.length_cons, List.length_append, length_lineStart] at hfuel
          obtain ⟨fuel, rfl⟩ := Nat.exists_eq_add_of_le' (show 1 ≤ fuel by omega)
          have hcontent : read fuel (content.write (level + 1) ++
              (writeFields level rest ++ tail)) =
                some (content.value, writeFields level rest ++ tail) :=
            read_write content (by omega)
          rw [write_object_append]
          exact read_object (sign?_field_of_ne (by decide))
            (readFields_writeFields rest (by omega) hcontent)

/-- After an item the others are read, up to the end of the array. -/
theorem readItems_writeItems (rest : List Json) {fuel level : Nat} {cs tail : List Char}
    {item : Value} (hfuel : (writeItems level rest).length ≤ fuel)
    (hread : read fuel cs = some (item, writeItems level rest ++ tail)) :
    readItems (fuel + 1) cs = some (item :: itemValues rest, tail) := by
  cases rest with
  | nil =>
      refine readItems_last hread ?_
      rw [writeItems_nil_append, sign?_lineStart]
      exact sign?_self (by decide)
  | cons next others =>
      simp only [writeItems, List.length_cons, List.length_append] at hfuel
      obtain ⟨fuel, rfl⟩ := Nat.exists_eq_add_of_le' (show 1 ≤ fuel by omega)
      have hnext : read fuel (lineStart (level + 1) ++ (next.write (level + 1) ++
          (writeItems level others ++ tail))) =
            some (next.value, writeItems level others ++ tail) := by
        rw [read_lineStart]
        exact read_write next (by omega)
      rw [writeItems_cons_append] at hread
      exact readItems_more hread (sign?_of_ne (by decide) (by decide)) (sign?_self (by decide))
        (readItems_writeItems others (by omega) hnext)

/-- After a field the others are read, up to the end of the object. -/
theorem readFields_writeFields (rest : List (String × Json)) {fuel level column : Nat}
    {cs tail : List Char} {name : String} {content : Value}
    (hfuel : (writeFields level rest).length ≤ fuel)
    (hread : read fuel cs = some (content, writeFields level rest ++ tail)) :
    readFields (fuel + 1) (field column name cs) =
      some ((name, content) :: fieldValues rest, tail) := by
  cases rest with
  | nil =>
      refine readFields_last hread ?_
      rw [writeFields_nil_append, sign?_lineStart]
      exact sign?_self (by decide)
  | cons next others =>
      obtain ⟨nextName, nextContent⟩ := next
      simp only [writeFields, List.length_cons, List.length_append] at hfuel
      obtain ⟨fuel, rfl⟩ := Nat.exists_eq_add_of_le' (show 1 ≤ fuel by omega)
      have hnext : read fuel (nextContent.write (level + 1) ++
          (writeFields level others ++ tail)) =
            some (nextContent.value, writeFields level others ++ tail) :=
        read_write nextContent (by omega)
      rw [writeFields_cons_append] at hread
      exact readFields_more hread (sign?_of_ne (by decide) (by decide)) (sign?_self (by decide))
        (readFields_writeFields others (by omega) hnext)

end

/-- A value as a text of its own is read back. -/
theorem ofText?_render (v : Json) : Value.ofText? v.render = some v.value := by
  have hread : read (v.write 0).length (v.write 0 ++ []) = some (v.value, []) :=
    read_write v (Nat.le_refl _)
  rw [List.append_nil] at hread
  rw [Value.ofText?, render, String.toList_ofList, String.length_ofList, hread]
  rfl

end TypeFixtures.Json
