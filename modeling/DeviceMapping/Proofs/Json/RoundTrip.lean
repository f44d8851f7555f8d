/-
**JSON values read back from their texts.**

* `Writable`: the value is in canonical form, not nested deeper than a text may be, and its numbers
  read back. Whole numbers do where they fit 64 bits; of a double it is said of its own text.
* `value?_ofJson`: what the text of such a value says (`ofJson`) has this value.
* `says_render`: the text says this, whatever follows; strings character by character
  (`saysString_escapeChar`), numbers by their parts.
* `read?_render`: so the value reads back.
-/

import DeviceMapping.Json.Printer
import DeviceMapping.Proofs.Json.Reading

namespace DeviceMapping

/-! ### Values that a text can hold -/

namespace Json

/-- The text of the double is one number that has its value. -/
def DoubleReadsBack (value : Float) : Prop :=
  ∃ number : NumberText,
    splitNumber? (compactFloatText value).toList = some (number, []) ∧ number.value = .double value

mutual

/-- The value is in canonical form with at most `levels` arrays and objects inside each other, its
whole numbers fit 64 bits and its doubles read back. -/
def Writable (levels : Nat) : Json → Prop
  | null | bool _ | string _ => True
  | integer value => FitsWord value
  | double value => DoubleReadsBack value
  | array items => 0 < levels ∧ WritableItems (levels - 1) items
  | object members => 0 < levels ∧ Table.Sorted members ∧ WritableMembers (levels - 1) members

def WritableItems (levels : Nat) : List Json → Prop
  | [] => True
  | item :: rest => Writable levels item ∧ WritableItems levels rest

def WritableMembers (levels : Nat) : List (String × Json) → Prop
  | [] => True
  | (_, value) :: rest => Writable levels value ∧ WritableMembers levels rest

end

end Json

namespace WrittenJson

mutual

/-- What the text of a value says. -/
def ofJson : Json → WrittenJson
  | .null => .null
  | .bool value => .bool value
  | .integer value => .integer value
  | .double value => .double value
  | .string value => .string value
  | .array items => .array (ofItems items)
  | .object members => .object (ofMembers members)

def ofItems : List Json → List WrittenJson
  | [] => []
  | item :: rest => ofJson item :: ofItems rest

def ofMembers : List (String × Json) → List (String × WrittenJson)
  | [] => []
  | (name, value) :: rest => (name, ofJson value) :: ofMembers rest

end

mutual

/-- What the text of a value says has this value. -/
theorem value?_ofJson {levels : Nat} :
    ∀ value : Json, value.Writable levels → value? levels (ofJson value) = some value
  | .null, _ | .bool _, _ | .integer _, _ | .double _, _ | .string _, _ => by
    simp only [ofJson, value?]
  | .array items, writable => by
    obtain ⟨positive, items'⟩ := writable
    rw [ofJson, value?, if_neg (Nat.ne_of_gt positive), itemValues?_ofItems items items']
    rfl
  | .object members, writable => by
    obtain ⟨positive, sorted, members'⟩ := writable
    rw [ofJson, value?, if_neg (Nat.ne_of_gt positive), memberValues?_ofMembers members members']
    have same : Table.ofList members = ⟨members, sorted⟩ := Table.ofList_entries ⟨members, sorted⟩
    rw [Option.map_some, same]
    rfl

theorem itemValues?_ofItems {levels : Nat} :
    ∀ items : List Json, Json.WritableItems levels items →
      itemValues? levels (ofItems items) = some items
  | [], _ => rfl
  | item :: rest, writable => by
    rw [ofItems, itemValues?, value?_ofJson item writable.1, itemValues?_ofItems rest writable.2]

theorem memberValues?_ofMembers {levels : Nat} :
    ∀ members : List (String × Json), Json.WritableMembers levels members →
      memberValues? levels (ofMembers members) = some members
  | [], _ => rfl
  | (name, value) :: rest, writable => by
    rw [ofMembers, memberValues?, value?_ofJson value writable.1,
      memberValues?_ofMembers rest writable.2]

end

end WrittenJson

namespace Json

/-! ### Texts -/

theorem toList_quote (text : String) :
    (quote text).toList = '"' :: (text.toList.flatMap escapeChar ++ ['"']) := by
  rw [quote, String.toList_ofList]
  rfl

/-- The text between the brackets of an array. -/
def itemsText (items : List Json) : List Char :=
  [','].intercalate ((renderItems items).map String.toList)

/-- The text between the brackets of an object. -/
def membersText (members : List (String × Json)) : List Char :=
  [','].intercalate ((renderMembers members).map String.toList)

theorem toList_render_array (items : List Json) :
    (render (.array items)).toList = '[' :: (itemsText items ++ [']']) := by
  rw [render, String.toList_append, String.toList_append, String.toList_intercalate]
  rfl

theorem toList_render_object (members : List (String × Json)) :
    (render (.object members)).toList = '\x7b' :: (membersText members ++ ['\x7d']) := by
  rw [render, String.toList_append, String.toList_append, String.toList_intercalate]
  rfl

theorem itemsText_cons (item other : Json) (rest : List Json) :
    itemsText (item :: other :: rest) =
      (render item).toList ++ ',' :: itemsText (other :: rest) := by
  simp [itemsText, renderItems, List.intercalate]

theorem itemsText_singleton (item : Json) : itemsText [item] = (render item).toList := by
  simp [itemsText, renderItems, List.intercalate]

/-- The text of a member of an object. -/
def memberText (name : String) (value : Json) : List Char :=
  '"' :: (name.toList.flatMap escapeChar ++ '"' :: ':' :: (render value).toList)

theorem membersText_cons (name : String) (value : Json) (other : String × Json)
    (rest : List (String × Json)) :
    membersText ((name, value) :: other :: rest) =
      memberText name value ++ ',' :: membersText (other :: rest) := by
  simp [membersText, memberText, renderMembers, List.intercalate, toList_quote]

theorem membersText_singleton (name : String) (value : Json) :
    membersText [(name, value)] = memberText name value := by
  simp [membersText, memberText, renderMembers, List.intercalate, toList_quote]

/-! ### Strings -/

theorem hexValue?_hexDigit {n : Nat} (small : n < 16) : hexValue? (hexDigit n) = some n := by
  have all : ∀ digit : Fin 16, hexValue? (hexDigit digit) = some digit.val := by decide
  exact all ⟨n, small⟩

/-- The four digits of a control character. -/
theorem saysUnicode_control {c : Char} (control : c.toNat < 0x20) (rest : List Char) :
    SaysUnicode ('0' :: '0' :: hexDigit (c.toNat / 16) :: hexDigit (c.toNat % 16) :: rest)
      (some c) rest := by
  have unit := @SaysUnit.digits '0' '0' _ _ 0 0 _ _ rest rfl rfl
    (hexValue?_hexDigit (show c.toNat / 16 < 16 by omega))
    (hexValue?_hexDigit (Nat.mod_lt c.toNat (by decide : 0 < 16)))
  rw [show 0x1000 * 0 + 0x100 * 0 + 0x10 * (c.toNat / 16) + c.toNat % 16 = c.toNat by omega] at unit
  have whole := SaysUnicode.whole unit (fun high => by have := high.1; omega)
    (fun low => by have := low.1; omega)
  rwa [Char.ofNat_toNat] at whole

/-- An escaped character says the character. -/
theorem saysString_escapeChar {text rest : List Char} {said : Option (List Char)} (c : Char)
    (later : SaysString text said rest) :
    SaysString (escapeChar c ++ text) (said.map (c :: ·)) rest := by
  unfold escapeChar
  split
  · exact .short (by decide) later
  · exact .short (by decide) later
  · exact .short (by decide) later
  · exact .short (by decide) later
  · exact .short (by decide) later
  · exact .short (by decide) later
  · exact .short (by decide) later
  · rename_i notQuote notSlash _ _ _ _ _
    split
    · rename_i control
      exact .unicode (saysUnicode_control control text) later
    · rename_i plain
      exact .plain notQuote notSlash (Nat.not_lt.mp plain) later

theorem saysString_escaped (text rest : List Char) :
    SaysString (text.flatMap escapeChar ++ '"' :: rest) (some text) rest := by
  induction text with
  | nil => exact .close
  | cons c later ih =>
    rw [List.flatMap_cons, List.append_assoc]
    exact saysString_escapeChar c ih

/-! ### Values -/

theorem says_number {text : List Char} {number : NumberText} {written : WrittenJson}
    (parts : SaysNumber text number []) (denotes : number.Denotes written) (rest : List Char) :
    Says (text ++ rest) written rest :=
  .number (parts.append rest) denotes

theorem saysMember_memberText (name : String) {value : Json} {written : WrittenJson}
    {rest : List Char} (is : Says ((render value).toList ++ rest) written rest) :
    SaysMember (memberText name value ++ rest) (some (name, written)) rest := by
  have isName := saysString_escaped name.toList (':' :: ((render value).toList ++ rest))
  have member := SaysMember.member .none isName .none .none is .none
  rw [Option.map_some, String.ofList_toList] at member
  simpa [memberText] using member

mutual

/-- The text of a writable value says the value, whatever follows. -/
theorem says_render {levels : Nat} (rest : List Char) : ∀ value : Json, value.Writable levels →
    Says ((render value).toList ++ rest) (.ofJson value) rest
  | .null, _ => .nullWord
  | .bool value, _ => by
    cases value with
    | false => exact .falseWord
    | true => exact .trueWord
  | .integer value, fits => by
    obtain ⟨number, parts, denotes⟩ := saysNumber_integer fits
    exact says_number parts denotes rest
  | .double value, readsBack => by
    obtain ⟨number, is, same⟩ := readsBack
    have parts := says_of_splitNumber? is
    exact says_number parts ((denotes_iff parts.hasDigits).mpr same) rest
  | .string text, _ => by
    rw [render, toList_quote, List.cons_append, List.append_assoc]
    have string := Says.string (saysString_escaped text.toList rest)
    rwa [String.ofList_toList] at string
  | .array items, writable => by
    have inside := saysItems_render rest items writable.2
    rw [toList_render_array, List.cons_append, List.append_assoc]
    cases items with
    | nil => exact .emptyArray .none
    | cons item more => exact .array (inside (List.cons_ne_nil item more))
  | .object members, writable => by
    have inside := saysMembers_render rest members writable.2.2
    rw [toList_render_object, List.cons_append, List.append_assoc]
    cases members with
    | nil => exact .emptyObject .none
    | cons member more => exact .object (inside (List.cons_ne_nil member more))

theorem saysItems_render {levels : Nat} (rest : List Char) : ∀ items : List Json,
    WritableItems levels items → items ≠ [] →
      SaysItems (itemsText items ++ ']' :: rest) (WrittenJson.ofItems items) rest
  | [], _, nonempty => absurd rfl nonempty
  | [item], writable, _ => by
    rw [itemsText_singleton]
    exact .last .none (says_render _ item writable.1) .none
  | item :: other :: more, writable, _ => by
    rw [itemsText_cons, List.append_assoc]
    exact .cons .none (says_render _ item writable.1) .none
      (saysItems_render rest (other :: more) writable.2 (List.cons_ne_nil other more))

theorem saysMembers_render {levels : Nat} (rest : List Char) :
    ∀ members : List (String × Json), WritableMembers levels members → members ≠ [] →
      SaysMembers (membersText members ++ '\x7d' :: rest)
        (some (WrittenJson.ofMembers members)) rest
  | [], _, nonempty => absurd rfl nonempty
  | [(name, value)], writable, _ => by
    rw [membersText_singleton]
    exact .last (saysMember_memberText name (says_render _ value writable.1))
  | (name, value) :: other :: more, writable, _ => by
    rw [membersText_cons, List.append_assoc]
    exact .cons (saysMember_memberText name (says_render _ value writable.1))
      (saysMembers_render rest (other :: more) writable.2 (List.cons_ne_nil other more))

end

/-- The text of a value in canonical form reads back as the value, if its numbers do and it is not
nested too deep. -/
theorem read?_render {value : Json} (writable : value.Writable nestingLimit) :
    read? (render value) = some value := by
  have value' := says_render [] value writable
  rw [List.append_nil] at value'
  have written := readWritten?_eq_some_iff.mpr ⟨_, _, .none, value', .none⟩
  rw [read?, written]
  exact WrittenJson.value?_ofJson value writable

end Json

end DeviceMapping
