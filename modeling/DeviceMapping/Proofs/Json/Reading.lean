/-
**Texts are read by the grammar.**

* `says_of_readValue?`: what is read of a text is what it says, by induction on the steps.
* `readValue?_of_said`: what a text says is read, whatever stands behind it, by induction on the
  grammar. Two steps for each character are enough, for a bracket takes one and an item another.
* `readWritten?_eq_some_iff`, `read?_eq_some_iff`: so a text is read exactly if it says a value, and
  has that value exactly if no part of it is unreadable and it is not nested too deep.
-/

import DeviceMapping.Proofs.Json.Magnitude
import DeviceMapping.Table.Lookup

namespace DeviceMapping

namespace Json

/-! ### Where values begin -/

section Begins

variable {text rest : List Char} {c : Char} {number : NumberText} {written : WrittenJson}

/-- A number begins with a minus or a digit. -/
def BeginsNumber (c : Char) : Prop :=
  c = '-' ∨ c.isDigit = true

theorem SaysNumber.begins (parts : SaysNumber text number rest) :
    ∃ c later, text = c :: later ∧ BeginsNumber c := by
  obtain @⟨whole, behind, _, _, _, _, _, minus, isDigits, _, _, _⟩ := parts
  obtain ⟨c, later, same⟩ := List.exists_cons_of_ne_nil isDigits.some
  cases minus with
  | absent =>
    refine ⟨c, later ++ behind, by rw [same]; rfl, .inr ?_⟩
    exact isDigits.all c (same ▸ List.mem_cons_self)
  | present => exact ⟨'-', _, rfl, .inl rfl⟩

theorem BeginsNumber.ne (begins : BeginsNumber c) (other : Char)
    (notBegin : other ≠ '-' ∧ other.isDigit = false) : c ≠ other := by
  rintro rfl
  rcases begins with minus | digit
  · exact notBegin.1 minus
  · rw [notBegin.2] at digit
    cases digit

theorem BeginsNumber.isSpace_eq (begins : BeginsNumber c) : isSpace c = false := by
  rw [← Bool.not_eq_true, isSpace_iff]
  simp only [List.mem_cons, List.not_mem_nil, or_false, not_or]
  exact ⟨begins.ne ' ' (by decide), begins.ne '\n' (by decide), begins.ne '\t' (by decide),
    begins.ne '\r' (by decide)⟩

/-- A value begins with neither a blank nor a closing bracket. -/
theorem Says.begins (value : Says text written rest) :
    ∃ c later, text = c :: later ∧ isSpace c = false ∧ c ≠ ']' := by
  cases value with
  | number parts _ =>
    obtain ⟨c, later, same, begins⟩ := parts.begins
    exact ⟨c, later, same, begins.isSpace_eq, begins.ne ']' (by decide)⟩
  | _ => exact ⟨_, _, rfl, rfl, by decide⟩

theorem Says.beginsPlain (value : Says text written rest) : BeginsPlain text := by
  obtain ⟨c, later, rfl, plain, -⟩ := value.begins
  exact beginsPlain_cons plain later

theorem SaysNumber.length_lt (parts : SaysNumber text number rest) : rest.length < text.length := by
  obtain @⟨whole, behind, behind', _, _, _, _, minus, isDigits, _, point, mark⟩ := parts
  have some := List.length_pos_iff.mpr isDigits.some
  have first : whole.length + behind.length ≤ text.length := by
    cases minus <;> simp
  have second : behind'.length ≤ behind.length := by
    cases point <;> simp
    omega
  have third : rest.length ≤ behind'.length := by
    cases mark <;> simp
    omega
  omega

end Begins

/-! ### What is left behind is shorter -/

mutual

theorem Says.length_lt {text rest : List Char} {written : WrittenJson} :
    Says text written rest → rest.length < text.length
  | .nullWord | .trueWord | .falseWord => by
    simp only [List.length_cons]
    omega
  | .number parts _ => parts.length_lt
  | .string inside | .unreadableString inside => Nat.lt_succ_of_lt inside.length_lt
  | .emptyArray inside | .emptyObject inside => Nat.lt_succ_of_le (Nat.le_of_succ_le inside.length_le)
  | .array inside => Nat.lt_succ_of_lt inside.length_lt
  | .object inside | .unreadableObject inside => Nat.lt_succ_of_lt inside.length_lt

theorem SaysItems.length_lt {text rest : List Char} {items : List WrittenJson} :
    SaysItems text items rest → rest.length < text.length
  | .last before value after => by
    have first := before.length_le
    have second := value.length_lt
    have third := after.length_le
    simp only [List.length_cons] at third
    omega
  | .cons before value after later => by
    have first := before.length_le
    have second := value.length_lt
    have third := after.length_le
    have fourth := later.length_lt
    simp only [List.length_cons] at third
    omega

theorem SaysMember.length_lt {text rest : List Char} {member : Option (String × WrittenJson)} :
    SaysMember text member rest → rest.length < text.length
  | .member before name colon blanks value after => by
    have first := before.length_le
    have second := name.length_lt
    have third := colon.length_le
    have fourth := blanks.length_le
    have fifth := value.length_lt
    have sixth := after.length_le
    simp only [List.length_cons] at first third
    omega

theorem SaysMembers.length_lt {text rest : List Char}
    {members : Option (List (String × WrittenJson))} :
    SaysMembers text members rest → rest.length < text.length
  | .last member => Nat.lt_of_succ_lt member.length_lt
  | .cons member others => by
    have first := member.length_lt
    have second := others.length_lt
    simp only [List.length_cons] at first
    omega

end

/-! ### What is said is read -/

section Steps

variable {text first second third fourth fifth rest : List Char} {steps : Nat}
  {written : WrittenJson} {items : List WrittenJson}

theorem readValue?_blanks (before : Blanks text first) (value : Says first written rest)
    (steps : Nat) : readValue? steps text = readValue? steps first := by
  rw [← readValue?_skipSpace, skipSpace_of_blanks before value.beginsPlain]

/-- A number is read as such, since no other value begins like it. -/
theorem readValue?_number {number : NumberText} (parts : SaysNumber text number rest)
    (ends : EndsNumber rest) :
    readValue? (steps + 1) text = some (number.value, rest) := by
  obtain ⟨c, later, rfl, begins⟩ := parts.begins
  have other : ∀ mark : Char, mark ≠ '-' ∧ mark.isDigit = false →
      ∀ rest, c :: later ≠ mark :: rest :=
    fun mark notBegin _ same => begins.ne mark notBegin (List.cons.inj same).1
  rw [readValue?, skipSpace_of_beginsPlain (beginsPlain_cons begins.isSpace_eq later)]
  split
  · rename_i same
    exact absurd same (other 'n' (by decide) _)
  · rename_i same
    exact absurd same (other 't' (by decide) _)
  · rename_i same
    exact absurd same (other 'f' (by decide) _)
  · rename_i same
    exact absurd same (other '"' (by decide) _)
  · rename_i same
    exact absurd same (other '[' (by decide) _)
  · rename_i same
    exact absurd same (other '\x7b' (by decide) _)
  · rw [splitNumber?_of_said parts ends]
    rfl

theorem readValue?_string {said : Option (List Char)} (inside : SaysString text said rest) :
    readValue? (steps + 1) ('"' :: text) =
      some ((said.map fun said => WrittenJson.string (String.ofList said)).getD .unreadable,
        rest) := by
  rw [readValue?, skipSpace_of_beginsPlain (beginsPlain_cons rfl text)]
  show (readString? _ _ _).map _ = _
  rw [readString?_of_said inside (Nat.le_succ _)]
  cases said <;> rfl

theorem readValue?_array (before : Blanks text first) (value : Says first written second)
    (inside : readItems? steps text = some (items, rest)) :
    readValue? (steps + 1) ('[' :: text) = some (.array items, rest) := by
  obtain ⟨c, later, rfl, plain, notClosing⟩ := value.begins
  have behind := skipSpace_of_blanks before (beginsPlain_cons plain later)
  rw [readValue?, skipSpace_of_beginsPlain (beginsPlain_cons rfl text)]
  simp only [behind]
  split
  · rename_i same
    exact absurd (List.cons.inj same).1 notClosing
  · rw [inside]
    rfl

theorem readValue?_emptyArray (inside : Blanks text (']' :: rest)) :
    readValue? (steps + 1) ('[' :: text) = some (.array [], rest) := by
  rw [readValue?, skipSpace_of_beginsPlain (beginsPlain_cons rfl text)]
  simp only [skipSpace_of_blanks inside (beginsPlain_cons rfl rest)]

theorem readValue?_emptyObject (inside : Blanks text ('\x7d' :: rest)) :
    readValue? (steps + 1) ('\x7b' :: text) = some (.object [], rest) := by
  rw [readValue?, skipSpace_of_beginsPlain (beginsPlain_cons rfl text)]
  simp only [skipSpace_of_blanks inside (beginsPlain_cons rfl rest)]

theorem readValue?_object {members : Option (List (String × WrittenJson))}
    (before : Blanks text ('"' :: first)) (inside : readMembers? steps text = some (members, rest)) :
    readValue? (steps + 1) ('\x7b' :: text) =
      some ((members.map WrittenJson.object).getD .unreadable, rest) := by
  rw [readValue?, skipSpace_of_beginsPlain (beginsPlain_cons rfl text)]
  simp only [skipSpace_of_blanks before (beginsPlain_cons rfl first), inside]
  rfl

/-- An item before a closing bracket is the last one. -/
theorem readItems?_last (item : readValue? steps text = some (written, second))
    (after : Blanks second (']' :: rest)) :
    readItems? (steps + 1) text = some ([written], rest) := by
  rw [readItems?, item]
  simp only [Option.bind_eq_bind, Option.bind_some,
    skipSpace_of_blanks after (beginsPlain_cons rfl rest)]

/-- An item before a comma is followed by the other items. -/
theorem readItems?_cons (item : readValue? steps text = some (written, second))
    (after : Blanks second (',' :: third)) (others : readItems? steps third = some (items, rest)) :
    readItems? (steps + 1) text = some (written :: items, rest) := by
  rw [readItems?, item]
  simp only [Option.bind_eq_bind, Option.bind_some,
    skipSpace_of_blanks after (beginsPlain_cons rfl third), others]

variable {name : Option (List Char)} {members : Option (List (String × WrittenJson))}

/-- A member before a closing bracket is the last one. -/
theorem readMembers?_last (before : Blanks text ('"' :: first))
    (isName : SaysString first name second) (colon : Blanks second (':' :: third))
    (value : readValue? steps third = some (written, fifth))
    (after : Blanks fifth ('\x7d' :: rest)) :
    readMembers? (steps + 1) text =
      some ((name.map fun name => (String.ofList name, written)).map ([·]), rest) := by
  rw [readMembers?, skipSpace_of_blanks before (beginsPlain_cons rfl first)]
  simp only [readString?_of_said isName (Nat.le_succ _), Option.bind_eq_bind, Option.bind_some,
    skipSpace_of_blanks colon (beginsPlain_cons rfl third), value,
    skipSpace_of_blanks after (beginsPlain_cons rfl rest)]
  cases name <;> rfl

/-- A member before a comma is followed by the other members. -/
theorem readMembers?_cons (before : Blanks text ('"' :: first))
    (isName : SaysString first name second) (colon : Blanks second (':' :: third))
    (value : readValue? steps third = some (written, fifth))
    (after : Blanks fifth (',' :: fourth)) (others : readMembers? steps fourth = some (members, rest)) :
    readMembers? (steps + 1) text =
      some ((name.map fun name => (String.ofList name, written)).bind fun member =>
        members.map (member :: ·), rest) := by
  rw [readMembers?, skipSpace_of_blanks before (beginsPlain_cons rfl first)]
  simp only [readString?_of_said isName (Nat.le_succ _), Option.bind_eq_bind, Option.bind_some,
    skipSpace_of_blanks colon (beginsPlain_cons rfl third), value,
    skipSpace_of_blanks after (beginsPlain_cons rfl fourth), others]
  cases name <;> rfl

theorem SaysItems.begins (inside : SaysItems text items rest) :
    ∃ first written second, Blanks text first ∧ Says first written second := by
  cases inside with
  | last before value => exact ⟨_, _, _, before, value⟩
  | cons before value => exact ⟨_, _, _, before, value⟩

theorem SaysMembers.begins (inside : SaysMembers text members rest) :
    ∃ first, Blanks text ('"' :: first) := by
  cases inside with
  | last member =>
    obtain ⟨before, -⟩ := member
    exact ⟨_, before⟩
  | cons member =>
    obtain ⟨before, -⟩ := member
    exact ⟨_, before⟩

end Steps

mutual

/-- A value is read as what it says, if no number goes on behind it. -/
theorem readValue?_of_said {text rest : List Char} {written : WrittenJson} {steps : Nat} :
    Says text written rest → EndsNumber rest → 2 * text.length ≤ steps →
      readValue? steps text = some (written, rest)
  | value, ends, enough => by
    have some := value.length_lt
    cases steps with
    | zero => omega
    | succ steps =>
      match value with
      | .nullWord | .trueWord | .falseWord => rfl
      | .number parts denotes =>
        rw [← (denotes_iff parts.hasDigits).mp denotes]
        exact readValue?_number parts ends
      | .string inside | .unreadableString inside => exact readValue?_string inside
      | .emptyArray inside => exact readValue?_emptyArray inside
      | .emptyObject inside => exact readValue?_emptyObject inside
      | .array inside =>
        obtain ⟨first, _, _, before, item⟩ := inside.begins
        rw [List.length_cons] at enough
        exact readValue?_array before item (readItems?_of_said inside (by omega))
      | .object inside | .unreadableObject inside =>
        obtain ⟨first, before⟩ := inside.begins
        rw [List.length_cons] at enough
        exact readValue?_object before (readMembers?_of_said inside (by omega))

theorem readItems?_of_said {text rest : List Char} {items : List WrittenJson} {steps : Nat} :
    SaysItems text items rest → 2 * text.length < steps →
      readItems? steps text = some (items, rest)
  | inside, enough => by
    cases steps with
    | zero => cases enough
    | succ steps =>
      match inside with
      | .last before value after =>
        have shorter := before.length_le
        have ends := after.endsNumber (endsNumber_cons (by decide) rest)
        refine readItems?_last ?_ after
        rw [readValue?_blanks before value]
        exact readValue?_of_said value ends (by omega)
      | .cons before value after later =>
        have first := before.length_le
        have second := value.length_lt
        have third := after.length_le
        rw [List.length_cons] at third
        have ends := after.endsNumber (endsNumber_cons (by decide) _)
        refine readItems?_cons ?_ after (readItems?_of_said later (by omega))
        rw [readValue?_blanks before value]
        exact readValue?_of_said value ends (by omega)

theorem readMembers?_of_said {text rest : List Char}
    {members : Option (List (String × WrittenJson))} {steps : Nat} :
    SaysMembers text members rest → 2 * text.length < steps →
      readMembers? steps text = some (members, rest)
  | inside, enough => by
    cases steps with
    | zero => cases enough
    | succ steps =>
      match inside with
      | .last (.member before isName colon blanks value after) =>
        have first := before.length_le
        have second := isName.length_lt
        have third := colon.length_le
        have fourth := blanks.length_le
        simp only [List.length_cons] at first third
        have ends := after.endsNumber (endsNumber_cons (by decide) rest)
        refine readMembers?_last before isName colon ?_ after
        rw [readValue?_blanks blanks value]
        exact readValue?_of_said value ends (by omega)
      | .cons (.member before isName colon blanks value after) others =>
        have first := before.length_le
        have second := isName.length_lt
        have third := colon.length_le
        have fourth := blanks.length_le
        have fifth := value.length_lt
        have sixth := after.length_le
        simp only [List.length_cons] at first third sixth
        have ends := after.endsNumber (endsNumber_cons (by decide) _)
        refine readMembers?_cons before isName colon ?_ after
          (readMembers?_of_said others (by omega))
        rw [readValue?_blanks blanks value]
        exact readValue?_of_said value ends (by omega)

end

/-! ### What is read is said -/

theorem eq_append_of_afterWord? {text rest : List Char} {word : String} {written value : WrittenJson}
    (reads : (afterWord? word.toList text).map (value, ·) = some (written, rest)) :
    value = written ∧ text = word.toList ++ rest := by
  obtain ⟨behind, begins, same⟩ := Option.map_eq_some_iff.mp reads
  cases same
  exact ⟨rfl, afterWord?_eq_some_iff.mp begins⟩

mutual

/-- What is read of a text is what it says behind blanks. -/
theorem says_of_readValue? {text rest : List Char} {written : WrittenJson} :
    ∀ steps, readValue? steps text = some (written, rest) →
      ∃ first, Blanks text first ∧ Says first written rest
  | 0, reads => by cases reads
  | steps + 1, reads => by
    refine ⟨skipSpace text, blanks_skipSpace text, ?_⟩
    rw [readValue?] at reads
    split at reads
    · rename_i behind same
      obtain ⟨rfl, rfl⟩ := eq_append_of_afterWord? reads
      rw [same]
      exact .nullWord
    · rename_i behind same
      obtain ⟨rfl, rfl⟩ := eq_append_of_afterWord? reads
      rw [same]
      exact .trueWord
    · rename_i behind same
      obtain ⟨rfl, rfl⟩ := eq_append_of_afterWord? reads
      rw [same]
      exact .falseWord
    · rename_i behind same
      rw [same]
      obtain ⟨⟨read, behind'⟩, string, same'⟩ := Option.map_eq_some_iff.mp reads
      obtain ⟨said, inside, rfl⟩ := says_of_readString? string
      cases same'
      cases said with
      | none => exact .unreadableString inside
      | some said => exact .string inside
    · rename_i behind same
      rw [same]
      split at reads
      · rename_i behind' closes
        cases reads
        exact .emptyArray (closes ▸ blanks_skipSpace behind)
      · obtain ⟨⟨items, behind'⟩, inside, same'⟩ := Option.map_eq_some_iff.mp reads
        cases same'
        exact .array (says_of_readItems? steps inside)
    · rename_i behind same
      rw [same]
      split at reads
      · rename_i behind' closes
        cases reads
        exact .emptyObject (closes ▸ blanks_skipSpace behind)
      · obtain ⟨⟨members, behind'⟩, inside, same'⟩ := Option.map_eq_some_iff.mp reads
        cases same'
        cases members with
        | none => exact .unreadableObject (says_of_readMembers? steps inside)
        | some members => exact .object (says_of_readMembers? steps inside)
    · obtain ⟨⟨number, behind⟩, split, same'⟩ := Option.map_eq_some_iff.mp reads
      cases same'
      have parts := says_of_splitNumber? split
      exact .number parts ((denotes_iff parts.hasDigits).mpr rfl)

theorem says_of_readItems? {text rest : List Char} {items : List WrittenJson} :
    ∀ steps, readItems? steps text = some (items, rest) → SaysItems text items rest
  | 0, reads => by cases reads
  | steps + 1, reads => by
    rw [readItems?] at reads
    obtain ⟨⟨item, behind⟩, value, reads⟩ := Option.bind_eq_some_iff.mp reads
    obtain ⟨first, before, value⟩ := says_of_readValue? steps value
    have after := blanks_skipSpace behind
    dsimp only at reads
    split at reads
    · rename_i later follows
      rw [follows] at after
      obtain ⟨⟨others, behind'⟩, inside, same⟩ := Option.bind_eq_some_iff.mp reads
      cases same
      exact .cons before value after (says_of_readItems? steps inside)
    · rename_i later follows
      rw [follows] at after
      cases reads
      exact .last before value after
    · cases reads

theorem says_of_readMembers? {text rest : List Char}
    {members : Option (List (String × WrittenJson))} :
    ∀ steps, readMembers? steps text = some (members, rest) → SaysMembers text members rest
  | 0, reads => by cases reads
  | steps + 1, reads => by
    rw [readMembers?] at reads
    have before := blanks_skipSpace text
    split at reads
    · rename_i first begins
      rw [begins] at before
      obtain ⟨⟨name, second⟩, string, reads⟩ := Option.bind_eq_some_iff.mp reads
      obtain ⟨said, isName, rfl⟩ := says_of_readString? string
      have colon := blanks_skipSpace second
      dsimp only at reads
      split at reads
      · rename_i third follows
        rw [follows] at colon
        obtain ⟨⟨value, fifth⟩, isValue, reads⟩ := Option.bind_eq_some_iff.mp reads
        obtain ⟨fourth, blanks, isValue⟩ := says_of_readValue? steps isValue
        have after := blanks_skipSpace fifth
        dsimp only at reads
        split at reads
        · rename_i later follows
          rw [follows] at after
          obtain ⟨⟨others, behind⟩, inside, same⟩ := Option.bind_eq_some_iff.mp reads
          cases same
          have member := SaysMember.member before isName colon blanks isValue after
          have all := SaysMembers.cons member (says_of_readMembers? steps inside)
          cases said <;> exact all
        · rename_i later follows
          rw [follows] at after
          cases reads
          have member := SaysMember.member before isName colon blanks isValue after
          have all := SaysMembers.last member
          cases said <;> exact all
        · cases reads
      · cases reads
    · cases reads

end

/-! ### Texts -/

/-- A text is read exactly if it says a value between blanks. -/
theorem readWritten?_eq_some_iff {text : String} {written : WrittenJson} :
    readWritten? text = some written ↔ IsText text written := by
  constructor
  · intro reads
    simp only [readWritten?] at reads
    split at reads
    · rename_i value rest found
      obtain ⟨first, before, value⟩ := says_of_readValue? _ found
      split at reads
      · rename_i ends
        cases reads
        have after := blanks_skipSpace rest
        rw [List.isEmpty_iff.mp ends] at after
        exact ⟨first, rest, before, value, after⟩
      · cases reads
    · cases reads
  · rintro ⟨first, second, before, value, after⟩
    have ends : EndsNumber second := after.endsNumber ⟨nofun, nofun⟩
    have shorter := before.length_le
    have found : readValue? (2 * text.toList.length + 2) text.toList = some (written, second) := by
      rw [readValue?_blanks before value]
      exact readValue?_of_said value ends (by omega)
    simp only [readWritten?, found, skipSpace_of_blanks after nofun]
    rfl

/-- A text has one value at most. -/
theorem IsText.unique {text : String} {written other : WrittenJson} (is : IsText text written)
    (is' : IsText text other) : written = other := by
  rw [← readWritten?_eq_some_iff] at is is'
  exact Option.some.inj (is.symm.trans is')

end Json

/-! ### Values -/

namespace WrittenJson

mutual

/-- What is written has its value exactly if it is within the limits. -/
theorem value?_eq_some_iff {levels : Nat} {value : Json} :
    ∀ written : WrittenJson,
      written.value? levels = some value ↔ written.Within levels ∧ written.json = value
  | null | bool _ | integer _ | double _ | string _ => by simp [value?, Within, json]
  | unreadable => by simp [value?, Within]
  | array items => by
    by_cases none : levels = 0
    · simp [value?, Within, none]
    · simp only [value?, if_neg none, Option.map_eq_some_iff, itemValues?_eq_some_iff items,
        Within, json, Nat.pos_of_ne_zero none, true_and]
      constructor
      · rintro ⟨_, ⟨within, rfl⟩, same⟩
        exact ⟨within, same⟩
      · rintro ⟨within, same⟩
        exact ⟨_, ⟨within, rfl⟩, same⟩
  | object members => by
    by_cases none : levels = 0
    · simp [value?, Within, none]
    · simp only [value?, if_neg none, Option.map_eq_some_iff, memberValues?_eq_some_iff members,
        Within, json, Nat.pos_of_ne_zero none, true_and]
      constructor
      · rintro ⟨_, ⟨within, rfl⟩, same⟩
        exact ⟨within, same⟩
      · rintro ⟨within, same⟩
        exact ⟨_, ⟨within, rfl⟩, same⟩

theorem itemValues?_eq_some_iff {levels : Nat} {values : List Json} :
    ∀ items : List WrittenJson, itemValues? levels items = some values ↔
      ItemsWithin levels items ∧ itemsJson items = values
  | [] => by simp [itemValues?, ItemsWithin, itemsJson]
  | item :: rest => by
    have first := fun value => @value?_eq_some_iff levels value item
    have later := fun values => @itemValues?_eq_some_iff levels values rest
    rw [itemValues?]
    split
    · rename_i value others isValue areOthers
      obtain ⟨within, rfl⟩ := (first value).mp isValue
      obtain ⟨within', rfl⟩ := (later others).mp areOthers
      simp [ItemsWithin, itemsJson, within, within']
    · rename_i fails
      refine iff_of_false nofun fun ⟨⟨within, within'⟩, _⟩ => ?_
      exact fails _ _ ((first _).mpr ⟨within, rfl⟩) ((later _).mpr ⟨within', rfl⟩)

theorem memberValues?_eq_some_iff {levels : Nat} {values : List (String × Json)} :
    ∀ members : List (String × WrittenJson), memberValues? levels members = some values ↔
      MembersWithin levels members ∧ membersJson members = values
  | [] => by simp [memberValues?, MembersWithin, membersJson]
  | (name, written) :: rest => by
    have first := fun value => @value?_eq_some_iff levels value written
    have later := fun values => @memberValues?_eq_some_iff levels values rest
    rw [memberValues?]
    split
    · rename_i value others isValue areOthers
      obtain ⟨within, rfl⟩ := (first value).mp isValue
      obtain ⟨within', rfl⟩ := (later others).mp areOthers
      simp [MembersWithin, membersJson, within, within']
    · rename_i fails
      refine iff_of_false nofun fun ⟨⟨within, within'⟩, _⟩ => ?_
      exact fails _ _ ((first _).mpr ⟨within, rfl⟩) ((later _).mpr ⟨within', rfl⟩)

end

end WrittenJson

namespace Json

/-- A text is read as a value exactly if it says that value and keeps to the limits. -/
theorem read?_eq_some_iff {text : String} {value : Json} : read? text = some value ↔
    ∃ written, IsText text written ∧ written.Within nestingLimit ∧ written.json = value := by
  simp only [read?, Option.bind_eq_some_iff, readWritten?_eq_some_iff,
    WrittenJson.value?_eq_some_iff]

end Json

end DeviceMapping
