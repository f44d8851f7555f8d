/-
**Patterns.**

Whether a text is a regular expression that a table-driven matcher can run. Characters are those of
Unicode unless a flag says that they are bytes; no properties of characters are at hand, so the
classes of digits, blanks and words, the boundaries of words and the folding of case are for bytes
only, and what could match part of a character is refused. There are no references back and no
looking around.
-/

import DeviceMapping.Text.Blank
import DeviceMapping.Text.Digit
import DeviceMapping.Text.Letter

namespace DeviceMapping.Pattern

/-- What flags say about the characters that follow: case does not count, characters are bytes, and
blanks and comments do not count. -/
structure Mode where
  caseless : Bool
  bytes : Bool
  spaced : Bool

/-- What stands behind the blanks and comments that do not count. -/
def skipBlanks (mode : Mode) : List Char → List Char
  | [] => []
  | c :: rest =>
    if !mode.spaced then c :: rest
    else if Text.isBlank c then skipBlanks mode rest
    else if c = '#' then skipComment mode rest
    else c :: rest
where
  /-- What counts behind a comment. -/
  skipComment (mode : Mode) : List Char → List Char
    | [] => []
    | '\n' :: rest => skipBlanks mode rest
    | _ :: rest => skipComment mode rest

/-! ### Escapes -/

/-- What an escape stands for. -/
inductive Escape where
  | literal (c : Char)
  | characters
  | position
  deriving DecidableEq

/-- A single character that digits name; of bytes only those that are characters by themselves. -/
def named? (mode : Mode) (digits : List Char) : Option Escape := do
  let code ← readBase? 16 digits
  let c ← characterOf? code
  if mode.bytes && digits.length = 2 && 127 < code then none else some (.literal c)

/-- The escape of a number in hexadecimal digits: so many of them, or any number in braces. -/
def numeric? (mode : Mode) (count : Nat) (text : List Char) : Option (Escape × List Char) :=
  match skipBlanks mode text with
  | '\x7b' :: rest =>
    let digits := rest.takeWhile (· != '\x7d')
    if digits.length = rest.length then none
    else (named? { mode with bytes := false } digits).map (·, rest.drop (digits.length + 1))
  | text =>
    if text.length < count then none else (named? mode (text.take count)).map (·, text.drop count)

/-- The control characters that letters name. -/
def controls : List (Char × Char) :=
  [('a', '\x07'), ('f', '\x0c'), ('t', '\t'), ('n', '\n'), ('r', '\r'), ('v', '\x0b')]

/-- The escape behind a backslash, and what follows it. -/
def escape? (mode : Mode) : List Char → Option (Escape × List Char)
  | [] => none
  | c :: rest =>
    if c = 'x' then numeric? mode 2 rest
    else if c = 'u' then numeric? mode 4 rest
    else if c = 'U' then numeric? mode 8 rest
    else if ['d', 's', 'w'].contains c then if mode.bytes then some (.characters, rest) else none
    else if ['b', 'B', '<', '>'].contains c then if mode.bytes then some (.position, rest) else none
    else if c = 'A' || c = 'z' then some (.position, rest)
    else match controls.lookup c with
      | some control => some (.literal control, rest)
      | none => if c.isAlphanum || 127 < c.toNat then none else some (.literal c, rest)

/-! ### Classes -/

/-- The names of classes of characters. -/
def classNames : List String :=
  ["alnum", "alpha", "ascii", "blank", "cntrl", "digit", "graph", "lower", "print", "punct",
    "space", "upper", "word", "xdigit"]

/-- What follows a named class behind its opening bracket. -/
def dropNamedClass? : List Char → Option (List Char)
  | ':' :: rest =>
    let rest := if rest.head? = some '^' then rest.drop 1 else rest
    let name := rest.takeWhile (· != ':')
    match rest.drop name.length with
    | ':' :: ']' :: behind =>
      if classNames.contains (String.ofList name) then some behind else none
    | _ => none
  | _ => none

/-- An item of a class, and what follows it. -/
def classItem? (mode : Mode) : List Char → Option (Escape × List Char)
  | '\\' :: rest => (escape? mode rest).filter (·.1 != .position)
  | c :: rest => if mode.bytes && 127 < c.toNat then none else some (.literal c, rest)
  | [] => none

/-- What follows the beginning of a class behind its bracket: it may be turned into its opposite,
and hyphens or else a closing bracket may stand first. -/
def openClass? (mode : Mode) (text : List Char) : Option (List Char) :=
  let text := skipBlanks mode text
  if mode.bytes && text.head? = some '^' then none
  else
    let text := if text.head? = some '^' then skipBlanks mode (text.drop 1) else text
    match text with
    | '-' :: rest => some (rest.dropWhile (· = '-'))
    | ']' :: rest => some rest
    | rest => some rest

/-- What follows an item of a class, or two of them with a hyphen between, in order. -/
def dropRange? (mode : Mode) (text : List Char) : Option (List Char) := do
  let (first, rest) ← classItem? mode text
  match skipBlanks mode rest with
  | '-' :: behind =>
    let behind := skipBlanks mode behind
    if behind.head? = some ']' || behind.head? = some '-' then some ('-' :: behind)
    else
      let (second, rest) ← classItem? mode behind
      match first, second with
      | .literal low, .literal high => if low ≤ high then some rest else none
      | _, _ => none
  | rest => some rest

/-- What follows a class, some of whose brackets are open. The first argument bounds the steps. -/
def dropClass? (mode : Mode) : Nat → Nat → List Char → Option (List Char)
  | 0, _, _ => none
  | steps + 1, depth, text =>
    match skipBlanks mode text with
    | [] => none
    | '[' :: rest =>
      match dropNamedClass? rest with
      | some behind => dropClass? mode steps depth behind
      | none => (openClass? mode rest).bind (dropClass? mode steps (depth + 1))
    | ']' :: rest => if depth = 0 then some rest else dropClass? mode steps (depth - 1) rest
    | '&' :: '&' :: rest | '-' :: '-' :: rest | '~' :: '~' :: rest =>
      dropClass? mode steps depth rest
    | text => (dropRange? mode text).bind (dropClass? mode steps depth)

/-! ### Groups -/

/-- The mode after flags, each at most once and with at most one minus sign, which must not be the
last; behind the sign they are taken away. -/
def withFlags? (mode : Mode) (flags : List Char) : Option Mode :=
  if flags.eraseDups.length < flags.length || flags.getLast? = some '-' ||
      !flags.all "imsUuRx-".toList.contains then none
  else
    let given := flags.takeWhile (· != '-')
    let taken := flags.drop given.length
    let holds (flag : Char) (before : Bool) : Bool :=
      given.contains flag || (before && !taken.contains flag)
    some ⟨holds 'i' mode.caseless, !holds 'u' !mode.bytes, holds 'x' mode.spaced⟩

/-- How a group begins. -/
inductive Opening where
  /-- The flags hold up to the end of the group around them. -/
  | flags (mode : Mode)
  /-- A group in a mode, perhaps with a name. -/
  | group (mode : Mode) (name : Option String)

/-- A name is made of letters, digits and underscores and begins with no digit; behind its first
character points and brackets are part of it too. -/
def isName (name : List Char) : Bool :=
  name.head?.any (fun c => c = '_' || Text.isLetter c) &&
    name.all fun c => ['_', '.', '[', ']'].contains c || Text.isLetterOrNumber c

/-- The named group behind the bracket of its name, and what follows its opening. -/
def openNamed? (mode : Mode) (text : List Char) : Option (Opening × List Char) :=
  let name := text.takeWhile (· != '>')
  if name.length < text.length && isName name then
    some (.group mode (some (String.ofList name)), text.drop (name.length + 1))
  else none

/-- The opening of a group behind its parenthesis, and what follows it. -/
def openGroup? (mode : Mode) (text : List Char) : Option (Opening × List Char) :=
  match skipBlanks mode text with
  | '?' :: '<' :: '=' :: _ | '?' :: '<' :: '!' :: _ => none
  | '?' :: 'P' :: '<' :: rest | '?' :: '<' :: rest => openNamed? mode rest
  | '?' :: rest => do
    let flags := rest.takeWhile fun c => c != ':' && c != ')'
    let changed ← withFlags? mode flags
    match rest.drop flags.length with
    | ':' :: behind => some (.group changed none, behind)
    | ')' :: behind => if flags.isEmpty then none else some (.flags changed, behind)
    | _ => none
  | rest => some (.group mode none, rest)

/-! ### Patterns -/

/-- How far a pattern was read: the mode, the modes around the groups that are open, the names of
groups, and whether something stands before that a repetition can repeat. -/
structure State where
  mode : Mode
  around : List Mode
  names : List String
  repeatable : Bool

/-- What follows the count of a repetition behind its brace: a number, or a least number and perhaps
a greatest one. -/
def dropCount? (text : List Char) : Option (List Char) := do
  let least := text.takeWhile (· != '\x7d')
  let (first, second) := (least.takeWhile (· != ','), least.dropWhile (· != ','))
  let low ← readBase? 10 first
  let high ← if second.length ≤ 1 then some low else readBase? 10 (second.drop 1)
  if low ≤ high && high < 0x100000000 && least.length < text.length then
    some (text.drop (least.length + 1))
  else none

/-- A pattern that was read so far is one to its end. The first argument bounds the steps. -/
def isValidFrom : Nat → State → List Char → Bool
  | 0, _, _ => false
  | steps + 1, state, text =>
    let item (rest : List Char) : Bool := isValidFrom steps { state with repeatable := true } rest
    let repetition (rest : List Char) : Bool :=
      state.repeatable && item (if rest.head? = some '?' then rest.drop 1 else rest)
    match skipBlanks state.mode text with
    | [] => state.around.isEmpty
    | '(' :: rest =>
      match openGroup? state.mode rest with
      | some (.flags mode, rest) =>
        isValidFrom steps { state with mode := mode, repeatable := false } rest
      | some (.group mode name, rest) =>
        state.around.length < 250 && !name.any state.names.contains &&
          isValidFrom steps
            ⟨mode, state.mode :: state.around, name.toList ++ state.names, false⟩ rest
      | none => false
    | ')' :: rest =>
      match state.around with
      | mode :: around =>
        isValidFrom steps { state with mode := mode, around := around, repeatable := true } rest
      | [] => false
    | '|' :: rest => isValidFrom steps { state with repeatable := false } rest
    | '[' :: rest =>
      (state.mode.bytes || !state.mode.caseless) &&
        ((openClass? state.mode rest).bind
          (dropClass? state.mode (rest.length + 1) 0)).any item
    | '?' :: rest | '*' :: rest | '+' :: rest => repetition rest
    | '\x7b' :: rest => (dropCount? rest).any repetition
    | '.' :: rest => !state.mode.bytes && item rest
    | '^' :: rest | '$' :: rest => item rest
    | '\\' :: rest =>
      match escape? state.mode rest with
      | some (.literal _, rest) => (state.mode.bytes || !state.mode.caseless) && item rest
      | some (_, rest) => item rest
      | none => false
    | _ :: rest => (state.mode.bytes || !state.mode.caseless) && item rest

/-- The text is a pattern. -/
def isValid (text : List Char) : Bool :=
  isValidFrom (text.length + 1) ⟨⟨false, false, false⟩, [], [], false⟩ text

end DeviceMapping.Pattern
