/-
**Arguments of the command.**

Options may stand before the name of an action and behind it; those of the action itself only behind
it. An option is given once on either side, with its value behind it, behind `=`, or right behind
its letter; a value that begins with a dash must be attached. The side behind the action counts
first.
-/

import DeviceMapping.Table

namespace DeviceMapping

/-- What a command does. -/
inductive Action where
  | resolve (device : String)
  | resolveProduct (product : String)
  | transform (device payload : String)
  | bindDevice (device rules : String)
  | bindProduct (product rules : String)
  deriving DecidableEq

/-- An action with the options that go with every action. -/
structure Invocation where
  action : Action
  verbose : Bool
  config : Option String
  fixtures : Option String
  deriving DecidableEq

/-- Why arguments are no invocation: help or the version is asked for, or they make no sense. -/
inductive ArgumentsStop where
  | help
  | version
  | unusable
  deriving DecidableEq

/-- An option by its long name: its letter, whether it takes a value, and whether that value is a
path, which cannot be empty. -/
structure OptionForm where
  name : String
  letter : Option Char
  takesValue : Bool
  isPath : Bool

namespace Arguments

/-! ### Options -/

/-- The options of every action. -/
def commonForms : List OptionForm :=
  [⟨"verbose", some 'v', false, false⟩, ⟨"config", some 'c', true, true⟩,
    ⟨"fixtures", some 'f', true, true⟩, ⟨"help", some 'h', false, false⟩]

/-- The options before the action. -/
def leadingForms : List OptionForm :=
  commonForms ++ [⟨"version", some 'V', false, false⟩]

/-- The options that belong to an action. -/
def ownForms (action : String) : Option (List OptionForm) :=
  let text (name : String) : OptionForm := ⟨name, none, true, false⟩
  let path (name : String) : OptionForm := ⟨name, none, true, true⟩
  match action with
  | "resolve" => some [text "device"]
  | "resolve-product" => some [text "product"]
  | "transform" => some [text "device", text "payload"]
  | "bind-device" => some [text "device", path "rules"]
  | "bind-product" => some [text "product", path "rules"]
  | _ => none

/-- The options that were given, with their values; those without a value have an empty one. -/
abbrev Given := Table String

/-- One more option: help and version stop the reading, a repeated option and an empty path are
refused. -/
def give (given : Given) (form : OptionForm) (value : String) : Except ArgumentsStop Given :=
  if form.name == "help" then .error .help
  else if form.name == "version" then .error .version
  else if given.contains form.name || (form.isPath && value.isEmpty) then .error .unusable
  else .ok (given.insert form.name value)

/-- A value that is not attached to its option: it cannot look like an option. -/
def looseValue? (arguments : List String) : Option (String × List String) :=
  match arguments with
  | value :: rest =>
    if value.toList.head? == some '-' && value != "-" then none else some (value, rest)
  | [] => none

/-- A cluster of option letters; the first option that takes a value takes what is left of it. -/
def readLetters (forms : List OptionForm) (rest : List String) :
    List Char → Given → Except ArgumentsStop (Given × List String)
  | [], given => .ok (given, rest)
  | letter :: letters, given =>
    match forms.find? fun form => form.letter == some letter with
    | none => .error .unusable
    | some form =>
      if form.takesValue then
        match letters with
        | [] =>
          match looseValue? rest with
          | some (value, rest) => (give given form value).map (·, rest)
          | none => .error .unusable
        | '=' :: value => (give given form (String.ofList value)).map (·, rest)
        | value => (give given form (String.ofList value)).map (·, rest)
      else match give given form "" with
        | .ok given => readLetters forms rest letters given
        | .error stop => .error stop

/-- An option by its long name, perhaps with a value behind `=`. -/
def readLong (forms : List OptionForm) (rest : List String) (text : List Char) (given : Given) :
    Except ArgumentsStop (Given × List String) :=
  let name := String.ofList (text.takeWhile (· != '='))
  let attached := (text.dropWhile (· != '=')).tail?
  match forms.find? fun form => form.name == name with
  | none => .error .unusable
  | some form =>
    match form.takesValue, attached with
    | true, some value => (give given form (String.ofList value)).map (·, rest)
    | true, none =>
      match looseValue? rest with
      | some (value, rest) => (give given form value).map (·, rest)
      | none => .error .unusable
    | false, some _ => .error .unusable
    | false, none => (give given form "").map (·, rest)

/-- Options up to the first argument that is none, a given number at most; the arguments from there
on. Two dashes alone end the options and cannot be followed by anything. -/
def readOptions (forms : List OptionForm) :
    Nat → List String → Given → Except ArgumentsStop (Given × List String)
  | 0, rest, given => .ok (given, rest)
  | steps + 1, arguments, given =>
    match arguments with
    | [] => .ok (given, [])
    | argument :: rest =>
      match argument.toList with
      | ['-', '-'] => if rest.isEmpty then .ok (given, []) else .error .unusable
      | '-' :: '-' :: text => do
        let (given, rest) ← readLong forms rest text given
        readOptions forms steps rest given
      | '-' :: c :: letters => do
        let (given, rest) ← readLetters forms rest (c :: letters) given
        readOptions forms steps rest given
      | _ => .ok (given, arguments)

/-! ### Invocations -/

/-- The action of a name, if its options are all there. -/
def action? (name : String) (given : Given) : Option Action :=
  match name with
  | "resolve" => (given.get? "device").map .resolve
  | "resolve-product" => (given.get? "product").map .resolveProduct
  | "transform" => do some (.transform (← given.get? "device") (← given.get? "payload"))
  | "bind-device" => do some (.bindDevice (← given.get? "device") (← given.get? "rules"))
  | "bind-product" => do some (.bindProduct (← given.get? "product") (← given.get? "rules"))
  | _ => none

/-- The invocation that arguments spell; the environment may name the fixtures. -/
def parse (environment : List (String × String)) (arguments : List String) :
    Except ArgumentsStop Invocation := do
  let (leading, rest) ← readOptions leadingForms (arguments.length + 1) arguments .empty
  match rest with
  | [] => .error .unusable
  | name :: rest =>
    if name == "help" then .error .help
    else match ownForms name with
      | none => .error .unusable
      | some forms =>
        let (own, rest) ← readOptions (commonForms ++ forms) (rest.length + 1) rest .empty
        match rest, action? name own with
        | [], some action =>
          let option (name : String) : Option String := own.get? name <|> leading.get? name
          .ok ⟨action, (option "verbose").isSome, option "config",
            option "fixtures" <|> environment.lookup "PROPMAP_FIXTURES"⟩
        | _, _ => .error .unusable

end Arguments

end DeviceMapping
