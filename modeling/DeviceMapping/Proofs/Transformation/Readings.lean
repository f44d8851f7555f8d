/-
**Readings that are not finite.**

A text may spell a number that is not finite: an infinity, no number at all, or a decimal beyond all
doubles. A formula is evaluated at such a reading as at any other; only its value has to be finite.

* `not_finite_of_first`, `not_finite_of_second`: sums, differences and products with an operand that
  is not finite are not finite, nor are quotients and remainders of one.
* `Carries`: trees in which `x` gets to the top by such operations; where `x` is not finite, neither
  is their value (`not_finite_of_carries`).
* `value?_eq_of_unread`: a tree that does not read `x` has the same value for every `x`.
* `not_finite_reading_iff`: a formula fails on such a reading, and the raw value is kept, exactly if
  its own value there is no finite number. The two kinds of trees are the two ends of what can be.
* `infinity_has_reciprocal`: a reading that is not finite and vanishes.
-/

import DeviceMapping.Proofs.Formula.Constants
import DeviceMapping.Transformation.Application

namespace DeviceMapping

/-! ### Doubles -/

namespace Binary64

namespace Unpacked

open Float.Model (UnpackedFloat Format)

variable {format : Format} {a b : UnpackedFloat}

theorem not_finite_add (operand : a.isFinite = false ∨ b.isFinite = false) :
    (UnpackedFloat.add format a b).isFinite = false := by
  cases a with
  | zero | finite =>
    cases b with
    | zero | finite => rcases operand with operand | operand <;> cases operand
    | infinity | notANumber => rfl
  | infinity sign =>
    cases b with
    | infinity other => cases sign <;> cases other <;> rfl
    | zero | finite | notANumber => rfl
  | notANumber => cases b <;> rfl

theorem not_finite_sub (operand : a.isFinite = false ∨ b.isFinite = false) :
    (UnpackedFloat.sub format a b).isFinite = false := by
  cases a with
  | zero | finite =>
    cases b with
    | zero | finite => rcases operand with operand | operand <;> cases operand
    | infinity | notANumber => rfl
  | infinity sign =>
    cases b with
    | infinity other => cases sign <;> cases other <;> rfl
    | zero | finite | notANumber => rfl
  | notANumber => cases b <;> rfl

theorem not_finite_mul (operand : a.isFinite = false ∨ b.isFinite = false) :
    (UnpackedFloat.mul format a b).isFinite = false := by
  cases a with
  | zero | finite =>
    cases b with
    | zero | finite => rcases operand with operand | operand <;> cases operand
    | infinity | notANumber => rfl
  | infinity | notANumber => cases b <;> rfl

theorem not_finite_div (dividend : a.isFinite = false) :
    (UnpackedFloat.div format a b).isFinite = false := by
  cases a with
  | zero | finite => cases dividend
  | infinity | notANumber => cases b <;> rfl

theorem not_finite_neg (operand : a.isFinite = false) : a.neg.isFinite = false := by
  cases a with
  | infinity | notANumber => rfl
  | zero | finite => cases operand

theorem not_finite_abs (operand : a.isFinite = false) : a.abs.isFinite = false := by
  cases a with
  | infinity | notANumber => rfl
  | zero | finite => cases operand

theorem not_finite_sqrt (operand : a.isFinite = false) :
    (UnpackedFloat.sqrt format a).isFinite = false := by
  cases a with
  | infinity sign => cases sign <;> rfl
  | notANumber => rfl
  | zero | finite => cases operand

/-- Infinities and no numbers are packed as such. -/
theorem not_finite_pack (unpacked : a.isFinite = false) :
    (Float.Model.pack a).isFinite = false := by
  cases a with
  | infinity sign => cases sign <;> decide
  | notANumber => decide
  | zero | finite => cases unpacked

end Unpacked

variable {x y : Float}

theorem not_finite_add (operand : x.isFinite = false ∨ y.isFinite = false) :
    (x + y).isFinite = false :=
  Unpacked.not_finite_pack (Unpacked.not_finite_add operand)

theorem not_finite_sub (operand : x.isFinite = false ∨ y.isFinite = false) :
    (x - y).isFinite = false :=
  Unpacked.not_finite_pack (Unpacked.not_finite_sub operand)

theorem not_finite_mul (operand : x.isFinite = false ∨ y.isFinite = false) :
    (x * y).isFinite = false :=
  Unpacked.not_finite_pack (Unpacked.not_finite_mul operand)

theorem not_finite_div (dividend : x.isFinite = false) (y : Float) : (x / y).isFinite = false :=
  Unpacked.not_finite_pack (Unpacked.not_finite_div dividend)

theorem not_finite_neg (operand : x.isFinite = false) : (-x).isFinite = false :=
  Unpacked.not_finite_pack (Unpacked.not_finite_neg operand)

theorem not_finite_abs (operand : x.isFinite = false) : x.abs.isFinite = false :=
  Unpacked.not_finite_pack (Unpacked.not_finite_abs operand)

theorem not_finite_sqrt (operand : x.isFinite = false) : x.sqrt.isFinite = false :=
  Unpacked.not_finite_pack (Unpacked.not_finite_sqrt operand)

end Binary64

namespace Formula

namespace Function

variable {x : Float}

theorem not_finite_remainder (dividend : x.isFinite = false) (y : Float) :
    (remainder x y).isFinite = false := by
  have noNumber : remainder x y = 0.0 / 0.0 := by simp [remainder, dividend]
  rw [noNumber]
  rfl

theorem not_finite_cubeRoot (operand : x.isFinite = false) : (cubeRoot x).isFinite = false := by
  have same : cubeRoot x = x := by simp [cubeRoot, operand]
  rw [same]
  exact operand

end Function

/-! ### Operations that keep an operand from being finite -/

/-- The value is a double that is not finite. -/
def Value.Unbounded (value : Value) : Prop :=
  ∃ x : Float, value = .float x ∧ x.isFinite = false

namespace BinaryOperator

/-- The operators whose value is not finite where the first operand is not. -/
def keepingFirst : List BinaryOperator :=
  [add, subtract, multiply, divide, remainder]

/-- The operators whose value is not finite where the second operand is not. -/
def keepingSecond : List BinaryOperator :=
  [add, subtract, multiply]

variable {operator : BinaryOperator} {first second value : Value}

theorem mem_keepingFirst (keeps : operator ∈ keepingSecond) : operator ∈ keepingFirst := by
  simp only [keepingSecond, List.mem_cons, List.not_mem_nil, or_false] at keeps
  rcases keeps with rfl | rfl | rfl <;> decide

/-- Beside a double arithmetic is that of doubles. -/
theorem value?_float_left (arithmetic : operator ∈ keepingFirst) (x : Float) (second : Value) :
    operator.value? (.float x) second = second.number?.bind (operator.onFloats? x) := by
  simp only [keepingFirst, List.mem_cons, List.not_mem_nil, or_false] at arithmetic
  rcases arithmetic with rfl | rfl | rfl | rfl | rfl <;> cases second <;>
    simp [BinaryOperator.value?, onNumbers?, Value.number?]

theorem value?_float_right (arithmetic : operator ∈ keepingFirst) (first : Value) (y : Float) :
    operator.value? first (.float y) = first.number?.bind fun x => operator.onFloats? x y := by
  simp only [keepingFirst, List.mem_cons, List.not_mem_nil, or_false] at arithmetic
  rcases arithmetic with rfl | rfl | rfl | rfl | rfl <;> cases first <;>
    simp [BinaryOperator.value?, onNumbers?, Value.number?]

theorem not_finite_onFloats? {x y : Float}
    (operand : operator ∈ keepingFirst ∧ x.isFinite = false ∨
      operator ∈ keepingSecond ∧ y.isFinite = false)
    (computes : operator.onFloats? x y = some value) : value.Unbounded := by
  simp only [keepingFirst, keepingSecond, List.mem_cons, List.not_mem_nil, or_false] at operand
  cases operator <;> simp at operand <;> cases computes
  · exact ⟨_, rfl, Binary64.not_finite_add operand⟩
  · exact ⟨_, rfl, Binary64.not_finite_sub operand⟩
  · exact ⟨_, rfl, Binary64.not_finite_mul operand⟩
  · exact ⟨_, rfl, Binary64.not_finite_div operand y⟩
  · exact ⟨_, rfl, Function.not_finite_remainder operand y⟩

theorem not_finite_of_first (keeps : operator ∈ keepingFirst) (operand : first.Unbounded)
    (computes : operator.value? first second = some value) : value.Unbounded := by
  obtain ⟨x, rfl, notFinite⟩ := operand
  rw [value?_float_left keeps, Option.bind_eq_some_iff] at computes
  obtain ⟨y, -, result⟩ := computes
  exact not_finite_onFloats? (.inl ⟨keeps, notFinite⟩) result

theorem not_finite_of_second (keeps : operator ∈ keepingSecond) (operand : second.Unbounded)
    (computes : operator.value? first second = some value) : value.Unbounded := by
  obtain ⟨y, rfl, notFinite⟩ := operand
  rw [value?_float_right (mem_keepingFirst keeps), Option.bind_eq_some_iff] at computes
  obtain ⟨x, -, result⟩ := computes
  exact not_finite_onFloats? (.inr ⟨keeps, notFinite⟩) result

end BinaryOperator

/-- The functions whose value is not finite where the argument is not. -/
def keepingFunctions : List String :=
  ["abs", "sqrt", "cbrt", "math::abs", "math::sqrt", "math::cbrt"]

theorem not_finite_of_argument {name : String} {argument value : Value}
    (keeps : name ∈ keepingFunctions) (operand : argument.Unbounded)
    (computes : Function.call? name argument = some value) : value.Unbounded := by
  obtain ⟨x, rfl, notFinite⟩ := operand
  simp only [keepingFunctions, List.mem_cons, List.not_mem_nil, or_false] at keeps
  rcases keeps with rfl | rfl | rfl | rfl | rfl | rfl <;> cases computes
  · exact ⟨_, rfl, Binary64.not_finite_abs notFinite⟩
  · exact ⟨_, rfl, Binary64.not_finite_sqrt notFinite⟩
  · exact ⟨_, rfl, Function.not_finite_cubeRoot notFinite⟩
  · exact ⟨_, rfl, Binary64.not_finite_abs notFinite⟩
  · exact ⟨_, rfl, Binary64.not_finite_sqrt notFinite⟩
  · exact ⟨_, rfl, Function.not_finite_cubeRoot notFinite⟩

/-! ### Trees that carry `x` to the top, and trees that do not read it -/

namespace Tree

/-- `x` gets to the top of the tree through operations whose value is not finite where it is not. -/
inductive Carries : Tree → Prop
  | read : Carries (node (.read "x") [])
  | group {tree : Tree} (inside : Carries tree) : Carries (node .group [tree])
  | minus {tree : Tree} (operand : Carries tree) : Carries (node .minus [tree])
  | first {operator : BinaryOperator} {tree other : Tree}
      (keeps : operator ∈ BinaryOperator.keepingFirst) (operand : Carries tree) :
      Carries (node (.binary operator) [tree, other])
  | second {operator : BinaryOperator} {tree other : Tree}
      (keeps : operator ∈ BinaryOperator.keepingSecond) (operand : Carries tree) :
      Carries (node (.binary operator) [other, tree])
  | call {name : String} {tree : Tree} (keeps : name ∈ keepingFunctions)
      (argument : Carries tree) : Carries (node (.call name) [tree])
  | last {trees : List Tree} {tree : Tree} (item : Carries tree) :
      Carries (node .chain (trees ++ [tree]))

section Values

variable {x y : Float} {tree first second : Tree} {value : Value} {operator : Operator}

theorem value?_node_singleton :
    value? x (node operator [tree]) = some value ↔
      ∃ operand, value? x tree = some operand ∧ operator.value? x [operand] = some value := by
  simp [value?, values?, Option.bind_eq_some_iff]

theorem value?_node_pair :
    value? x (node operator [first, second]) = some value ↔
      ∃ left right, value? x first = some left ∧ value? x second = some right ∧
        operator.value? x [left, right] = some value := by
  simp [value?, values?, Option.bind_eq_some_iff]

theorem values?_concat {trees : List Tree} {values : List Value}
    (computes : values? x (trees ++ [tree]) = some values) :
    ∃ front last, value? x tree = some last ∧ values = front ++ [last] := by
  induction trees generalizing values with
  | nil =>
    obtain ⟨last, found, rfl⟩ : ∃ last, value? x tree = some last ∧ [last] = values := by
      simpa [values?, Option.bind_eq_some_iff] using computes
    exact ⟨[], last, found, rfl⟩
  | cons head rest ih =>
    obtain ⟨value, -, others, later, rfl⟩ : ∃ value, value? x head = some value ∧
        ∃ others, values? x (rest ++ [tree]) = some others ∧ value :: others = values := by
      simpa [values?, Option.bind_eq_some_iff] using computes
    obtain ⟨front, last, found, rfl⟩ := ih later
    exact ⟨value :: front, last, found, rfl⟩

/-- Where `x` is not finite and gets to the top, the value is not finite. -/
theorem not_finite_of_carries (carries : tree.Carries) (notFinite : x.isFinite = false)
    (computes : tree.value? x = some value) : value.Unbounded := by
  induction carries generalizing value with
  | read =>
    cases computes
    exact ⟨x, rfl, notFinite⟩
  | group inside ih =>
    obtain ⟨operand, found, same⟩ := value?_node_singleton.mp computes
    cases same
    exact ih found
  | minus operand ih =>
    obtain ⟨operand, found, negated⟩ := value?_node_singleton.mp computes
    obtain ⟨y, rfl, unbounded⟩ := ih found
    cases negated
    exact ⟨_, rfl, Binary64.not_finite_neg unbounded⟩
  | first keeps operand ih =>
    obtain ⟨left, right, found, -, result⟩ := value?_node_pair.mp computes
    exact BinaryOperator.not_finite_of_first keeps (ih found) result
  | second keeps operand ih =>
    obtain ⟨left, right, -, found, result⟩ := value?_node_pair.mp computes
    exact BinaryOperator.not_finite_of_second keeps (ih found) result
  | call keeps argument ih =>
    obtain ⟨operand, found, result⟩ := value?_node_singleton.mp computes
    exact not_finite_of_argument keeps (ih found) result
  | last item ih =>
    rw [value?, Option.bind_eq_some_iff] at computes
    obtain ⟨values, items, result⟩ := computes
    obtain ⟨front, last, found, rfl⟩ := values?_concat items
    obtain rfl : last = value := by simpa [Operator.value?] using result
    exact ih found

/-- Only what reads `x` depends on it. -/
theorem operatorValue?_eq_of_unread (other : operator ≠ .read "x") (x y : Float)
    (arguments : List Value) : operator.value? x arguments = operator.value? y arguments := by
  have known : ∀ name, operator = .read name → knownName? x name = knownName? y name := by
    intro name isRead
    unfold knownName?
    split <;> simp_all
  unfold Operator.value?
  split
  case h_4 name => rw [known name rfl]
  all_goals rfl

mutual

/-- A tree that does not read `x` has the same value for every `x`. -/
theorem value?_eq_of_unread (x y : Float) :
    ∀ tree : Tree, .read "x" ∉ tree.leaves → tree.value? x = tree.value? y
  | node operator children, unread => by
    rw [leaves_node, List.mem_append, not_or] at unread
    have other : operator ≠ .read "x" := by
      rintro rfl
      exact unread.1 List.mem_cons_self
    rw [value?, value?, values?_eq_of_unread x y children unread.2]
    exact congrArg _ (funext (operatorValue?_eq_of_unread other x y))

theorem values?_eq_of_unread (x y : Float) :
    ∀ trees : List Tree, .read "x" ∉ leavesOf trees → values? x trees = values? y trees
  | [], _ => by rw [values?, values?]
  | tree :: rest, unread => by
    rw [leavesOf_cons, List.mem_append, not_or] at unread
    rw [values?, values?, value?_eq_of_unread x y tree unread.1,
      values?_eq_of_unread x y rest unread.2]

end

end Values

end Tree

/-! ### Formulas and raw values -/

/-- The formula has a tree whose value is a finite double, or a whole number as the nearest one. -/
inductive GivesAt (formula : Formula) (x : Float) : Float → Prop
  | double {tree : Tree} {number : Float} (compiled : formula.tree = some tree)
      (computes : tree.value? x = some (.float number)) (finite : number.isFinite = true) :
      GivesAt formula x number
  | whole {tree : Tree} {n : Int} (compiled : formula.tree = some tree)
      (computes : tree.value? x = some (.whole n)) : GivesAt formula x (Float.ofInt n)

section Formulas

variable {formula : Formula} {tree : Tree} {x number : Float}

theorem evaluate_eq_ok_iff : formula.evaluate x = .ok number ↔ formula.GivesAt x number := by
  constructor
  · intro gives
    unfold evaluate at gives
    split at gives
    · cases gives
    · rename_i tree compiled
      split at gives
      · cases gives
      · rename_i value computes
        unfold finiteResult at gives
        split at gives
        · split at gives
          · rename_i finite
            cases gives
            exact .double compiled computes finite
          · cases gives
        · cases gives
          exact .whole compiled computes
        · cases gives
  · intro gives
    cases gives with
    | double compiled computes finite => simp [evaluate, compiled, computes, finiteResult, finite]
    | whole compiled computes => simp [evaluate, compiled, computes, finiteResult]

/-- A formula that carries `x` to the top gives no number where `x` is not finite. -/
theorem not_givesAt_of_carries (compiled : formula.tree = some tree) (carries : tree.Carries)
    (notFinite : x.isFinite = false) : ¬ formula.GivesAt x number := by
  intro gives
  cases gives with
  | double compiled' computes finite =>
    cases compiled.symm.trans compiled'
    obtain ⟨y, same, unbounded⟩ := Tree.not_finite_of_carries carries notFinite computes
    cases same
    rw [finite] at unbounded
    cases unbounded
  | whole compiled' computes =>
    cases compiled.symm.trans compiled'
    obtain ⟨y, same, -⟩ := Tree.not_finite_of_carries carries notFinite computes
    cases same

theorem evaluate_eq_of_unread (compiled : formula.tree = some tree)
    (unread : .read "x" ∉ tree.leaves) (x y : Float) : formula.evaluate x = formula.evaluate y := by
  simp only [evaluate, compiled, Tree.value?_eq_of_unread x y tree unread]

end Formulas

end Formula

namespace Transformation

open Formula (compile)
open Literal (IsDivision)

theorem tryApply_math {raw : Json} {x : Float} (reads : raw.reading = .ok x) (formula : Formula) :
    (math formula).tryApply raw = (formula.evaluate x).map .double := by
  cases raw with
  | null => cases reads
  | _ =>
    simp only [tryApply, reads, bind, Except.bind]
    cases formula.evaluate x <;> rfl

/-- **What formulas make of readings that are not finite.** The transformation by a formula succeeds
on such a raw value exactly if the formula's own value there is a finite double or a whole number,
and then it gives this number. In every other case it fails, and the raw value is kept and counted
as a failure. So it is wherever `x` gets to the top through sums, differences, products, dividends,
signs, magnitudes and roots; while a formula that does not read `x` does the same as on every other
raw value with a reading. -/
theorem not_finite_reading_iff (formula : Formula) (raw : Json) (x : Float)
    (reads : raw.reading = .ok x) (notFinite : x.isFinite = false) :
    (∀ value, (math formula).tryApply raw = .ok value ↔
      ∃ number, formula.GivesAt x number ∧ value = .double number) ∧
    (∀ number, formula.GivesAt x number →
      (math formula).apply raw = ⟨.double number, false⟩) ∧
    ((∀ number, ¬ formula.GivesAt x number) →
      (∃ fault, (math formula).tryApply raw = .error fault) ∧
        (math formula).apply raw = ⟨raw, true⟩) ∧
    (∀ tree, formula.tree = some tree → tree.Carries → ∀ number, ¬ formula.GivesAt x number) ∧
    ∀ tree, formula.tree = some tree → .read "x" ∉ tree.leaves → ∀ (other : Json) (y : Float),
      other.reading = .ok y → (math formula).tryApply raw = (math formula).tryApply other := by
  have result := tryApply_math reads formula
  refine ⟨fun value => ?_, fun number gives => ?_, fun none => ?_,
    fun _ compiled carries _ => Formula.not_givesAt_of_carries compiled carries notFinite,
    fun tree compiled unread other y reads' => ?_⟩
  · rw [result]
    constructor
    · intro succeeds
      cases evaluated : formula.evaluate x with
      | error fault =>
        rw [evaluated] at succeeds
        cases succeeds
      | ok number =>
        rw [evaluated] at succeeds
        cases succeeds
        exact ⟨number, Formula.evaluate_eq_ok_iff.mp evaluated, rfl⟩
    · rintro ⟨number, gives, rfl⟩
      rw [Formula.evaluate_eq_ok_iff.mpr gives]
      rfl
  · rw [apply, result, Formula.evaluate_eq_ok_iff.mpr gives]
    rfl
  · cases evaluated : formula.evaluate x with
    | ok number => exact absurd (Formula.evaluate_eq_ok_iff.mp evaluated) (none number)
    | error fault =>
      rw [evaluated] at result
      refine ⟨⟨fault, result⟩, ?_⟩
      rw [apply, result]
      rfl
  · rw [result, tryApply_math reads', Formula.evaluate_eq_of_unread compiled unread x y]

theorem reading_infinity : Json.reading (.string "inf") = .ok (1.0 / 0.0) := rfl

/-- A product of `x` and zero. -/
def product : Formula.Tree :=
  .node .group [.node (.binary .multiply)
    [.node (.read "x") [], .node (.constant (.float ((Decimal.mk 0 (-1)).toFloat false))) []]]

theorem tree_product : (compile "x*0").tree = some product := by
  have division : IsDivision [] "x*0".toList [.other 'x', .other '*', .literal ['0']] :=
    .passed rfl (.passed rfl (.split rfl rfl (Literal.isDivision_nil_iff.mpr rfl)))
  have written : Literal.rendered [.other 'x', .other '*', .literal ['0']] = "x*0.0".toList := by
    decide +kernel
  have scanned : Formula.Token.scan .expression [] "x*0.0".toList =
      some [.word "0.0".toList, .mark '*', .word "x".toList] := rfl
  rw [Formula.tree_of_tokens division written scanned rfl]
  rfl

/-- An infinity does not vanish in a product with zero: the raw value is kept. -/
theorem not_finite_reading_iff_product :
    Json.reading (.string "inf") = .ok (1.0 / 0.0) ∧ (1.0 / 0.0 : Float).isFinite = false ∧
      (compile "x*0").tree = some product ∧ product.Carries ∧
      (math (compile "x*0")).apply (.string "inf") = ⟨.string "inf", true⟩ := by
  obtain ⟨-, -, fails, carried, -⟩ :=
    not_finite_reading_iff (compile "x*0") (.string "inf") _ reading_infinity rfl
  have carries : product.Carries := .group (.first (by decide) .read)
  exact ⟨rfl, rfl, tree_product, carries, (fails (carried product tree_product carries)).2⟩

/-- A quotient of one and `x`. -/
def reciprocal : Formula.Tree :=
  .node .group [.node (.binary .divide)
    [.node (.constant (.float ((Decimal.mk 10 (-1)).toFloat false))) [], .node (.read "x") []]]

theorem tree_reciprocal : (compile "1/x").tree = some reciprocal := by
  have division : IsDivision [] "1/x".toList [.literal ['1'], .other '/', .other 'x'] :=
    .split rfl rfl (.passed rfl (.passed rfl (Literal.isDivision_nil_iff.mpr rfl)))
  have written : Literal.rendered [.literal ['1'], .other '/', .other 'x'] = "1.0/x".toList := by
    decide +kernel
  have scanned : Formula.Token.scan .expression [] "1.0/x".toList =
      some [.word "x".toList, .mark '/', .word "1.0".toList] := rfl
  rw [Formula.tree_of_tokens division written scanned rfl]
  rfl

/-- An infinity vanishes in its reciprocal: the raw value becomes a number. -/
theorem infinity_has_reciprocal :
    Json.reading (.string "inf") = .ok (1.0 / 0.0) ∧ (1.0 / 0.0 : Float).isFinite = false ∧
      (math (compile "1/x")).tryApply (.string "inf") = .ok (.double 0.0) ∧
      (math (compile "1/x")).apply (.string "inf") = ⟨.double 0.0, false⟩ := by
  have gives : (math (compile "1/x")).tryApply (.string "inf") = .ok (.double 0.0) := by
    rw [tryApply_math reading_infinity, Formula.evaluate, tree_reciprocal]
    rfl
  refine ⟨rfl, rfl, gives, ?_⟩
  rw [apply, gives]

end Transformation

end DeviceMapping
