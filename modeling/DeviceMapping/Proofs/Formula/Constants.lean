/-
**Formulas compute in doubles.**

* `Computes`: the value of a tree by operations of doubles alone, with no whole number in it.
* `exists_computes`: arithmetic without whole constants has such a value.
* `value?_eq_none`: a tree that reads a name nobody knows has no value.
* `whole_constant_iff`: the tree of a formula has a whole constant exactly where the evaluator cuts
  a literal that is too large at the sign of its exponent. Before the sign a name is left that
  nobody knows, so such a formula has no value; every other one computes in doubles.
-/

import DeviceMapping.Formula.Basic
import DeviceMapping.Proofs.Formula.Leaves
import DeviceMapping.Proofs.Formula.Tokens

namespace DeviceMapping.Formula

open Literal (IsDivision)

/-! ### Leaves and tokens -/

namespace Tree

section Leaves

variable {tokens earlier later : List Token}

theorem tokenLeaves_append (first second : List Token) : ∃ front,
    tokenLeaves (first ++ second) = front ++ tokenLeaves second := by
  induction first with
  | nil => exact ⟨[], rfl⟩
  | cons token rest ih =>
    obtain ⟨front, same⟩ := ih
    refine ⟨tokenLeaf token (rest ++ second) ++ front, ?_⟩
    rw [List.cons_append, tokenLeaves, same, List.append_assoc]

/-- A name is no constant. -/
theorem leaf_ofName (name : String) (following : List Token) (value : Value) :
    .constant value ∉ (ofName name following).leaf := by
  unfold ofName
  split
  · simp [Operator.leaf]
  · split
    · simp [Operator.leaf, Operator.isLeaf, Operator.capacity]
    · simp [Operator.leaf]
  · simp [Operator.leaf]

/-- The constants among the leaves are the constants among the tokens. -/
theorem mem_tokenLeaves_iff {value : Value} :
    .constant value ∈ tokenLeaves tokens ↔ .constant value ∈ tokens := by
  induction tokens with
  | nil => simp [tokenLeaves]
  | cons token rest ih =>
    rw [tokenLeaves, List.mem_append, ih, List.mem_cons]
    refine or_congr ?_ Iff.rfl
    cases token with
    | constant other => simp [tokenLeaf]
    | name name => simpa [tokenLeaf] using leaf_ofName name rest value
    | _ => simp [tokenLeaf]

/-- A name before an operator is read. -/
theorem read_mem_tokenLeaves (earlier : List Token) (name : String) (operator : BinaryOperator)
    (later : List Token) :
    .read name ∈ tokenLeaves (earlier ++ .name name :: .binary operator :: later) := by
  obtain ⟨front, same⟩ := tokenLeaves_append earlier (.name name :: .binary operator :: later)
  rw [same, tokenLeaves]
  simp [tokenLeaf, ofName, beginsArgument, Operator.leaf, Operator.isLeaf, Operator.capacity]

end Leaves

/-! ### Unknown names -/

mutual

/-- A tree that reads a name nobody knows has no value. -/
theorem value?_eq_none {x : Float} {name : String} (unknown : knownName? x name = none) :
    ∀ tree : Tree, .read name ∈ tree.leaves → tree.value? x = none
  | node operator children, member => by
    rw [leaves_node, List.mem_append] at member
    rw [value?]
    rcases member with own | below
    · obtain ⟨-, rfl⟩ : operator.isLeaf = true ∧ .read name = operator := by
        simpa [Operator.leaf] using own
      cases values? x children with
      | none => rfl
      | some arguments =>
        cases arguments with
        | nil => simp [Operator.value?, unknown]
        | cons first rest => rfl
    · rw [values?_eq_none unknown children below]
      rfl

theorem values?_eq_none {x : Float} {name : String} (unknown : knownName? x name = none) :
    ∀ trees : List Tree, .read name ∈ leavesOf trees → values? x trees = none
  | [], member => by simp at member
  | tree :: rest, member => by
    rw [leavesOf_cons, List.mem_append] at member
    rw [values?]
    rcases member with first | later
    · rw [value?_eq_none unknown tree first]
      rfl
    · rw [values?_eq_none unknown rest later]
      cases value? x tree with
      | none => rfl
      | some value => rfl

end

/-! ### Arithmetic -/

/-- The operators of arithmetic. -/
def arithmeticOperators : List BinaryOperator :=
  [.add, .subtract, .multiply, .divide, .remainder, .power]

/-- The tree is put together from numbers, the names an expression can read, the operators of
arithmetic and the functions of one number. -/
inductive IsArithmetic : Tree → Prop
  | float (value : Float) : IsArithmetic (node (.constant (.float value)) [])
  | whole (value : Int) : IsArithmetic (node (.constant (.whole value)) [])
  | name {name : String} (known : name ∈ ["x", "pi", "e"]) : IsArithmetic (node (.read name) [])
  | group {tree : Tree} (inside : IsArithmetic tree) : IsArithmetic (node .group [tree])
  | minus {tree : Tree} (operand : IsArithmetic tree) : IsArithmetic (node .minus [tree])
  | binary {operator : BinaryOperator} {first second : Tree}
      (arithmetic : operator ∈ arithmeticOperators) (left : IsArithmetic first)
      (right : IsArithmetic second) : IsArithmetic (node (.binary operator) [first, second])
  | call {name : String} {tree : Tree} (registered : (Function.unary? name).isSome = true)
      (argument : IsArithmetic tree) : IsArithmetic (node (.call name) [tree])

/-- The tree has a value that is computed by operations of doubles alone. -/
inductive Computes (x : Float) : Tree → Float → Prop
  | float (value : Float) : Computes x (node (.constant (.float value)) []) value
  | name {name : String} {value : Float} (known : knownName? x name = some value) :
      Computes x (node (.read name) []) value
  | group {tree : Tree} {value : Float} (inside : Computes x tree value) :
      Computes x (node .group [tree]) value
  | minus {tree : Tree} {value : Float} (operand : Computes x tree value) :
      Computes x (node .minus [tree]) (-value)
  | binary {operator : BinaryOperator} {first second : Tree} {a b result : Float}
      (left : Computes x first a) (right : Computes x second b)
      (computes : operator.onFloats? a b = some (.float result)) :
      Computes x (node (.binary operator) [first, second]) result
  | call {name : String} {function : Float → Float} {tree : Tree} {value : Float}
      (registered : Function.unary? name = some function) (argument : Computes x tree value) :
      Computes x (node (.call name) [tree]) (function value)

section Arithmetic

variable {x : Float} {tree : Tree}

/-- Arithmetic of doubles gives a double. -/
theorem exists_onFloats? {operator : BinaryOperator} (arithmetic : operator ∈ arithmeticOperators)
    (a b : Float) : ∃ result, operator.onFloats? a b = some (.float result) := by
  simp only [arithmeticOperators, List.mem_cons, List.not_mem_nil, or_false] at arithmetic
  rcases arithmetic with rfl | rfl | rfl | rfl | rfl | rfl
  · exact ⟨a + b, rfl⟩
  · exact ⟨a - b, rfl⟩
  · exact ⟨a * b, rfl⟩
  · exact ⟨a / b, rfl⟩
  · exact ⟨Function.remainder a b, rfl⟩
  · exact ⟨a.pow b, rfl⟩

theorem value?_of_binary {operator : BinaryOperator} {a b : Float} {result : Value}
    (computes : operator.onFloats? a b = some result) :
    operator.value? (.float a) (.float b) = some result := by
  cases operator <;> first | exact computes | cases computes

/-- What is computed by operations of doubles is the value of the tree. -/
theorem value?_of_computes {value : Float} (computes : Computes x tree value) :
    tree.value? x = some (.float value) := by
  induction computes with
  | float value => rfl
  | name known => simp [value?, values?, Operator.value?, known]
  | group inside ih => simp [value?, values?, Operator.value?, ih]
  | minus operand ih => simp [value?, values?, Operator.value?, ih, Value.number?]
  | binary left right computes ihLeft ihRight =>
    simp [value?, values?, Operator.value?, ihLeft, ihRight, value?_of_binary computes]
  | call registered argument ih =>
    simp [value?, values?, Operator.value?, ih, Function.call?, registered, Value.number?]

/-- Arithmetic without whole constants is computed by operations of doubles. -/
theorem exists_computes (isArithmetic : IsArithmetic tree)
    (noWhole : ∀ n, .constant (.whole n) ∉ tree.leaves) : ∃ value, Computes x tree value := by
  induction isArithmetic with
  | float value => exact ⟨value, .float value⟩
  | whole value =>
    refine absurd ?_ (noWhole value)
    simp [Operator.leaf, Operator.isLeaf, Operator.capacity]
  | @name name known =>
    obtain ⟨value, isKnown⟩ : ∃ value, knownName? x name = some value := by
      simp only [List.mem_cons, List.not_mem_nil, or_false] at known
      rcases known with rfl | rfl | rfl
      · exact ⟨_, rfl⟩
      · exact ⟨_, rfl⟩
      · exact ⟨_, rfl⟩
    exact ⟨value, .name isKnown⟩
  | group inside ih =>
    obtain ⟨value, computes⟩ := ih fun n member => noWhole n (by simp [member])
    exact ⟨value, .group computes⟩
  | minus operand ih =>
    obtain ⟨value, computes⟩ := ih fun n member => noWhole n (by simp [member])
    exact ⟨-value, .minus computes⟩
  | @binary operator first second arithmetic left right ihLeft ihRight =>
    obtain ⟨a, computesLeft⟩ := ihLeft fun n member => noWhole n (by simp [member])
    obtain ⟨b, computesRight⟩ := ihRight fun n member => noWhole n (by simp [member])
    obtain ⟨result, computes⟩ := exists_onFloats? arithmetic a b
    exact ⟨result, .binary computesLeft computesRight computes⟩
  | call registered argument ih =>
    obtain ⟨function, registered⟩ := Option.isSome_iff_exists.mp registered
    obtain ⟨value, computes⟩ := ih fun n member => noWhole n (by simp [member])
    exact ⟨function value, .call registered computes⟩

end Arithmetic

end Tree

/-- The value of a formula is that of its tree. -/
theorem evaluate_of_tree {source : String} {tree : Tree}
    (compiled : (compile source).tree = some tree) (x : Float) :
    (compile source).evaluate x = match tree.value? x with
      | none => .error (.evaluationFailed source)
      | some value => finiteResult source value := by
  simp only [evaluate, compiled]
  rfl

/-- **Where whole constants come from.** Of a formula that compiles, the tree has a whole constant
exactly if a word, a sign and a whole number stand together in its normal form and spell no number.
All of these are cut out of literals of the source that are too large and have a sign in their
exponent. The evaluation of such a formula always fails. Arithmetic without whole constants is
computed in doubles from the first operation to the last. -/
theorem whole_constant_iff (source : String) (tree : Tree)
    (compiled : (compile source).tree = some tree) : ∃ items pieces,
      IsDivision [] source.toList items ∧
      Token.scan .expression [] (Literal.normalize source).toList = some pieces.reverse ∧
      ((∃ n, .constant (.whole n) ∈ tree.leaves) ↔
        ∃ front sign back, Token.Cut pieces front sign back) ∧
      (∀ front sign back, Token.Cut pieces front sign back → Token.Parts items front sign back) ∧
      ((∃ n, .constant (.whole n) ∈ tree.leaves) →
        ∀ x, (compile source).evaluate x = .error (.evaluationFailed source)) ∧
      ((∀ n, .constant (.whole n) ∉ tree.leaves) → tree.IsArithmetic → ∀ x, ∃ value,
        tree.Computes x value ∧
          (compile source).evaluate x = finiteResult source (.float value)) := by
  obtain ⟨items, division, written⟩ := Literal.exists_division [] source.toList
  obtain ⟨tokens, reads, builds⟩ := Option.bind_eq_some_iff.mp compiled
  obtain ⟨found, scanned, reads⟩ := Option.bind_eq_some_iff.mp reads
  have accounted := Token.accounted_scan division (written ▸ scanned)
  rw [← List.reverse_reverse found] at accounted scanned
  have leaves := Tree.leaves_ofTokens? builds
  have constants : (∃ n, .constant (.whole n) ∈ tree.leaves) ↔
      ∃ front sign back, Token.Cut found.reverse front sign back := by
    simp only [leaves, Tree.mem_tokenLeaves_iff]
    exact Token.whole_token_iff accounted reads
  refine ⟨items, found.reverse, division, ?_, constants, ?_, ?_, ?_⟩
  · rw [Literal.normalize, String.toList_ofList]
    exact scanned
  · exact fun front sign back cut => cut.parts accounted
  · intro whole x
    obtain ⟨front, sign, back, cut⟩ := constants.mp whole
    obtain ⟨earlier, name, operator, later, rfl, unknown⟩ :=
      Token.unknown_name accounted reads cut
    have member : .read name ∈ tree.leaves := by
      rw [leaves]
      exact Tree.read_mem_tokenLeaves earlier name operator later
    rw [evaluate_of_tree compiled, Tree.value?_eq_none (unknown x) tree member]
  · intro noWhole arithmetic x
    obtain ⟨value, computes⟩ := Tree.exists_computes arithmetic noWhole
    refine ⟨value, computes, ?_⟩
    rw [evaluate_of_tree compiled, Tree.value?_of_computes computes]

/-- A formula whose normal form, pieces and tokens are known has a known tree. -/
theorem tree_of_tokens {source : String} {items : List Literal.Piece} {text : List Char}
    {pieces : List Token.Piece} {tokens : List Token}
    (division : IsDivision [] source.toList items) (written : Literal.rendered items = text)
    (scanned : Token.scan .expression [] text = some pieces)
    (reads : Token.ofPieces? 0 pieces.reverse = some tokens) :
    (compile source).tree = Tree.ofTokens? tokens := by
  have read : Token.ofText? (Literal.normalizeFrom false source.toList) = some tokens := by
    rw [division.normalizeFrom_eq, written, Token.ofText?, scanned]
    exact reads
  show (Token.ofText? (Literal.normalizeFrom false source.toList)).bind Tree.ofTokens? = _
  rw [read]
  rfl

/-- A sum of a name that nobody knows and a whole constant. -/
def cutTree : Tree :=
  .node .group [.node (.binary .add)
    [.node (.read "#1e") [], .node (.constant (.whole 400)) []]]

/-- A quotient of two doubles. -/
def quotientTree : Tree :=
  .node .group [.node (.binary .divide)
    [.node (.constant (.float ((Decimal.mk 50 (-1)).toFloat false))) [],
      .node (.constant (.float ((Decimal.mk 90 (-1)).toFloat false))) []]]

theorem tree_cut : (compile "#1e+400").tree = some cutTree := by
  have division : IsDivision [] "#1e+400".toList [.other '#', .literal "1e+400".toList] :=
    .passed rfl (.split rfl rfl (Literal.isDivision_nil_iff.mpr rfl))
  have written : Literal.rendered [.other '#', .literal "1e+400".toList] = "#1e+400".toList := by
    decide +kernel
  have scanned : Token.scan .expression [] "#1e+400".toList =
      some [.word "400".toList, .mark '+', .word "#1e".toList] := rfl
  rw [tree_of_tokens division written scanned rfl]
  rfl

theorem tree_quotient : (compile "5/9").tree = some quotientTree := by
  have division : IsDivision [] "5/9".toList [.literal ['5'], .other '/', .literal ['9']] :=
    .split rfl rfl (.passed rfl (.split rfl rfl (Literal.isDivision_nil_iff.mpr rfl)))
  have written : Literal.rendered [.literal ['5'], .other '/', .literal ['9']] =
      "5.0/9.0".toList := by
    decide +kernel
  have scanned : Token.scan .expression [] "5.0/9.0".toList =
      some [.word "9.0".toList, .mark '/', .word "5.0".toList] := rfl
  rw [tree_of_tokens division written scanned rfl]
  rfl

theorem whole_constant_iff_cut :
    ((compile "#1e+400").tree = some cutTree ∧ (∃ n, .constant (.whole n) ∈ cutTree.leaves) ∧
      ∀ x, (compile "#1e+400").evaluate x = .error (.evaluationFailed "#1e+400")) ∧
    (compile "5/9").tree = some quotientTree ∧
      (∀ n, .constant (.whole n) ∉ quotientTree.leaves) ∧ quotientTree.IsArithmetic ∧
        ∀ x, ∃ value, quotientTree.Computes x value ∧
          (compile "5/9").evaluate x = finiteResult "5/9" (.float value) := by
  have leaves : Operator.leaf .group = [] ∧ (∀ operator, Operator.leaf (.binary operator) = []) ∧
      (∀ value, Operator.leaf (.constant value) = [.constant value]) ∧
        ∀ name, Operator.leaf (.read name) = [.read name] :=
    ⟨rfl, fun _ => rfl, fun _ => rfl, fun _ => rfl⟩
  have whole : ∃ n, .constant (.whole n) ∈ cutTree.leaves := ⟨400, by simp [cutTree, leaves]⟩
  have noWhole : ∀ n, .constant (.whole n) ∉ quotientTree.leaves := by
    simp [quotientTree, leaves]
  have arithmetic : quotientTree.IsArithmetic :=
    .group (.binary (by decide) (.float _) (.float _))
  obtain ⟨-, -, -, -, -, -, fails, -⟩ := whole_constant_iff "#1e+400" cutTree tree_cut
  obtain ⟨-, -, -, -, -, -, -, computes⟩ := whole_constant_iff "5/9" quotientTree tree_quotient
  exact ⟨⟨tree_cut, whole, fails whole⟩, tree_quotient, noWhole, arithmetic,
    computes noWhole arithmetic⟩

end DeviceMapping.Formula
