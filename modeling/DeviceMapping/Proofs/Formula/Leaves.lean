/-
**The leaves of a tree are its tokens.**

Building a tree moves nodes below one another, but from left to right its leaves stay the constants
and names of the text: nothing is lost, doubled or changed (`leaves_ofTokens?`). Each step of the
building adds the leaf of its token at the right end (`leaves_pushToken`), and an insertion adds
those of the new node (`leaves_insert`).
-/

import DeviceMapping.Formula.Tree

namespace DeviceMapping.Formula

/-- The operator, if it is one without operands. -/
def Operator.leaf (operator : Operator) : List Operator :=
  if operator.isLeaf then [operator] else []

namespace Tree

mutual

/-- The constants and names of a tree, from left to right. -/
def leaves : Tree → List Operator
  | node operator children => operator.leaf ++ leavesOf children

/-- The constants and names of trees. -/
def leavesOf : List Tree → List Operator
  | [] => []
  | tree :: rest => leaves tree ++ leavesOf rest

end

/-! ### Children -/

section Children

variable {tree child : Tree} {trees : List Tree}

@[simp] theorem leaves_node (operator : Operator) (children : List Tree) :
    (node operator children).leaves = operator.leaf ++ leavesOf children := by
  rw [leaves]

@[simp] theorem leavesOf_nil : leavesOf [] = [] := by
  rw [leavesOf]

@[simp] theorem leavesOf_cons (tree : Tree) (trees : List Tree) :
    leavesOf (tree :: trees) = tree.leaves ++ leavesOf trees := by
  rw [leavesOf]

@[simp] theorem leavesOf_append (first second : List Tree) :
    leavesOf (first ++ second) = leavesOf first ++ leavesOf second := by
  induction first with
  | nil => simp
  | cons tree rest ih => simp [ih]

theorem leaves_eq (tree : Tree) : tree.leaves = tree.operator.leaf ++ leavesOf tree.children := by
  cases tree
  simp [operator, children]

@[simp] theorem leaves_append (tree child : Tree) :
    (tree.append child).leaves = tree.leaves ++ child.leaves := by
  simp [append, leaves_eq tree]

@[simp] theorem leaves_emptyGroup : emptyGroup.leaves = [] := by
  simp [emptyGroup, Operator.leaf, Operator.isLeaf, Operator.capacity]

theorem leavesOf_dropLast (last : trees.getLast? = some child) :
    leavesOf trees = leavesOf trees.dropLast ++ child.leaves := by
  obtain ⟨front, rfl⟩ := List.getLast?_eq_some_iff.mp last
  simp

end Children

/-! ### Insertion -/

/-- A node that may be inserted: only groups bring their content along. -/
def Insertable (new : Tree) : Prop :=
  new.operator.isGroup = false → new.children = []

section Insertion

variable {new : Tree}

/-- What takes the place of another node has no leaves of its own. -/
theorem leaves_of_replaces (insertable : Insertable new) (noLeaf : new.operator.isLeaf = false)
    (noContent : new.operator.isGroup = true → new.children = []) : new.leaves = [] := by
  have empty : new.children = [] := by
    by_cases group : new.operator.isGroup = true
    · exact noContent group
    · exact insertable (by simpa using group)
  simp [leaves_eq new, Operator.leaf, noLeaf, empty]

mutual

/-- The leaves of the new node are added at the right end. -/
theorem leaves_insert (insertable : Insertable new) : ∀ (tree : Tree) {atTop : Bool} {tree' : Tree},
    insert new atTop tree = some tree' → tree'.leaves = tree.leaves ++ new.leaves
  | node operator children, atTop, tree', inserts => by
    rw [insert] at inserts
    split at inserts
    · split at inserts
      · cases inserts
      · split at inserts
        · obtain ⟨children', inserts', rfl⟩ := Option.map_eq_some_iff.mp inserts
          simp [leaves_insertLast insertable children inserts']
        · cases inserts
          simp
    · cases inserts

theorem leaves_insertLast (insertable : Insertable new) : ∀ (trees : List Tree) {inGroup : Bool}
    {trees' : List Tree}, insertLast new inGroup trees = some trees' →
      leavesOf trees' = leavesOf trees ++ new.leaves
  | [], inGroup, trees', inserts => by
    rw [insertLast] at inserts
    cases inserts
  | [last], inGroup, trees', inserts => by
    rw [insertLast] at inserts
    split at inserts
    · obtain ⟨last', inserts', rfl⟩ := Option.map_eq_some_iff.mp inserts
      simp [leaves_insert insertable last inserts']
    · split at inserts
      · cases inserts
      · split at inserts
        · cases inserts
        · -- the new node takes the last one as its operand
          rename_i noLeaf free
          cases inserts
          have none : new.leaves = [] := by
            refine leaves_of_replaces insertable (by simpa using noLeaf) fun group => ?_
            simp [group] at free
            exact free.1.2
          simp [none]
  | first :: second :: rest, inGroup, trees', inserts => by
    rw [insertLast] at inserts
    · obtain ⟨rest', inserts', rfl⟩ := Option.map_eq_some_iff.mp inserts
      simp only [leavesOf_cons first, leaves_insertLast insertable (second :: rest) inserts',
        List.append_assoc]
    · simp

end

end Insertion

/-! ### The stack -/

/-- The leaves of a stack, from the outermost entry to the innermost. -/
def leavesUp (stack : List Tree) : List Operator :=
  leavesOf stack.reverse

@[simp] theorem leavesUp_nil : leavesUp [] = [] := by
  simp [leavesUp]

@[simp] theorem leavesUp_cons (root : Tree) (stack : List Tree) :
    leavesUp (root :: stack) = leavesUp stack ++ root.leaves := by
  simp [leavesUp]

/-- The node is an open group or a sequence. -/
def IsFrame (tree : Tree) : Prop :=
  tree.operator.isGroup = true ∨ tree.operator.isSequence = true

/-- The stack consists of open groups and sequences, and its leaves are these. -/
structure Holds (stack : List Tree) (found : List Operator) : Prop where
  frames : ∀ tree ∈ stack, IsFrame tree
  leaves : leavesUp stack = found

section Stack

variable {root new : Tree} {stack stack' : List Tree} {found : List Operator}

theorem Holds.tail (holds : Holds (root :: stack) found) : Holds stack (leavesUp stack) :=
  ⟨fun tree member => holds.frames tree (List.mem_cons_of_mem _ member), rfl⟩

theorem Holds.cons (holds : Holds stack found) (frame : IsFrame root) :
    Holds (root :: stack) (found ++ root.leaves) := by
  refine ⟨List.forall_mem_cons.mpr ⟨frame, holds.frames⟩, ?_⟩
  rw [leavesUp_cons, holds.leaves]

theorem isFrame_append (frame : IsFrame root) (child : Tree) : IsFrame (root.append child) :=
  frame

theorem settle_eq (settled : settle root stack = some stack') : stack' = root :: stack := by
  unfold settle at settled
  split at settled
  · cases settled
  · cases settled
    rfl

/-- Closing sequences moves them into what they stand in; then a group is on top. -/
theorem holds_collapse (holds : Holds stack found) (frame : IsFrame root)
    (collapsed : collapse root stack = some stack') :
    Holds stack' (found ++ root.leaves) ∧
      ∃ group below, stack' = group :: below ∧ group.operator.isGroup = true := by
  induction stack generalizing root found with
  | nil =>
    rw [collapse] at collapsed
    split at collapsed
    · rename_i group
      cases settle_eq collapsed
      exact ⟨holds.cons frame, root, [], rfl, group⟩
    · cases collapsed
  | cons below stack ih =>
    rw [collapse] at collapsed
    split at collapsed
    · have inside := holds.tail
      have belowFrame := isFrame_append (holds.frames below List.mem_cons_self) root
      obtain ⟨still, group⟩ := ih inside belowFrame collapsed
      rw [leaves_append, ← List.append_assoc, ← leavesUp_cons, holds.leaves] at still
      exact ⟨still, group⟩
    · rename_i noSequence
      cases settle_eq collapsed
      exact ⟨holds.cons frame, root, below :: stack, rfl, frame.resolve_right noSequence⟩

theorem holds_collapse_frame (holds : Holds (root :: stack) found)
    (collapsed : collapse root stack = some stack') : Holds stack' found ∧
      ∃ group below, stack' = group :: below ∧ group.operator.isGroup = true := by
  have still := holds_collapse holds.tail (holds.frames root List.mem_cons_self) collapsed
  rwa [← leavesUp_cons, holds.leaves] at still

theorem holds_collapseTo {precedence : Nat} {root' : Tree} (holds : Holds (root :: stack) found)
    (collapsed : collapseTo precedence root stack = some (root', stack')) :
    Holds (root' :: stack') found := by
  induction stack generalizing root with
  | nil => cases collapsed
  | cons below stack ih =>
    rw [collapseTo] at collapsed
    split at collapsed
    · refine ih ?_ collapsed
      have inside := holds.tail.tail.cons (isFrame_append (holds.frames below (by simp)) root)
      rwa [leaves_append, ← List.append_assoc, ← leavesUp_cons, ← leavesUp_cons, holds.leaves]
        at inside
    · cases collapsed
      exact holds

theorem isFrame_emptyGroup : IsFrame emptyGroup :=
  .inl rfl

/-- A separator adds an empty group, which has no leaves. -/
theorem holds_pushSequence {sequence : Operator} (isSequence : sequence.isSequence = true)
    (holds : Holds stack found) (pushed : pushSequence sequence stack = some stack') :
    Holds stack' found := by
  have noLeaf : sequence.leaf = [] := by
    cases sequence <;> first | rfl | cases isSequence
  have isFrame : ∀ children, IsFrame (node sequence children) := fun _ => .inr isSequence
  cases stack with
  | nil => cases pushed
  | cons root stack =>
    have frame := holds.frames root List.mem_cons_self
    have below := holds.tail
    have all := holds.leaves
    rw [leavesUp_cons] at all
    rw [pushSequence] at pushed
    split at pushed
    · cases pushed
      have inside := below.cons (isFrame_append frame emptyGroup)
      simpa [all] using inside
    · split at pushed
      · cases pushed
        have inside := (below.cons isFrame_emptyGroup).cons (isFrame [root, emptyGroup])
        simpa [noLeaf, all] using inside
      · split at pushed
        · -- the last item of the looser sequence begins the tighter one
          split at pushed
          · rename_i last isLast
            cases pushed
            have shorter : IsFrame (node root.operator root.children.dropLast) := frame
            have inside := (below.cons shorter).cons (isFrame [last, emptyGroup])
            rw [leaves_eq root, leavesOf_dropLast isLast] at all
            simpa [noLeaf, all] using inside
          · cases pushed
        · obtain ⟨⟨root', stack'⟩, collapsed, rfl⟩ := Option.map_eq_some_iff.mp pushed
          have still := holds_collapseTo holds collapsed
          have inside := still.tail.cons (isFrame [root'])
          have all' := still.leaves
          rw [leavesUp_cons] at all'
          simpa [noLeaf, all'] using inside

theorem operator_insert {tree tree' : Tree} {atTop : Bool}
    (inserts : insert new atTop tree = some tree') : tree'.operator = tree.operator := by
  cases tree with
  | node operator children =>
    rw [insert] at inserts
    split at inserts
    · split at inserts
      · cases inserts
      · split at inserts
        · obtain ⟨children', -, rfl⟩ := Option.map_eq_some_iff.mp inserts
          rfl
        · cases inserts
          rfl
    · cases inserts

/-- An insertion adds the leaves of the new node. -/
theorem holds_pushNode (insertable : Insertable new) (holds : Holds stack found)
    (pushed : pushNode new stack = some stack') : Holds stack' (found ++ new.leaves) := by
  cases stack with
  | nil => cases pushed
  | cons root stack =>
    have frame := holds.frames root List.mem_cons_self
    have all := holds.leaves
    rw [leavesUp_cons] at all
    rw [pushNode] at pushed
    split at pushed
    · split at pushed
      · rename_i last isLast
        obtain ⟨last', inserts, rfl⟩ := Option.map_eq_some_iff.mp pushed
        have isFrame : IsFrame (node root.operator (root.children.dropLast ++ [last'])) := frame
        have inside := holds.tail.cons isFrame
        rw [leaves_eq root, leavesOf_dropLast isLast] at all
        simpa [leaves_insert insertable last inserts, ← all] using inside
      · cases pushed
    · obtain ⟨root', inserts, rfl⟩ := Option.map_eq_some_iff.mp pushed
      have isFrame : IsFrame root' := by
        unfold IsFrame
        rwa [operator_insert inserts]
      have inside := holds.tail.cons isFrame
      rwa [leaves_insert insertable root inserts, ← List.append_assoc, all] at inside

/-- A group that is closed moves into what it stands in. -/
theorem holds_close (holds : Holds (new :: stack) found) (isGroup : new.operator.isGroup = true)
    (pushed : pushNode new stack = some stack') : Holds stack' found := by
  have insertable : Insertable new := by
    intro other
    rw [isGroup] at other
    cases other
  have still := holds_pushNode insertable holds.tail pushed
  rwa [← leavesUp_cons, holds.leaves] at still

end Stack

/-! ### Tokens -/

/-- The leaf that a token becomes, given the tokens behind it. -/
def tokenLeaf (token : Token) (following : List Token) : List Operator :=
  match token with
  | .constant value => [.constant value]
  | .name name => (ofName name following).leaf
  | _ => []

/-- The leaves that tokens become. -/
def tokenLeaves : List Token → List Operator
  | [] => []
  | token :: rest => tokenLeaf token rest ++ tokenLeaves rest

section Tokens

variable {stack stack' : List Tree} {found : List Operator} {afterOperand : Bool}

/-- An operator without operands yet may be inserted. -/
theorem holds_pushOperator {operator : Operator} (holds : Holds stack found)
    (pushed : pushNode (node operator []) stack = some stack') :
    Holds stack' (found ++ operator.leaf) := by
  have insertable : Insertable (node operator []) := fun _ => rfl
  have still := holds_pushNode insertable holds pushed
  simpa using still

/-- **One token.** The stack gets the leaf of the token at its right end. -/
theorem holds_pushToken {token : Token} {following : List Token} (holds : Holds stack found)
    (pushed : pushToken afterOperand token following stack = some stack') :
    Holds stack' (found ++ tokenLeaf token following) := by
  -- what only joins operands has no leaf
  have joins : ∀ {operator}, operator.leaf = [] → tokenLeaf token following = [] →
      pushNode (node operator []) stack = some stack' →
        Holds stack' (found ++ tokenLeaf token following) := by
    intro operator noLeaf noLeaf' pushed
    have still := holds_pushOperator holds pushed
    rwa [noLeaf, ← noLeaf'] at still
  cases token with
  | opening =>
    cases pushed
    have inside := holds.cons isFrame_emptyGroup
    simpa [tokenLeaf] using inside
  | closing =>
    rw [show tokenLeaf .closing following = [] from rfl, List.append_nil]
    match stack, holds, pushed with
    | root :: below :: stack, holds, pushed =>
      obtain ⟨collapsed, collapses, pushed⟩ := Option.bind_eq_some_iff.mp pushed
      obtain ⟨still, group, rest, rfl, isGroup⟩ := holds_collapse_frame holds collapses
      exact holds_close still isGroup pushed
  | comma =>
    have still := holds_pushSequence rfl holds pushed
    simpa [tokenLeaf] using still
  | semicolon =>
    have still := holds_pushSequence rfl holds pushed
    simpa [tokenLeaf] using still
  | binary operator =>
    by_cases subtracts : operator = .subtract
    · subst subtracts
      cases afterOperand with
      | true => exact joins rfl rfl pushed
      | false => exact joins rfl rfl pushed
    · rw [pushToken] at pushed
      · exact joins rfl rfl pushed
      · exact subtracts
  | negation => exact joins rfl rfl pushed
  | assignment compound => exact joins rfl rfl pushed
  | constant value => exact holds_pushOperator holds pushed
  | name name => exact holds_pushOperator holds pushed

/-- **All tokens.** -/
theorem holds_pushTokens {tokens : List Token} (holds : Holds stack found)
    (pushed : pushTokens afterOperand stack tokens = some stack') :
    Holds stack' (found ++ tokenLeaves tokens) := by
  induction tokens generalizing stack found afterOperand with
  | nil =>
    cases pushed
    simpa [tokenLeaves] using holds
  | cons token rest ih =>
    obtain ⟨between, first, later⟩ := Option.bind_eq_some_iff.mp pushed
    rw [tokenLeaves, ← List.append_assoc]
    exact ih (holds_pushToken holds first) later

/-- The leaves of the tree are those of its tokens, from left to right. -/
theorem leaves_ofTokens? {tokens : List Token} {tree : Tree}
    (builds : ofTokens? tokens = some tree) : tree.leaves = tokenLeaves tokens := by
  have start : Holds [emptyGroup] [] := by
    refine ⟨List.forall_mem_singleton.mpr isFrame_emptyGroup, ?_⟩
    simp
  obtain ⟨stack, pushed, built⟩ := Option.bind_eq_some_iff.mp builds
  have holds := holds_pushTokens start pushed
  match stack, holds, built with
  | root :: stack, holds, built =>
    obtain ⟨collapsed, collapses, one⟩ := Option.bind_eq_some_iff.mp built
    have still := (holds_collapse_frame holds collapses).1
    match collapsed, still, one with
    | [_], still, rfl =>
      have all := still.leaves
      simpa using all

end Tokens

end Tree

end DeviceMapping.Formula
