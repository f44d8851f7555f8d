/-
**Expression trees.**

A tree is built token by token. A stack holds the groups that are still open, innermost first, with
the sequences (tuples and chains) begun in them; every other node is inserted into the topmost one,
at its right edge, where the precedences tell how far down. The same procedure accepts texts with
missing operands; such trees fail when they are evaluated.
-/

import DeviceMapping.Formula.Token

namespace DeviceMapping.Formula

/-- What a node of a tree does with the values of its children. -/
inductive Operator where
  | group
  | constant (value : Value)
  | read (name : String)
  | write (name : String)
  | call (name : String)
  | minus
  | negation
  | binary (operator : BinaryOperator)
  | assignment (compound : Bool)
  | tuple
  | chain
  deriving Inhabited

namespace Operator

/-- How tightly an operator binds. -/
def precedence : Operator → Nat
  | group | constant _ | read _ | write _ => 200
  | call _ => 190
  | binary .power => 120
  | minus | negation => 110
  | binary .multiply | binary .divide | binary .remainder => 100
  | binary .add | binary .subtract => 95
  | binary .both => 75
  | binary .either => 70
  | binary _ => 80
  | assignment _ => 50
  | tuple => 40
  | chain => 0

/-- The greatest number of children; sequences have no bound. -/
def capacity : Operator → Option Nat
  | constant _ | read _ | write _ => some 0
  | group | minus | negation | call _ => some 1
  | binary _ | assignment _ => some 2
  | tuple | chain => none

def isLeaf (operator : Operator) : Bool :=
  operator.capacity == some 0

def isGroup : Operator → Bool
  | group => true
  | _ => false

/-- An operator with one operand that is no group. -/
def isUnary (operator : Operator) : Bool :=
  operator.capacity == some 1 && !operator.isGroup

def isSequence : Operator → Bool
  | tuple | chain => true
  | _ => false

/-- The plain assignment and calls group from the right. -/
def fromRight : Operator → Bool
  | assignment false | call _ => true
  | _ => false

/-- A new operator goes below an old one at the right edge. -/
def yieldsTo (old new : Operator) : Bool :=
  old.precedence < new.precedence || new.isUnary ||
    (old.precedence == new.precedence && old.fromRight && new.fromRight)

end Operator

/-- A tree: an operator and its operands in order. -/
inductive Tree where
  | node (operator : Operator) (children : List Tree)
  deriving Inhabited

namespace Tree

def operator : Tree → Operator
  | node operator _ => operator

def children : Tree → List Tree
  | node _ children => children

/-- A group without content. -/
def emptyGroup : Tree :=
  node .group []

/-- A tree with one more child at its end. -/
def append (tree child : Tree) : Tree :=
  node tree.operator (tree.children ++ [child])

/-- The node has more children than its operator admits. -/
def isOverfull (tree : Tree) : Bool :=
  match tree.operator.capacity with
  | some most => most < tree.children.length
  | none => false

/-! ### Insertion at the right edge -/

mutual

/-- Inserts a node at the right edge of a tree; at the top of an open group precedences do not
matter. -/
def insert (new : Tree) (atTop : Bool) : Tree → Option Tree
  | node operator children =>
    if operator.yieldsTo new.operator || atTop then
      if operator.isLeaf then none
      else if operator.capacity == some children.length then
        (insertLast new operator.isGroup children).map (node operator)
      else some (node operator (children ++ [new]))
    else none

/-- Inserts a node into the last child, or puts it in that child's place with the child as its
first operand. A group never takes the place of a child of a group, nor a child that is one. -/
def insertLast (new : Tree) (inGroup : Bool) : List Tree → Option (List Tree)
  | [] => none
  | [last] =>
    if last.operator.yieldsTo new.operator then (insert new false last).map ([·])
    else if new.operator.isLeaf then none
    else if new.operator.isGroup &&
        (inGroup || !new.children.isEmpty || last.operator.isGroup) then none
    else some [new.append last]
  | first :: rest => (insertLast new inGroup rest).map (first :: ·)

end

/-! ### The stack of open groups and sequences -/

/-- The stack with a root that is no longer changed on top; no root may have too many children. -/
def settle (root : Tree) (stack : List Tree) : Option (List Tree) :=
  if root.isOverfull then none else some (root :: stack)

/-- Closes the sequences above the topmost group, each into the entry below it. -/
def collapse (root : Tree) : List Tree → Option (List Tree)
  | [] => if root.operator.isGroup then settle root [] else none
  | below :: stack =>
    if root.operator.isSequence then collapse (below.append root) stack
    else settle root (below :: stack)

/-- Closes the topmost entries that bind tighter than a sequence. -/
def collapseTo (precedence : Nat) (root : Tree) : List Tree → Option (Tree × List Tree)
  | [] => none
  | below :: stack =>
    if precedence < below.operator.precedence then collapseTo precedence (below.append root) stack
    else some (root, below :: stack)

/-- Goes on with a sequence after one of its separators. -/
def pushSequence (sequence : Operator) : List Tree → Option (List Tree)
  | [] => none
  | root :: stack =>
    if root.operator.isSequence && root.operator.precedence == sequence.precedence then
      some (root.append emptyGroup :: stack)
    else if root.operator.isGroup then
      some (node sequence [root, emptyGroup] :: emptyGroup :: stack)
    else if root.operator.precedence < sequence.precedence then
      match root.children.getLast? with
      | some last =>
        some (node sequence [last, emptyGroup] ::
          node root.operator root.children.dropLast :: stack)
      | none => none
    else (collapseTo sequence.precedence root stack).map fun collapsed =>
      node sequence [collapsed.1] :: collapsed.2

/-- Inserts a node into the topmost group or into the last item of the topmost sequence. -/
def pushNode (new : Tree) : List Tree → Option (List Tree)
  | [] => none
  | root :: stack =>
    if root.operator.isSequence then
      match root.children.getLast? with
      | some last => (insert new true last).map fun last =>
          node root.operator (root.children.dropLast ++ [last]) :: stack
      | none => none
    else (insert new true root).map (· :: stack)

/-- A token after which a minus subtracts. -/
def endsOperand : Token → Bool
  | .name _ | .constant _ | .closing => true
  | _ => false

/-- A token before which a name calls a function. -/
def beginsArgument : Token → Bool
  | .name _ | .constant _ | .opening => true
  | _ => false

/-- What a name stands for, given the token behind it. -/
def ofName (name : String) : List Token → Operator
  | .assignment _ :: _ => .write name
  | next :: _ => if beginsArgument next then .call name else .read name
  | [] => .read name

/-- The stack after one token; `afterOperand` tells that an operand stands before the token. -/
def pushToken (afterOperand : Bool) (token : Token) (following : List Token)
    (stack : List Tree) : Option (List Tree) :=
  match token with
  | .opening => some (emptyGroup :: stack)
  | .closing =>
    match stack with
    | root :: below :: stack => do
      let collapsed ← collapse root (below :: stack)
      match collapsed with
      | group :: stack => pushNode group stack
      | [] => none
    | _ => none
  | .comma => pushSequence .tuple stack
  | .semicolon => pushSequence .chain stack
  | .binary .subtract =>
    pushNode (node (if afterOperand then .binary .subtract else .minus) []) stack
  | .binary operator => pushNode (node (.binary operator) []) stack
  | .negation => pushNode (node .negation []) stack
  | .assignment compound => pushNode (node (.assignment compound) []) stack
  | .constant value => pushNode (node (.constant value) []) stack
  | .name name => pushNode (node (ofName name following) []) stack

/-- The stack after all tokens. -/
def pushTokens (afterOperand : Bool) : List Tree → List Token → Option (List Tree)
  | stack, [] => some stack
  | stack, token :: rest =>
    (pushToken afterOperand token rest stack).bind fun stack =>
      pushTokens (endsOperand token) stack rest

/-- The tree of a list of tokens. -/
def ofTokens? (tokens : List Token) : Option Tree := do
  let stack ← pushTokens false [emptyGroup] tokens
  match stack with
  | root :: stack =>
    match ← collapse root stack with
    | [tree] => some tree
    | _ => none
  | [] => none

/-- The tree of a text. -/
def ofText? (text : List Char) : Option Tree :=
  (Token.ofText? text).bind ofTokens?

end Tree

end DeviceMapping.Formula
