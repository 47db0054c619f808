import Quarry.Pattern.Error

/-!
How deep the parts of a pattern are nested. Classes, repetitions, groups, alternatives and sequences
count, and so do the operations and the joined items inside of a class. A pattern is refused at its
first part, from left to right, that lies below the limit.
-/

namespace Quarry.Pattern

/-- The depth inside of a part that stands at a depth. -/
def deeper (depth : Nat) (span : Span) : Except Error Nat :=
  if depth < depthLimit then .ok (depth + 1) else .error ⟨.tooDeep, span, none⟩

mutual

def ClassItem.checkDepth (depth : Nat) : ClassItem → Except Error Unit
  | .nested span _ content => do
    content.checkDepth (← deeper depth span)
  | .literal _ | .range _ _ _ | .named _ _ _ | .property _ _ _ | .lettered _ _ => .ok ()

def ClassSet.checkDepth (depth : Nat) : ClassSet → Except Error Unit
  | .union _ [] => .ok ()
  | .union _ [item] => item.checkDepth depth
  | .union span (first :: second :: items) => do
    let depth ← deeper depth span
    first.checkDepth depth
    second.checkDepth depth
    ClassItem.checkDepths depth items
  | .operation span _ left right => do
    let depth ← deeper depth span
    left.checkDepth depth
    right.checkDepth depth

def ClassItem.checkDepths (depth : Nat) : List ClassItem → Except Error Unit
  | [] => .ok ()
  | item :: items => do
    item.checkDepth depth
    ClassItem.checkDepths depth items

end

mutual

def Node.checkDepth (depth : Nat) : Node → Except Error Unit
  | .bracketed span _ content => do
    content.checkDepth (← deeper depth span)
  | .repetition span _ node => do
    node.checkDepth (← deeper depth span)
  | .group span _ node => do
    node.checkDepth (← deeper depth span)
  | .alternation span nodes => do
    Node.checkDepths (← deeper depth span) nodes
  | .concatenation span nodes => do
    Node.checkDepths (← deeper depth span) nodes
  | .empty _ | .flags _ _ | .literal _ | .dot _ | .assertion _ _ | .property _ _ _
  | .lettered _ _ => .ok ()

def Node.checkDepths (depth : Nat) : List Node → Except Error Unit
  | [] => .ok ()
  | node :: nodes => do
    node.checkDepth depth
    Node.checkDepths depth nodes

end

end Quarry.Pattern
