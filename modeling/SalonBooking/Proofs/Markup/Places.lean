import Mathlib.Data.List.Lex
import SalonBooking.Markup.Node

/-!
# Places in a tree

A node stands at a place: the way to it from the root, as the positions of the
children to take one after the other.  Document order is the lexicographic
order of places.  An element comes before what is in it, and a child with all
that is in it before the next child.

* `place_le_cons_iff`: how two places compare that take a child first.
* `mem_placed`, `pairwise_placed`: the nodes of a tree with their places, in
  document order.
* `elements_eq_filterMap_placed`: the list of all elements is in that order.
-/

namespace SalonBooking

/-! ## The order of places -/

theorem place_lt_cons_iff {i j : Nat} {place other : List Nat} :
    i :: place < j :: other ↔ i < j ∨ i = j ∧ place < other :=
  List.cons_lt_cons_iff

theorem place_le_cons_iff {i j : Nat} {place other : List Nat} :
    i :: place ≤ j :: other ↔ i < j ∨ i = j ∧ place ≤ other := by
  rw [le_iff_lt_or_eq, le_iff_lt_or_eq, place_lt_cons_iff, List.cons.injEq, and_or_left, or_assoc]

theorem nil_le_place (place : List Nat) : [] ≤ place := by
  rw [← not_lt]
  exact List.not_lt_nil place

namespace Node

/-! ## The node at a place -/

/-- The nodes directly inside an element. -/
def children : Node → List Node
  | .element _ _ children => children
  | _ => []

/-- The node at a place. -/
def at? : Node → List Nat → Option Node
  | node, [] => some node
  | node, i :: place => node.children[i]?.bind fun child => child.at? place

@[simp] theorem at?_nil (node : Node) : node.at? [] = some node := by
  rw [at?]

theorem at?_cons_eq_some_iff {node found : Node} {i : Nat} {place : List Nat} :
    node.at? (i :: place) = some found ↔
      ∃ child, node.children[i]? = some child ∧ child.at? place = some found := by
  rw [at?, Option.bind_eq_some_iff]

/-! ## All nodes in document order -/

mutual

/-- The nodes of a tree with their places, in document order. -/
def placed : Node → List (List Nat × Node)
  | .text s => [([], .text s)]
  | .raw s => [([], .raw s)]
  | .element tag attrs children => ([], .element tag attrs children) :: placedFrom 0 children

/-- The nodes of some trees, which are the children of an element from a position on. -/
def placedFrom (position : Nat) : List Node → List (List Nat × Node)
  | [] => []
  | child :: rest =>
    (placed child).map (fun found => (position :: found.1, found.2)) ++
      placedFrom (position + 1) rest

end

mutual

/-- Every node is listed with its place, and nothing else. -/
theorem mem_placed : ∀ {root node : Node} {place : List Nat},
    (place, node) ∈ root.placed ↔ root.at? place = some node
  | .text s, node, place => by
    cases place <;> simp [placed, at?, children, eq_comm]
  | .raw s, node, place => by
    cases place <;> simp [placed, at?, children, eq_comm]
  | .element tag attrs children, node, place => by
    rw [placed, List.mem_cons, mem_placedFrom]
    cases place with
    | nil => simp [eq_comm]
    | cons i place => simp [at?_cons_eq_some_iff, Node.children]

theorem mem_placedFrom : ∀ {nodes : List Node} {position : Nat} {node : Node} {place : List Nat},
    (place, node) ∈ placedFrom position nodes ↔ ∃ i rest child, place = (position + i) :: rest ∧
      nodes[i]? = some child ∧ child.at? rest = some node
  | [], position, node, place => by simp [placedFrom]
  | first :: others, position, node, place => by
    rw [placedFrom, List.mem_append, List.mem_map, mem_placedFrom]
    constructor
    · rintro (⟨⟨rest, found⟩, hfound, heq⟩ | ⟨i, rest, child, rfl, hchild, hat⟩)
      · obtain ⟨rfl, rfl⟩ := Prod.mk.inj heq
        exact ⟨0, rest, first, rfl, rfl, mem_placed.mp hfound⟩
      · exact ⟨i + 1, rest, child, by rw [Nat.add_right_comm, Nat.add_assoc], hchild, hat⟩
    · rintro ⟨i, rest, child, rfl, hchild, hat⟩
      cases i with
      | zero =>
        obtain rfl := Option.some.inj hchild
        exact Or.inl ⟨(rest, node), mem_placed.mpr hat, rfl⟩
      | succ i =>
        exact Or.inr ⟨i, rest, child, by rw [Nat.add_right_comm, Nat.add_assoc], hchild, hat⟩

end

mutual

/-- The nodes are listed in document order. -/
theorem pairwise_placed : ∀ root : Node, root.placed.Pairwise fun a b => a.1 < b.1
  | .text _ => List.pairwise_singleton _ _
  | .raw _ => List.pairwise_singleton _ _
  | .element tag attrs children => by
    refine List.pairwise_cons.mpr ⟨?_, pairwise_placedFrom children 0⟩
    rintro ⟨place, node⟩ hfound
    obtain ⟨i, rest, -, rfl, -⟩ := mem_placedFrom.mp hfound
    exact List.nil_lt_cons _ _

theorem pairwise_placedFrom : ∀ (nodes : List Node) (position : Nat),
    (placedFrom position nodes).Pairwise fun a b => a.1 < b.1
  | [], _ => .nil
  | first :: others, position => by
    refine List.pairwise_append.mpr ⟨?_, pairwise_placedFrom others (position + 1), ?_⟩
    · refine List.pairwise_map.mpr ((pairwise_placed first).imp fun hlt => ?_)
      exact place_lt_cons_iff.mpr (Or.inr ⟨rfl, hlt⟩)
    · intro a ha b hb
      obtain ⟨found, -, rfl⟩ := List.mem_map.mp ha
      obtain ⟨i, rest, -, heq, -⟩ := mem_placedFrom.mp hb
      rw [heq]
      exact place_lt_cons_iff.mpr (Or.inl (by omega))

end

/-- The tag and the attributes of an element. -/
def head? : Node → Option (String × Assoc String AttrValue)
  | .element tag attrs _ => some (tag, attrs)
  | _ => none

mutual

/-- The elements of a tree are listed in document order. -/
theorem elements_eq_filterMap_placed : ∀ root : Node,
    root.elements = root.placed.filterMap fun found => found.2.head?
  | .text _ => rfl
  | .raw _ => rfl
  | .element tag attrs children => by
    rw [elements, placed, elementsOf_eq_filterMap_placedFrom children 0]
    rfl

theorem elementsOf_eq_filterMap_placedFrom : ∀ (nodes : List Node) (position : Nat),
    elementsOf nodes = (placedFrom position nodes).filterMap fun found => found.2.head?
  | [], _ => rfl
  | first :: others, position => by
    rw [elementsOf, placedFrom, List.filterMap_append, List.filterMap_map,
      elements_eq_filterMap_placed first, elementsOf_eq_filterMap_placedFrom others (position + 1)]
    rfl

end

theorem elementsOf_append (nodes others : List Node) :
    elementsOf (nodes ++ others) = elementsOf nodes ++ elementsOf others := by
  induction nodes with
  | nil => rfl
  | cons node rest ih =>
    rw [List.cons_append, elementsOf, elementsOf, ih, List.append_assoc]

end Node

end SalonBooking
