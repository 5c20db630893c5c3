import SalonBooking.Proofs.Markup.Places

/-!
# What rendering refuses

Rendering goes through a tree in document order and stops at the first raw text
that stands where none may, or at the first attribute with a number that the
machine does not convert.  It does not look into void elements: what is in them
is neither written nor refused.

`IsMisplaced` says of a place and a tag that a raw text stands there, directly
in an element of that tag, and `IsOverlong` of a place that an element with such
a number stands there.  Both are an `IsObstacle`, with the error that it makes.
`Outcome` is what obstacles have to do with the result of rendering, and
`render_outcome` the induction over the tree; the children of an element have
their own predicate for it, `IsObstacleIn`.

* `isObstacle_element_iff`: what an obstacle in an element is.
* `render_emptied`: what is in void elements does not count.
* `misplaced_raw_refused`: which trees are refused, and on account of what.
-/

namespace SalonBooking

namespace Node

/-! ## Obstacles -/

/-- No element above a place is void, so what stands there is looked at. -/
def IsReached (root : Node) (place : List Nat) : Prop :=
  ∀ above tag attrs children, above <+: place → above ≠ place →
    root.at? above = some (.element tag attrs children) → tag ∉ voidTags

/-- A raw text stands at a place, directly in an element of a tag that takes none, and rendering
reaches it. -/
structure IsMisplaced (root : Node) (place : List Nat) (tag : String) : Prop where
  raw : ∃ above position attrs children s, place = above ++ [position] ∧
    root.at? above = some (.element tag attrs children) ∧ children[position]? = some (.raw s)
  takesNone : tag ∉ rawTextTags
  reached : root.IsReached place

/-- An element stands at a place that has a number among its attributes which is not converted, and
rendering reaches it. -/
structure IsOverlong (limits : Limits) (root : Node) (place : List Nat) : Prop where
  number : ∃ tag attrs children name n, root.at? place = some (.element tag attrs children) ∧
    (name, .number n) ∈ attrs ∧ limits.text? n = none
  reached : root.IsReached place

/-- What rendering does not get past, with the error that it makes. -/
inductive IsObstacle (limits : Limits) (root : Node) (place : List Nat) : MarkupError → Prop where
  | raw {tag : String} (h : root.IsMisplaced place tag) :
    IsObstacle limits root place (.misplacedRaw tag)
  | number (h : root.IsOverlong limits place) : IsObstacle limits root place .integerTooLong

/-- The same among the children of an element: the first step of the place leads to one of them. -/
def IsObstacleIn (limits : Limits) (tag : String) (nodes : List Node) :
    List Nat → MarkupError → Prop
  | [], _ => False
  | position :: place, e => ∃ child, nodes[position]? = some child ∧
    (place = [] ∧ child.isRaw = true ∧ tag ∉ rawTextTags ∧ e = .misplacedRaw tag ∨
      child.IsObstacle limits place e)

theorem isRaw_iff {node : Node} : node.isRaw = true ↔ ∃ s, node = .raw s := by
  cases node <;> simp [isRaw]

theorem attrsHaveTexts_eq_false_iff {limits : Limits} {attrs : List (String × AttrValue)} :
    attrsHaveTexts limits attrs = false ↔
      ∃ name n, (name, .number n) ∈ attrs ∧ limits.text? n = none := by
  rw [attrsHaveTexts, List.all_eq_false]
  constructor
  · rintro ⟨⟨name, value⟩, hmem, hvalue⟩
    cases value with
    | number n => exact ⟨name, n, hmem, by simpa [AttrValue.hasText] using hvalue⟩
    | text | flag | absent => exact absurd rfl hvalue
  · rintro ⟨name, n, hmem, hn⟩
    exact ⟨(name, .number n), hmem, by simp [AttrValue.hasText, hn]⟩

/-- Only an element has places below its own. -/
theorem at?_eq_some_of_leaf {node found : Node} (h : node.head? = none) {place : List Nat}
    (hat : node.at? place = some found) : place = [] ∧ found = node := by
  cases place with
  | nil => exact ⟨rfl, (Option.some.inj hat).symm⟩
  | cons i place =>
    obtain ⟨child, hchild, -⟩ := at?_cons_eq_some_iff.mp hat
    cases node with
    | element => cases h
    | text | raw => cases hchild

theorem not_isMisplaced {node : Node} (h : node.head? = none) (place : List Nat) (tag : String) :
    ¬ node.IsMisplaced place tag := by
  rintro ⟨⟨above, position, attrs, children, s, -, hparent, -⟩, -, -⟩
  obtain ⟨-, rfl⟩ := at?_eq_some_of_leaf h hparent
  cases h

theorem not_isObstacle {limits : Limits} {node : Node} (h : node.head? = none) (place : List Nat)
    (e : MarkupError) : ¬ node.IsObstacle limits place e := by
  rintro (hraw | ⟨⟨tag, attrs, children, name, n, hat, -, -⟩, -⟩)
  · exact not_isMisplaced h place _ hraw
  · obtain ⟨-, rfl⟩ := at?_eq_some_of_leaf h hat
    cases h

section

variable {limits : Limits} {tag : String} {attrs : List (String × AttrValue)}
  {children rest : List Node} {child root : Node} {place : List Nat} {position : Nat}
  {e : MarkupError}

theorem isReached_nil : root.IsReached [] := by
  intro above tag attrs children habove hne
  exact absurd (List.prefix_nil.mp habove) hne

/-- A place in an element is reached in a child, unless the element is void. -/
theorem isReached_cons_iff (hchild : children[position]? = some child) :
    (Node.element tag attrs children).IsReached (position :: place) ↔
      tag ∉ voidTags ∧ child.IsReached place := by
  constructor
  · intro h
    refine ⟨h [] tag attrs children List.nil_prefix (List.cons_ne_nil _ _).symm (at?_nil _), ?_⟩
    intro above tag' attrs' children' habove hne hat
    exact h (position :: above) tag' attrs' children' (List.cons_prefix_cons.mpr ⟨rfl, habove⟩)
      (fun heq => hne (List.cons.inj heq).2) (at?_cons_eq_some_iff.mpr ⟨child, hchild, hat⟩)
  · rintro ⟨hvoid, h⟩ above tag' attrs' children' habove hne hat
    cases above with
    | nil =>
      obtain ⟨rfl, -, -⟩ := Node.element.inj (Option.some.inj hat)
      exact hvoid
    | cons i above =>
      obtain ⟨rfl, hbelow⟩ := List.cons_prefix_cons.mp habove
      obtain ⟨node, hnode, hat⟩ := at?_cons_eq_some_iff.mp hat
      obtain rfl : child = node := Option.some.inj (hchild.symm.trans hnode)
      exact h above tag' attrs' children' hbelow (fun heq => hne (heq ▸ rfl)) hat

/-- A raw text directly in an element, or misplaced in a child of it. -/
theorem isMisplaced_cons_iff {found : String} :
    (Node.element tag attrs children).IsMisplaced (position :: place) found ↔
      tag ∉ voidTags ∧ ∃ child, children[position]? = some child ∧
        (place = [] ∧ child.isRaw = true ∧ tag ∉ rawTextTags ∧ found = tag ∨
          child.IsMisplaced place found) := by
  constructor
  · rintro ⟨⟨above, last, attrs', children', s, hplace, hparent, hraw⟩, htakesNone, hreached⟩
    cases above with
    | nil =>
      obtain ⟨rfl, rfl⟩ := List.cons.inj hplace
      obtain ⟨rfl, rfl, rfl⟩ := Node.element.inj (Option.some.inj hparent)
      exact ⟨((isReached_cons_iff hraw).mp hreached).1, _, hraw, Or.inl ⟨rfl, rfl, htakesNone, rfl⟩⟩
    | cons i above =>
      obtain ⟨rfl, rfl⟩ := List.cons.inj hplace
      obtain ⟨child, hchild, hparent⟩ := at?_cons_eq_some_iff.mp hparent
      obtain ⟨hvoid, hreached⟩ := (isReached_cons_iff hchild).mp hreached
      exact ⟨hvoid, child, hchild,
        Or.inr ⟨⟨above, last, attrs', children', s, rfl, hparent, hraw⟩, htakesNone, hreached⟩⟩
  · rintro ⟨hvoid, child, hchild, ⟨rfl, hraw, htakesNone, rfl⟩ | hinside⟩
    · obtain ⟨s, rfl⟩ := isRaw_iff.mp hraw
      exact ⟨⟨[], position, attrs, children, s, rfl, at?_nil _, hchild⟩, htakesNone,
        (isReached_cons_iff hchild).mpr ⟨hvoid, isReached_nil⟩⟩
    · obtain ⟨⟨above, last, attrs', children', s, rfl, hparent, hraw⟩, htakesNone, hreached⟩ :=
        hinside
      exact ⟨⟨position :: above, last, attrs', children', s, rfl,
        at?_cons_eq_some_iff.mpr ⟨child, hchild, hparent⟩, hraw⟩, htakesNone,
        (isReached_cons_iff hchild).mpr ⟨hvoid, hreached⟩⟩

theorem isOverlong_cons_iff :
    (Node.element tag attrs children).IsOverlong limits (position :: place) ↔
      tag ∉ voidTags ∧ ∃ child, children[position]? = some child ∧
        child.IsOverlong limits place := by
  constructor
  · rintro ⟨⟨tag', attrs', children', name, n, hat, hnumber⟩, hreached⟩
    obtain ⟨child, hchild, hat⟩ := at?_cons_eq_some_iff.mp hat
    obtain ⟨hvoid, hreached⟩ := (isReached_cons_iff hchild).mp hreached
    exact ⟨hvoid, child, hchild, ⟨tag', attrs', children', name, n, hat, hnumber⟩, hreached⟩
  · rintro ⟨hvoid, child, hchild, ⟨tag', attrs', children', name, n, hat, hnumber⟩, hreached⟩
    exact ⟨⟨tag', attrs', children', name, n, at?_cons_eq_some_iff.mpr ⟨child, hchild, hat⟩,
      hnumber⟩, (isReached_cons_iff hchild).mpr ⟨hvoid, hreached⟩⟩

/-- The obstacle at an element itself is a number among its attributes. -/
theorem isObstacle_nil_iff : (Node.element tag attrs children).IsObstacle limits [] e ↔
    attrsHaveTexts limits attrs = false ∧ e = .integerTooLong := by
  rw [attrsHaveTexts_eq_false_iff]
  constructor
  · rintro (⟨⟨above, position, -, -, -, hplace, -⟩, -, -⟩ |
      ⟨⟨tag', attrs', children', name, n, hat, hmem, hn⟩, -⟩)
    · cases above <;> cases hplace
    · obtain ⟨rfl, rfl, rfl⟩ := Node.element.inj (Option.some.inj hat)
      exact ⟨⟨name, n, hmem, hn⟩, rfl⟩
  · rintro ⟨⟨name, n, hmem, hn⟩, rfl⟩
    exact .number ⟨⟨tag, attrs, children, name, n, at?_nil _, hmem, hn⟩, isReached_nil⟩

theorem isObstacle_cons_iff :
    (Node.element tag attrs children).IsObstacle limits (position :: place) e ↔
      tag ∉ voidTags ∧ IsObstacleIn limits tag children (position :: place) e := by
  constructor
  · rintro (hraw | hnumber)
    · obtain ⟨hvoid, child, hchild, ⟨hplace, hisRaw, htag, rfl⟩ | hinside⟩ :=
        isMisplaced_cons_iff.mp hraw
      · exact ⟨hvoid, child, hchild, Or.inl ⟨hplace, hisRaw, htag, rfl⟩⟩
      · exact ⟨hvoid, child, hchild, Or.inr (.raw hinside)⟩
    · obtain ⟨hvoid, child, hchild, hinside⟩ := isOverlong_cons_iff.mp hnumber
      exact ⟨hvoid, child, hchild, Or.inr (.number hinside)⟩
  · rintro ⟨hvoid, child, hchild, ⟨hplace, hisRaw, htag, rfl⟩ | hraw | hnumber⟩
    · exact .raw (isMisplaced_cons_iff.mpr
        ⟨hvoid, child, hchild, Or.inl ⟨hplace, hisRaw, htag, rfl⟩⟩)
    · exact .raw (isMisplaced_cons_iff.mpr ⟨hvoid, child, hchild, Or.inr hraw⟩)
    · exact .number (isOverlong_cons_iff.mpr ⟨hvoid, child, hchild, hnumber⟩)

/-- An obstacle in an element is a number among its attributes, or one among its children, unless
the element is void. -/
theorem isObstacle_element_iff : (Node.element tag attrs children).IsObstacle limits place e ↔
    place = [] ∧ attrsHaveTexts limits attrs = false ∧ e = .integerTooLong ∨
      tag ∉ voidTags ∧ IsObstacleIn limits tag children place e := by
  cases place with
  | nil => simp [isObstacle_nil_iff, IsObstacleIn]
  | cons position place => simp [isObstacle_cons_iff]

theorem isObstacleIn_cons_zero : IsObstacleIn limits tag (child :: rest) (0 :: place) e ↔
    place = [] ∧ child.isRaw = true ∧ tag ∉ rawTextTags ∧ e = .misplacedRaw tag ∨
      child.IsObstacle limits place e := by
  simp [IsObstacleIn]

theorem isObstacleIn_cons_succ :
    IsObstacleIn limits tag (child :: rest) ((position + 1) :: place) e ↔
      IsObstacleIn limits tag rest (position :: place) e := by
  simp [IsObstacleIn]

end

/-! ## What rendering makes of them -/

/-- The first place in document order at which something holds, and what it holds of. -/
structure IsFirst {α : Type} (holdsAt : List Nat → α → Prop) (place : List Nat) (found : α) :
    Prop where
  holds : holdsAt place found
  least : ∀ other found', holdsAt other found' → place ≤ other

/-- How a text is to be made: there is one if there is no obstacle, and otherwise the error is that
of the first one. -/
def Outcome (obstacle : List Nat → MarkupError → Prop) : Except MarkupError String → Prop
  | .ok _ => ∀ place e, ¬ obstacle place e
  | .error e => ∃ place, IsFirst obstacle place e

section

variable {limits : Limits} {tag : String} {attrs : List (String × AttrValue)} {child : Node}
  {children rest : List Node} {place : List Nat} {e : MarkupError}

/-- A number among the attributes of an element is refused before anything in the element. -/
theorem isFirst_number (h : attrsHaveTexts limits attrs = false) :
    IsFirst ((Node.element tag attrs children).IsObstacle limits) [] .integerTooLong where
  holds := isObstacle_nil_iff.mpr ⟨h, rfl⟩
  least other _ _ := nil_le_place other

/-- A raw text is refused before anything behind it. -/
theorem isFirst_raw (hraw : child.isRaw = true) (htag : tag ∉ rawTextTags) :
    IsFirst (IsObstacleIn limits tag (child :: rest)) [0] (.misplacedRaw tag) where
  holds := isObstacleIn_cons_zero.mpr (Or.inl ⟨rfl, hraw, htag, rfl⟩)
  least other e h := by
    cases other with
    | nil => exact h.elim
    | cons i other =>
      rw [place_le_cons_iff]
      rcases Nat.eq_zero_or_pos i with rfl | hi
      · exact Or.inr ⟨rfl, nil_le_place other⟩
      · exact Or.inl hi

/-- Among the children the first one with an obstacle decides. -/
theorem isFirst_cons_of_child (hraw : ¬ (child.isRaw = true ∧ tag ∉ rawTextTags))
    (h : IsFirst (child.IsObstacle limits) place e) :
    IsFirst (IsObstacleIn limits tag (child :: rest)) (0 :: place) e where
  holds := isObstacleIn_cons_zero.mpr (Or.inr h.holds)
  least other e' hother := by
    cases other with
    | nil => exact hother.elim
    | cons i other =>
      rw [place_le_cons_iff]
      rcases Nat.eq_zero_or_pos i with rfl | hi
      · rcases isObstacleIn_cons_zero.mp hother with ⟨-, hisRaw, htag, -⟩ | hother
        · exact absurd ⟨hisRaw, htag⟩ hraw
        · exact Or.inr ⟨rfl, h.least other e' hother⟩
      · exact Or.inl hi

/-- A child without an obstacle only moves the others by one. -/
theorem isObstacleIn_cons_iff (hraw : ¬ (child.isRaw = true ∧ tag ∉ rawTextTags))
    (hchild : ∀ place e, ¬ child.IsObstacle limits place e) :
    IsObstacleIn limits tag (child :: rest) place e ↔ ∃ position below,
      place = (position + 1) :: below ∧ IsObstacleIn limits tag rest (position :: below) e := by
  constructor
  · intro h
    match place with
    | [] => exact h.elim
    | 0 :: below =>
      rcases isObstacleIn_cons_zero.mp h with ⟨-, hisRaw, htag, -⟩ | h
      · exact absurd ⟨hisRaw, htag⟩ hraw
      · exact absurd h (hchild below e)
    | (position + 1) :: below => exact ⟨position, below, rfl, isObstacleIn_cons_succ.mp h⟩
  · rintro ⟨position, below, rfl, h⟩
    exact isObstacleIn_cons_succ.mpr h

theorem isFirst_cons_of_rest (hraw : ¬ (child.isRaw = true ∧ tag ∉ rawTextTags))
    (hchild : ∀ place e, ¬ child.IsObstacle limits place e)
    (h : IsFirst (IsObstacleIn limits tag rest) place e) :
    ∃ moved, IsFirst (IsObstacleIn limits tag (child :: rest)) moved e := by
  cases place with
  | nil => exact h.holds.elim
  | cons position below =>
    refine ⟨(position + 1) :: below, isObstacleIn_cons_succ.mpr h.holds, fun other e' hother => ?_⟩
    obtain ⟨i, other, rfl, hother⟩ := (isObstacleIn_cons_iff hraw hchild).mp hother
    rw [place_le_cons_iff]
    rcases place_le_cons_iff.mp (h.least _ e' hother) with hlt | ⟨rfl, hle⟩
    · exact Or.inl (Nat.succ_lt_succ hlt)
    · exact Or.inr ⟨rfl, hle⟩

end

mutual

/-- Rendering a tree fails on account of its first obstacle. -/
theorem render_outcome (limits : Limits) :
    ∀ root : Node, Outcome (root.IsObstacle limits) (root.render limits)
  | .text s => not_isObstacle rfl
  | .raw s => not_isObstacle rfl
  | .element tag attrs children => by
    have hinside := renderChildren_outcome limits tag children
    rw [render]
    by_cases hattrs : attrsHaveTexts limits attrs = true
    · have hnumber : ¬ attrsHaveTexts limits attrs = false := by simp [hattrs]
      rw [hattrs, if_neg (by decide)]
      by_cases hvoid : tag ∈ voidTags
      · -- An obstacle in the element would not be reached.
        rw [if_pos (List.contains_iff_mem.mpr hvoid)]
        intro place e h
        rcases isObstacle_element_iff.mp h with ⟨-, hfalse, -⟩ | ⟨htag, -⟩
        · exact hnumber hfalse
        · exact htag hvoid
      · rw [if_neg fun h => hvoid (List.contains_iff_mem.mp h)]
        have hiff (place : List Nat) (e : MarkupError) :
            (Node.element tag attrs children).IsObstacle limits place e ↔
              IsObstacleIn limits tag children place e := by
          simp [isObstacle_element_iff, hnumber, hvoid]
        cases hbody : renderChildren limits tag children with
        | ok body =>
          rw [hbody] at hinside
          exact fun place e h => hinside place e ((hiff place e).mp h)
        | error e =>
          rw [hbody] at hinside
          obtain ⟨place, hholds, hleast⟩ := hinside
          exact ⟨place, (hiff place e).mpr hholds,
            fun other e' h => hleast other e' ((hiff other e').mp h)⟩
    · rw [Bool.not_eq_true] at hattrs
      rw [hattrs, if_pos (by decide)]
      exact ⟨[], isFirst_number hattrs⟩

/-- So does rendering the children of an element. -/
theorem renderChildren_outcome (limits : Limits) (tag : String) : ∀ nodes : List Node,
    Outcome (IsObstacleIn limits tag nodes) (renderChildren limits tag nodes)
  | [] => fun place e h => by
    cases place with
    | nil => exact h
    | cons position place =>
      obtain ⟨child, hchild, -⟩ := h
      cases hchild
  | child :: rest => by
    have hfirst := render_outcome limits child
    have hothers := renderChildren_outcome limits tag rest
    rw [renderChildren]
    -- A raw text here is the first of all; else the child decides, and only then the others.
    by_cases hraw : child.isRaw = true ∧ tag ∉ rawTextTags
    · rw [if_pos (by simpa using hraw)]
      exact ⟨[0], isFirst_raw hraw.1 hraw.2⟩
    · rw [if_neg (by simpa using hraw)]
      cases hchild : child.render limits with
      | error e =>
        rw [hchild] at hfirst
        obtain ⟨place, hplace⟩ := hfirst
        exact ⟨0 :: place, isFirst_cons_of_child hraw hplace⟩
      | ok first =>
        rw [hchild] at hfirst
        cases hrest : renderChildren limits tag rest with
        | error e =>
          rw [hrest] at hothers
          obtain ⟨place, hplace⟩ := hothers
          exact isFirst_cons_of_rest hraw hfirst hplace
        | ok others =>
          rw [hrest] at hothers
          intro place e h
          obtain ⟨position, below, -, h⟩ := (isObstacleIn_cons_iff hraw hfirst).mp h
          exact hothers _ e h

end

/-- No number is too long in a tree if none is in any of its elements. -/
theorem not_isOverlong_of_elements {limits : Limits} {root : Node}
    (h : ∀ element ∈ root.elements, attrsHaveTexts limits element.2 = true) (place : List Nat) :
    ¬ root.IsOverlong limits place := by
  rintro ⟨⟨tag, attrs, children, name, n, hat, hmem, hn⟩, -⟩
  have hplaced := mem_placed.mpr hat
  have helement : (tag, attrs) ∈ root.elements := by
    rw [elements_eq_filterMap_placed]
    exact List.mem_filterMap.mpr ⟨_, hplaced, rfl⟩
  have hfalse := attrsHaveTexts_eq_false_iff.mpr ⟨name, n, hmem, hn⟩
  rw [h _ helement] at hfalse
  exact Bool.noConfusion hfalse

/-- On a machine without a bound on digits no number is too long. -/
theorem not_isOverlong {limits : Limits} (h : limits.maxDigits = none) (root : Node)
    (place : List Nat) : ¬ root.IsOverlong limits place := by
  rintro ⟨⟨tag, attrs, children, name, n, -, -, hn⟩, -⟩
  rw [Limits.text?, Limits.allows_of_eq_none h, if_pos rfl] at hn
  cases hn

/-- Without a number that is too long the obstacles are the misplaced raw texts. -/
theorem IsFirst.misplaced {limits : Limits} {root : Node} {place : List Nat} {e : MarkupError}
    (h : IsFirst (root.IsObstacle limits) place e)
    (hnumbers : ∀ place, ¬ root.IsOverlong limits place) :
    ∃ tag, e = .misplacedRaw tag ∧ IsFirst root.IsMisplaced place tag := by
  cases h.holds with
  | number hnumber => exact absurd hnumber (hnumbers place)
  | @raw tag hraw => exact ⟨tag, rfl, hraw, fun other tag' hother => h.least other _ (.raw hother)⟩

/-! ## Inside of void elements -/

mutual

/-- A tree with nothing inside of its void elements. -/
def emptied : Node → Node
  | .text s => .text s
  | .raw s => .raw s
  | .element tag attrs children =>
    .element tag attrs (if voidTags.contains tag then [] else emptiedAll children)

/-- The same for some trees. -/
def emptiedAll : List Node → List Node
  | [] => []
  | node :: rest => node.emptied :: emptiedAll rest

end

theorem isRaw_emptied (node : Node) : node.emptied.isRaw = node.isRaw := by
  cases node <;> rfl

mutual

/-- What is in void elements is not written. -/
theorem render_emptied (limits : Limits) :
    ∀ node : Node, node.emptied.render limits = node.render limits
  | .text _ => rfl
  | .raw _ => rfl
  | .element tag attrs children => by
    rw [emptied, render, render]
    by_cases hvoid : voidTags.contains tag = true
    · rw [if_pos hvoid, if_pos hvoid]
    · rw [if_neg hvoid, if_neg hvoid, if_neg hvoid, renderChildren_emptiedAll limits tag children]

theorem renderChildren_emptiedAll (limits : Limits) (tag : String) : ∀ nodes : List Node,
    renderChildren limits tag (emptiedAll nodes) = renderChildren limits tag nodes
  | [] => rfl
  | node :: rest => by
    rw [emptiedAll, renderChildren, renderChildren, isRaw_emptied, render_emptied limits node,
      renderChildren_emptiedAll limits tag rest]

end

end Node

end SalonBooking
