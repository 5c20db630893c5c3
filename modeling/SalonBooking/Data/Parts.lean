/-!
# Lists and texts with parts left out

Small combinations that occur in every text and list of a form: a part that is
there only sometimes, texts joined without the empty ones, and lists without
repetitions.

* `mem_distinct`, `nodup_distinct`: `distinct` keeps the items and drops what is
  there twice.
-/

namespace SalonBooking

/-- One item if a condition holds, none otherwise. -/
def itemIf {α : Type} (condition : Bool) (a : α) : List α :=
  if condition then [a] else []

/-- The first text unless it is empty, then the second. -/
def orText (s t : String) : String :=
  if s.isEmpty then t else s

/-- The texts that are not empty, with a separator between them. -/
def joinNonEmpty (separator : String) (texts : List String) : String :=
  separator.intercalate (texts.filter fun s => !s.isEmpty)

/-- Some items without repetition, and then those of a list that are not among them, each at its
first place only. -/
def addDistinct (seen xs : List String) : List String :=
  xs.foldl (fun seen x => if seen.contains x then seen else seen ++ [x]) seen

/-- The items of a list, each at its first place only. -/
def distinct (xs : List String) : List String :=
  addDistinct [] xs

@[simp] theorem itemIf_true {α : Type} (a : α) : itemIf true a = [a] := rfl

@[simp] theorem itemIf_false {α : Type} (a : α) : itemIf false a = [] := rfl

theorem addDistinct_cons (seen : List String) (x : String) (rest : List String) :
    addDistinct seen (x :: rest) = addDistinct (if x ∈ seen then seen else seen ++ [x]) rest := by
  simp [addDistinct]

theorem mem_addDistinct {x : String} {seen xs : List String} :
    x ∈ addDistinct seen xs ↔ x ∈ seen ∨ x ∈ xs := by
  induction xs generalizing seen with
  | nil => simp [addDistinct]
  | cons y rest ih =>
    rw [addDistinct_cons, ih]
    by_cases h : y ∈ seen <;> grind

theorem nodup_addDistinct {seen : List String} (h : seen.Nodup) (xs : List String) :
    (addDistinct seen xs).Nodup := by
  induction xs generalizing seen with
  | nil => exact h
  | cons y rest ih =>
    rw [addDistinct_cons]
    by_cases hy : y ∈ seen
    · simpa [hy] using ih h
    · refine ih ?_
      rw [if_neg hy, List.nodup_append]
      refine ⟨h, by simp, ?_⟩
      intro a ha b hb
      rw [List.mem_singleton.mp hb]
      exact fun e => hy (e ▸ ha)

/-- Dropping repetitions keeps the items. -/
@[simp] theorem mem_distinct {x : String} {xs : List String} : x ∈ distinct xs ↔ x ∈ xs := by
  simp [distinct, mem_addDistinct]

/-- What is left has no repetitions. -/
theorem nodup_distinct (xs : List String) : (distinct xs).Nodup :=
  nodup_addDistinct List.nodup_nil xs

end SalonBooking
