import Mathlib.Data.List.Forall2

/-!
Facts about lists as such: first hits, lists in step, separators, and parts at the front.
-/

namespace RubyTree

variable {α β γ δ : Type}

section Hits

theorem findSome?_congr {f g : α → Option β} :
    ∀ {items : List α}, (∀ item ∈ items, f item = g item) → items.findSome? f = items.findSome? g
  | [], _ => rfl
  | item :: rest, agree => by
    rw [List.findSome?_cons, List.findSome?_cons, agree item (by simp),
      findSome?_congr fun other member => agree other (by simp [member])]

theorem findSome?_flatMap (items : List α) (f : α → List β) (g : β → Option γ) :
    (items.flatMap f).findSome? g = items.findSome? fun item => (f item).findSome? g := by
  induction items with
  | nil => rfl
  | cons item rest ih =>
    simp only [List.flatMap_cons, List.findSome?_append, List.findSome?_cons, ih]
    cases (f item).findSome? g <;> rfl

end Hits

section Steps

variable {relation : α → β → Prop} {items : List α} {items' : List β}

theorem getElem?_rel (related : List.Forall₂ relation items items') (index : Nat) :
    Option.Rel relation items[index]? items'[index]? := by
  induction related generalizing index with
  | nil => exact .none
  | cons first _ ih =>
    cases index with
    | zero => exact .some first
    | succ index => simpa using ih index

theorem findSome?_rel {related : γ → δ → Prop} {f : α → Option γ} {g : β → Option δ}
    (pairs : List.Forall₂ relation items items')
    (each : ∀ x ∈ items, ∀ y, relation x y → Option.Rel related (f x) (g y)) :
    Option.Rel related (items.findSome? f) (items'.findSome? g) := by
  induction pairs with
  | nil => exact .none
  | @cons x y _ _ pair _ ih =>
    have first := each x (by simp) y pair
    have rest := ih fun x member => each x (by simp [member])
    rw [List.findSome?_cons, List.findSome?_cons]
    generalize f x = found, g y = found' at first
    cases first with
    | none => exact rest
    | some holds => exact .some holds

end Steps

section Separators

theorem intercalate_cons_eq_flatMap (separator first : List α) (rest : List (List α)) :
    separator.intercalate (first :: rest) = first ++ rest.flatMap (separator ++ ·) := by
  induction rest generalizing first with
  | nil => simp
  | cons second rest ih => rw [List.intercalate_cons_cons, ih]; simp

/-- A delimiter stands before the last text if there is one before it. -/
theorem intercalate_concat (delimiter : String) (texts : List String) (last : String) :
    delimiter.intercalate (texts ++ [last]) =
      delimiter.intercalate texts ++ (if 0 < texts.length then delimiter else "") ++ last := by
  cases texts with
  | nil => simp
  | cons text rest =>
    rw [String.intercalate_append_of_ne_nil (by simp) (by simp)]
    simp

end Separators

theorem prefix_append_cases {part first second : List α} (isPrefix : part <+: first ++ second) :
    part <+: first ∨ ∃ rest, rest <+: second ∧ part = first ++ rest := by
  rcases List.prefix_or_prefix_of_prefix isPrefix (List.prefix_append first second) with within | ⟨rest, rfl⟩
  · exact .inl within
  · exact .inr ⟨rest, (List.prefix_append_right_inj first).mp isPrefix, rfl⟩

end RubyTree
