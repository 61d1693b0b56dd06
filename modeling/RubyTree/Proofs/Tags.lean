import RubyTree.Tag

/-!
Node types and their names.
-/

namespace RubyTree

/-- A letter or underscore of ASCII, then letters, digits and underscores. -/
inductive TagName : List Char → Prop where
  | mk {first : Char} {rest : List Char} (start : first.isAlpha = true ∨ first = '_')
    (more : ∀ c ∈ rest, c.isAlphanum = true ∨ c = '_') : TagName (first :: rest)

theorem tagName_iff (text : List Char) : TagName text ↔ isTagName text = true := by
  constructor
  · rintro ⟨start, more⟩
    simpa [isTagName] using ⟨start, more⟩
  · intro valid
    cases text with
    | nil => cases valid
    | cons first rest =>
      simp only [isTagName, Bool.and_eq_true, Bool.or_eq_true, beq_iff_eq, List.all_eq_true] at valid
      exact ⟨valid.1, valid.2⟩

theorem Kind.mem_all (kind : Kind) : kind ∈ Kind.all := by
  cases kind <;> decide

theorem Kind.name_of_ofName? {name : String} {kind : Kind} (found : Kind.ofName? name = some kind) :
    kind.name = name := by
  simpa using List.find?_some found

theorem Kind.name_ne_of_ofName? {name : String} (unknown : Kind.ofName? name = none) (kind : Kind) :
    kind.name ≠ name := by
  simpa using List.find?_eq_none.mp unknown kind kind.mem_all

@[simp] theorem Tag.name_ofName (name : String) : (Tag.ofName name).name = name := by
  unfold Tag.ofName
  split
  · next found => exact Kind.name_of_ofName? found
  · rfl

theorem Tag.ofName_inj {name other : String} : Tag.ofName name = Tag.ofName other ↔ name = other := by
  refine ⟨fun same => ?_, congrArg Tag.ofName⟩
  simpa using congrArg Tag.name same

theorem Tag.ofName_name (kind : Kind) : Tag.ofName kind.name = .known kind := by
  cases kind <;> rfl

/-- Every type is that of its name, if `other` is kept for names that no kind has. -/
theorem Tag.ofName_name_of_canonical {tag : Tag}
    (canonical : ∀ name, tag = .other name → ∀ kind : Kind, kind.name ≠ name) :
    Tag.ofName tag.name = tag := by
  cases tag with
  | known kind => exact Tag.ofName_name kind
  | other name =>
    have unknown : Kind.ofName? name = none :=
      List.find?_eq_none.mpr fun kind _ => by simpa using canonical name rfl kind
    simp [Tag.ofName, Tag.name, unknown]

/-- A name that some kind has always leads to that kind. -/
theorem Tag.ne_of_ofName_other {name other : String} (unknown : Tag.ofName name = .other other)
    (kind : Kind) : kind.name ≠ other := by
  unfold Tag.ofName at unknown
  split at unknown
  · cases unknown
  · next absent =>
    cases unknown
    exact Kind.name_ne_of_ofName? absent kind

end RubyTree
