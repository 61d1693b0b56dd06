import RubyTree.Proofs.Numerals
import RubyTree.Proofs.Results
import RubyTree.Proofs.SourceSlices
import RubyTree.Proofs.Tags

/-!
What the check of a draft accepts and what it reports. The parts of a draft that can be wrong stand in an
order: the name of a node, its range, then its children with all that is below them. The check succeeds
exactly if no part is wrong, with a tree of the same form, and otherwise reports the first part that is.
-/

namespace RubyTree

section Statement

/-- A part of a draft that can be wrong by itself. A range comes with the name of its node. -/
inductive DraftPart where
  | tag (name : String)
  | range (name : String) (start stop : Nat)
  | integer (numeral : String)

def rangeParts (name : String) : Option (Nat × Nat) → List DraftPart
  | none => []
  | some (start, stop) => [.range name start stop]

mutual

/-- The parts of a node and of all that is below it, in order. -/
def DraftNode.parts : DraftNode → List DraftPart
  | ⟨name, children, range⟩ => [.tag name] ++ (rangeParts name range ++ partsBelow children)

def partsBelow : List DraftChild → List DraftPart
  | [] => []
  | .node value :: rest => value.parts ++ partsBelow rest
  | .atom _ :: rest => partsBelow rest
  | .integer numeral :: rest => .integer numeral :: partsBelow rest

end

/-- What is wrong with a part, in a document with the given source. -/
inductive DraftPart.Fault (buffer : Option Buffer) : DraftPart → LoadError → Prop where
  | tag {name : String} (invalid : ¬TagName name.toList) : Fault buffer (.tag name) (.invalidTag ⟨name⟩)
  | unsourced {name : String} {start stop : Nat} (missing : buffer = none) :
    Fault buffer (.range name start stop) (.missingSource (.ofName name))
  | misplaced {name : String} {start stop : Nat} {source : Buffer} (given : buffer = some source)
    (nothing : ¬∃ slice, Span.Covers ⟨source, start, stop⟩ slice) :
    Fault buffer (.range name start stop) (.invalidRange start stop)
  | integer {numeral : String} (invalid : ¬∃ value, Numeral.Denotes numeral.toList value) :
    Fault buffer (.integer numeral) (.invalidInteger numeral)

def DraftPart.Passes (buffer : Option Buffer) (part : DraftPart) : Prop := ∀ error, ¬part.Fault buffer error

/-- The first part of a list that does not pass, by its fault. -/
def FirstFault (buffer : Option Buffer) (parts : List DraftPart) (error : LoadError) : Prop :=
  ∃ before part after, parts = before ++ part :: after ∧ (∀ other ∈ before, other.Passes buffer) ∧
    part.Fault buffer error

mutual

def DraftNode.nodes : DraftNode → List DraftNode
  | ⟨name, children, range⟩ => ⟨name, children, range⟩ :: draftsBelow children

def draftsBelow : List DraftChild → List DraftNode
  | [] => []
  | .node value :: rest => value.nodes ++ draftsBelow rest
  | .atom _ :: rest => draftsBelow rest
  | .integer _ :: rest => draftsBelow rest

end

/-- A node of a draft in which nothing is wrong, apart from the nodes below it. -/
structure DraftNode.Sound (buffer : Option Buffer) (draft : DraftNode) : Prop where
  tagName : TagName draft.tag.toList
  range : ∀ start stop, draft.range = some (start, stop) →
    ∃ source slice, buffer = some source ∧ Span.Covers ⟨source, start, stop⟩ slice
  integers : ∀ numeral, .integer numeral ∈ draft.children → ∃ value, Numeral.Denotes numeral.toList value

/-- A span in the document's source, with the given offsets. -/
structure Located (buffer : Option Buffer) (range : Option (Nat × Nat)) (span : Option Span) : Prop where
  offsets : range = span.map fun span => (span.start, span.stop)
  source : ∀ part ∈ span, buffer = some part.buffer

mutual

/-- A draft and the tree of the same form: the same names and ranges, and children in the same order, with
integers as their numerals are kept. -/
inductive DraftNode.Becomes (buffer : Option Buffer) : DraftNode → Node → Prop where
  | mk {name : String} {drafts : List DraftChild} {children : List Child} {range : Option (Nat × Nat)}
    {span : Option Span} (located : Located buffer range span)
    (below : DraftsBecome buffer drafts children) :
    DraftNode.Becomes buffer ⟨name, drafts, range⟩ ⟨.ofName name, children, span⟩

inductive DraftsBecome (buffer : Option Buffer) : List DraftChild → List Child → Prop where
  | nil : DraftsBecome buffer [] []
  | node {draft : DraftNode} {node : Node} {drafts : List DraftChild} {children : List Child}
    (first : draft.Becomes buffer node) (rest : DraftsBecome buffer drafts children) :
    DraftsBecome buffer (.node draft :: drafts) (.node node :: children)
  | atom (value : Atom) {drafts : List DraftChild} {children : List Child}
    (rest : DraftsBecome buffer drafts children) :
    DraftsBecome buffer (.atom value :: drafts) (.atom value :: children)
  | integer {numeral : String} {value : Atom} {drafts : List DraftChild} {children : List Child}
    (kept : Numeral.KeptAs numeral value) (rest : DraftsBecome buffer drafts children) :
    DraftsBecome buffer (.integer numeral :: drafts) (.atom value :: children)

end

end Statement

section Parts

variable {buffer : Option Buffer} {draft : DraftNode} {part : DraftPart}

inductive DraftNode.Has (draft : DraftNode) : DraftPart → Prop where
  | tag : draft.Has (.tag draft.tag)
  | range {start stop : Nat} (given : draft.range = some (start, stop)) :
    draft.Has (.range draft.tag start stop)
  | integer {numeral : String} (child : .integer numeral ∈ draft.children) : draft.Has (.integer numeral)

theorem DraftPart.passes_tag {name : String} : (DraftPart.tag name).Passes buffer ↔ TagName name.toList := by
  constructor
  · intro passes
    by_contra invalid
    exact passes _ (.tag invalid)
  · intro valid error fault
    cases fault with
    | tag invalid => exact invalid valid

theorem DraftPart.passes_range {name : String} {start stop : Nat} :
    (DraftPart.range name start stop).Passes buffer ↔
      ∃ source slice, buffer = some source ∧ Span.Covers ⟨source, start, stop⟩ slice := by
  constructor
  · intro passes
    cases given : buffer with
    | none => exact absurd (.unsourced given) (passes _)
    | some source =>
      by_contra nothing
      refine passes _ (.misplaced given ?_)
      rintro ⟨slice, covers⟩
      exact nothing ⟨source, slice, rfl, covers⟩
  · rintro ⟨source, slice, rfl, covers⟩ error fault
    cases fault with
    | unsourced missing => cases missing
    | misplaced given nothing =>
      cases given
      exact nothing ⟨slice, covers⟩

theorem DraftPart.passes_integer {numeral : String} :
    (DraftPart.integer numeral).Passes buffer ↔ ∃ value, Numeral.Denotes numeral.toList value := by
  constructor
  · intro passes
    by_contra invalid
    exact passes _ (.integer invalid)
  · intro valid error fault
    cases fault with
    | integer invalid => exact invalid valid

theorem DraftNode.sound_iff : draft.Sound buffer ↔ ∀ part, draft.Has part → part.Passes buffer := by
  constructor
  · rintro sound part (_ | given | child)
    · exact DraftPart.passes_tag.mpr sound.tagName
    · exact DraftPart.passes_range.mpr (sound.range _ _ given)
    · exact DraftPart.passes_integer.mpr (sound.integers _ child)
  · intro passes
    exact ⟨DraftPart.passes_tag.mp (passes _ .tag),
      fun _ _ given => DraftPart.passes_range.mp (passes _ (.range given)),
      fun _ child => DraftPart.passes_integer.mp (passes _ (.integer child))⟩

theorem mem_rangeParts_iff {name : String} {range : Option (Nat × Nat)} :
    part ∈ rangeParts name range ↔
      ∃ start stop, range = some (start, stop) ∧ part = .range name start stop := by
  rcases range with _ | ⟨start, stop⟩
  · simp [rangeParts]
  · simp [rangeParts, and_assoc]

mutual

theorem DraftNode.mem_parts_iff : ∀ {draft : DraftNode} {part : DraftPart},
    part ∈ draft.parts ↔ ∃ below ∈ draft.nodes, below.Has part
  | ⟨name, children, range⟩, part => by
    rw [DraftNode.parts, DraftNode.nodes, List.mem_append, List.mem_singleton, List.mem_append,
      mem_rangeParts_iff, mem_partsBelow_iff]
    constructor
    · rintro (rfl | ⟨start, stop, given, rfl⟩ | ⟨numeral, rfl, child⟩ | ⟨below, deeper, has⟩)
      · exact ⟨_, List.mem_cons_self, .tag⟩
      · exact ⟨_, List.mem_cons_self, .range given⟩
      · exact ⟨_, List.mem_cons_self, .integer child⟩
      · exact ⟨below, List.mem_cons_of_mem _ deeper, has⟩
    · rintro ⟨below, member, has⟩
      rcases List.mem_cons.mp member with rfl | deeper
      · cases has with
        | tag => exact .inl rfl
        | range given => exact .inr (.inl ⟨_, _, given, rfl⟩)
        | integer child => exact .inr (.inr (.inl ⟨_, rfl, child⟩))
      · exact .inr (.inr (.inr ⟨below, deeper, has⟩))

theorem mem_partsBelow_iff : ∀ {drafts : List DraftChild} {part : DraftPart},
    part ∈ partsBelow drafts ↔
      (∃ numeral, part = .integer numeral ∧ .integer numeral ∈ drafts) ∨
        ∃ below ∈ draftsBelow drafts, below.Has part
  | [], part => by simp [partsBelow, draftsBelow]
  | .node value :: rest, part => by
    rw [partsBelow, draftsBelow, List.mem_append, value.mem_parts_iff, mem_partsBelow_iff]
    simp [or_and_right, exists_or, or_left_comm]
  | .atom value :: rest, part => by
    rw [partsBelow, draftsBelow, mem_partsBelow_iff]
    simp
  | .integer numeral :: rest, part => by
    rw [partsBelow, draftsBelow, List.mem_cons, mem_partsBelow_iff]
    simp [and_or_left, exists_or, or_assoc]

end

end Parts

section Checking

variable {α β : Type} {buffer : Option Buffer} {first second : List DraftPart} {error : LoadError}

theorem DraftPart.Fault.unique {part : DraftPart} {other : LoadError} (fault : part.Fault buffer error)
    (another : part.Fault buffer other) : error = other := by
  cases fault <;> cases another <;> simp_all

theorem FirstFault.not_passing (fault : FirstFault buffer first error) :
    ¬∀ part ∈ first, part.Passes buffer := by
  intro passing
  obtain ⟨before, part, after, rfl, _, fault⟩ := fault
  exact passing part (by simp) error fault

theorem FirstFault.unique {other : LoadError} (fault : FirstFault buffer first error)
    (another : FirstFault buffer first other) : error = other := by
  obtain ⟨before, part, after, rfl, passing, fault⟩ := fault
  obtain ⟨before', part', after', same, passing', fault'⟩ := another
  -- If the two places differ, the earlier one has to pass because of the later one.
  rcases List.append_eq_append_iff.mp same with ⟨more, rfl, rest⟩ | ⟨more, rfl, rest⟩
  all_goals rcases more with _ | ⟨next, more⟩ <;> obtain ⟨rfl, _⟩ := List.cons.inj rest
  · exact fault.unique fault'
  · exact absurd fault (passing' _ (by simp) _)
  · exact fault.unique fault'
  · exact absurd fault' (passing _ (by simp) _)

theorem FirstFault.append (fault : FirstFault buffer first error) (second : List DraftPart) :
    FirstFault buffer (first ++ second) error := by
  obtain ⟨before, part, after, rfl, passing, fault⟩ := fault
  exact ⟨before, part, after ++ second, by simp, passing, fault⟩

theorem FirstFault.after (passing : ∀ part ∈ first, part.Passes buffer)
    (fault : FirstFault buffer second error) : FirstFault buffer (first ++ second) error := by
  obtain ⟨before, part, after, rfl, alsoPassing, fault⟩ := fault
  exact ⟨first ++ before, part, after, by simp, List.forall_mem_append.mpr ⟨passing, alsoPassing⟩, fault⟩

/-- A computation that looks at parts of a draft: it gives a good value if they all pass, and otherwise
fails with the fault of the first that does not. -/
def Reports (buffer : Option Buffer) (parts : List DraftPart) (good : α → Prop) :
    Except LoadError α → Prop
  | .ok value => (∀ part ∈ parts, part.Passes buffer) ∧ good value
  | .error error => FirstFault buffer parts error

variable {good : α → Prop} {fine : β → Prop}

theorem Reports.bind {x : Except LoadError α} {f : α → Except LoadError β}
    (reports : Reports buffer first good x)
    (next : ∀ value, good value → Reports buffer second fine (f value)) :
    Reports buffer (first ++ second) fine (x >>= f) := by
  cases x with
  | error error => exact reports.append second
  | ok value =>
    obtain ⟨passing, isGood⟩ := reports
    have follows := next value isGood
    rw [ok_bind]
    cases result : f value with
    | error error =>
      rw [result] at follows
      exact follows.after passing
    | ok value =>
      rw [result] at follows
      exact ⟨List.forall_mem_append.mpr ⟨passing, follows.1⟩, follows.2⟩

theorem Reports.pure {value : α} (isGood : good value) : Reports buffer [] good (.ok value) :=
  ⟨by simp, isGood⟩

theorem Reports.passed {part : DraftPart} {value : α} (passes : part.Passes buffer) (isGood : good value) :
    Reports buffer [part] good (.ok value) :=
  ⟨by simpa using passes, isGood⟩

theorem Reports.failed {part : DraftPart} (fault : part.Fault buffer error) :
    Reports buffer [part] good (.error error) :=
  ⟨[], part, [], rfl, by simp, fault⟩

theorem reports_tag (name : String) :
    Reports buffer [.tag name] (· = Tag.ofName name) ((Tag.parse name).mapError .invalidTag) := by
  by_cases valid : isTagName name.toList = true
  · rw [Tag.parse, if_pos valid]
    exact .passed (DraftPart.passes_tag.mpr ((tagName_iff _).mpr valid)) rfl
  · rw [Tag.parse, if_neg valid]
    exact .failed (.tag fun tagName => valid ((tagName_iff _).mp tagName))

theorem reports_integer (numeral : String) :
    Reports buffer [.integer numeral] (Numeral.KeptAs numeral) (Atom.ofNumeral numeral) := by
  by_cases valid : ∃ value, Numeral.Denotes numeral.toList value
  · obtain ⟨value, denotes⟩ := valid
    obtain ⟨atom, kept⟩ := denotes.exists_keptAs
    rw [Numeral.ofNumeral_eq_ok_iff.mpr kept]
    exact .passed (DraftPart.passes_integer.mpr ⟨value, denotes⟩) kept
  · rw [Numeral.ofNumeral_invalid valid]
    exact .failed (.integer valid)

theorem reports_range (name : String) (range : Option (Nat × Nat)) :
    Reports buffer (rangeParts name range) (Located buffer range)
      (checkRange buffer (Tag.ofName name) range) := by
  cases range with
  | none => exact .pure ⟨rfl, by simp⟩
  | some offsets =>
    obtain ⟨start, stop⟩ := offsets
    cases buffer with
    | none => exact .failed (.unsourced rfl)
    | some source =>
      cases covered : Span.text? ⟨source, start, stop⟩ with
      | some slice =>
        have covers := Span.text?_eq_some_iff.mp covered
        simp only [checkRange, covered, Option.isSome_some, if_true]
        exact .passed (DraftPart.passes_range.mpr ⟨source, slice, rfl, covers⟩) ⟨rfl, by simp⟩
      | none =>
        simp only [checkRange, covered, Option.isSome_none, Bool.false_eq_true, if_false]
        refine .failed (.misplaced rfl ?_)
        rintro ⟨slice, covers⟩
        rw [Span.text?_eq_some_iff.mpr covers] at covered
        cases covered

mutual

/-- A node is checked by its name, its range and its children, in this order. -/
theorem DraftNode.reports_check : ∀ draft : DraftNode,
    Reports buffer draft.parts (draft.Becomes buffer) (draft.check buffer)
  | ⟨name, drafts, range⟩ => by
    -- One step of the check for each group of parts; putting the node together looks at no part.
    rw [DraftNode.check, DraftNode.parts]
    refine (reports_tag name).bind fun tag isTag => ?_
    subst isTag
    refine (reports_range name range).bind fun span located => ?_
    rw [← List.append_nil (partsBelow drafts)]
    refine (reports_checkChildren drafts).bind fun children below => ?_
    exact .pure (.mk located below)

theorem reports_checkChildren : ∀ drafts : List DraftChild,
    Reports buffer (partsBelow drafts) (DraftsBecome buffer drafts) (checkChildren buffer drafts)
  | [] => .pure .nil
  | .node value :: rest => by
    rw [checkChildren, partsBelow, ← List.append_nil (partsBelow rest)]
    refine value.reports_check.bind fun node first => ?_
    refine (reports_checkChildren rest).bind fun children others => ?_
    exact .pure (.node first others)
  | .atom value :: rest => by
    rw [checkChildren, partsBelow, ← List.append_nil (partsBelow rest)]
    refine (reports_checkChildren rest).bind fun children others => ?_
    exact .pure (.atom value others)
  | .integer numeral :: rest => by
    rw [checkChildren, partsBelow, ← List.append_nil (partsBelow rest), ← List.singleton_append]
    refine (reports_integer numeral).bind fun value kept => ?_
    refine (reports_checkChildren rest).bind fun children others => ?_
    exact .pure (.integer kept others)

end

theorem DraftNode.passing_iff_sound {draft : DraftNode} :
    (∀ part ∈ draft.parts, part.Passes buffer) ↔ ∀ below ∈ draft.nodes, below.Sound buffer := by
  constructor
  · intro passing below member
    exact DraftNode.sound_iff.mpr fun part has => passing part (mem_parts_iff.mpr ⟨below, member, has⟩)
  · intro sound part member
    obtain ⟨below, isNode, has⟩ := mem_parts_iff.mp member
    exact DraftNode.sound_iff.mp (sound below isNode) part has

end Checking

/-- A draft is accepted exactly if each of its nodes, at every depth, has a proper name, a range that covers a
part of the source if it has one at all, and proper numerals; the tree then has the same form. Any other is
refused for the first part of it that is wrong. -/
theorem draft_check_reports_the_first_fault (buffer : Option Buffer) (draft : DraftNode) :
    ((∃ node, draft.check buffer = .ok node) ↔ ∀ below ∈ draft.nodes, below.Sound buffer) ∧
    (∀ node, draft.check buffer = .ok node → draft.Becomes buffer node) ∧
    ∀ error, draft.check buffer = .error error ↔ FirstFault buffer draft.parts error := by
  rw [← DraftNode.passing_iff_sound]
  have reports : Reports buffer draft.parts (draft.Becomes buffer) (draft.check buffer) := draft.reports_check
  cases checked : draft.check buffer with
  | ok node =>
    rw [checked] at reports
    obtain ⟨passing, becomes⟩ := reports
    refine ⟨iff_of_true ⟨node, rfl⟩ passing, ?_, fun error => ?_⟩
    · rintro _ ⟨⟩
      exact becomes
    · exact iff_of_false (by simp) fun fault => fault.not_passing passing
  | error found =>
    rw [checked] at reports
    refine ⟨iff_of_false (by simp) reports.not_passing, by simp, fun error => ?_⟩
    constructor
    · rintro ⟨⟩
      exact reports
    · intro fault
      rw [reports.unique fault]

/-- A padded numeral with its range; and a range that goes too far, with a wrong numeral below it and a wrong
name in the next child. -/
theorem range_is_reported_before_what_follows :
    let buffer : Option Buffer := some ⟨"(string)", "007"⟩
    let span : Span := ⟨⟨"(string)", "007"⟩, 0, 3⟩
    DraftNode.Becomes buffer ⟨"int", [.integer "007"], some (0, 3)⟩
      ⟨.known .int, [.atom (.integer 7)], some span⟩ ∧
    DraftNode.check buffer
      ⟨"args", [.node ⟨"send", [.integer "12abc"], some (1, 10)⟩, .node ⟨"Not A Tag", [], none⟩], none⟩ =
        .error (.invalidRange 1 10) := by
  intro buffer span
  have accepted : DraftNode.check buffer ⟨"int", [.integer "007"], some (0, 3)⟩ =
      .ok ⟨.known .int, [.atom (.integer 7)], some span⟩ := by rfl
  have fault : FirstFault buffer (DraftNode.parts ⟨"args",
      [.node ⟨"send", [.integer "12abc"], some (1, 10)⟩, .node ⟨"Not A Tag", [], none⟩], none⟩)
      (.invalidRange 1 10) := by
    refine ⟨[.tag "args", .tag "send"], _, _, rfl, ?_, .misplaced rfl ?_⟩
    · intro part member
      rcases List.mem_pair.mp member with rfl | rfl
      · exact DraftPart.passes_tag.mpr ((tagName_iff _).mpr (by rfl))
      · exact DraftPart.passes_tag.mpr ((tagName_iff _).mpr (by rfl))
    · rintro ⟨slice, covers⟩
      have beyond : OffBoundary "007" 10 := .beyond (by decide)
      rw [← Span.text?_eq_some_iff, Span.text?_eq_none_iff.mpr (.inr (.inr beyond))] at covers
      cases covers
  exact ⟨(draft_check_reports_the_first_fault buffer _).2.1 _ accepted,
    ((draft_check_reports_the_first_fault buffer _).2.2 _).mpr fault⟩

end RubyTree
