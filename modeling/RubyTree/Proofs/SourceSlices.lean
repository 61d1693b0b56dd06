import RubyTree.Proofs.CheckThenPrint

/-!
Source texts by byte offsets. A span covers the text that stands between its two offsets, counted in
bytes of UTF-8. It covers nothing if the offsets are in the wrong order, or if one of them is beyond the
end of the source or inside a character. A node that follows its source is written as what its span covers.
-/

namespace RubyTree

/-- A part of the source takes up exactly the bytes between the offsets of a span. -/
def Span.Covers (span : Span) (slice : String) : Prop :=
  ∃ before after : String, span.buffer.text = before ++ slice ++ after ∧
    before.utf8ByteSize = span.start ∧ (before ++ slice).utf8ByteSize = span.stop

/-- An offset at which no character of a text begins or ends. -/
inductive OffBoundary (text : String) (offset : Nat) : Prop where
  | beyond (past : text.utf8ByteSize < offset)
  | inside (before : String) (c : Char) (after : String)
    (parts : text = before ++ String.singleton c ++ after) (low : before.utf8ByteSize < offset)
    (high : offset < (before ++ String.singleton c).utf8ByteSize)

section Splitting

theorem utf8ByteSize_ofList_cons (c : Char) (text : List Char) :
    (String.ofList (c :: text)).utf8ByteSize = c.utf8Size + (String.ofList text).utf8ByteSize := by
  rw [String.ofList_cons, String.utf8ByteSize_append, String.utf8ByteSize_singleton]

theorem utf8ByteSize_ofList_append (first last : List Char) :
    (String.ofList (first ++ last)).utf8ByteSize =
      (String.ofList first).utf8ByteSize + (String.ofList last).utf8ByteSize := by
  rw [String.ofList_append, String.utf8ByteSize_append]

theorem splitBytes?_cons (c : Char) (rest : List Char) (bytes : Nat) :
    splitBytes? (c.utf8Size + bytes) (c :: rest) =
      (splitBytes? bytes rest).map fun (first, last) => (c :: first, last) := by
  have positive := c.utf8Size_pos
  obtain ⟨size, same⟩ : ∃ size, c.utf8Size + bytes = size + 1 := ⟨c.utf8Size + bytes - 1, by omega⟩
  rw [same, splitBytes?, if_pos (by omega), ← same, Nat.add_sub_cancel_left]

theorem splitBytes?_append (first last : List Char) :
    splitBytes? (String.ofList first).utf8ByteSize (first ++ last) = some (first, last) := by
  induction first with
  | nil => rw [String.ofList_nil, String.utf8ByteSize_empty, List.nil_append, splitBytes?]
  | cons c first ih => rw [utf8ByteSize_ofList_cons, List.cons_append, splitBytes?_cons, ih]; rfl

theorem eq_append_of_splitBytes? {bytes : Nat} {text first last : List Char}
    (split : splitBytes? bytes text = some (first, last)) :
    text = first ++ last ∧ (String.ofList first).utf8ByteSize = bytes := by
  fun_induction splitBytes? bytes text generalizing first last with
  | case1 text =>
    cases split
    exact ⟨rfl, rfl⟩
  | case2 => cases split
  | case3 bytes c rest fits ih =>
    obtain ⟨⟨first, last⟩, more, same⟩ := Option.map_eq_some_iff.mp split
    cases same
    obtain ⟨rfl, size⟩ := ih more
    refine ⟨rfl, ?_⟩
    rw [utf8ByteSize_ofList_cons]
    omega
  | case4 => cases split

/-- What is put in front moves the boundaries along. -/
theorem OffBoundary.append {text : String} {offset : Nat} (off : OffBoundary text offset) (front : String) :
    OffBoundary (front ++ text) (front.utf8ByteSize + offset) := by
  rcases off with past | ⟨before, c, after, rfl, low, high⟩
  · apply OffBoundary.beyond
    rw [String.utf8ByteSize_append]
    omega
  · apply OffBoundary.inside (front ++ before) c after
    · simp only [String.append_assoc]
    · rw [String.utf8ByteSize_append]
      omega
    · rw [String.append_assoc, String.utf8ByteSize_append]
      omega

theorem offBoundary_of_splitBytes? {bytes : Nat} {text : List Char} (fails : splitBytes? bytes text = none) :
    OffBoundary (String.ofList text) bytes := by
  fun_induction splitBytes? bytes text with
  | case1 => cases fails
  | case2 bytes =>
    apply OffBoundary.beyond
    rw [String.ofList_nil, String.utf8ByteSize_empty]
    omega
  | case3 bytes c rest fits ih =>
    have shifted := (ih (Option.map_eq_none_iff.mp fails)).append (String.singleton c)
    rwa [← String.ofList_cons, String.utf8ByteSize_singleton, Nat.add_sub_cancel' fits] at shifted
  | case4 bytes c rest tooLong =>
    apply OffBoundary.inside "" c (String.ofList rest)
    · rw [String.ofList_cons, String.empty_append]
    · rw [String.utf8ByteSize_empty]
      omega
    · rw [String.empty_append, String.utf8ByteSize_singleton]
      omega

end Splitting

section Boundaries

theorem not_offBoundary_append (first last : String) : ¬OffBoundary (first ++ last) first.utf8ByteSize := by
  rintro (past | ⟨before, c, after, parts, low, high⟩)
  · rw [String.utf8ByteSize_append] at past
    omega
  · have chars : first.toList ++ last.toList = before.toList ++ c :: after.toList := by
      simpa using congrArg String.toList parts
    rw [String.utf8ByteSize_append, String.utf8ByteSize_singleton] at high
    -- One of the two beginnings is part of the other, so one of the two bounds is broken.
    rcases List.append_eq_append_iff.mp chars with ⟨more, longer, _⟩ | ⟨more, longer, tail⟩
    · have size := utf8ByteSize_ofList_append first.toList more
      rw [← longer, String.ofList_toList, String.ofList_toList] at size
      omega
    · have size := utf8ByteSize_ofList_append before.toList more
      rw [← longer, String.ofList_toList, String.ofList_toList] at size
      cases more with
      | nil =>
        rw [String.ofList_nil, String.utf8ByteSize_empty] at size
        omega
      | cons d more =>
        obtain ⟨rfl, _⟩ := List.cons.inj tail
        rw [utf8ByteSize_ofList_cons] at size
        omega

variable {start stop : Nat} {text : List Char}

theorem sliceBytes?_eq_some_iff {slice : List Char} :
    sliceBytes? start stop text = some slice ↔
      ∃ before after, text = before ++ (slice ++ after) ∧ (String.ofList before).utf8ByteSize = start ∧
        (String.ofList before).utf8ByteSize + (String.ofList slice).utf8ByteSize = stop := by
  constructor
  · intro found
    simp only [sliceBytes?] at found
    split at found
    · next ordered =>
      obtain ⟨⟨before, rest⟩, first, found⟩ := Option.bind_eq_some_iff.mp found
      obtain ⟨⟨part, after⟩, second, same⟩ := Option.bind_eq_some_iff.mp found
      obtain rfl : part = slice := Option.some.inj same
      obtain ⟨rfl, size⟩ := eq_append_of_splitBytes? first
      obtain ⟨rfl, length⟩ := eq_append_of_splitBytes? second
      exact ⟨before, after, rfl, size, by omega⟩
    · cases found
  · rintro ⟨before, after, rfl, rfl, rfl⟩
    simp only [sliceBytes?, Nat.le_add_right, if_true, Nat.add_sub_cancel_left, splitBytes?_append,
      Option.bind_eq_bind, Option.bind_some]

theorem offBoundary_of_sliceBytes? (fails : sliceBytes? start stop text = none) (ordered : start ≤ stop) :
    OffBoundary (String.ofList text) start ∨ OffBoundary (String.ofList text) stop := by
  rw [sliceBytes?, if_pos ordered] at fails
  cases first : splitBytes? start text with
  | none => exact .inl (offBoundary_of_splitBytes? first)
  | some parts =>
    obtain ⟨before, rest⟩ := parts
    have second : splitBytes? (stop - start) rest = none := by
      cases second : splitBytes? (stop - start) rest with
      | none => rfl
      | some parts => simp [first, second] at fails
    obtain ⟨rfl, rfl⟩ := eq_append_of_splitBytes? first
    have off := (offBoundary_of_splitBytes? second).append (String.ofList before)
    rw [← String.ofList_append, Nat.add_sub_cancel' ordered] at off
    exact .inr off

end Boundaries

namespace Span

variable {span : Span}

theorem text?_eq_some_iff {slice : String} : span.text? = some slice ↔ span.Covers slice := by
  unfold Span.text? Span.Covers
  rw [Option.map_eq_some_iff]
  constructor
  · rintro ⟨part, found, rfl⟩
    obtain ⟨before, after, text, start, stop⟩ := sliceBytes?_eq_some_iff.mp found
    refine ⟨String.ofList before, String.ofList after, ?_, start, ?_⟩
    · rw [String.append_assoc, ← String.ofList_append, ← String.ofList_append, ← text,
        String.ofList_toList]
    · rw [String.utf8ByteSize_append, stop]
  · rintro ⟨before, after, text, start, stop⟩
    refine ⟨slice.toList, sliceBytes?_eq_some_iff.mpr ⟨before.toList, after.toList, ?_, ?_, ?_⟩,
      String.ofList_toList⟩
    · rw [text, String.append_assoc, String.toList_append, String.toList_append]
    · rw [String.ofList_toList, start]
    · rw [String.ofList_toList, String.ofList_toList, ← String.utf8ByteSize_append, stop]

/-- A span covers nothing exactly if it is reversed or an end of it is off the boundaries of its source. -/
theorem text?_eq_none_iff :
    span.text? = none ↔ span.stop < span.start ∨ OffBoundary span.buffer.text span.start ∨
      OffBoundary span.buffer.text span.stop := by
  constructor
  · intro fails
    by_cases ordered : span.start ≤ span.stop
    · have off := offBoundary_of_sliceBytes? (Option.map_eq_none_iff.mp fails) ordered
      rw [String.ofList_toList] at off
      exact .inr off
    · exact .inl (Nat.lt_of_not_le ordered)
  · intro misplaced
    cases found : span.text? with
    | none => rfl
    | some slice =>
      obtain ⟨before, after, text, start, stop⟩ := text?_eq_some_iff.mp found
      rw [← start, ← stop, text] at misplaced
      rcases misplaced with reversed | off | off
      · rw [String.utf8ByteSize_append] at reversed
        omega
      · rw [String.append_assoc] at off
        exact absurd off (not_offBoundary_append _ _)
      · exact absurd off (not_offBoundary_append _ _)

end Span

section Rendering

variable {setting : Setting} {node : Node} (verbatim : setting.resolve? node.tag node.span = some .source)
include verbatim

theorem Node.renderWith_unlocated (missing : node.span = none) :
    node.renderWith setting = .error (.malformed node.tag .noSpan) := by
  rw [Node.renderWith_text setting verbatim rfl, missing]
  rfl

theorem Node.renderWith_located {span : Span} (located : node.span = some span) :
    node.renderWith setting =
      (span.text?.map Except.ok).getD (.error (.malformed node.tag (.outsideBuffer span))) := by
  rw [Node.renderWith_text setting verbatim rfl, located]
  cases covered : span.text? <;> simp [Rule.fault?, Outline.sourceFault?, covered]

end Rendering

/-- A span has a text exactly if its offsets, in bytes, enclose that text in the source, and none exactly
if they are reversed, beyond the end or inside a character. A node that follows its source is rendered as
that text, and is malformed exactly if it has no span or its span has no text. -/
theorem source_slices_are_exact :
    (∀ (span : Span) (slice : String), span.text? = some slice ↔ span.Covers slice) ∧
    (∀ span : Span, span.text? = none ↔ span.stop < span.start ∨
      OffBoundary span.buffer.text span.start ∨ OffBoundary span.buffer.text span.stop) ∧
    ∀ (setting : Setting) (node : Node), setting.resolve? node.tag node.span = some .source →
      (∀ text, node.renderWith setting = .ok text ↔ ∃ span ∈ node.span, span.Covers text) ∧
      ∀ error, node.renderWith setting = .error error ↔
        node.span = none ∧ error = .malformed node.tag .noSpan ∨
        ∃ span ∈ node.span, (¬∃ slice, span.Covers slice) ∧
          error = .malformed node.tag (.outsideBuffer span) := by
  refine ⟨fun _ _ => Span.text?_eq_some_iff, fun _ => Span.text?_eq_none_iff, fun setting node verbatim => ?_⟩
  simp only [← Span.text?_eq_some_iff]
  cases located : node.span with
  | none => simp [Node.renderWith_unlocated verbatim located, eq_comm]
  | some span =>
    rw [Node.renderWith_located verbatim located]
    cases covered : span.text? <;> simp [covered, eq_comm]

/-- The accented letter of a source, which takes up two bytes, and the first of them alone. -/
theorem accented_letter_is_sliced :
    let source : Buffer := ⟨"(string)", "caf\u00e9!"⟩
    Node.renderWith {} ⟨.other "send", [], some ⟨source, 3, 5⟩⟩ = .ok "\u00e9" ∧
    Node.renderWith {} ⟨.other "send", [], some ⟨source, 3, 4⟩⟩ =
      .error (.malformed (.other "send") (.outsideBuffer ⟨source, 3, 4⟩)) ∧
    Span.text? ⟨source, 3, 4⟩ = none := by
  intro source
  obtain ⟨texts, gaps, renders⟩ := source_slices_are_exact
  have covers : Span.Covers ⟨source, 3, 5⟩ "\u00e9" := ⟨"caf", "!", by decide, by decide, by decide⟩
  have inside : OffBoundary source.text 4 := .inside "caf" '\u00e9' "!" (by decide) (by decide) (by decide)
  have nothing := (gaps ⟨source, 3, 4⟩).mpr (.inr (.inr inside))
  refine ⟨((renders {} _ rfl).1 _).mpr ⟨_, rfl, covers⟩, ((renders {} _ rfl).2 _).mpr (.inr ?_), nothing⟩
  refine ⟨_, rfl, ?_, rfl⟩
  rintro ⟨slice, covered⟩
  rw [← texts, nothing] at covered
  cases covered

end RubyTree
