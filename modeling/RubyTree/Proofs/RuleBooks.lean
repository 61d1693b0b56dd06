import RubyTree.Config
import RubyTree.Proofs.Tags

/-!
Rule books as they are filled. From whatever book one starts, the rule of a node type is that of the last
registration that lists its name, and the one it had at the start if none does. So a run of registrations
may be written down in other ways: what counts in a list is which names it holds, and neighbours that share
no name may change places.
-/

namespace RubyTree

/-- Nodes of the named types are put under one rule. -/
structure Registration where
  names : List String
  rule : Rule
  deriving DecidableEq, Repr

namespace RuleBook

inductive Start where
  | empty
  | builtin
  | ofConfig (config : Config)
  deriving DecidableEq, Repr

def Start.book : Start → RuleBook
  | .empty => .empty
  | .builtin => .builtin
  | .ofConfig config => .ofConfig config

def Start.rule? : Start → String → Option Rule
  | .empty, _ => none
  | .builtin, name => Rule.ofTag? (.ofName name)
  | .ofConfig config, name =>
    if name ∈ config.verbatimTags then some .source else Rule.ofTag? (.ofName name)

def registerAll (book : RuleBook) (calls : List Registration) : RuleBook :=
  calls.foldl (fun book call => book.register call.names call.rule) book

/-- The rule of a name after some registrations: the last one that lists the name decides. -/
inductive Settles (start : Start) (name : String) : List Registration → Option Rule → Prop where
  | listed (before : List Registration) {after : List Registration} {call : Registration}
    (lists : name ∈ call.names) (later : ∀ other ∈ after, name ∉ other.names) :
    Settles start name (before ++ call :: after) (some call.rule)
  | unlisted {calls : List Registration} (absent : ∀ call ∈ calls, name ∉ call.names) :
    Settles start name calls (start.rule? name)

/-- The same names under the same rules, written down in another way. -/
inductive Rearranged : List Registration → List Registration → Prop where
  | refl (calls : List Registration) : Rearranged calls calls
  /-- A list may change its order, and hold a name more or less often. -/
  | relisted (before after : List Registration) {call call' : Registration}
    (names : ∀ name, name ∈ call'.names ↔ name ∈ call.names) (rule : call'.rule = call.rule) :
    Rearranged (before ++ call :: after) (before ++ call' :: after)
  | exchanged (before after : List Registration) {first second : Registration}
    (apart : ∀ name ∈ first.names, name ∉ second.names) :
    Rearranged (before ++ first :: second :: after) (before ++ second :: first :: after)
  | trans {calls calls' calls'' : List Registration} (first : Rearranged calls calls')
    (second : Rearranged calls' calls'') : Rearranged calls calls''

section Lookup

theorem lookup?_registerTags (book : RuleBook) (tags : List Tag) (rule : Rule) (tag : Tag) :
    (book.registerTags tags rule).lookup? tag =
      if tag ∈ tags then some rule else book.lookup? tag := by
  induction tags with
  | nil => rfl
  | cons first rest ih =>
    have later : (book.registerTags (first :: rest) rule).lookup? tag =
        if first = tag then some rule else (book.registerTags rest rule).lookup? tag := by
      by_cases here : first = tag <;> simp [RuleBook.registerTags, RuleBook.lookup?, here]
    rw [later, ih]
    by_cases here : first = tag
    · simp [here]
    · simp [here, Ne.symm here]

theorem lookup?_register_tag (book : RuleBook) (names : List String) (rule : Rule) (tag : Tag) :
    (book.register names rule).lookup? tag =
      if ∃ name ∈ names, Tag.ofName name = tag then some rule else book.lookup? tag := by
  rw [register, lookup?_registerTags]
  simp only [List.mem_map]

/-- A registration reaches the names that it lists, and no others. -/
theorem lookup?_register (book : RuleBook) (names : List String) (rule : Rule) (name : String) :
    (book.register names rule).lookup? (.ofName name) =
      if name ∈ names then some rule else book.lookup? (.ofName name) := by
  rw [lookup?_register_tag]
  simp only [Tag.ofName_inj, exists_eq_right]

theorem lookup?_builtin (tag : Tag) : builtin.lookup? tag = Rule.ofTag? tag := by
  cases tag with
  | known kind => cases kind <;> rfl
  | other name => rfl

theorem Start.lookup?_book (start : Start) (name : String) :
    start.book.lookup? (.ofName name) = start.rule? name := by
  cases start with
  | empty => rfl
  | builtin => exact lookup?_builtin _
  | ofConfig config =>
    show (RuleBook.builtin.register config.verbatimTags .source).lookup? (.ofName name) = _
    rw [lookup?_register, lookup?_builtin]
    rfl

end Lookup

section Runs

variable {book : RuleBook} {name : String}

theorem registerAll_append (book : RuleBook) (before after : List Registration) :
    book.registerAll (before ++ after) = (book.registerAll before).registerAll after :=
  List.foldl_append

theorem registerAll_cons (book : RuleBook) (call : Registration) (after : List Registration) :
    book.registerAll (call :: after) = (book.register call.names call.rule).registerAll after :=
  rfl

theorem lookup?_registerAll_unlisted {calls : List Registration}
    (absent : ∀ call ∈ calls, name ∉ call.names) :
    (book.registerAll calls).lookup? (.ofName name) = book.lookup? (.ofName name) := by
  induction calls generalizing book with
  | nil => rfl
  | cons call after ih =>
    rw [registerAll_cons, ih fun other member => absent other (List.mem_cons_of_mem _ member),
      lookup?_register, if_neg (absent call List.mem_cons_self)]

theorem Settles.lookup? {start : Start} {calls : List Registration} {rule? : Option Rule}
    (settles : Settles start name calls rule?) :
    (start.book.registerAll calls).lookup? (.ofName name) = rule? := by
  cases settles with
  | listed before lists later =>
    rw [registerAll_append, registerAll_cons, lookup?_registerAll_unlisted later, lookup?_register,
      if_pos lists]
  | unlisted absent => rw [lookup?_registerAll_unlisted absent, start.lookup?_book]

/-- Some rule is always settled: a call in front of others decides only what these leave open. -/
theorem exists_settles (start : Start) (name : String) (calls : List Registration) :
    ∃ rule?, Settles start name calls rule? := by
  induction calls with
  | nil => exact ⟨_, .unlisted (by simp)⟩
  | cons call after ih =>
    obtain ⟨_, settles⟩ := ih
    cases settles with
    | listed before lists later => exact ⟨_, .listed (call :: before) lists later⟩
    | unlisted absent =>
      by_cases lists : name ∈ call.names
      · exact ⟨_, .listed [] lists absent⟩
      · exact ⟨_, .unlisted (List.forall_mem_cons.mpr ⟨lists, absent⟩)⟩

end Runs

section Rearranging

/-- Two books that give every type the same rule, also types that no name leads to. -/
def Alike (book book' : RuleBook) : Prop := ∀ tag, book'.lookup? tag = book.lookup? tag

theorem Alike.register {book book' : RuleBook} (alike : Alike book book') (call : Registration) :
    Alike (book.register call.names call.rule) (book'.register call.names call.rule) := by
  intro tag
  rw [lookup?_register_tag, lookup?_register_tag, alike tag]

theorem Alike.registerAll {book book' : RuleBook} (alike : Alike book book') (calls : List Registration) :
    Alike (book.registerAll calls) (book'.registerAll calls) := by
  induction calls generalizing book book' with
  | nil => exact alike
  | cons call after ih => exact ih (alike.register call)

theorem alike_relisted (book : RuleBook) (rule : Rule) {names names' : List String}
    (same : ∀ name, name ∈ names' ↔ name ∈ names) :
    Alike (book.register names rule) (book.register names' rule) := by
  intro tag
  rw [lookup?_register_tag, lookup?_register_tag]
  simp only [same]

theorem alike_exchanged (book : RuleBook) {first second : Registration}
    (apart : ∀ name ∈ first.names, name ∉ second.names) :
    Alike ((book.register first.names first.rule).register second.names second.rule)
      ((book.register second.names second.rule).register first.names first.rule) := by
  intro tag
  simp only [lookup?_register_tag]
  by_cases inFirst : ∃ name ∈ first.names, Tag.ofName name = tag
  · obtain ⟨name, member, rfl⟩ := inFirst
    -- types are the same only if their names are, and no name is in both lists
    have notSecond : ¬∃ other ∈ second.names, Tag.ofName other = Tag.ofName name := by
      rintro ⟨other, listed, same⟩
      exact apart name member (Tag.ofName_inj.mp same ▸ listed)
    rw [if_neg notSecond, if_neg notSecond]
  · rw [if_neg inFirst, if_neg inFirst]

theorem Rearranged.alike {calls calls' : List Registration} (rearranged : Rearranged calls calls')
    (book : RuleBook) : Alike (book.registerAll calls) (book.registerAll calls') := by
  induction rearranged with
  | refl => exact fun _ => rfl
  | @relisted before after call call' names rule =>
    rw [registerAll_append, registerAll_append, registerAll_cons, registerAll_cons, rule]
    exact (alike_relisted _ call.rule names).registerAll after
  | @exchanged before after first second apart =>
    rw [registerAll_append, registerAll_append]
    exact (alike_exchanged _ apart).registerAll after
  | trans _ _ first second => exact fun tag => (second tag).trans (first tag)

end Rearranging

end RuleBook

open RuleBook

/-- After any registrations, a type named by any text has the rule of the last one that lists the name, and
otherwise the rule that it had at the start. Another order of names in a list, repeated names, and another
order of calls that share no name make no difference to any type. -/
theorem last_registration_wins (start : RuleBook.Start) (calls : List Registration) :
    (∀ (name : String) (rule? : Option Rule),
      (start.book.registerAll calls).lookup? (.ofName name) = rule? ↔ Settles start name calls rule?) ∧
    ∀ (calls' : List Registration), Rearranged calls calls' → ∀ tag : Tag,
      (start.book.registerAll calls').lookup? tag = (start.book.registerAll calls).lookup? tag := by
  refine ⟨fun name rule? => ⟨?_, Settles.lookup?⟩, fun calls' rearranged => rearranged.alike _⟩
  rintro rfl
  obtain ⟨rule?, settles⟩ := exists_settles start name calls
  rwa [settles.lookup?]

/-- Strings are registered twice, and the first list holds them twice. -/
def callsOnStrings : List Registration :=
  [⟨["str", "int", "str"], .keyword⟩, ⟨["send"], .source⟩, ⟨["str"], .symbol⟩]

theorem strings_follow_their_last_rule :
    let start := RuleBook.Start.ofConfig { verbatimTags := ["str", "sym"] }
    let book := start.book.registerAll callsOnStrings
    let calls' := [⟨["send"], .source⟩, ⟨["int", "str"], .keyword⟩, ⟨["str"], .symbol⟩]
    book.lookup? (.known .str) = some .symbol ∧ book.lookup? (.known .int) = some .keyword ∧
      book.lookup? (.known .sym) = some .source ∧ book.lookup? (.other "def") = none ∧
      Rearranged callsOnStrings calls' ∧
      ∀ tag, (start.book.registerAll calls').lookup? tag = book.lookup? tag := by
  intro start book calls'
  obtain ⟨settled, unchanged⟩ := last_registration_wins start callsOnStrings
  have noSymbol : ∀ call ∈ callsOnStrings, "sym" ∉ call.names := by decide
  have noDefinition : ∀ call ∈ callsOnStrings, "def" ∉ call.names := by decide
  have relisted : Rearranged callsOnStrings
      [⟨["int", "str"], .keyword⟩, ⟨["send"], .source⟩, ⟨["str"], .symbol⟩] :=
    .relisted [] _ (by simp) rfl
  have rearranged : Rearranged callsOnStrings calls' := relisted.trans (.exchanged [] _ (by decide))
  refine ⟨?_, ?_, ?_, ?_, rearranged, unchanged calls' rearranged⟩
  · exact (settled "str" _).mpr (.listed [_, _] (by decide) (by simp))
  · exact (settled "int" _).mpr (.listed [] (by decide) (by decide))
  · exact (settled "sym" _).mpr (.unlisted noSymbol)
  · exact (settled "def" _).mpr (.unlisted noDefinition)

end RubyTree
