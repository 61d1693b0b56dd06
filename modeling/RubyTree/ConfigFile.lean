import RubyTree.Config
import RubyTree.Yaml.Node

/-!
Configs as files give them. Every field may be left out but none given twice, and there are no others.
-/

namespace RubyTree

def BeginPolicy.ofName? : String → Option BeginPolicy
  | "strict" => some .strict
  | "first_child" => some .firstChild
  | _ => none

namespace Yaml

/-- The name that a tag of the file's own gives to a value: what follows its exclamation mark, or the mark
if nothing does. -/
def TaggedScalar.label? (scalar : TaggedScalar) : Option String := do
  match ← scalar.tag with
  | 0x21 :: [] => some "!"
  | 0x21 :: rest => String.fromUTF8? ⟨rest.toArray⟩
  | _ => none

def TaggedScalar.isAbsent (scalar : TaggedScalar) : Bool := scalar.value == .absent

def TaggedScalar.isNull (scalar : TaggedScalar) : Bool :=
  scalar.value.style == .plain && ["", "~", "null", "Null", "NULL"].contains scalar.value.text

def Document.scalar? (document : Document) : Node → Option TaggedScalar
  | .scalar value => some value
  | .reference number => document.anchors.scalar? number
  | _ => none

def Document.text? (document : Document) (node : Node) : Option String :=
  (document.scalar? node).map (·.value.text)

end Yaml

namespace Config

structure Fields where
  beginPolicy : Option BeginPolicy := none
  sourceFallback : Option Bool := none
  verbatimTags : Option (List String) := none

/-- A policy is named by a scalar, or by a tag with nothing behind it. -/
def policy? (scalar : Yaml.TaggedScalar) : Option BeginPolicy :=
  match scalar.label? with
  | some label => if scalar.isNull then BeginPolicy.ofName? label else none
  | none => BeginPolicy.ofName? scalar.value.text

/-- Only a plain word is a truth value, or a literal block that is tagged as one. -/
def bool? (scalar : Yaml.TaggedScalar) : Option Bool :=
  let tagged := scalar.tag == some "tag:yaml.org,2002:bool".toUTF8.toList
  if scalar.value.style == .plain || (scalar.value.style == .literal && tagged) then
    if ["true", "True", "TRUE"].contains scalar.value.text then some true
    else if ["false", "False", "FALSE"].contains scalar.value.text then some false
    else none
  else none

/-- Names are taken as they are written; no value is no names. -/
def names? (document : Yaml.Document) : Yaml.Node → Option (List String)
  | .sequence items => items.mapM document.text?
  | node => do if (← document.scalar? node).isAbsent then some [] else none

def Fields.add? (document : Yaml.Document) (fields : Fields) (entry : Yaml.Node × Yaml.Node) :
    Option Fields := do
  let (key, value) := entry
  match ← document.text? key with
  | "begin_policy" =>
    if fields.beginPolicy.isSome then none
    else some { fields with beginPolicy := ← policy? (← document.scalar? value) }
  | "source_fallback" =>
    if fields.sourceFallback.isSome then none
    else some { fields with sourceFallback := ← bool? (← document.scalar? value) }
  | "verbatim_tags" =>
    if fields.verbatimTags.isSome then none
    else some { fields with verbatimTags := ← names? document value }
  | _ => none

/-- A config from its text, in which no value is no fields. -/
def ofYaml? (text : String) : Option Config := do
  let document ← Yaml.Document.read? text
  let entries ← match document.root with
    | none => some []
    | some (.mapping entries) => some entries
    | some node => do if (← document.scalar? node).isAbsent then some [] else none
  let fields ← entries.foldlM (Fields.add? document) {}
  let base : Config := {}
  some ⟨fields.beginPolicy.getD base.beginPolicy, fields.sourceFallback.getD base.sourceFallback,
    fields.verbatimTags.getD base.verbatimTags⟩

end Config

end RubyTree
