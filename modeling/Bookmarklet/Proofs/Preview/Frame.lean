import Mathlib.Data.List.Infix
import Mathlib.Logic.Function.Basic
import Bookmarklet.Preview.Document

/-!
# Pages in their frame

A frame carries its page in an attribute. There, five characters are replaced by entities, one after the other in the
whole text. No replacement touches what an earlier one has put in, so that each character of the text is replaced once
(`escapeAttribute_cons`). What comes out holds no quotes and no angle brackets, and its ampersands are those of the
entities; reading each entity once gives the text back (`decodeEntities_escapeAttribute`).

The reader of a start tag goes from place to place (`TagPlace`), one character after the other (`StartTag.step`). It
passes over a quoted value up to the quote (`StartTag.read_value`). So the frame of any page has the same three
attributes, and the page is the value of the last one (`frame_containment`).
-/

namespace Bookmarklet

namespace Text

/-- A mark of one character is replaced wherever it stands. -/
theorem replaceAll_singleton (c : Char) (new text : List Char) :
    replaceAll [c] new text = text.flatMap fun d => if c = d then new else [d] := by
  unfold replaceAll
  induction text with
  | nil => rfl
  | cons d text ih =>
    rw [replaceFrom, List.flatMap_cons]
    by_cases h : c = d
    · simp [h] at ih ⊢
      exact ih
    · simp [h, ih]

end Text

namespace Preview

/-! ## Escaping -/

/-- The characters that are replaced. -/
def special : List Char := ['&', '<', '>', '"', '\'']

/-- What a single character is in an attribute. -/
def attributeChar : Char → List Char
  | '&' => ['&', 'a', 'm', 'p', ';']
  | '<' => ['&', 'l', 't', ';']
  | '>' => ['&', 'g', 't', ';']
  | '"' => ['&', 'q', 'u', 'o', 't', ';']
  | '\'' => ['&', '#', '3', '9', ';']
  | c => [c]

/-- Reads each entity once, from left to right. -/
def decodeEntities : List Char → List Char
  | '&' :: 'a' :: 'm' :: 'p' :: ';' :: rest => '&' :: decodeEntities rest
  | '&' :: 'l' :: 't' :: ';' :: rest => '<' :: decodeEntities rest
  | '&' :: 'g' :: 't' :: ';' :: rest => '>' :: decodeEntities rest
  | '&' :: 'q' :: 'u' :: 'o' :: 't' :: ';' :: rest => '"' :: decodeEntities rest
  | '&' :: '#' :: '3' :: '9' :: ';' :: rest => '\'' :: decodeEntities rest
  | c :: rest => c :: decodeEntities rest
  | [] => []

section Escaping

variable {c : Char}

theorem special_cases (h : c ∈ special) : c = '&' ∨ c = '<' ∨ c = '>' ∨ c = '"' ∨ c = '\'' := by
  simpa only [special, List.mem_cons, List.not_mem_nil, or_false] using h

theorem attributeChar_of_notMem (h : c ∉ special) : attributeChar c = [c] := by
  simp only [special, List.mem_cons, List.not_mem_nil, or_false, not_or] at h
  simp [attributeChar, h]

/-- The replacements in two texts are those in each. -/
theorem escapeAttribute_append (text more : List Char) :
    escapeAttribute (text ++ more) = escapeAttribute text ++ escapeAttribute more := by
  unfold escapeAttribute
  -- each entity goes through the whole text, so the induction is on the entities and not on the text
  generalize entities = table
  induction table generalizing text more with
  | nil => rfl
  | cons e table ih =>
    simp only [List.foldl_cons]
    rw [← ih]
    simp only [Text.replaceAll_singleton, List.flatMap_append]

/-- No later replacement changes an entity. -/
theorem escapeAttribute_singleton (c : Char) : escapeAttribute [c] = attributeChar c := by
  by_cases hc : c ∈ special
  · rcases special_cases hc with rfl | rfl | rfl | rfl | rfl <;> decide +kernel
  · rw [attributeChar_of_notMem hc]
    simp only [special, List.mem_cons, List.not_mem_nil, or_false, not_or] at hc
    obtain ⟨h1, h2, h3, h4, h5⟩ := hc
    simp only [escapeAttribute, entities, List.foldl_cons, List.foldl_nil, Text.replaceAll_singleton,
      List.flatMap_singleton, if_neg (Ne.symm h1), if_neg (Ne.symm h2), if_neg (Ne.symm h3), if_neg (Ne.symm h4),
      if_neg (Ne.symm h5)]

/-- Each character is replaced once. -/
theorem escapeAttribute_cons (c : Char) (text : List Char) :
    escapeAttribute (c :: text) = attributeChar c ++ escapeAttribute text := by
  rw [← escapeAttribute_singleton, ← escapeAttribute_append, List.singleton_append]

/-- No quote and no angle bracket is left. -/
theorem notMem_escapeAttribute {d : Char} (hd : d ∈ ['<', '>', '"', '\'']) (text : List Char) :
    d ∉ escapeAttribute text := by
  induction text with
  | nil => exact List.not_mem_nil
  | cons c text ih =>
    rw [escapeAttribute_cons, List.mem_append, not_or]
    refine ⟨?_, ih⟩
    by_cases hc : c ∈ special
    · have hall : ['<', '>', '"', '\''].all fun d => !(attributeChar c).contains d := by
        rcases special_cases hc with rfl | rfl | rfl | rfl | rfl <;> rfl
      simpa using List.all_eq_true.1 hall d hd
    · rw [attributeChar_of_notMem hc, List.mem_singleton]
      rintro rfl
      exact hc (List.mem_cons_of_mem '&' hd)

/-- What stands for a character has no ampersand but its first, and that one only if the character is replaced. -/
theorem exists_attributeChar_eq_cons (c : Char) :
    ∃ first more, attributeChar c = first :: more ∧ '&' ∉ more ∧ (first = '&' → c ∈ special) := by
  by_cases hc : c ∈ special
  · rcases special_cases hc with rfl | rfl | rfl | rfl | rfl <;> exact ⟨_, _, rfl, by decide, fun _ => hc⟩
  · refine ⟨c, [], attributeChar_of_notMem hc, List.not_mem_nil, ?_⟩
    rintro rfl
    exact absurd (by decide) hc

/-- A character that does not stand in the first part of a text stands in the second. -/
theorem suffix_of_suffix_append {d : Char} {front after rest : List Char} (hd : d ∉ front)
    (h : d :: after <:+ front ++ rest) : d :: after <:+ rest := by
  induction front with
  | nil => exact h
  | cons c front ih =>
    rw [List.mem_cons, not_or] at hd
    rw [List.cons_append, List.suffix_cons_iff] at h
    rcases h with h | h
    · exact absurd (List.cons_eq_cons.1 h).1 hd.1
    · exact ih hd.2 h

/-- What is replaced becomes one of the five entities. -/
theorem exists_entity (h : c ∈ special) :
    ∃ entity ∈ ["&amp;", "&lt;", "&gt;", "&quot;", "&#39;"], entity.toList = attributeChar c := by
  rcases special_cases h with rfl | rfl | rfl | rfl | rfl <;> decide +kernel

/-- Every ampersand starts an entity. -/
theorem exists_entity_of_suffix {after : List Char} (text : List Char)
    (h : '&' :: after <:+ escapeAttribute text) :
    ∃ entity ∈ ["&amp;", "&lt;", "&gt;", "&quot;", "&#39;"], entity.toList <+: '&' :: after := by
  induction text with
  | nil => cases List.suffix_nil.1 h
  | cons c text ih =>
    obtain ⟨first, more, hchar, hmore, hfirst⟩ := exists_attributeChar_eq_cons c
    rw [escapeAttribute_cons, hchar, List.cons_append, List.suffix_cons_iff] at h
    rcases h with h | h
    · obtain ⟨entity, hmem, hentity⟩ := exists_entity (hfirst (List.cons_eq_cons.1 h).1.symm)
      refine ⟨entity, hmem, ?_⟩
      rw [hentity, h, hchar, ← List.cons_append]
      exact List.prefix_append _ _
    · -- an ampersand behind the first character of an entity is not in the entity
      exact ih (suffix_of_suffix_append hmore h)

theorem decodeEntities_attributeChar (c : Char) (rest : List Char) :
    decodeEntities (attributeChar c ++ rest) = c :: decodeEntities rest := by
  by_cases hc : c ∈ special
  · rcases special_cases hc with rfl | rfl | rfl | rfl | rfl <;> rfl
  · rw [attributeChar_of_notMem hc, List.singleton_append]
    have hamp : c ≠ '&' := fun hamp => hc (by simp [special, hamp])
    simp [decodeEntities, hamp]

theorem decodeEntities_escapeAttribute (text : List Char) : decodeEntities (escapeAttribute text) = text := by
  induction text with
  | nil => rfl
  | cons c text ih => rw [escapeAttribute_cons, decodeEntities_attributeChar, ih]

end Escaping

/-! ## Start tags -/

/-- A start tag as far as it has been read, its last attribute first. -/
structure StartTag where
  name : List Char
  attributes : List (List Char × List Char)
  deriving DecidableEq

/-- Where the reader of a start tag stands. -/
inductive TagPlace where
  | tagName
  /-- Before an attribute, or the end of the tag. -/
  | gap
  | attributeName
  /-- Behind the name of an attribute, which may have a value. -/
  | afterName
  | beforeValue
  /-- In a value that ends with a quote, or with a blank. -/
  | value (quote : Option Char)
  deriving DecidableEq

/-- Whether a tag can end at a place: everywhere but in a quoted value. -/
def TagPlace.canEnd : TagPlace → Bool
  | value (some _) => false
  | _ => true

/-- Whether a character separates the parts of a tag. -/
def isTagBlank (c : Char) : Bool := ['\t', '\n', '\x0c', '\r', ' '].contains c

namespace StartTag

variable (tag : StartTag) (c : Char)

/-- Starts another attribute. -/
def addAttribute : StartTag := { tag with attributes := ([c.toLower], []) :: tag.attributes }

/-- Goes on with the name of the last attribute. -/
def extendName : StartTag :=
  { tag with attributes := tag.attributes.modifyHead fun (name, value) => (name ++ [c.toLower], value) }

/-- Goes on with the value of the last attribute. -/
def extendValue : StartTag :=
  { tag with attributes := tag.attributes.modifyHead fun (name, value) => (name, value ++ [c]) }

/-- Reads a character that does not end the tag. -/
def step : TagPlace → TagPlace × StartTag
  | .tagName =>
    if isTagBlank c || c == '/' then (.gap, tag) else (.tagName, { tag with name := tag.name ++ [c.toLower] })
  | .gap => if isTagBlank c || c == '/' then (.gap, tag) else (.attributeName, tag.addAttribute c)
  | .attributeName =>
    if isTagBlank c then (.afterName, tag)
    else if c = '/' then (.gap, tag)
    else if c = '=' then (.beforeValue, tag)
    else (.attributeName, tag.extendName c)
  | .afterName =>
    if isTagBlank c then (.afterName, tag)
    else if c = '/' then (.gap, tag)
    else if c = '=' then (.beforeValue, tag)
    else (.attributeName, tag.addAttribute c)
  | .beforeValue =>
    if isTagBlank c then (.beforeValue, tag)
    else if c = '"' || c = '\'' then (.value (some c), tag)
    else (.value none, tag.extendValue c)
  | .value (some quote) => if c = quote then (.gap, tag) else (.value (some quote), tag.extendValue c)
  | .value none => if isTagBlank c then (.gap, tag) else (.value none, tag.extendValue c)

/-- Reads a tag to its end: the tag, and what follows it. -/
def read : TagPlace × StartTag → List Char → Option (StartTag × List Char)
  | _, [] => none
  | (place, tag), c :: cs => if c == '>' && place.canEnd then some (tag, cs) else read (tag.step c place) cs

/-- Reads a part of a tag: the place behind it, if the tag does not end before. -/
def pass : TagPlace × StartTag → List Char → Option (TagPlace × StartTag)
  | state, [] => some state
  | (place, tag), c :: cs => if c == '>' && place.canEnd then none else pass (tag.step c place) cs

/-- The tag with its attributes in order, and the entities in their values decoded. -/
def decoded : StartTag :=
  { tag with attributes := (tag.attributes.map fun (name, value) => (name, decodeEntities value)).reverse }

end StartTag

/-- The start tag at the start of a text, and what follows it. -/
def startTag? : List Char → Option (StartTag × List Char)
  | '<' :: c :: cs =>
    if c.isAlpha then (StartTag.read (.tagName, ⟨[], []⟩) (c :: cs)).map fun (tag, rest) => (tag.decoded, rest)
    else none
  | _ => none

/-! ## The frame of a page -/

namespace StartTag

/-- Behind a part of a tag, the rest of it is read. -/
theorem read_append {before behind : TagPlace × StartTag} {part : List Char} (h : pass before part = some behind)
    (rest : List Char) : read before (part ++ rest) = read behind rest := by
  induction part generalizing before with
  | nil =>
    cases h
    rfl
  | cons c part ih =>
    rw [pass] at h
    split at h
    next => cases h
    next hc => rw [List.cons_append, read, if_neg hc, ih h]

/-- A quoted value goes on up to the quote. -/
theorem pass_value {quote : Char} {value : List Char} (h : quote ∉ value) (tag name written : List Char)
    (attributes : List (List Char × List Char)) :
    pass (.value (some quote), ⟨tag, (name, written) :: attributes⟩) value
      = some (.value (some quote), ⟨tag, (name, written ++ value) :: attributes⟩) := by
  induction value generalizing written with
  | nil => simp [pass]
  | cons c value ih =>
    rw [List.mem_cons, not_or] at h
    simp [pass, step, TagPlace.canEnd, extendValue, Ne.symm h.1, ih h.2]

end StartTag

/-- The frame up to its page. -/
def frameStart : String := "<iframe title=\"Bookmarklet preview\" sandbox=\"" ++ sandboxFlags ++ "\" srcdoc=\""

/-- The attributes of the frame of a page, as they are read. -/
def frameAttributes (page : List Char) : List (List Char × List Char) :=
  [("title".toList, "Bookmarklet preview".toList), ("sandbox".toList, sandboxFlags.toList), ("srcdoc".toList, page)]

section Frame

variable (page : String)

theorem frame_eq : frame page = frameStart ++ String.ofList (escapeAttribute page.toList) ++ "\"></iframe>" := by
  unfold frame frameStart
  rfl

/-- Before the page, two attributes are complete, and the value of a third has begun. -/
theorem exists_frameStart :
    ∃ name, frameStart.toList = '<' :: 'i' :: name
      ∧ StartTag.pass (.tagName, ⟨[], []⟩) ('i' :: name)
        = some (.value (some '"'), ⟨"iframe".toList, [("srcdoc".toList, []),
          ("sandbox".toList, sandboxFlags.toList), ("title".toList, "Bookmarklet preview".toList)]⟩) :=
  ⟨frameStart.toList.drop 2, by decide +kernel, by decide +kernel⟩

theorem read_frameEnd (tag : StartTag) :
    StartTag.read (.value (some '"'), tag) "\"></iframe>".toList = some (tag, "</iframe>".toList) := by
  have hend : "\"></iframe>".toList = '"' :: '>' :: "</iframe>".toList := by decide +kernel
  rw [hend]
  rfl

/-- The frame of a page is one tag with three attributes and nothing in it, and the last attribute is the page. -/
theorem startTag?_frame :
    startTag? (frame page).toList
      = some (⟨"iframe".toList, frameAttributes page.toList⟩, "</iframe>".toList) := by
  obtain ⟨name, hstart, hpass⟩ := exists_frameStart
  have hquote : '"' ∉ escapeAttribute page.toList := notMem_escapeAttribute (by decide) page.toList
  have hvalue := StartTag.pass_value hquote "iframe".toList "srcdoc".toList []
    [("sandbox".toList, sandboxFlags.toList), ("title".toList, "Bookmarklet preview".toList)]
  have htitle : decodeEntities "Bookmarklet preview".toList = "Bookmarklet preview".toList := by decide +kernel
  have hflags : decodeEntities sandboxFlags.toList = sandboxFlags.toList := by decide +kernel
  have htext : (frame page).toList
      = '<' :: 'i' :: (name ++ (escapeAttribute page.toList ++ "\"></iframe>".toList)) := by
    rw [frame_eq, String.toList_append, String.toList_append, @String.toList_ofList (escapeAttribute _), hstart]
    simp only [List.cons_append, List.append_assoc]
  rw [htext, startTag?, if_pos (by decide), ← List.cons_append, StartTag.read_append hpass,
    StartTag.read_append hvalue, read_frameEnd, Option.map_some]
  simp only [StartTag.decoded, List.map_cons, List.map_nil, List.nil_append, decodeEntities_escapeAttribute, htitle,
    hflags]
  rfl

/-- Escaping is lossless, and keeps its text in its attribute: what comes out holds no quote and no angle bracket, every
ampersand in it starts one of the five entities, and reading these once gives the text back. So every frame is read as
one tag with the same title and the same flags, whose last attribute is its page, whatever that holds. -/
theorem frame_containment :
    (∀ text,
      (∀ c ∈ ['<', '>', '"', '\''], c ∉ escapeAttribute text)
        ∧ (∀ after, '&' :: after <:+ escapeAttribute text →
          ∃ entity ∈ ["&amp;", "&lt;", "&gt;", "&quot;", "&#39;"], entity.toList <+: '&' :: after)
        ∧ decodeEntities (escapeAttribute text) = text)
      ∧ Function.Injective escapeAttribute
      ∧ ∀ page : String,
        startTag? (frame page).toList
          = some (⟨"iframe".toList, frameAttributes page.toList⟩, "</iframe>".toList) := by
  refine ⟨fun text => ⟨?_, ?_, decodeEntities_escapeAttribute text⟩, ?_, startTag?_frame⟩
  · intro c hc
    exact notMem_escapeAttribute hc text
  · intro after hafter
    exact exists_entity_of_suffix text hafter
  · intro text more h
    rw [← decodeEntities_escapeAttribute text, h, decodeEntities_escapeAttribute]

end Frame

end Preview
end Bookmarklet
