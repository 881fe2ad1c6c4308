import CyxCloud.Cli.ListResponse

/-!
# The objects of a listing

The gateway writes the texts of a listing as they are, and the scanner takes tags in them for those
of the document.  If no text contains a tag that is looked for behind it, the scanner finds the
blocks of the objects and in each of them its elements.
-/

namespace CyxCloud.Cli

open Library Gateway

/-! ## Conditions on texts -/

/-- A tag does not stand in a text. -/
def Lacks (text : String) (tag : Tag) : Prop := ¬ tag.text <:+: text.toList

instance (text : String) (tag : Tag) : Decidable (Lacks text tag) :=
  inferInstanceAs (Decidable (¬ _))

/-- The tags of the elements that are read of an object. -/
def readTags : List Tag := [XmlTag.key, XmlTag.lastModified, XmlTag.etag, XmlTag.size]

/-- No text of an object opens an element that is read behind it. -/
structure Unopened (object : ListedObject) : Prop where
  key : ∀ tag ∈ [XmlTag.lastModified, XmlTag.etag, XmlTag.size], Lacks object.key tag
  lastModified : ∀ tag ∈ [XmlTag.etag, XmlTag.size], Lacks object.lastModified tag
  etag : Lacks object.etag XmlTag.size

/-- No text of an object contains the end of its own element. -/
structure Closed (object : ListedObject) : Prop where
  key : Lacks object.key XmlTag.key.closing
  lastModified : Lacks object.lastModified XmlTag.lastModified.closing
  etag : Lacks object.etag XmlTag.etag.closing

/-- No text of an object ends its block before its size. -/
structure Whole (object : ListedObject) : Prop where
  key : Lacks object.key XmlTag.contents.closing
  lastModified : Lacks object.lastModified XmlTag.contents.closing
  etag : Lacks object.etag XmlTag.contents.closing

instance (object : ListedObject) : Decidable (Whole object) :=
  decidable_of_iff
    (Lacks object.key XmlTag.contents.closing ∧
      Lacks object.lastModified XmlTag.contents.closing ∧
        Lacks object.etag XmlTag.contents.closing)
    ⟨fun ⟨key, lastModified, etag⟩ => ⟨key, lastModified, etag⟩,
      fun ⟨key, lastModified, etag⟩ => ⟨key, lastModified, etag⟩⟩

/-- The texts of an object. -/
def objectTexts (object : ListedObject) : List String :=
  [object.key, object.lastModified, object.etag, object.storageClass]

/-- No text of an object ends its block, or none starts another one, or none another key. -/
def Settled (object : ListedObject) : Prop :=
  ∃ tag ∈ [XmlTag.contents.closing, XmlTag.contents, XmlTag.key],
    ∀ text ∈ objectTexts object, Lacks text tag

/-- The texts before the objects. -/
def headTexts (response : ListObjectsV2Response) : List String :=
  response.name :: response.keyPrefix.toList

/-- The texts after the objects. -/
def tailTexts (response : ListObjectsV2Response) : List String :=
  response.commonPrefixes ++ response.nextContinuationToken.toList

/-! ## Documents -/

theorem not_infix_of_not_mem {tag : Tag} {text : List Char} (absent : '<' ∉ text) :
    ¬ tag.text <:+: text :=
  fun occurs => absent (occurs.subset List.mem_cons_self)

/-- A segment has one of some tags, and its text is plain or one of some texts. -/
def MadeOf (tags : List Tag) (texts : List String) (segment : Segment) : Prop :=
  segment.tag ∈ tags ∧ ('<' ∉ segment.text ∨ ∃ text ∈ texts, segment.text = text.toList)

section

variable {tags : List Tag} {texts : List String}

theorem madeOf_xmlElement {tag : Tag} {value : String} (indent : Nat) (opens : tag ∈ tags)
    (closes : tag.closing ∈ tags) (known : '<' ∉ value.toList ∨ value ∈ texts) :
    ∀ segment ∈ xmlElement indent tag value, MadeOf tags texts segment := by
  have blank : '<' ∉ '\n' :: List.replicate indent ' ' := by
    simp only [List.mem_cons, List.mem_replicate, not_or]
    exact ⟨by decide, fun member => absurd member.2 (by decide)⟩
  rw [xmlElement, List.forall_mem_cons, List.forall_mem_singleton]
  exact ⟨⟨opens, .inl blank⟩, closes, known.imp id fun member => ⟨value, member, rfl⟩⟩

theorem clear_of_madeOf {segments : List Segment} {tag : Tag}
    (made : ∀ segment ∈ segments, MadeOf tags texts segment) (different : tag ∉ tags)
    (lacks : ∀ text ∈ texts, Lacks text tag) : Clear tag segments := by
  intro segment member
  obtain ⟨listed, plain | ⟨text, known, text_eq⟩⟩ := made segment member
  · exact ⟨fun same => different (same ▸ listed), not_infix_of_not_mem plain⟩
  · refine ⟨fun same => different (same ▸ listed), ?_⟩
    rw [text_eq]
    exact lacks text known

end

theorem clear_xmlElement {tag other : Tag} {value : String} (indent : Nat)
    (different : other ≠ tag) (different' : other.closing ≠ tag) (lacks : Lacks value tag) :
    Clear tag (xmlElement indent other value) := by
  have made : ∀ segment ∈ xmlElement indent other value,
      MadeOf [other, other.closing] [value] segment :=
    madeOf_xmlElement indent (by simp) (by simp) (.inr (by simp))
  refine clear_of_madeOf made ?_ ?_
  · simp [different.symm, different'.symm]
  · simp [lacks]

/-- The tags before the flag. -/
def openingTags : List Tag :=
  [XmlTag.declaration, XmlTag.listBucketResult, XmlTag.bucketName, XmlTag.bucketName.closing,
    XmlTag.keyPrefix, XmlTag.keyPrefix.closing, XmlTag.noKeyPrefix, XmlTag.maxKeys,
    XmlTag.maxKeys.closing]

/-- The tags after the objects. -/
def tailTags : List Tag :=
  [XmlTag.commonPrefixes, XmlTag.commonPrefixes.closing, XmlTag.keyPrefix,
    XmlTag.keyPrefix.closing, XmlTag.nextContinuationToken, XmlTag.nextContinuationToken.closing,
    XmlTag.listBucketResultEnd]

theorem opening_not_mem_natDigits (n : Nat) : '<' ∉ (toString n).toList := by
  intro member
  rw [Nat.toString_eq_repr, Nat.toList_repr] at member
  exact absurd (Nat.isDigit_of_mem_toDigits (by decide) (by decide) member) (by decide)

theorem opening_not_mem_intDigits (n : Int) : '<' ∉ (toString n).toList := by
  cases n with
  | ofNat n => exact opening_not_mem_natDigits n
  | negSucc n =>
      have digits := opening_not_mem_natDigits (n + 1)
      change '<' ∉ ("-" ++ toString (n + 1)).toList
      simpa [String.toList_append] using digits

theorem madeOf_openingSegments (response : ListObjectsV2Response) :
    ∀ segment ∈ response.openingSegments, MadeOf openingTags (headTexts response) segment := by
  simp only [ListObjectsV2Response.openingSegments, List.forall_mem_append, List.forall_mem_cons]
  refine ⟨⟨⟨⟨?_, ?_, ?_⟩, ?_⟩, ?_⟩, ?_⟩
  · exact ⟨by decide, .inl (by decide)⟩
  · exact ⟨by decide, .inl (by decide)⟩
  · exact fun _ member => nomatch member
  · exact madeOf_xmlElement 2 (by decide) (by decide) (.inr List.mem_cons_self)
  · split
    · rename_i text asked
      refine madeOf_xmlElement 2 (by decide) (by decide) (.inr ?_)
      simp [headTexts, asked]
    · rw [List.forall_mem_singleton]
      exact ⟨by decide, .inl (by decide)⟩
  · exact madeOf_xmlElement 2 (by decide) (by decide) (.inl (opening_not_mem_intDigits _))

theorem madeOf_tailSegments (response : ListObjectsV2Response) :
    ∀ segment ∈ response.tailSegments, MadeOf tailTags (tailTexts response) segment := by
  simp only [ListObjectsV2Response.tailSegments, List.forall_mem_append, List.forall_mem_singleton]
  have wrapped : ∀ text ∈ response.commonPrefixes, ∀ segment ∈
      (⟨"\n  ".toList, XmlTag.commonPrefixes⟩ ::
        (xmlElement 4 XmlTag.keyPrefix text ++
          [⟨"\n  ".toList, XmlTag.commonPrefixes.closing⟩]) : List Segment),
      MadeOf tailTags (tailTexts response) segment := by
    intro text listed
    rw [List.forall_mem_cons, List.forall_mem_append, List.forall_mem_singleton]
    refine ⟨⟨by decide, .inl (by decide)⟩, ?_, ⟨by decide, .inl (by decide)⟩⟩
    exact madeOf_xmlElement 4 (by decide) (by decide) (.inr (List.mem_append_left _ listed))
  refine ⟨⟨?_, ?_⟩, ⟨by decide, .inl (by decide)⟩⟩
  · intro segment member
    obtain ⟨text, listed, member'⟩ := List.mem_flatMap.mp member
    exact wrapped text listed segment member'
  · split
    · rename_i token present
      refine madeOf_xmlElement 2 (by decide) (by decide) (.inr ?_)
      simp [tailTexts, present]
    · exact fun _ member => nomatch member

/-- The tags before the objects. -/
def headTags : List Tag :=
  openingTags ++ [XmlTag.isTruncated, XmlTag.isTruncated.closing, XmlTag.keyCount,
    XmlTag.keyCount.closing]

theorem madeOf_headSegments (response : ListObjectsV2Response) :
    ∀ segment ∈ response.headSegments, MadeOf headTags (headTexts response) segment := by
  have flag : '<' ∉ (if response.isTruncated then "true" else "false").toList := by
    split <;> decide
  simp only [ListObjectsV2Response.headSegments, List.forall_mem_append]
  refine ⟨⟨fun segment member => ?_, ?_⟩, ?_⟩
  · obtain ⟨listed, known⟩ := madeOf_openingSegments response segment member
    exact ⟨List.mem_append_left _ listed, known⟩
  · exact madeOf_xmlElement 2 (by decide) (by decide) (.inl flag)
  · exact madeOf_xmlElement 2 (by decide) (by decide)
      (.inl (opening_not_mem_intDigits response.keyCount))

/-- A tag of an object stands before the objects only in a text. -/
theorem clear_headSegments {response : ListObjectsV2Response} {tag : Tag} (read : tag ∈ readTags)
    (lacks : ∀ text ∈ headTexts response, Lacks text tag) : Clear tag response.headSegments :=
  clear_of_madeOf (madeOf_headSegments response)
    ((by decide : ∀ tag ∈ readTags, tag ∉ headTags) tag read) lacks

theorem clearOf_of_madeOf {tags : List Tag} {texts : List String} {segments : List Segment}
    (made : ∀ segment ∈ segments, MadeOf tags texts segment)
    (different : XmlTag.isTruncated ∉ tags ∧ XmlTag.isTruncated.closing ∉ tags)
    (lacks : ∀ text ∈ texts, ¬ truncatedLine <:+: text.toList) :
    ClearOf XmlTag.isTruncated "true".toList segments := by
  intro segment member
  obtain ⟨listed, known⟩ := made segment member
  refine ⟨fun same => different.1 (same ▸ listed), fun same => different.2 (same ▸ listed), ?_⟩
  obtain plain | ⟨text, known, text_eq⟩ := known
  · exact fun occurs => plain (occurs.subset List.mem_cons_self)
  · rw [text_eq]
    exact lacks text known

/-- The line of a truncated listing does not start before the objects of a complete one. -/
theorem truncatedLine_foreign {response : ListObjectsV2Response}
    (complete : response.isTruncated = false)
    (lacks : ∀ text ∈ headTexts response, ¬ truncatedLine <:+: text.toList) (rest : List Char) :
    Foreign truncatedLine (render response.headSegments) rest := by
  have count := opening_not_mem_intDigits response.keyCount
  have counted : ∀ segment ∈ xmlElement 2 XmlTag.keyCount (toString response.keyCount),
      MadeOf [XmlTag.keyCount, XmlTag.keyCount.closing] [] segment :=
    madeOf_xmlElement 2 (by decide) (by decide) (.inl count)
  have head : render response.headSegments =
      render response.openingSegments ++
        ("\n  ".toList ++ XmlTag.isTruncated.element "false".toList) ++
        render (xmlElement 2 XmlTag.keyCount (toString response.keyCount)) := by
    simp [ListObjectsV2Response.headSegments, complete, xmlElement, Tag.element]
  rw [head]
  refine Foreign.append (Foreign.append ?_ (Foreign.append ?_ ?_)) ?_
  · exact (clearOf_of_madeOf (madeOf_openingSegments response) (by decide)
      lacks).foreign (by decide) _
  · exact foreign_of_not_mem (by decide) _ _
  · exact Tag.foreign_element_other (by decide) (by decide) (by decide) _
  · exact (clearOf_of_madeOf counted (by decide) fun _ known => nomatch known).foreign
      (by decide) _

/-! ## Reading one object -/

/-- The elements of an object that are read. -/
def readSegments (object : ListedObject) : List Segment :=
  xmlElement 4 XmlTag.key object.key ++
    (xmlElement 4 XmlTag.lastModified object.lastModified ++
      (xmlElement 4 XmlTag.etag object.etag ++ xmlElement 4 XmlTag.size (toString object.size)))

/-- What stands between the tags of a block. -/
def innerText (object : ListedObject) : List Char :=
  render (readSegments object ++ xmlElement 4 XmlTag.storageClass object.storageClass) ++
    "\n  ".toList

/-- What is read of an object: its texts up to the first end of their elements. -/
def received (object : ListedObject) : ObjectInfo where
  key := .ofList (upTo XmlTag.key.closing.text object.key.toList)
  size := object.size
  lastModified := .ofList (upTo XmlTag.lastModified.closing.text object.lastModified.toList)
  etag := .ofList
    (trimMatches (· == '"') (upTo XmlTag.etag.closing.text object.etag.toList))

/-- What should be read of an object. -/
def expected (object : ListedObject) : ObjectInfo where
  key := object.key
  size := object.size
  lastModified := object.lastModified
  etag := .ofList (trimMatches (· == '"') object.etag.toList)

/-- An element is read up to the first end of it in its text. -/
theorem extract_xmlElement {tag : Tag} {before : List Segment} (clear : Clear tag before)
    (indent : Nat) (value : String) (rest : List Char) :
    extractXmlValue (render (before ++ xmlElement indent tag value) ++ rest) tag =
      some (upTo tag.closing.text value.toList) := by
  have blank : ¬ tag.text <:+: '\n' :: List.replicate indent ' ' := by
    refine not_infix_of_not_mem ?_
    simp only [List.mem_cons, List.mem_replicate, not_or]
    exact ⟨by decide, fun member => absurd member.2 (by decide)⟩
  have opened := clear.cut_render blank (value.toList ++ (tag.closing.text ++ rest))
  simp only [xmlElement, render_append, render_cons, render_nil, List.append_nil,
    List.append_assoc] at opened ⊢
  rw [extractXmlValue, opened]
  exact cut_text_tag tag.closing value.toList rest

theorem parseU64_toString {n : Nat} (small : n < 2 ^ 64) :
    parseU64 (toString n).toList = some n := by
  have digits : ∀ c ∈ Nat.toDigits 10 n, c.isDigit = true := fun c member =>
    Nat.isDigit_of_mem_toDigits (by decide) (by decide) member
  have unsigned : (Nat.toDigits 10 n).head? ≠ some '+' := by
    intro signed
    exact absurd (digits '+' (List.mem_of_head? signed)) (by decide)
  rw [Nat.toString_eq_repr, Nat.toList_repr, parseU64, if_neg unsigned]
  simp only [Nat.ofDigitChars_ten_toDigits]
  exact if_pos ⟨Nat.toDigits_ne_nil, List.all_eq_true.mpr digits, small⟩

/-- The elements before the size do not open it. -/
theorem clear_beforeSize {before : List Segment} {object : ListedObject}
    (clear : Clear XmlTag.size before) (unopened : Unopened object) :
    Clear XmlTag.size (before ++ xmlElement 4 XmlTag.key object.key ++
      xmlElement 4 XmlTag.lastModified object.lastModified ++
      xmlElement 4 XmlTag.etag object.etag) := by
  simp only [clear_append_iff]
  refine ⟨⟨⟨clear, ?_⟩, ?_⟩, ?_⟩
  · exact clear_xmlElement 4 (by decide) (by decide) (unopened.key _ (by simp))
  · exact clear_xmlElement 4 (by decide) (by decide) (unopened.lastModified _ (by simp))
  · exact clear_xmlElement 4 (by decide) (by decide) unopened.etag

/-- Behind a document without the tags of an object, the object is read as it is received. -/
theorem readObject_render {before : List Segment} {object : ListedObject}
    (clear : ∀ tag ∈ readTags, Clear tag before) (unopened : Unopened object)
    (small : object.size < 2 ^ 64) (rest : List Char) :
    extractXmlValue (render (before ++ readSegments object) ++ rest) XmlTag.size =
        some (toString object.size).toList ∧
      readObject (render (before ++ readSegments object) ++ rest) = some (received object) := by
  have digits : '<' ∉ (toString object.size).toList := opening_not_mem_natDigits object.size
  -- the elements in front of each one
  have clear_key : ∀ tag ∈ [XmlTag.lastModified, XmlTag.etag],
      Clear tag (before ++ xmlElement 4 XmlTag.key object.key) := by
    intro tag member
    refine clear_append_iff.mpr ⟨clear tag ?_, ?_⟩
    · exact (by decide : [XmlTag.lastModified, XmlTag.etag] ⊆ readTags) member
    refine clear_xmlElement 4 ?_ ?_ (unopened.key tag (List.mem_append_left [_] member))
    · exact (by decide : ∀ tag ∈ [XmlTag.lastModified, XmlTag.etag], XmlTag.key ≠ tag) tag member
    · exact (by decide : ∀ tag ∈ [XmlTag.lastModified, XmlTag.etag],
        XmlTag.key.closing ≠ tag) tag member
  have clear_lastModified : Clear XmlTag.etag (before ++ xmlElement 4 XmlTag.key object.key ++
      xmlElement 4 XmlTag.lastModified object.lastModified) := by
    refine clear_append_iff.mpr ⟨clear_key _ (by simp), ?_⟩
    exact clear_xmlElement 4 (by decide) (by decide) (unopened.lastModified _ (by simp))
  have clear_etag := clear_beforeSize (clear XmlTag.size (by simp [readTags])) unopened
  have key := extract_xmlElement (clear XmlTag.key (by simp [readTags])) 4 object.key
    (render (xmlElement 4 XmlTag.lastModified object.lastModified ++
      (xmlElement 4 XmlTag.etag object.etag ++
        xmlElement 4 XmlTag.size (toString object.size))) ++ rest)
  have lastModified := extract_xmlElement (clear_key _ List.mem_cons_self) 4 object.lastModified
    (render (xmlElement 4 XmlTag.etag object.etag ++
      xmlElement 4 XmlTag.size (toString object.size)) ++ rest)
  have etag := extract_xmlElement clear_lastModified 4 object.etag
    (render (xmlElement 4 XmlTag.size (toString object.size)) ++ rest)
  have size := extract_xmlElement clear_etag 4 (toString object.size) rest
  rw [upTo_of_absent (not_infix_of_not_mem digits)] at size
  simp only [render_append, List.append_assoc] at key lastModified etag size
  simp only [readSegments, render_append, List.append_assoc]
  refine ⟨size, ?_⟩
  rw [readObject, key, lastModified, etag, size, Option.map_some, Option.bind_some,
    parseU64_toString small]
  rfl

/-! ## Blocks -/

theorem blocks_of_none {xml : List Char} (none_left : cut XmlTag.contents.text xml = none) :
    blocks xml = [] := by
  rw [blocks]
  split
  · rfl
  · rename_i opened
    rw [none_left] at opened
    cases opened

theorem blocks_of_unclosed {xml before inner : List Char}
    (opened : cut XmlTag.contents.text xml = some (before, inner))
    (unclosed : cut XmlTag.contents.closing.text (XmlTag.contents.text ++ inner) = none) :
    blocks xml = [] := by
  rw [blocks]
  split
  · rfl
  · rename_i inner' opened'
    obtain ⟨-, rfl⟩ := Prod.mk.inj (Option.some.inj (opened.symm.trans opened'))
    split
    · rfl
    · rename_i block' rest' closed'
      rw [unclosed] at closed'
      cases closed'

theorem blocks_of_cut {xml before inner block rest : List Char}
    (opened : cut XmlTag.contents.text xml = some (before, inner))
    (closed : cut XmlTag.contents.closing.text (XmlTag.contents.text ++ inner) =
      some (block, rest)) :
    blocks xml = (block ++ XmlTag.contents.closing.text) :: blocks rest := by
  rw [blocks]
  split
  · rename_i none_left
    rw [opened] at none_left
    cases none_left
  · rename_i inner' opened'
    obtain ⟨-, rfl⟩ := Prod.mk.inj (Option.some.inj (opened.symm.trans opened'))
    split
    · rename_i none_left
      rw [closed] at none_left
      cases none_left
    · rename_i block' rest' closed'
      obtain ⟨rfl, rfl⟩ := Prod.mk.inj (Option.some.inj (closed.symm.trans closed'))
      rfl

/-- A piece in which no block starts is passed over. -/
theorem blocks_append_of_foreign {piece rest : List Char}
    (foreign : Foreign XmlTag.contents.text piece rest) : blocks (piece ++ rest) = blocks rest := by
  have found := cut_append_of_foreign foreign
  cases opened : cut XmlTag.contents.text rest with
  | none =>
      rw [opened] at found
      rw [blocks_of_none found, blocks_of_none opened]
  | some pieces =>
      obtain ⟨before, inner⟩ := pieces
      rw [opened] at found
      cases closed : cut XmlTag.contents.closing.text (XmlTag.contents.text ++ inner) with
      | none => rw [blocks_of_unclosed found closed, blocks_of_unclosed opened closed]
      | some pieces => rw [blocks_of_cut found closed, blocks_of_cut opened closed]

/-- Every block is a part of the text. -/
theorem infix_of_mem_blocks {xml block : List Char} (member : block ∈ blocks xml) :
    block <:+: xml := by
  induction xml using blocks.induct with
  | case1 xml none_left =>
      rw [blocks_of_none none_left] at member
      cases member
  | case2 xml before inner opened unclosed =>
      rw [blocks_of_unclosed opened unclosed] at member
      cases member
  | case3 xml before inner opened first rest closed induction =>
      have whole := eq_of_cut opened
      have inside := eq_of_cut closed
      rw [List.append_assoc, inside] at whole
      rw [blocks_of_cut opened closed] at member
      rcases List.mem_cons.mp member with rfl | later
      · exact ⟨before, rest, by rw [whole]; simp⟩
      · refine (induction later).trans ⟨before ++ (first ++ XmlTag.contents.closing.text), [], ?_⟩
        rw [whole]
        simp

/-- A block has its tags around it. -/
theorem bracketed_of_mem_blocks {xml block : List Char} (member : block ∈ blocks xml) :
    ∃ inner, block = XmlTag.contents.text ++ (inner ++ XmlTag.contents.closing.text) := by
  induction xml using blocks.induct with
  | case1 xml none_left =>
      rw [blocks_of_none none_left] at member
      cases member
  | case2 xml before inner opened unclosed =>
      rw [blocks_of_unclosed opened unclosed] at member
      cases member
  | case3 xml before inner opened first rest closed induction =>
      rw [blocks_of_cut opened closed] at member
      rcases List.mem_cons.mp member with rfl | later
      · have found := cut_append_of_foreign (Tag.foreign_tag
          (by decide : XmlTag.contents ≠ XmlTag.contents.closing) inner)
        rw [closed] at found
        obtain ⟨pieces, -, same⟩ := Option.map_eq_some_iff.mp found.symm
        exact ⟨pieces.1, by rw [← (Prod.mk.inj same).1, List.append_assoc]⟩
      · exact induction later

/-- What a cut of a text and of what ends it leaves behind its first end. -/
def leftover (inner : List Char) : List Char :=
  match cut XmlTag.contents.closing.text (inner ++ XmlTag.contents.closing.text) with
  | none => []
  | some (_, rest) => rest

/-- A block ends at the first end in its text. -/
theorem cut_closing (inner rest : List Char) :
    cut XmlTag.contents.closing.text (inner ++ (XmlTag.contents.closing.text ++ rest)) =
      some (upTo XmlTag.contents.closing.text inner, leftover inner ++ rest) := by
  have first := cut_text_tag XmlTag.contents.closing inner []
  rw [List.append_nil] at first
  cases found : cut XmlTag.contents.closing.text (inner ++ XmlTag.contents.closing.text) with
  | none =>
      rw [found] at first
      cases first
  | some pieces =>
      obtain ⟨before, after⟩ := pieces
      rw [found] at first
      obtain rfl : before = upTo XmlTag.contents.closing.text inner := Option.some.inj first
      have longer := cut_append_of_cut found rest
      rw [List.append_assoc] at longer
      rw [longer, leftover, found]

theorem eq_append_leftover (inner : List Char) :
    inner ++ XmlTag.contents.closing.text =
      upTo XmlTag.contents.closing.text inner ++ XmlTag.contents.closing.text ++ leftover inner := by
  have found := cut_closing inner []
  rw [List.append_nil, List.append_nil] at found
  exact eq_of_cut found

theorem leftover_of_absent {inner : List Char}
    (absent : ¬ XmlTag.contents.closing.text <:+: inner) : leftover inner = [] := by
  have found := eq_append_leftover inner
  rw [upTo_of_absent absent] at found
  exact (List.append_right_eq_self.mp found.symm)

/-- A block and what follows it. -/
theorem blocks_block (inner rest : List Char) :
    blocks (XmlTag.contents.text ++ (inner ++ (XmlTag.contents.closing.text ++ rest))) =
      (XmlTag.contents.text ++ upTo XmlTag.contents.closing.text inner ++
        XmlTag.contents.closing.text) :: blocks (leftover inner ++ rest) := by
  have opened := cut_append_self XmlTag.contents.text_ne_nil
    (inner ++ (XmlTag.contents.closing.text ++ rest))
  have closed := cut_append_of_foreign
    (Tag.foreign_tag (by decide : XmlTag.contents ≠ XmlTag.contents.closing)
      (inner ++ (XmlTag.contents.closing.text ++ rest)))
  rw [cut_closing inner rest, Option.map_some] at closed
  exact blocks_of_cut opened closed

section Noise

variable {β : Type*} {reader : List Char → Option β}

/-- A text in front of a block changes nothing of what is read, if its own blocks tell of nothing
and if nothing is read in it in front of the elements of the block. -/
theorem filterMap_blocks_noise (quiet : List Char → Prop) {inner : List Char} {value : Option β}
    (quiet_part : ∀ {part noise : List Char}, part <:+: noise → quiet noise → quiet part)
    (silent : ∀ noise, quiet noise →
      reader (XmlTag.contents.text ++ noise ++ XmlTag.contents.closing.text) = none)
    (read : reader (XmlTag.contents.text ++ upTo XmlTag.contents.closing.text inner ++
      XmlTag.contents.closing.text) = value)
    (blind : ∀ noise, quiet noise →
      reader (XmlTag.contents.text ++ (noise ++ (XmlTag.contents.text ++
        upTo XmlTag.contents.closing.text inner)) ++ XmlTag.contents.closing.text) = value)
    (rest : List Char) :
    ∀ noise : List Char, quiet noise →
      (blocks (noise ++ (XmlTag.contents.text ++
        (inner ++ (XmlTag.contents.closing.text ++ rest))))).filterMap reader =
      value.toList ++ (blocks (leftover inner ++ rest)).filterMap reader := by
  have cons_toList : ∀ (block : List Char) (later : List (List Char)), reader block = value →
      (block :: later).filterMap reader = value.toList ++ later.filterMap reader := by
    intro block later same
    rw [List.filterMap_cons, same]
    cases value <;> rfl
  have foreign_tag : ∀ rest : List Char,
      Foreign XmlTag.contents.closing.text XmlTag.contents.text rest :=
    Tag.foreign_tag (by decide)
  intro noise
  induction length_eq : noise.length using Nat.strong_induction_on generalizing noise with
  | _ length induction =>
  intro is_quiet
  cases found : cut XmlTag.contents.text noise with
  | none =>
      have absent := cut_eq_none_iff.mp found
      rw [blocks_append_of_foreign (Tag.foreign_text absent _ _), blocks_block]
      exact cons_toList _ _ read
  | some pieces =>
      obtain ⟨before, stray⟩ := pieces
      have whole := eq_of_cut found
      have part : stray <:+: noise := ⟨before ++ XmlTag.contents.text, [], by rw [whole]; simp⟩
      have opened := cut_append_of_cut found (XmlTag.contents.text ++
        (inner ++ (XmlTag.contents.closing.text ++ rest)))
      cases ended : cut XmlTag.contents.closing.text stray with
      | none =>
          have absent := cut_eq_none_iff.mp ended
          have closed := cut_append_of_foreign (Foreign.append (foreign_tag _)
            (Foreign.append (Tag.foreign_text absent XmlTag.contents _) (foreign_tag
              (inner ++ (XmlTag.contents.closing.text ++ rest)))))
          rw [cut_closing inner rest, Option.map_some, List.append_assoc, List.append_assoc] at closed
          rw [blocks_of_cut opened closed]
          refine cons_toList _ _ ?_
          simpa only [List.append_assoc] using blind stray (quiet_part part is_quiet)
      | some pieces =>
          obtain ⟨block, later⟩ := pieces
          have inside := eq_of_cut ended
          have block_part : block <:+: stray :=
            ⟨[], XmlTag.contents.closing.text ++ later, by rw [inside]; simp⟩
          have later_part : later <:+: stray :=
            ⟨block ++ XmlTag.contents.closing.text, [], by rw [inside]; simp⟩
          have shorter : later.length < length := by
            have lengths := congrArg List.length whole
            have lengths' := congrArg List.length inside
            simp only [List.length_append, Tag.text, List.length_cons] at lengths lengths'
            omega
          have closed := cut_append_of_foreign (foreign_tag (stray ++ (XmlTag.contents.text ++
            (inner ++ (XmlTag.contents.closing.text ++ rest)))))
          rw [cut_append_of_cut ended, Option.map_some] at closed
          rw [blocks_of_cut opened closed, List.filterMap_cons,
            silent block (quiet_part (block_part.trans part) is_quiet)]
          exact induction later.length shorter later rfl
            (quiet_part (later_part.trans part) is_quiet)

/-- A text in front of the end of a block changes nothing either. -/
theorem filterMap_blocks_closing (quiet : List Char → Prop)
    (quiet_part : ∀ {part noise : List Char}, part <:+: noise → quiet noise → quiet part)
    (silent : ∀ noise, quiet noise →
      reader (XmlTag.contents.text ++ noise ++ XmlTag.contents.closing.text) = none)
    (rest : List Char) :
    ∀ noise : List Char, quiet noise →
      (blocks (noise ++ (XmlTag.contents.closing.text ++ rest))).filterMap reader =
        (blocks rest).filterMap reader := by
  have foreign_tag : ∀ rest : List Char,
      Foreign XmlTag.contents.closing.text XmlTag.contents.text rest :=
    Tag.foreign_tag (by decide)
  intro noise
  induction length_eq : noise.length using Nat.strong_induction_on generalizing noise with
  | _ length induction =>
  intro is_quiet
  cases found : cut XmlTag.contents.text noise with
  | none =>
      have absent := cut_eq_none_iff.mp found
      rw [blocks_append_of_foreign (Tag.foreign_text absent _ _),
        blocks_append_of_foreign (Tag.foreign_tag (by decide) _)]
  | some pieces =>
      obtain ⟨before, stray⟩ := pieces
      have whole := eq_of_cut found
      have part : stray <:+: noise := ⟨before ++ XmlTag.contents.text, [], by rw [whole]; simp⟩
      have opened := cut_append_of_cut found (XmlTag.contents.closing.text ++ rest)
      have closed := cut_append_of_foreign (foreign_tag (stray ++
        (XmlTag.contents.closing.text ++ rest)))
      cases ended : cut XmlTag.contents.closing.text stray with
      | none =>
          have absent := cut_eq_none_iff.mp ended
          rw [cut_append_of_foreign (Tag.foreign_text absent _ _),
            cut_append_self XmlTag.contents.closing.text_ne_nil, Option.map_some,
            Option.map_some] at closed
          rw [blocks_of_cut opened closed, List.filterMap_cons, List.append_nil,
            silent stray (quiet_part part is_quiet)]
      | some pieces =>
          obtain ⟨block, later⟩ := pieces
          have inside := eq_of_cut ended
          have block_part : block <:+: stray :=
            ⟨[], XmlTag.contents.closing.text ++ later, by rw [inside]; simp⟩
          have later_part : later <:+: stray :=
            ⟨block ++ XmlTag.contents.closing.text, [], by rw [inside]; simp⟩
          have shorter : later.length < length := by
            have lengths := congrArg List.length whole
            have lengths' := congrArg List.length inside
            simp only [List.length_append, Tag.text, List.length_cons] at lengths lengths'
            omega
          rw [cut_append_of_cut ended, Option.map_some] at closed
          rw [blocks_of_cut opened closed, List.filterMap_cons,
            silent block (quiet_part (block_part.trans part) is_quiet)]
          exact induction later.length shorter later rfl
            (quiet_part (later_part.trans part) is_quiet)

end Noise

/-! ## The blocks of objects -/

/-- What the block of an object tells of it. -/
def shown (object : ListedObject) : Option ObjectInfo :=
  if Whole object then some (received object) else none

section

variable {object : ListedObject}

/-- The elements behind the key, from its text on. -/
def keyedText (object : ListedObject) : List Char :=
  object.key.toList ++ (XmlTag.key.closing.text ++
    render (xmlElement 4 XmlTag.lastModified object.lastModified ++
      (xmlElement 4 XmlTag.etag object.etag ++ (xmlElement 4 XmlTag.size (toString object.size) ++
        xmlElement 4 XmlTag.storageClass object.storageClass)))) ++ "\n  ".toList

theorem innerText_eq (object : ListedObject) :
    innerText object = "\n    ".toList ++ (XmlTag.key.text ++ keyedText object) := by
  simp [innerText, readSegments, keyedText, xmlElement]

/-- The elements behind the key have only the tags that its texts have. -/
theorem keyedText_lacks {tag : Tag}
    (settling : tag ∈ [XmlTag.contents.closing, XmlTag.contents, XmlTag.key])
    (lacks : ∀ text ∈ objectTexts object, Lacks text tag) : ¬ tag.text <:+: keyedText object := by
  have different : ∀ other ∈ [XmlTag.lastModified, XmlTag.etag, XmlTag.size, XmlTag.storageClass],
      other ≠ tag ∧ other.closing ≠ tag :=
    (by decide : ∀ tag ∈ [XmlTag.contents.closing, XmlTag.contents, XmlTag.key],
      ∀ other ∈ [XmlTag.lastModified, XmlTag.etag, XmlTag.size, XmlTag.storageClass],
        other ≠ tag ∧ other.closing ≠ tag) tag settling
  have ended : XmlTag.key.closing ≠ tag :=
    (by decide : ∀ tag ∈ [XmlTag.contents.closing, XmlTag.contents, XmlTag.key],
      XmlTag.key.closing ≠ tag) tag settling
  have digits : '<' ∉ (toString object.size).toList := opening_not_mem_natDigits object.size
  have element : ∀ other ∈ [XmlTag.lastModified, XmlTag.etag, XmlTag.size, XmlTag.storageClass],
      ∀ value : String, Lacks value tag → Clear tag (xmlElement 4 other value) :=
    fun other listed value absent =>
      clear_xmlElement 4 (different other listed).1 (different other listed).2 absent
  have clear : Clear tag (⟨object.key.toList, XmlTag.key.closing⟩ ::
      (xmlElement 4 XmlTag.lastModified object.lastModified ++ (xmlElement 4 XmlTag.etag object.etag ++
        (xmlElement 4 XmlTag.size (toString object.size) ++
          xmlElement 4 XmlTag.storageClass object.storageClass)))) := by
    simp only [clear_cons_iff, clear_append_iff]
    refine ⟨⟨ended, lacks _ (by simp [objectTexts])⟩, ?_, ?_, ?_, ?_⟩
    · exact element _ (by simp) _ (lacks _ (by simp [objectTexts]))
    · exact element _ (by simp) _ (lacks _ (by simp [objectTexts]))
    · exact element _ (by simp) _ (not_infix_of_not_mem digits)
    · exact element _ (by simp) _ (lacks _ (by simp [objectTexts]))
  have absent := clear.not_infix_append (by decide : '<' ∉ "\n  ".toList)
  rwa [render_cons] at absent

/-- What a block leaves behind its first end, if one of its texts has it. -/
theorem leftover_innerText (object : ListedObject) :
    leftover (innerText object) = [] ∨ ∃ before after,
      keyedText object = before ++ (XmlTag.contents.closing.text ++ after) ∧
        leftover (innerText object) = after ++ XmlTag.contents.closing.text := by
  have foreign : Foreign XmlTag.contents.closing.text ("\n    ".toList ++ XmlTag.key.text)
      (keyedText object) :=
    Foreign.append (foreign_of_not_mem (by decide) _ _) (Tag.foreign_tag (by decide) _)
  have found := cut_append_of_foreign foreign
  rw [List.append_assoc, ← innerText_eq] at found
  cases ended : cut XmlTag.contents.closing.text (keyedText object) with
  | none =>
      rw [ended] at found
      exact .inl (leftover_of_absent (cut_eq_none_iff.mp found))
  | some pieces =>
      obtain ⟨before, after⟩ := pieces
      rw [ended] at found
      have whole := eq_of_cut ended
      rw [List.append_assoc] at whole
      exact .inr ⟨before, after, whole, by rw [leftover, cut_append_of_cut found]⟩

/-- A part of a text without a tag does not contain it either. -/
theorem not_infix_of_part {tag : Tag} {part text : List Char} (inside : part <:+: text)
    (absent : ¬ tag.text <:+: text) : ¬ tag.text <:+: part :=
  fun occurs => absent (occurs.trans inside)

theorem extractXmlValue_of_lacking {xml : List Char} {tag : Tag} (absent : ¬ tag.text <:+: xml) :
    extractXmlValue xml tag = none := by
  rw [extractXmlValue, cut_eq_none_iff.mpr absent]
  rfl

theorem readObject_eq_none_iff {xml : List Char} :
    readObject xml = none ↔ extractXmlValue xml XmlTag.key = none :=
  Option.map_eq_none_iff

/-- A block without a key tells of no object. -/
theorem readBlock_of_no_key {block : List Char} (no_key : extractXmlValue block XmlTag.key = none) :
    readBlock block = none := by
  rw [readBlock, readObject_eq_none_iff.mpr no_key]
  exact ite_self _

theorem readBlock_noise {noise : List Char} (lacking : ¬ XmlTag.key.text <:+: noise) :
    readBlock (XmlTag.contents.text ++ noise ++ XmlTag.contents.closing.text) = none := by
  have clear : Clear XmlTag.key [⟨[], XmlTag.contents⟩, ⟨noise, XmlTag.contents.closing⟩] := by
    have other : XmlTag.contents ≠ XmlTag.key ∧ XmlTag.contents.closing ≠ XmlTag.key := by decide
    rw [clear_cons_iff, clear_cons_iff]
    exact ⟨⟨other.1, not_infix_of_not_mem (by decide)⟩, ⟨other.2, lacking⟩, clear_nil⟩
  refine readBlock_of_no_key (extractXmlValue_of_lacking ?_)
  simpa using clear.absent

/-- Behind the first end of a settled block nothing is read of it. -/
theorem Settled.filterMap_blocks_leftover (settled : Settled object) (rest : List Char) :
    (blocks (leftover (innerText object) ++ rest)).filterMap readBlock =
      (blocks rest).filterMap readBlock := by
  obtain ⟨tag, settling, lacks⟩ := settled
  have absent := keyedText_lacks settling lacks
  rcases leftover_innerText object with nothing | ⟨before, after, keyed_eq, leftover_eq⟩
  · rw [nothing, List.nil_append]
  · have part : after <:+: keyedText object :=
      ⟨before ++ XmlTag.contents.closing.text, [], by rw [keyed_eq]; simp⟩
    rw [leftover_eq, List.append_assoc]
    simp only [List.mem_cons, List.not_mem_nil, or_false] at settling
    rcases settling with rfl | rfl | rfl
    · -- the block has no other end
      exact absurd ⟨before, after, by rw [keyed_eq, List.append_assoc]⟩ absent
    · rw [blocks_append_of_foreign (Tag.foreign_text (not_infix_of_part part absent) _ _),
        blocks_append_of_foreign (Tag.foreign_tag (by decide) _)]
    · exact filterMap_blocks_closing (fun noise => ¬ XmlTag.key.text <:+: noise)
        not_infix_of_part (fun noise => readBlock_noise) rest after (not_infix_of_part part absent)

/-- A block whose texts do not end it before its size starts with what is read. -/
theorem Whole.upTo_closing (whole : Whole object) :
    ∃ rest, upTo XmlTag.contents.closing.text (innerText object) =
      render (readSegments object) ++ rest := by
  have digits : '<' ∉ (toString object.size).toList := opening_not_mem_natDigits object.size
  have clear : Clear XmlTag.contents.closing (readSegments object) := by
    simp only [readSegments, clear_append_iff]
    refine ⟨?_, ?_, ?_, ?_⟩
    · exact clear_xmlElement 4 (by decide) (by decide) whole.key
    · exact clear_xmlElement 4 (by decide) (by decide) whole.lastModified
    · exact clear_xmlElement 4 (by decide) (by decide) whole.etag
    · exact clear_xmlElement 4 (by decide) (by decide) (not_infix_of_not_mem digits)
  rw [innerText, render_append, List.append_assoc, upTo_append_of_foreign (clear.foreign _)]
  exact ⟨_, rfl⟩

/-- A block that one of its texts ends before its size does not open one. -/
theorem size_not_infix_of_ended (unopened : Unopened object) (ended : ¬ Whole object) :
    ¬ XmlTag.size.text <:+: upTo XmlTag.contents.closing.text (innerText object) ++
      XmlTag.contents.closing.text := by
  have clear := clear_beforeSize clear_nil unopened
  rw [List.nil_append] at clear
  generalize earlier_eq : xmlElement 4 XmlTag.key object.key ++
    xmlElement 4 XmlTag.lastModified object.lastModified ++
      xmlElement 4 XmlTag.etag object.etag = earlier at clear
  have occurs : XmlTag.contents.closing.text <:+: render earlier := by
    by_contra absent
    have inside : ∀ value : String, value.toList <:+: render earlier →
        Lacks value XmlTag.contents.closing :=
      fun value part occurs => absent (occurs.trans part)
    refine ended ⟨inside _ ?_, inside _ ?_, inside _ ?_⟩
    all_goals rw [← earlier_eq]
    · exact ⟨"\n    ".toList ++ XmlTag.key.text, XmlTag.key.closing.text ++
        render (xmlElement 4 XmlTag.lastModified object.lastModified ++
          xmlElement 4 XmlTag.etag object.etag), by simp [xmlElement]⟩
    · exact ⟨render (xmlElement 4 XmlTag.key object.key) ++ "\n    ".toList ++
        XmlTag.lastModified.text, XmlTag.lastModified.closing.text ++
          render (xmlElement 4 XmlTag.etag object.etag), by simp [xmlElement]⟩
    · exact ⟨render (xmlElement 4 XmlTag.key object.key ++
        xmlElement 4 XmlTag.lastModified object.lastModified) ++ "\n    ".toList ++
          XmlTag.etag.text, XmlTag.etag.closing.text, by simp [xmlElement]⟩
  cases found : cut XmlTag.contents.closing.text (render earlier) with
  | none => exact absurd occurs (cut_eq_none_iff.mp found)
  | some pieces =>
      obtain ⟨before, after⟩ := pieces
      have inner_eq : innerText object = render earlier ++
          (render (xmlElement 4 XmlTag.size (toString object.size) ++
            xmlElement 4 XmlTag.storageClass object.storageClass) ++ "\n  ".toList) := by
        rw [← earlier_eq, innerText, readSegments]
        simp only [render_append, List.append_assoc]
      rw [inner_eq, upTo, cut_append_of_cut found]
      intro sized
      refine clear.absent (sized.trans ⟨[], after, ?_⟩)
      exact (eq_of_cut found).symm

/-- What is read in a block of an object, behind a document without the tags of an object. -/
theorem readBlock_render {before : List Segment} (clear : ∀ tag ∈ readTags, Clear tag before)
    (unopened : Unopened object) (small : object.size < 2 ^ 64) :
    readBlock (render before ++ (upTo XmlTag.contents.closing.text (innerText object) ++
      XmlTag.contents.closing.text)) = shown object := by
  by_cases whole : Whole object
  · obtain ⟨rest, block_eq⟩ := whole.upTo_closing
    obtain ⟨sized, read⟩ := readObject_render clear unopened small
      (rest ++ XmlTag.contents.closing.text)
    rw [render_append, List.append_assoc] at sized read
    rw [block_eq, List.append_assoc, readBlock, sized, read, shown, if_pos whole]
    rfl
  · have unsized := size_not_infix_of_ended unopened whole
    have foreign := Foreign.append ((clear XmlTag.size (by simp [readTags])).foreign _)
      (foreign_of_absent unsized fun start stop _ _ nonempty starts =>
        nonempty (List.prefix_nil.mp starts))
    have absent := cut_eq_none_iff.mpr (not_infix_of_foreign foreign (Tag.text_ne_nil _))
    rw [readBlock, extractXmlValue, absent, shown, if_neg whole]
    rfl

end

/-- A part of a text without a tag does not contain it either. -/
theorem lacking_of_infix {tags : List Tag} {part noise : List Char} (inside : part <:+: noise)
    (lacking : ∀ tag ∈ tags, ¬ tag.text <:+: noise) : ∀ tag ∈ tags, ¬ tag.text <:+: part :=
  fun tag listed occurs => lacking tag listed (occurs.trans inside)

theorem clear_noise {tags : List Tag} (different : XmlTag.contents ∉ tags) {noise : List Char}
    (lacking : ∀ tag ∈ tags, ¬ tag.text <:+: noise) :
    ∀ tag ∈ tags, Clear tag [⟨[], XmlTag.contents⟩, ⟨noise, XmlTag.contents⟩] := by
  intro tag listed
  have other : XmlTag.contents ≠ tag := fun same => different (same ▸ listed)
  rw [clear_cons_iff, clear_cons_iff]
  exact ⟨⟨other, not_infix_of_not_mem (by decide)⟩, ⟨other, lacking tag listed⟩, clear_nil⟩

section

variable {objects : List ListedObject} {object : ListedObject} {after : List Char}

theorem render_object (object : ListedObject) :
    render object.segments = "\n  ".toList ++ (XmlTag.contents.text ++ (innerText object ++
      XmlTag.contents.closing.text)) := by
  simp [ListedObject.segments, innerText, readSegments]

theorem clear_contents : ∀ tag ∈ readTags, Clear tag [⟨[], XmlTag.contents⟩] := by
  intro tag listed
  have different : XmlTag.contents ≠ tag :=
    (by decide : ∀ tag ∈ readTags, XmlTag.contents ≠ tag) tag listed
  exact clear_cons_iff.mpr ⟨⟨different, not_infix_of_not_mem (by decide)⟩, clear_nil⟩

/-- The blocks of objects, one after the other, tell of the objects, if each tells of its own and what
it leaves behind its first end tells of nothing. -/
theorem filterMap_blocks_objects {β : Type*} {reader : List Char → Option β}
    {value : ListedObject → Option β}
    (tells : ∀ object ∈ objects, reader (XmlTag.contents.text ++
      upTo XmlTag.contents.closing.text (innerText object) ++ XmlTag.contents.closing.text) =
        value object)
    (leaves : ∀ object ∈ objects, ∀ rest, (blocks (leftover (innerText object) ++ rest)).filterMap
      reader = (blocks rest).filterMap reader) :
    (blocks (render (objects.flatMap ListedObject.segments) ++ after)).filterMap reader =
      objects.filterMap value ++ (blocks after).filterMap reader := by
  induction objects with
  | nil => rfl
  | cons object objects induction =>
      obtain ⟨first, tells⟩ := List.forall_mem_cons.mp tells
      obtain ⟨behind, leaves⟩ := List.forall_mem_cons.mp leaves
      have later := induction tells leaves
      have blank : Foreign XmlTag.contents.text "\n  ".toList (XmlTag.contents.text ++
          (innerText object ++ (XmlTag.contents.closing.text ++
            (render (objects.flatMap ListedObject.segments) ++ after)))) :=
        foreign_of_not_mem (by decide) _ _
      rw [List.flatMap_cons, render_append, render_object]
      simp only [List.append_assoc]
      rw [blocks_append_of_foreign blank, blocks_block, List.filterMap_cons, first, behind, later]
      cases found : value object <;> simp [found]

theorem readBlock_object (unopened : Unopened object) (small : object.size < 2 ^ 64) :
    readBlock (XmlTag.contents.text ++ upTo XmlTag.contents.closing.text (innerText object) ++
      XmlTag.contents.closing.text) = shown object := by
  simpa using readBlock_render clear_contents unopened small

/-- They do so behind a text in which nothing is read. -/
theorem filterMap_blocks_behind {noise : List Char} (unopened : Unopened object)
    (settled : Settled object) (small : object.size < 2 ^ 64)
    (lacking : ∀ tag ∈ readTags, ¬ tag.text <:+: noise) (rest : List Char) :
    (blocks (noise ++ (XmlTag.contents.text ++ (innerText object ++
        (XmlTag.contents.closing.text ++ rest))))).filterMap readBlock =
      (shown object).toList ++ (blocks rest).filterMap readBlock := by
  have other : XmlTag.contents ∉ readTags := by decide
  have key_read : XmlTag.key ∈ readTags := by decide
  rw [← settled.filterMap_blocks_leftover rest]
  refine filterMap_blocks_noise (fun noise => ∀ tag ∈ readTags, ¬ tag.text <:+: noise)
    lacking_of_infix ?_ ?_ ?_ rest noise lacking
  · exact fun noise lacking => readBlock_noise (lacking _ key_read)
  · exact readBlock_object unopened small
  · intro noise lacking
    simpa using readBlock_render (clear_noise other lacking) unopened small

/-- The tags that a block needs to tell of an object. -/
def blockTags : List Tag :=
  [XmlTag.contents, XmlTag.contents.closing, XmlTag.key, XmlTag.key.closing, XmlTag.size,
    XmlTag.size.closing]

theorem extractXmlValue_of_unclosed {xml : List Char} {tag : Tag}
    (absent : ¬ tag.closing.text <:+: xml) : extractXmlValue xml tag = none := by
  rw [extractXmlValue, Option.bind_eq_none_iff]
  rintro ⟨before, inner⟩ opened
  rw [Option.map_eq_none_iff, cut_eq_none_iff]
  exact fun occurs => absent (occurs.trans ⟨before ++ tag.text, [], by
    rw [eq_of_cut opened, List.append_nil]⟩)

theorem readBlock_of_no_size {block : List Char}
    (no_size : extractXmlValue block XmlTag.size = none) : readBlock block = none := by
  rw [readBlock, no_size]
  rfl

/-- A text without one of these tags tells of no object. -/
theorem filterMap_blocks_of_lacking {xml : List Char} {tag : Tag} (needed : tag ∈ blockTags)
    (lacking : ¬ tag.text <:+: xml) : (blocks xml).filterMap readBlock = [] := by
  refine List.filterMap_eq_nil_iff.mpr fun block member => ?_
  have absent : ¬ tag.text <:+: block := not_infix_of_part (infix_of_mem_blocks member) lacking
  obtain ⟨inner, block_eq⟩ := bracketed_of_mem_blocks member
  simp only [blockTags, List.mem_cons, List.not_mem_nil, or_false] at needed
  rcases needed with rfl | rfl | rfl | rfl | rfl | rfl
  · exact absurd ⟨[], inner ++ XmlTag.contents.closing.text, by simp [block_eq]⟩ absent
  · exact absurd ⟨XmlTag.contents.text ++ inner, [], by simp [block_eq]⟩ absent
  · exact readBlock_of_no_key (extractXmlValue_of_lacking absent)
  · exact readBlock_of_no_key (extractXmlValue_of_unclosed absent)
  · exact readBlock_of_no_size (extractXmlValue_of_lacking absent)
  · exact readBlock_of_no_size (extractXmlValue_of_unclosed absent)

end

end CyxCloud.Cli
