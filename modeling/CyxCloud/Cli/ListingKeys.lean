import CyxCloud.Cli.ListingCodec

/-!
# The keys of a listing

A client that only asks for keys does not depend on how the other texts are read.  It gets the keys
that were written if none contains the end of its own element, and none behind the first one the end
of its block.
-/

namespace CyxCloud.Cli

open Library Gateway

/-- An object whose texts are plain but for its key, which does not end itself. -/
structure PlainEntry (object : ListedObject) : Prop where
  closed : Lacks object.key XmlTag.key.closing
  lastModified : '<' ∉ object.lastModified.toList
  etag : '<' ∉ object.etag.toList
  storageClass : '<' ∉ object.storageClass.toList

/-- The key of the object that a block tells of. -/
def readKey (block : List Char) : Option String := (readBlock block).map ObjectInfo.key

/-- What a block tells of a key. -/
def shownKey (object : ListedObject) : Option String :=
  if Lacks object.key XmlTag.contents.closing then some object.key else none

section

variable {object : ListedObject}

theorem PlainEntry.lacks (entry : PlainEntry object) {tag : Tag} (absent : Lacks object.key tag) :
    ∀ text ∈ objectTexts object, Lacks text tag := by
  simp only [objectTexts, List.forall_mem_cons]
  exact ⟨absent, not_infix_of_not_mem entry.lastModified, not_infix_of_not_mem entry.etag,
    not_infix_of_not_mem entry.storageClass, fun _ nothing => absurd nothing List.not_mem_nil⟩

/-- A key is read behind a document without one. -/
theorem PlainEntry.extract_key (entry : PlainEntry object) {before : List Segment}
    (clear : Clear XmlTag.key before) (rest : List Char) :
    extractXmlValue (render before ++ (innerText object ++ rest)) XmlTag.key =
      some object.key.toList := by
  have read := extract_xmlElement clear 4 object.key
    (render (xmlElement 4 XmlTag.lastModified object.lastModified ++
      (xmlElement 4 XmlTag.etag object.etag ++ (xmlElement 4 XmlTag.size (toString object.size) ++
        xmlElement 4 XmlTag.storageClass object.storageClass))) ++ "\n  ".toList ++ rest)
  rw [upTo_of_absent entry.closed] at read
  rw [← read, innerText, readSegments]
  simp only [render_append, List.append_assoc]

theorem readKey_of_extract {block key : List Char}
    (found : extractXmlValue block XmlTag.key = some key)
    (sized : extractXmlValue block XmlTag.size ≠ none) : readKey block = some (.ofList key) := by
  obtain ⟨size, read⟩ := Option.ne_none_iff_exists'.mp sized
  rw [readKey, readBlock, read, readObject, found]
  rfl

theorem readKey_of_no_key {block : List Char}
    (no_key : extractXmlValue block XmlTag.key = none) : readKey block = none := by
  rw [readKey, readBlock_of_no_key no_key]
  rfl

/-- What a block tells of its key, behind a document without one. -/
theorem PlainEntry.readKey_render (entry : PlainEntry object) {before : List Segment}
    (clear : Clear XmlTag.key before) :
    readKey (render before ++ (upTo XmlTag.contents.closing.text (innerText object) ++
      XmlTag.contents.closing.text)) = shownKey object := by
  have foreign : ∀ rest, Foreign XmlTag.contents.closing.text ("\n    ".toList ++ XmlTag.key.text)
      rest := fun rest =>
    Foreign.append (foreign_of_not_mem (by decide) _ _) (Tag.foreign_tag (by decide) _)
  have block_eq := innerText_eq object
  rw [← List.append_assoc] at block_eq
  by_cases absent : Lacks object.key XmlTag.contents.closing
  · have whole : upTo XmlTag.contents.closing.text (innerText object) = innerText object := by
      rw [block_eq, upTo_append_of_foreign (foreign _),
        upTo_of_absent (keyedText_lacks (by simp) (entry.lacks absent))]
    have sized : extractXmlValue (render before ++ (innerText object ++
        XmlTag.contents.closing.text)) XmlTag.size ≠ none := by
      refine @extract_ne_none _ (toString object.size).toList XmlTag.size
        (render before ++ render (xmlElement 4 XmlTag.key object.key ++
          (xmlElement 4 XmlTag.lastModified object.lastModified ++
            xmlElement 4 XmlTag.etag object.etag)) ++ "\n    ".toList)
        (render (xmlElement 4 XmlTag.storageClass object.storageClass) ++ ("\n  ".toList ++
          XmlTag.contents.closing.text)) ?_
      simp [innerText, readSegments, xmlElement]
    rw [whole, readKey_of_extract (entry.extract_key clear _) sized, shownKey, if_pos absent,
      String.ofList_toList]
  · -- the block ends inside the key, in front of the end of its element
    have occurs := not_not.mp absent
    obtain ⟨⟨first, after⟩, found⟩ : ∃ pieces,
        cut XmlTag.contents.closing.text object.key.toList = some pieces :=
      Option.ne_none_iff_exists'.mp fun none_found => cut_eq_none_iff.mp none_found occurs
    have ended : upTo XmlTag.contents.closing.text (innerText object) =
        "\n    ".toList ++ (XmlTag.key.text ++ first) := by
      have keyed : upTo XmlTag.contents.closing.text (keyedText object) = first := by
        rw [upTo, keyedText, List.append_assoc, cut_append_of_cut found]
      rw [block_eq, upTo_append_of_foreign (foreign _), keyed, List.append_assoc]
    have opened := clear.cut_render (not_infix_of_not_mem (by decide : '<' ∉ "\n    ".toList))
      (first ++ XmlTag.contents.closing.text)
    have unclosed : ¬ XmlTag.key.closing.text <:+: first ++ XmlTag.contents.closing.text := by
      have part : first <:+: object.key.toList :=
        ⟨[], XmlTag.contents.closing.text ++ after, by rw [eq_of_cut found]; simp⟩
      have apart := not_infix_of_part part entry.closed
      have other : XmlTag.contents.closing ≠ XmlTag.key.closing := by decide
      have texts : Clear XmlTag.key.closing [⟨first, XmlTag.contents.closing⟩] :=
        clear_cons_iff.mpr ⟨⟨other, apart⟩, clear_nil⟩
      simpa using texts.absent
    rw [shownKey, if_neg absent]
    refine readKey_of_no_key ?_
    rw [ended, extractXmlValue, List.append_assoc, List.append_assoc, opened, Option.bind_some,
      Option.map_eq_none_iff]
    exact cut_eq_none_iff.mpr unclosed

/-- What a block leaves behind its first end tells of no key, if the key does not make blocks of its
own. -/
theorem PlainEntry.filterMap_blocks_leftover (entry : PlainEntry object)
    (settled : ∃ tag ∈ [XmlTag.contents.closing, XmlTag.contents, XmlTag.key],
      Lacks object.key tag) (rest : List Char) :
    (blocks (leftover (innerText object) ++ rest)).filterMap readKey =
      (blocks rest).filterMap readKey := by
  obtain ⟨tag, settling, absent⟩ := settled
  have objects := Settled.filterMap_blocks_leftover ⟨tag, settling, entry.lacks absent⟩ rest
  have keys : ∀ xml, (blocks xml).filterMap readKey =
      ((blocks xml).filterMap readBlock).map ObjectInfo.key :=
    fun xml => (List.map_filterMap ..).symm
  rw [keys, keys, objects]

end

section

variable {response : ListObjectsV2Response} {object : ListedObject} {objects : List ListedObject}

/-- The first pass reads the key of the first object. -/
theorem PlainEntry.readObject_toXml (entry : PlainEntry object)
    (listed : response.contents = object :: objects)
    (head : ∀ text ∈ headTexts response, Lacks text XmlTag.key) :
    ∃ info, readObject response.toXml.toList = some info ∧ info.key = object.key := by
  have document := toList_toXml_of_cons listed
  rw [behindContents] at document
  have clear : Clear XmlTag.key (response.headSegments ++ [⟨"\n  ".toList, XmlTag.contents⟩]) :=
    clear_append_iff.mpr ⟨clear_headSegments (by simp [readTags]) head,
      clear_cons_iff.mpr ⟨⟨by decide, not_infix_of_not_mem (by decide)⟩, clear_nil⟩⟩
  have found := entry.extract_key clear (XmlTag.contents.closing.text ++
    (render (objects.flatMap ListedObject.segments) ++ render response.tailSegments))
  have same : extractXmlValue response.toXml.toList XmlTag.key = some object.key.toList := by
    rw [document, ← found]
    simp
  exact ⟨_, by rw [readObject, same]; rfl, String.ofList_toList⟩

/-- No key is read behind the blocks. -/
theorem filterMap_blocks_tailSegments (tail : ∀ text ∈ tailTexts response, Lacks text XmlTag.key) :
    (blocks (render response.tailSegments)).filterMap readKey = [] := by
  have clear := clear_of_madeOf (madeOf_tailSegments response)
    (by decide : XmlTag.key ∉ tailTags) tail
  have nothing := filterMap_blocks_of_lacking (by simp [blockTags]) clear.absent
  rw [List.filterMap_eq_nil_iff] at nothing ⊢
  intro block member
  rw [readKey, nothing block member]
  rfl

/-- The second pass reads the keys of objects whose blocks do not end inside them. -/
theorem filterMap_blocks_keys (entries : ∀ object ∈ objects, PlainEntry object)
    (tail : ∀ text ∈ tailTexts response, Lacks text XmlTag.key)
    (settled : ∀ object ∈ objects,
      ∃ tag ∈ [XmlTag.contents.closing, XmlTag.contents, XmlTag.key], Lacks object.key tag)
    (whole : ∀ object ∈ objects, Lacks object.key XmlTag.contents.closing) :
    (blocks (render (objects.flatMap ListedObject.segments) ++
      render response.tailSegments)).filterMap readKey = objects.map ListedObject.key := by
  rw [@filterMap_blocks_objects _ _ _ readKey shownKey]
  · rw [filterMap_blocks_tailSegments tail, List.append_nil, ← List.filterMap_eq_map]
    refine List.filterMap_congr fun object member => ?_
    rw [shownKey, if_pos (whole object member)]
    rfl
  · intro object member
    simpa using (entries object member).readKey_render
      (clear_contents XmlTag.key (by simp [readTags]))
  · intro object member
    exact (entries object member).filterMap_blocks_leftover (settled object member)

/-- In a document the second pass reads the first key too, if its block does not end inside it. -/
theorem PlainEntry.filterMap_blocks_toXml (entry : PlainEntry object)
    (listed : response.contents = object :: objects)
    (head : ∀ text ∈ headTexts response, Lacks text XmlTag.key)
    (settled : ∃ tag ∈ [XmlTag.contents.closing, XmlTag.contents, XmlTag.key],
      Lacks object.key tag) :
    (blocks response.toXml.toList).filterMap readKey =
      (shownKey object).toList ++
        (blocks (render (objects.flatMap ListedObject.segments) ++
          render response.tailSegments)).filterMap readKey := by
  have document := toList_toXml_of_cons listed
  rw [behindContents] at document
  have noise : ¬ XmlTag.key.text <:+: render response.headSegments ++ "\n  ".toList :=
    (clear_headSegments (by simp [readTags]) head).not_infix_append (by decide)
  have behind := entry.filterMap_blocks_leftover settled
    (render (objects.flatMap ListedObject.segments) ++ render response.tailSegments)
  rw [document, ← List.append_assoc, ← behind]
  refine filterMap_blocks_noise (fun noise => ¬ XmlTag.key.text <:+: noise) not_infix_of_part
    ?_ ?_ ?_ _ _ noise
  · intro noise lacking
    rw [readKey, readBlock_noise lacking]
    rfl
  · simpa using entry.readKey_render (clear_contents XmlTag.key (by simp [readTags]))
  · intro noise lacking
    have lacking' : ∀ tag ∈ [XmlTag.key], ¬ tag.text <:+: noise := by simpa using lacking
    simpa using entry.readKey_render
      (clear_noise (by decide) lacking' XmlTag.key List.mem_cons_self)

/-- Objects are added unless their key is known, so that every key is there once. -/
theorem keys_foldl_addObject {objects : List ObjectInfo}
    (distinct : (objects.map ObjectInfo.key).Nodup) (added : List ObjectInfo) :
    ((added.foldl addObject objects).map ObjectInfo.key).Nodup ∧
      ∀ key, key ∈ (added.foldl addObject objects).map ObjectInfo.key ↔
        key ∈ objects.map ObjectInfo.key ∨ key ∈ added.map ObjectInfo.key := by
  induction added generalizing objects with
  | nil => exact ⟨distinct, fun key => by simp⟩
  | cons object added induction =>
      rw [List.foldl_cons]
      by_cases known : objects.any (fun other => other.key == object.key)
      · rw [addObject, if_pos known]
        obtain ⟨other, member, same⟩ := List.any_eq_true.mp known
        have listed : object.key ∈ objects.map ObjectInfo.key :=
          List.mem_map.mpr ⟨other, member, eq_of_beq same⟩
        refine ⟨(induction distinct).1, fun key => ?_⟩
        rw [(induction distinct).2 key, List.map_cons, List.mem_cons]
        constructor
        · exact Or.imp_right .inr
        · rintro (before | rfl | later)
          · exact .inl before
          · exact .inl listed
          · exact .inr later
      · rw [addObject, if_neg known]
        have fresh : object.key ∉ objects.map ObjectInfo.key := by
          intro listed
          obtain ⟨other, member, same⟩ := List.mem_map.mp listed
          exact known (List.any_eq_true.mpr ⟨other, member, beq_iff_eq.mpr same⟩)
        have distinct' : ((objects ++ [object]).map ObjectInfo.key).Nodup := by
          rw [List.map_append, List.map_singleton]
          exact distinct.append (List.nodup_singleton _) (List.disjoint_singleton.mpr fresh)
        refine ⟨(induction distinct').1, fun key => ?_⟩
        rw [(induction distinct').2 key]
        simp [or_assoc]

/-- Nothing is read of a listing without objects if its texts do not make one. -/
theorem parseListResponse_nothing (nothing : response.contents = [])
    (no_object : NoObject (headTexts response ++ tailTexts response)) :
    ∃ listing, parseListResponse response.toXml = .ok listing ∧ listing.objects = [] := by
  rw [← extract_document_eq_none_iff, ← toList_toXml_of_nil nothing] at no_object
  exact ⟨_, rfl, (foldl_addObject_eq_nil_iff _).mpr no_object⟩

/-- The keys of a listing are read as they were written, each once, whatever its other texts are
read as. -/
theorem parseListResponse_keys (nonempty : response.contents ≠ [])
    (entries : ∀ object ∈ response.contents, PlainEntry object)
    (head : ∀ text ∈ headTexts response, Lacks text XmlTag.key)
    (tail : ∀ text ∈ tailTexts response, Lacks text XmlTag.key)
    (settled : ∀ object ∈ response.contents,
      ∃ tag ∈ [XmlTag.contents.closing, XmlTag.contents, XmlTag.key], Lacks object.key tag)
    (whole : ∀ object ∈ response.contents.tail, Lacks object.key XmlTag.contents.closing) :
    ∃ listing, parseListResponse response.toXml = .ok listing ∧
      (listing.objects.map ObjectInfo.key).Nodup ∧
      ∀ key, key ∈ listing.objects.map ObjectInfo.key ↔
        key ∈ response.contents.map ListedObject.key := by
  obtain ⟨object, objects, listed⟩ := List.exists_cons_of_ne_nil nonempty
  rw [listed] at entries settled whole ⊢
  have first := entries object List.mem_cons_self
  obtain ⟨info, read, key_eq⟩ := first.readObject_toXml listed head
  have later := filterMap_blocks_keys (fun other member => entries other (.tail object member))
    tail (fun other member => settled other (.tail object member)) whole
  have keys : ((blocks response.toXml.toList).filterMap readBlock).map ObjectInfo.key =
      (shownKey object).toList ++ objects.map ListedObject.key := by
    rw [← later, ← first.filterMap_blocks_toXml listed head (settled object List.mem_cons_self)]
    exact List.map_filterMap ..
  -- the first key is read twice, or only by the first pass
  have first_key : ∀ key ∈ (shownKey object).toList, key = object.key := by
    intro key shown
    rw [shownKey] at shown
    split at shown
    · exact List.mem_singleton.mp shown
    · exact nomatch shown
  have single : ([info].map ObjectInfo.key).Nodup := List.nodup_singleton info.key
  obtain ⟨once, members⟩ :=
    keys_foldl_addObject single ((blocks response.toXml.toList).filterMap readBlock)
  refine ⟨_, rfl, ?_⟩
  rw [readLines_of_some read]
  refine ⟨once, fun key => ?_⟩
  rw [members, keys, List.map_singleton, List.mem_singleton, key_eq, List.mem_append, List.map_cons,
    List.mem_cons]
  constructor
  · rintro (rfl | shown | later)
    · exact .inl rfl
    · exact .inl (first_key key shown)
    · exact .inr later
  · exact Or.imp_right .inr

end

end CyxCloud.Cli
