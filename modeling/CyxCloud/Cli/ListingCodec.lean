import CyxCloud.Cli.ListingLines

/-!
# Listings written and read

A listing is read as it was written if no text contains the end of its own element, the start of an
element that is read later, or the end of a block.
-/

namespace CyxCloud.Cli

open Library Gateway

/-! ## Objects with their own keys -/

theorem foldl_addObject_of_nodup {objects added : List ObjectInfo}
    (distinct : ((objects ++ added).map ObjectInfo.key).Nodup) :
    added.foldl addObject objects = objects ++ added := by
  induction added generalizing objects with
  | nil => simp
  | cons object added induction =>
      have fresh : addObject objects object = objects ++ [object] := by
        refine if_neg fun known => ?_
        obtain ⟨other, member, same⟩ := List.any_eq_true.mp known
        rw [List.map_append, List.nodup_append] at distinct
        exact distinct.2.2 _ (List.mem_map_of_mem member) _
          (List.mem_map_of_mem List.mem_cons_self) (eq_of_beq same)
      rw [List.foldl_cons, fresh, induction (by simpa using distinct), List.append_assoc]
      rfl

/-- Objects are added behind those that are there. -/
theorem foldl_addObject_eq (objects added : List ObjectInfo) :
    ∃ kept, kept.Sublist added ∧ added.foldl addObject objects = objects ++ kept := by
  induction added generalizing objects with
  | nil => exact ⟨[], .refl _, (List.append_nil _).symm⟩
  | cons object added induction =>
      rw [List.foldl_cons]
      by_cases known : objects.any (fun other => other.key == object.key)
      · obtain ⟨kept, part, same⟩ := induction objects
        rw [addObject, if_pos known]
        exact ⟨kept, part.cons _, same⟩
      · obtain ⟨kept, part, same⟩ := induction (objects ++ [object])
        rw [addObject, if_neg known]
        exact ⟨object :: kept, part.cons_cons _, by rw [same, List.append_assoc]; rfl⟩

theorem addObject_of_known {objects : List ObjectInfo} {object : ObjectInfo}
    (known : object.key ∈ objects.map ObjectInfo.key) : addObject objects object = objects := by
  obtain ⟨other, member, same⟩ := List.mem_map.mp known
  rw [addObject, if_pos]
  exact List.any_eq_true.mpr ⟨other, member, beq_iff_eq.mpr same⟩

theorem received_eq_expected_iff (object : ListedObject) :
    received object = expected object ↔ Closed object := by
  constructor
  · intro same
    obtain ⟨key, -, lastModified, etag⟩ := ObjectInfo.mk.inj same
    have key' := congrArg String.toList key
    have lastModified' := congrArg String.toList lastModified
    have etag' := congrArg String.toList etag
    rw [String.toList_ofList] at key' lastModified' etag'
    rw [String.toList_ofList] at etag'
    refine ⟨(upTo_eq_self_iff (Tag.text_ne_nil _)).mp key',
      (upTo_eq_self_iff (Tag.text_ne_nil _)).mp lastModified', fun occurs => ?_⟩
    -- the end of the element would survive in what is read
    have plain : (XmlTag.etag.closing.text.all fun c => !(c == '"')) = true := by decide
    have survives : XmlTag.etag.closing.text <:+: trimMatches (· == '"') object.etag.toList := by
      refine infix_trimMatches (fun c member => ?_) (Tag.text_ne_nil _) occurs
      simpa using List.all_eq_true.mp plain c member
    rw [← etag', upTo] at survives
    cases found : cut XmlTag.etag.closing.text object.etag.toList with
    | none => exact cut_eq_none_iff.mp found occurs
    | some pieces =>
        rw [found] at survives
        exact not_infix_of_cut found (Tag.text_ne_nil _)
          (survives.trans (trimMatches_within _ _))
  · rintro ⟨key, lastModified, etag⟩
    rw [received, expected, upTo_of_absent key, upTo_of_absent lastModified,
      upTo_of_absent etag, String.ofList_toList, String.ofList_toList]

/-! ## The round trip -/

/-- A listing is read as it was written. -/
def RoundTrips (response : ListObjectsV2Response) : Prop :=
  ∃ listing, parseListResponse response.toXml = .ok listing ∧
    listing.objects = response.contents.map expected ∧
    listing.isTruncated = response.isTruncated

/-- No text contains the end of its own element, and none of an object behind the first one the end
of its block in front of its size. -/
structure Survives (response : ListObjectsV2Response) : Prop where
  closed : ∀ object ∈ response.contents, Closed object
  whole : ∀ object ∈ response.contents.tail, Whole object

/-! ## What is read -/

section

variable {xml block value : List Char} {tag : Tag} {info : ObjectInfo}

theorem not_infix_of_extract (read : extractXmlValue xml tag = some value) :
    ¬ tag.closing.text <:+: value := by
  obtain ⟨opened, -, closed⟩ := Option.bind_eq_some_iff.mp read
  obtain ⟨⟨before, after⟩, found, rfl⟩ := Option.map_eq_some_iff.mp closed
  exact not_infix_of_cut found (Tag.text_ne_nil _)

/-- A value that is read in a text stands there, between the tags of its element. -/
theorem eq_of_extract (read : extractXmlValue xml tag = some value) :
    ∃ before after, xml = before ++ (tag.text ++ (value ++ (tag.closing.text ++ after))) := by
  obtain ⟨⟨before, inner⟩, opened, closed⟩ := Option.bind_eq_some_iff.mp read
  obtain ⟨⟨found, after⟩, found_eq, rfl⟩ := Option.map_eq_some_iff.mp closed
  have whole := eq_of_cut opened
  have inside := eq_of_cut found_eq
  refine ⟨before, after, ?_⟩
  dsimp only at inside
  rw [whole, inside]
  simp

/-- If the tags of an element stand in a text in their order, an element is read. -/
theorem extract_ne_none {early late : List Char}
    (whole : xml = early ++ (tag.text ++ (value ++ (tag.closing.text ++ late)))) :
    extractXmlValue xml tag ≠ none := by
  intro nothing
  cases opened : cut tag.text xml with
  | none =>
      exact cut_eq_none_iff.mp opened ⟨early, value ++ (tag.closing.text ++ late), by simp [whole]⟩
  | some pieces =>
      obtain ⟨before, inner⟩ := pieces
      have first : before.length ≤ early.length := by
        rw [whole] at opened
        exact length_le_of_cut opened
      have split : (before ++ tag.text) ++ inner =
          (early ++ tag.text) ++ (value ++ (tag.closing.text ++ late)) := by
        rw [← eq_of_cut opened, whole, List.append_assoc]
      -- the first tag leaves the end of the element behind it
      have closing_inside : tag.closing.text <:+: inner := by
        rcases List.append_eq_append_iff.mp split with ⟨gap, -, behind⟩ | ⟨gap, longer, behind⟩
        · exact ⟨gap ++ value, late, by rw [behind]; simp⟩
        · have lengths := congrArg List.length longer
          simp only [List.length_append] at lengths
          obtain rfl : gap = [] := List.length_eq_zero_iff.mp (by omega)
          rw [List.nil_append] at behind
          exact ⟨value, late, by rw [← behind]; simp⟩
      rw [extractXmlValue, opened, Option.bind_some, Option.map_eq_none_iff] at nothing
      exact cut_eq_none_iff.mp nothing closing_inside

/-- A block ends at the first end in it. -/
theorem cut_of_mem_blocks (member : block ∈ blocks xml) :
    ∃ inner, cut XmlTag.contents.closing.text block = some (inner, []) ∧
      block = inner ++ XmlTag.contents.closing.text := by
  induction xml using blocks.induct with
  | case1 xml none_left =>
      rw [blocks_of_none none_left] at member
      cases member
  | case2 xml before inner opened unclosed =>
      rw [blocks_of_unclosed opened unclosed] at member
      cases member
  | case3 xml before inner opened first rest closed induction =>
      rw [blocks_of_cut opened closed] at member
      rcases List.mem_cons.mp member with rfl | later
      · exact ⟨first, cut_self_of_cut closed, rfl⟩
      · exact induction later

/-- No value that is read in a block contains its end. -/
theorem not_infix_of_mem_blocks (member : block ∈ blocks xml)
    (read : extractXmlValue block tag = some value) :
    ¬ XmlTag.contents.closing.text <:+: value := by
  rintro ⟨early, late, value_eq⟩
  obtain ⟨before, after, block_eq⟩ := eq_of_extract read
  obtain ⟨inner, found, ends⟩ := cut_of_mem_blocks member
  have whole : block = (before ++ (tag.text ++ early)) ++ (XmlTag.contents.closing.text ++
      (late ++ (tag.closing.text ++ after))) := by
    rw [block_eq, ← value_eq]
    simp
  rw [whole] at found
  have earlier := length_le_of_cut found
  have lengths := congrArg List.length (whole.symm.trans ends)
  simp only [List.length_append] at lengths earlier
  have positive := List.length_pos_iff.mpr tag.closing.text_ne_nil
  omega

/-- A pattern stands in none of the texts that are read of an object. -/
def InfoLacks (info : ObjectInfo) (tag : Tag) : Prop :=
  Lacks info.key tag ∧ Lacks info.lastModified tag ∧ Lacks info.etag tag

theorem lacks_getD {found : Option (List Char)}
    (lacking : ∀ value, found = some value → ¬ tag.text <:+: value) :
    Lacks (.ofList (found.getD [])) tag := by
  rw [Lacks, String.toList_ofList]
  cases found with
  | none => exact fun occurs => tag.text_ne_nil (List.infix_nil.mp occurs)
  | some value => exact lacking value rfl

theorem lacks_trimmed {text : List Char} (drops : Char → Bool)
    (lacks : Lacks (.ofList text) tag) : Lacks (.ofList (trimMatches drops text)) tag := by
  rw [Lacks, String.toList_ofList] at lacks ⊢
  exact fun occurs => lacks (occurs.trans (trimMatches_within _ _))

/-- No text that is read contains the end of its element. -/
theorem closed_of_readObject (read : readObject xml = some info) :
    Lacks info.key XmlTag.key.closing ∧ Lacks info.lastModified XmlTag.lastModified.closing ∧
      Lacks info.etag XmlTag.etag.closing := by
  obtain ⟨key, found, rfl⟩ := Option.map_eq_some_iff.mp read
  refine ⟨?_, lacks_getD fun value found => not_infix_of_extract found, ?_⟩
  · rw [Lacks, String.toList_ofList]
    exact not_infix_of_extract found
  · exact lacks_trimmed _ (lacks_getD fun value found => not_infix_of_extract found)

/-- No text that is read in a block contains its end. -/
theorem whole_of_readBlock (member : block ∈ blocks xml) (read : readBlock block = some info) :
    InfoLacks info XmlTag.contents.closing := by
  rw [readBlock] at read
  split at read
  · obtain ⟨key, found, rfl⟩ := Option.map_eq_some_iff.mp read
    refine ⟨?_, lacks_getD fun value found => not_infix_of_mem_blocks member found, ?_⟩
    · rw [Lacks, String.toList_ofList]
      exact not_infix_of_mem_blocks member found
    · exact lacks_trimmed _ (lacks_getD fun value found => not_infix_of_mem_blocks member found)
  · cases read

/-- The first pass reads at most one object, from the whole text. -/
theorem readLines_objects (xml : List Char) (lines : List (List Char)) (flag : Bool) :
    (readLines xml lines flag).2 = [] ∨
      ∃ info, readObject xml = some info ∧ (readLines xml lines flag).2 = [info] := by
  induction lines generalizing flag with
  | nil => exact .inl rfl
  | cons line lines induction =>
      simp only [readLines]
      split
      · split
        · rename_i info read
          exact .inr ⟨info, read, rfl⟩
        · exact induction _
      · exact induction _

end

section

variable {response : ListObjectsV2Response}

/-- A tag without quotes that stands in no trimmed text stands in no text. -/
theorem lacks_of_trimmed {text : String} {tag : Tag}
    (plain : (tag.text.all fun c => !(c == '"')) = true)
    (lacks : Lacks (.ofList (trimMatches (· == '"') text.toList)) tag) : Lacks text tag := by
  intro occurs
  rw [Lacks, String.toList_ofList] at lacks
  refine lacks (infix_trimMatches (fun c member => ?_) tag.text_ne_nil occurs)
  simpa using List.all_eq_true.mp plain c member

/-- Whatever the texts are, a listing is read as it was written only if no text contains the end of
its own element, and none behind the first object the end of its block. -/
theorem survives_of_roundTrips (trips : RoundTrips response) : Survives response := by
  obtain ⟨listing, parsed, objects_eq, -⟩ := trips
  simp only [parseListResponse, Except.ok.injEq] at parsed
  subst parsed
  generalize xml_eq : response.toXml.toList = xml at objects_eq
  obtain ⟨kept, part, same⟩ := foldl_addObject_eq (readLines xml (linesFrom [] xml) false).2
    ((blocks xml).filterMap readBlock)
  dsimp only at objects_eq
  rw [same] at objects_eq
  have kept_read : ∀ info ∈ kept, ∃ block ∈ blocks xml, readBlock block = some info :=
    fun info member => List.mem_filterMap.mp (part.subset member)
  have of_block : ∀ {block info}, readBlock block = some info → readObject block = some info := by
    intro block info read
    rw [readBlock] at read
    split at read
    · exact read
    · cases read
  constructor
  · intro object member
    have listed : expected object ∈ (readLines xml (linesFrom [] xml) false).2 ++ kept := by
      rw [objects_eq]
      exact List.mem_map_of_mem member
    have read : ∃ text, readObject text = some (expected object) := by
      rcases List.mem_append.mp listed with first | later
      · rcases readLines_objects xml (linesFrom [] xml) false with nothing | ⟨info, read, only⟩
        · rw [nothing] at first
          cases first
        · rw [only, List.mem_singleton] at first
          exact ⟨xml, first ▸ read⟩
      · obtain ⟨block, -, read⟩ := kept_read _ later
        exact ⟨block, of_block read⟩
    obtain ⟨text, read⟩ := read
    obtain ⟨key, lastModified, etag⟩ := closed_of_readObject read
    exact ⟨key, lastModified, lacks_of_trimmed (by decide) etag⟩
  · intro object member
    have listed : expected object ∈ kept := by
      have behind : expected object ∈
          ((readLines xml (linesFrom [] xml) false).2 ++ kept).tail := by
        rw [objects_eq, ← List.map_tail]
        exact List.mem_map_of_mem member
      rcases readLines_objects xml (linesFrom [] xml) false with nothing | ⟨info, -, only⟩
      · rw [nothing, List.nil_append] at behind
        exact List.mem_of_mem_tail behind
      · rw [only] at behind
        exact behind
    obtain ⟨block, block_mem, read⟩ := kept_read _ listed
    obtain ⟨key, lastModified, etag⟩ := whole_of_readBlock block_mem read
    exact ⟨key, lastModified, lacks_of_trimmed (by decide) etag⟩

/-- Where no text stands in the way of the scanner, that is enough. -/
theorem roundTrips_of_survives (apart : Apart response) (nonempty : response.contents ≠ [])
    (distinct : (response.contents.map ListedObject.key).Nodup)
    (small : ∀ object ∈ response.contents, object.size < 2 ^ 64) (survives : Survives response) :
    RoundTrips response := by
  obtain ⟨object, objects, listed⟩ := List.exists_cons_of_ne_nil nonempty
  refine ⟨_, parseListResponse_toXml apart listed small, ?_, rfl⟩
  have closed := survives.closed
  have whole := survives.whole
  rw [listed] at closed whole distinct
  have same : ∀ other ∈ object :: objects, received other = expected other :=
    fun other member => (received_eq_expected_iff other).mpr (closed other member)
  have later : objects.filterMap shown = objects.map expected := by
    rw [← List.filterMap_eq_map]
    refine List.filterMap_congr fun other member => ?_
    rw [shown, if_pos (whole other member), same other (List.mem_cons_of_mem _ member)]
    rfl
  have keys : (([expected object] ++ objects.map expected).map ObjectInfo.key).Nodup := by
    simpa [Function.comp_def, expected] using distinct
  have added : (objects.map expected).foldl addObject [expected object] =
      (object :: objects).map expected := by
    rw [foldl_addObject_of_nodup keys]
    rfl
  dsimp only
  rw [listed, List.filterMap_cons, same object List.mem_cons_self, shown,
    same object List.mem_cons_self, later]
  split
  · rename_i ended
    exact added
  · rename_i info whole_eq
    obtain rfl : expected object = info := by
      split at whole_eq
      · exact Option.some.inj whole_eq
      · cases whole_eq
    rw [List.foldl_cons, addObject_of_known (by simp)]
    exact added

end

/-! ## Listings without objects -/

/-- No text has a key, and none starts one that a later one ends. -/
structure NoObject (texts : List String) : Prop where
  within : ∀ text ∈ texts, extractXmlValue text.toList XmlTag.key = none
  across : texts.Pairwise fun text later =>
    Lacks text XmlTag.key ∨ Lacks later XmlTag.key.closing

section

variable {tag : Tag}

theorem extract_append_of_foreign {piece rest : List Char} (foreign : Foreign tag.text piece rest) :
    extractXmlValue (piece ++ rest) tag = extractXmlValue rest tag := by
  rw [extractXmlValue, extractXmlValue, cut_append_of_foreign foreign]
  cases cut tag.text rest <;> rfl

theorem extract_eq_none_iff_of_cut {xml before inner : List Char}
    (opened : cut tag.text xml = some (before, inner)) :
    extractXmlValue xml tag = none ↔ ¬ tag.closing.text <:+: inner := by
  rw [extractXmlValue, opened, Option.bind_some, Option.map_eq_none_iff, cut_eq_none_iff]

/-- No element is read in a document exactly if none is read in its texts and none that starts in a
text ends in a later one. -/
theorem extract_render_eq_none_iff {segments : List Segment}
    (other : ∀ segment ∈ segments, segment.tag ≠ tag ∧ segment.tag ≠ tag.closing) :
    extractXmlValue (render segments) tag = none ↔
      (∀ text ∈ segments.map Segment.text, extractXmlValue text tag = none) ∧
        (segments.map Segment.text).Pairwise fun text later =>
          ¬ tag.text <:+: text ∨ ¬ tag.closing.text <:+: later := by
  induction segments with
  | nil => simp [extractXmlValue, cut, Tag.text]
  | cons segment segments induction =>
      obtain ⟨here, others⟩ := List.forall_mem_cons.mp other
      have later := induction others
      rw [render_cons, List.map_cons, List.forall_mem_cons, List.pairwise_cons]
      cases opened : cut tag.text segment.text with
      | none =>
          have absent := cut_eq_none_iff.mp opened
          have alone := extractXmlValue_of_lacking absent
          rw [extract_append_of_foreign (Tag.foreign_text absent _ _),
            extract_append_of_foreign (Tag.foreign_tag here.1 _), later]
          simp [absent, alone]
      | some pieces =>
          obtain ⟨before, inner⟩ := pieces
          have occurs : tag.text <:+: segment.text := by
            by_contra absent
            rw [cut_eq_none_iff.mpr absent] at opened
            cases opened
          have whole := extract_eq_none_iff_of_cut
            (cut_append_of_cut opened (segment.tag.text ++ render segments))
          have alone := extract_eq_none_iff_of_cut opened
          have behind : inner ++ (segment.tag.text ++ render segments) =
              render (⟨inner, segment.tag⟩ :: segments) := by rw [render_cons]
          rw [whole, alone, behind, not_infix_render_iff]
          · rw [List.forall_mem_cons]
            constructor
            · rintro ⟨ends_not, lacking⟩
              have lacking' : ∀ text ∈ segments.map Segment.text,
                  ¬ tag.closing.text <:+: text := by
                intro text member
                obtain ⟨found, found_mem, rfl⟩ := List.mem_map.mp member
                exact lacking found found_mem
              refine ⟨⟨ends_not, fun text member => ?_⟩, fun text member => .inr (lacking' text member),
                List.pairwise_of_forall_mem_list fun _ _ text member => .inr (lacking' text member)⟩
              cases found : extractXmlValue text tag with
              | none => rfl
              | some value =>
                  obtain ⟨before, after, text_eq⟩ := eq_of_extract found
                  exact absurd ⟨before ++ (tag.text ++ value), after, by rw [text_eq]; simp⟩
                    (lacking' text member)
            · rintro ⟨⟨ends_not, -⟩, across, -⟩
              refine ⟨ends_not, fun found member => ?_⟩
              rcases across _ (List.mem_map_of_mem member) with absent | lacking
              · exact absurd occurs absent
              · exact lacking
          · exact List.forall_mem_cons.mpr ⟨here.2, fun found member => (others found member).2⟩

end

section

variable {response : ListObjectsV2Response}

/-- A text with an opening bracket. -/
def bracketed (text : List Char) : Bool := decide ('<' ∈ text)

theorem filter_xmlElement (indent : Nat) (tag : Tag) (value : String) :
    ((xmlElement indent tag value).map Segment.text).filter bracketed =
      [value.toList].filter bracketed := by
  have blank : bracketed ('\n' :: List.replicate indent ' ') = false := by
    simp [bracketed, List.mem_replicate]
  rw [xmlElement, List.map_cons, List.filter_cons_of_neg (by rw [blank]; exact Bool.false_ne_true)]
  rfl

theorem filter_of_plain {text : List Char} (plain : '<' ∉ text) :
    [text].filter bracketed = [] := by
  simp [bracketed, plain]

/-- The texts with brackets in a part of a document. -/
def bracketedTexts (segments : List Segment) : List (List Char) :=
  (segments.map Segment.text).filter bracketed

@[simp]
theorem bracketedTexts_append (first second : List Segment) :
    bracketedTexts (first ++ second) = bracketedTexts first ++ bracketedTexts second := by
  rw [bracketedTexts, List.map_append, List.filter_append]
  rfl

theorem bracketedTexts_openingSegments (response : ListObjectsV2Response) :
    bracketedTexts response.openingSegments =
      ((headTexts response).map String.toList).filter bracketed := by
  have most : bracketedTexts (xmlElement 2 XmlTag.maxKeys (toString response.maxKeys)) = [] :=
    (filter_xmlElement 2 _ _).trans (filter_of_plain (opening_not_mem_intDigits response.maxKeys))
  have named : bracketedTexts (xmlElement 2 XmlTag.bucketName response.name) =
      [response.name.toList].filter bracketed := filter_xmlElement 2 _ _
  have opening : bracketedTexts [⟨[], XmlTag.declaration⟩, ⟨"\n".toList, XmlTag.listBucketResult⟩] =
      [] := by decide
  rw [ListObjectsV2Response.openingSegments, headTexts]
  cases response.keyPrefix with
  | none =>
      have unasked : bracketedTexts [⟨"\n  ".toList, XmlTag.noKeyPrefix⟩] = [] := by decide
      simp only [bracketedTexts_append, opening, named, unasked, most, List.nil_append,
        List.append_nil]
      rfl
  | some text =>
      have asked : bracketedTexts (xmlElement 2 XmlTag.keyPrefix text) =
          [text.toList].filter bracketed := filter_xmlElement 2 _ _
      simp only [bracketedTexts_append, opening, named, asked, most, List.nil_append,
        List.append_nil, ← List.filter_append]
      rfl

theorem bracketedTexts_tailSegments (response : ListObjectsV2Response) :
    bracketedTexts response.tailSegments =
      ((tailTexts response).map String.toList).filter bracketed := by
  have wrapped : bracketedTexts (response.commonPrefixes.flatMap fun text =>
      ⟨"\n  ".toList, XmlTag.commonPrefixes⟩ :: (xmlElement 4 XmlTag.keyPrefix text ++
        [⟨"\n  ".toList, XmlTag.commonPrefixes.closing⟩])) =
          (response.commonPrefixes.map String.toList).filter bracketed := by
    induction response.commonPrefixes with
    | nil => rfl
    | cons text texts induction =>
        have starts : bracketedTexts [⟨"\n  ".toList, XmlTag.commonPrefixes⟩] = [] := by decide
        have ends : bracketedTexts [⟨"\n  ".toList, XmlTag.commonPrefixes.closing⟩] = [] := by decide
        have element : bracketedTexts (xmlElement 4 XmlTag.keyPrefix text) =
            [text.toList].filter bracketed := filter_xmlElement 4 _ _
        rw [List.flatMap_cons, bracketedTexts_append, induction, ← List.singleton_append,
          bracketedTexts_append, bracketedTexts_append, starts, element, ends, List.append_nil,
          List.nil_append, ← List.filter_append]
        rfl
  have ending : bracketedTexts [⟨"\n".toList, XmlTag.listBucketResultEnd⟩] = [] := by decide
  rw [ListObjectsV2Response.tailSegments, tailTexts, List.map_append, List.filter_append]
  cases response.nextContinuationToken with
  | none =>
      simp only [bracketedTexts_append, wrapped, ending, List.append_nil]
      exact (List.append_nil _).symm
  | some token =>
      have continued : bracketedTexts (xmlElement 2 XmlTag.nextContinuationToken token) =
          [token.toList].filter bracketed := filter_xmlElement 2 _ _
      simp only [bracketedTexts_append, wrapped, continued, ending, List.append_nil]
      rfl

/-- Only the texts of a response have brackets. -/
theorem bracketedTexts_document (response : ListObjectsV2Response) :
    bracketedTexts (response.headSegments ++ response.tailSegments) =
      ((headTexts response ++ tailTexts response).map String.toList).filter bracketed := by
  have count : bracketedTexts (xmlElement 2 XmlTag.keyCount (toString response.keyCount)) = [] :=
    (filter_xmlElement 2 _ _).trans (filter_of_plain (opening_not_mem_intDigits response.keyCount))
  have flag : bracketedTexts (xmlElement 2 XmlTag.isTruncated
      (if response.isTruncated then "true" else "false")) = [] :=
    (filter_xmlElement 2 _ _).trans (filter_of_plain (by split <;> decide))
  rw [ListObjectsV2Response.headSegments, List.map_append, List.filter_append]
  simp only [bracketedTexts_append, bracketedTexts_openingSegments, bracketedTexts_tailSegments,
    count, flag, List.append_nil]

/-- What holds of plain texts holds of the texts of the document exactly if it does of those of the
response. -/
theorem forall_texts_iff {property : List Char → Prop}
    (plain : ∀ text, '<' ∉ text → property text) :
    (∀ text ∈ (response.headSegments ++ response.tailSegments).map Segment.text, property text) ↔
      ∀ text ∈ headTexts response ++ tailTexts response, property text.toList := by
  have filtered : ∀ texts : List (List Char),
      (∀ text ∈ texts, property text) ↔ ∀ text ∈ texts.filter bracketed, property text := by
    intro texts
    simp only [List.mem_filter, bracketed, decide_eq_true_eq, and_imp]
    refine forall₂_congr fun text _ => ⟨fun holds _ => holds, fun holds => ?_⟩
    by_cases has_bracket : '<' ∈ text
    · exact holds has_bracket
    · exact plain text has_bracket
  rw [filtered, ← bracketedTexts, bracketedTexts_document, ← filtered, List.forall_mem_map]

theorem pairwise_texts_iff {relation : List Char → List Char → Prop}
    (plain : ∀ text later, '<' ∉ text ∨ '<' ∉ later → relation text later) :
    ((response.headSegments ++ response.tailSegments).map Segment.text).Pairwise relation ↔
      (headTexts response ++ tailTexts response).Pairwise fun text later =>
        relation text.toList later.toList := by
  have filtered : ∀ texts : List (List Char),
      texts.Pairwise relation ↔ (texts.filter bracketed).Pairwise relation := by
    intro texts
    rw [List.pairwise_filter]
    refine List.Pairwise.iff fun text later => ⟨fun holds _ _ => holds, fun holds => ?_⟩
    by_cases both : '<' ∈ text ∧ '<' ∈ later
    · exact holds (decide_eq_true both.1) (decide_eq_true both.2)
    · exact plain text later (not_and_or.mp both)
  rw [filtered, ← bracketedTexts, bracketedTexts_document, ← filtered, List.pairwise_map]

/-- The tags of a document without objects. -/
theorem tag_mem_document (response : ListObjectsV2Response) :
    ∀ segment ∈ response.headSegments ++ response.tailSegments,
      segment.tag ∈ headTags ++ tailTags := by
  intro segment member
  rcases List.mem_append.mp member with before | behind
  · exact List.mem_append_left _ (madeOf_headSegments response segment before).1
  · exact List.mem_append_right _ (madeOf_tailSegments response segment behind).1

theorem extract_document_eq_none_iff (response : ListObjectsV2Response) :
    extractXmlValue (render (response.headSegments ++ response.tailSegments)) XmlTag.key = none ↔
      NoObject (headTexts response ++ tailTexts response) := by
  have plain_lacks : ∀ {tag : Tag} {text : List Char}, '<' ∉ text → ¬ tag.text <:+: text :=
    fun absent occurs => absent (occurs.subset List.mem_cons_self)
  have other : ∀ segment ∈ response.headSegments ++ response.tailSegments,
      segment.tag ≠ XmlTag.key ∧ segment.tag ≠ XmlTag.key.closing := fun segment member =>
    (by decide : ∀ tag ∈ headTags ++ tailTags, tag ≠ XmlTag.key ∧ tag ≠ XmlTag.key.closing) _
      (tag_mem_document response segment member)
  rw [extract_render_eq_none_iff other,
    forall_texts_iff fun text plain => extractXmlValue_of_lacking (plain_lacks plain),
    pairwise_texts_iff fun text later plain => plain.imp plain_lacks plain_lacks]
  exact ⟨fun ⟨within, across⟩ => ⟨within, across⟩, fun ⟨within, across⟩ => ⟨within, across⟩⟩

theorem truncatedLine_document_iff (complete : response.isTruncated = false) :
    ¬ truncatedLine <:+: render (response.headSegments ++ response.tailSegments) ↔
      ∀ text ∈ headTexts response ++ tailTexts response, ¬ truncatedLine <:+: text.toList := by
  constructor
  · intro absent
    have plain_lacks : ∀ text, '<' ∉ text → ¬ truncatedLine <:+: text :=
      fun text plain occurs => plain (occurs.subset List.mem_cons_self)
    refine (forall_texts_iff plain_lacks).mp fun text member occurs => ?_
    obtain ⟨segment, known, rfl⟩ := List.mem_map.mp member
    exact absent (occurs.trans (infix_render_of_mem known))
  · intro lacking
    rw [render_append]
    refine not_infix_of_foreign (Foreign.append (truncatedLine_foreign complete
      (fun text known => lacking text (List.mem_append_left _ known)) _) ?_) (List.cons_ne_nil _ _)
    exact (clearOf_of_madeOf (madeOf_tailSegments response) (by decide) fun text known =>
      lacking text (List.mem_append_right _ known)).foreign (by decide) _

/-- The first pass reads an object if there is one. -/
theorem readLines_of_some {xml : List Char} {info : ObjectInfo} (read : readObject xml = some info)
    (flag : Bool) : (readLines xml (linesFrom [] xml) flag).2 = [info] := by
  have starts : XmlTag.key.text <:+: xml := by
    by_contra absent
    rw [readObject_eq_none_iff.mpr (extractXmlValue_of_lacking absent)] at read
    cases read
  have kept : (XmlTag.key.text.all fun c => !isWhiteSpace c) = true := by decide
  obtain ⟨line, member, occurs⟩ := @exists_line_of_within XmlTag.key.text (by decide) (by decide)
    (by decide) [] xml starts List.not_mem_nil
  have opens : opensObject (trimMatches isWhiteSpace line) = true := by
    rw [opensObject, Bool.or_eq_true]
    refine .inr (decide_eq_true (infix_trimMatches (fun c letter => ?_) (by decide) occurs))
    simpa using List.all_eq_true.mp kept c letter
  generalize linesFrom [] xml = lines at member
  induction lines generalizing flag with
  | nil => cases member
  | cons first lines induction =>
      simp only [readLines, read]
      split
      · rfl
      · rename_i silent
        rcases List.mem_cons.mp member with rfl | later
        · exact absurd opens silent
        · exact induction _ later

/-- A part of a text has no element if the text has none. -/
theorem extract_eq_none_of_within {part xml : List Char} {tag : Tag} (inside : part <:+: xml)
    (nothing : extractXmlValue xml tag = none) : extractXmlValue part tag = none := by
  rw [Option.eq_none_iff_forall_ne_some]
  intro value read
  obtain ⟨before, after, rfl⟩ := inside
  obtain ⟨early, late, part_eq⟩ := eq_of_extract read
  have whole : before ++ part ++ after = (before ++ early) ++
      (tag.text ++ (value ++ (tag.closing.text ++ (late ++ after)))) := by
    rw [part_eq]
    simp
  exact extract_ne_none whole nothing

/-- The texts of a listing without objects. -/
theorem toList_toXml_of_nil (nothing : response.contents = []) :
    response.toXml.toList = render (response.headSegments ++ response.tailSegments) := by
  rw [toList_toXml, nothing]
  rfl

/-- No object is read exactly if no key is. -/
theorem foldl_addObject_eq_nil_iff (xml : List Char) :
    ((blocks xml).filterMap readBlock).foldl addObject (readLines xml (linesFrom [] xml) false).2 =
      [] ↔ extractXmlValue xml XmlTag.key = none := by
  cases no_key : extractXmlValue xml XmlTag.key with
  | none =>
      have passed := readLines_of_none (readObject_eq_none_iff.mpr no_key) (linesFrom [] xml) false
      have no_blocks : (blocks xml).filterMap readBlock = [] :=
        List.filterMap_eq_nil_iff.mpr fun block member =>
          readBlock_of_no_key (extract_eq_none_of_within (infix_of_mem_blocks member) no_key)
      simp [passed, no_blocks]
  | some key =>
      obtain ⟨info, read⟩ : ∃ info, readObject xml = some info :=
        ⟨_, by rw [readObject, no_key]; rfl⟩
      obtain ⟨kept, -, same⟩ := foldl_addObject_eq [info] ((blocks xml).filterMap readBlock)
      rw [readLines_of_some read, same]
      simp

/-- A listing without objects is read as it was written exactly if no text has a key, none starts
one that a later one ends, and none has the line of a truncated listing if it is complete. -/
theorem roundTrips_nil_iff (nothing : response.contents = []) :
    RoundTrips response ↔ NoObject (headTexts response ++ tailTexts response) ∧
      (response.isTruncated = false → ∀ text ∈ headTexts response ++ tailTexts response,
        ¬ truncatedLine <:+: text.toList) := by
  have document := toList_toXml_of_nil nothing
  have flagged : response.isTruncated = true →
      truncatedLine <:+: render (response.headSegments ++ response.tailSegments) := by
    intro flag
    rw [render_append]
    have line := infix_of_mem_linesFrom (flagLine_mem flag (render response.tailSegments))
    rw [List.nil_append] at line
    exact (List.suffix_append _ _).isInfix.trans line
  generalize xml_eq : render (response.headSegments ++ response.tailSegments) = xml
    at document flagged
  have parsed : RoundTrips response ↔ extractXmlValue xml XmlTag.key = none ∧
      (readLines xml (linesFrom [] xml) false).1 = response.isTruncated := by
    rw [RoundTrips, parseListResponse, document, nothing, ← foldl_addObject_eq_nil_iff]
    simp
  rw [parsed, ← extract_document_eq_none_iff, xml_eq]
  refine and_congr_right fun no_key => ?_
  rw [readLines_of_none (readObject_eq_none_iff.mpr no_key), Bool.false_or]
  cases flag : response.isTruncated with
  | true => simpa using any_truncatedLine_iff.mpr (flagged flag)
  | false =>
      have lines := @any_truncatedLine_iff xml
      have texts := truncatedLine_document_iff flag
      rw [xml_eq] at texts
      rw [← Bool.not_eq_true, lines, texts]
      simp

/-- A listing without objects is read as it was written exactly if its texts have no key and, if it
is complete, not the line of a truncated one.  One with objects is only if it survives, and if no
text stands in the way of the scanner, that is enough. -/
theorem roundTrips_iff_survives (distinct : (response.contents.map ListedObject.key).Nodup)
    (small : ∀ object ∈ response.contents, object.size < 2 ^ 64) :
    (response.contents = [] →
      (RoundTrips response ↔ NoObject (headTexts response ++ tailTexts response) ∧
        (response.isTruncated = false → ∀ text ∈ headTexts response ++ tailTexts response,
          ¬ truncatedLine <:+: text.toList))) ∧
      (response.contents ≠ [] →
        (RoundTrips response → Survives response) ∧
          (Apart response → (RoundTrips response ↔ Survives response))) := by
  refine ⟨roundTrips_nil_iff, fun nonempty => ⟨survives_of_roundTrips, fun apart => ?_⟩⟩
  exact ⟨survives_of_roundTrips, roundTrips_of_survives apart nonempty distinct small⟩

end

/-- A complete listing of one object. -/
def singleListing (key : String) : ListObjectsV2Response where
  name := "photos"
  keyPrefix := some ""
  maxKeys := 1000
  isTruncated := false
  contents :=
    [{ key
       lastModified := "1970-01-01T00:00:00+00:00"
       etag := "c4ca4238a0b923820dcc509a6f75849b"
       size := 1
       storageClass := "STANDARD" }]
  commonPrefixes := []
  continuationToken := none
  nextContinuationToken := none
  keyCount := 1

theorem singleListing_apart {key : String}
    (lacks : ∀ tag ∈ [XmlTag.key, XmlTag.lastModified, XmlTag.etag, XmlTag.size], Lacks key tag) :
    Apart (singleListing key) where
  head := (by decide : ∀ text ∈ ["photos", ""], ∀ tag ∈ readTags, Lacks text tag)
  unopened := by
    intro object member
    obtain rfl := List.mem_singleton.mp member
    have lastModified : ∀ tag ∈ [XmlTag.etag, XmlTag.size],
        Lacks "1970-01-01T00:00:00+00:00" tag := by decide
    have etag : Lacks "c4ca4238a0b923820dcc509a6f75849b" XmlTag.size := by decide
    exact ⟨fun tag listed => lacks tag (List.mem_cons_of_mem _ listed), lastModified, etag⟩
  settled := by
    intro object member
    obtain rfl := List.mem_singleton.mp member
    have others : ∀ text ∈ ["1970-01-01T00:00:00+00:00", "c4ca4238a0b923820dcc509a6f75849b",
        "STANDARD"], Lacks text XmlTag.key := by decide
    exact ⟨XmlTag.key, by simp, List.forall_mem_cons.mpr ⟨lacks _ List.mem_cons_self, others⟩⟩
  tail := ⟨XmlTag.contents, by simp [blockTags], fun _ member => absurd member List.not_mem_nil⟩
  complete := fun _ =>
    (by decide : ∀ text ∈ ["photos", ""], ¬ truncatedLine <:+: text.toList)
  truncated := by
    intro flag
    cases flag

theorem roundTrips_singleListing : RoundTrips (singleListing "a</Contents><Contents>b.txt") := by
  have apart : Apart (singleListing "a</Contents><Contents>b.txt") :=
    singleListing_apart (by decide)
  refine (((roundTrips_iff_survives (by decide) (by decide)).2 (by decide)).2 apart).mpr ⟨?_, ?_⟩
  · intro object member
    obtain rfl := List.mem_singleton.mp member
    exact ⟨by decide, by decide, by decide⟩
  · exact fun object member => absurd member List.not_mem_nil

/-- A key that the gateway accepts and that ends its own element is cut off. -/
theorem not_roundTrips_of_closing_key :
    validateObjectKey "a</Key>b" = .ok () ∧ ¬ RoundTrips (singleListing "a</Key>b") := by
  refine ⟨by decide, fun trips => ?_⟩
  have closed := (survives_of_roundTrips trips).closed _ (List.mem_singleton_self _)
  exact absurd closed.key (by decide)

end CyxCloud.Cli
