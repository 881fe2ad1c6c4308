import CyxCloud.Cli.ListingScan

/-!
# The lines of a listing

The first pass of the scanner goes through the lines of the document up to the first object.  With
the second pass over the blocks it gives what is read of a whole document.
-/

namespace CyxCloud.Cli

open Library Gateway

theorem linesFrom_append_newline (line text rest : List Char) :
    linesFrom line (text ++ '\n' :: rest) = linesFrom line (text ++ ['\n']) ++ linesFrom [] rest := by
  induction text generalizing line with
  | nil => simp [linesFrom]
  | cons c text induction =>
      rw [List.cons_append, List.cons_append, linesFrom, linesFrom]
      split
      · rw [induction, List.cons_append]
      · exact induction _

theorem infix_of_mem_linesFrom {line text found : List Char} (member : found ∈ linesFrom line text) :
    found <:+: line ++ text := by
  induction text generalizing line with
  | nil =>
      rw [linesFrom] at member
      split at member
      · exact nomatch member
      · rw [List.mem_singleton.mp member, List.append_nil]
  | cons c text induction =>
      rw [linesFrom] at member
      split at member
      · rcases List.mem_cons.mp member with rfl | later
        · split
          · exact ((List.dropLast_prefix line).trans (List.prefix_append _ _)).isInfix
          · exact (List.prefix_append _ _).isInfix
        · have inner := induction later
          rw [List.nil_append] at inner
          exact inner.trans ((List.suffix_cons c text).trans (List.suffix_append _ _)).isInfix
      · have inner := induction member
        rwa [List.append_assoc] at inner

/-- A line starts the text or follows a line feed in it. -/
theorem starts_of_mem_linesFrom {line text found : List Char}
    (member : found ∈ linesFrom line text) :
    found <+: line ++ text ∨ '\n' :: found <:+: text := by
  induction text generalizing line with
  | nil =>
      rw [linesFrom] at member
      split at member
      · cases member
      · rw [List.mem_singleton.mp member]
        exact .inl (List.prefix_append _ _)
  | cons c text induction =>
      rw [linesFrom] at member
      split at member
      · rename_i newline
        rcases List.mem_cons.mp member with rfl | later
        · refine .inl ?_
          split
          · exact (List.dropLast_prefix line).trans (List.prefix_append _ _)
          · exact List.prefix_append _ _
        · refine .inr ?_
          rw [newline]
          rcases induction later with starts | behind
          · rw [List.nil_append] at starts
            exact (List.cons_prefix_cons.mpr ⟨rfl, starts⟩).isInfix
          · exact behind.trans (List.suffix_cons _ _).isInfix
      · rcases induction member with starts | behind
        · rw [List.append_assoc] at starts
          exact .inl starts
        · exact .inr (behind.trans (List.suffix_cons _ _).isInfix)

/-- A text without a line feed and what follows it is one line. -/
theorem linesFrom_of_not_mem {text : List Char} (absent : '\n' ∉ text) (line rest : List Char) :
    linesFrom line (text ++ rest) = linesFrom (line ++ text) rest := by
  induction text generalizing line with
  | nil => simp
  | cons c text induction =>
      rw [List.mem_cons, not_or] at absent
      rw [List.cons_append, linesFrom, if_neg (Ne.symm absent.1), induction absent.2,
        List.append_assoc]
      rfl

theorem trimMatches_within (drops : Char → Bool) (text : List Char) :
    trimMatches drops text <:+: text :=
  (List.rdropWhile_prefix _ _).isInfix.trans (List.dropWhile_suffix _).isInfix

/-- A pattern without letters that are trimmed outlasts trimming. -/
theorem infix_trimMatches {drops : Char → Bool} {pattern text : List Char}
    (kept : ∀ c ∈ pattern, drops c = false) (nonempty : pattern ≠ [])
    (occurs : pattern <:+: text) : pattern <:+: trimMatches drops text := by
  have outlasts : ∀ {pattern text : List Char}, (∀ c ∈ pattern, drops c = false) → pattern ≠ [] →
      pattern <:+: text → pattern <:+: text.dropWhile drops := by
    rintro pattern text kept nonempty ⟨before, after, rfl⟩
    rw [List.append_assoc, List.dropWhile_append]
    have stays : (pattern ++ after).dropWhile drops = pattern ++ after := by
      cases pattern with
      | nil => exact absurd rfl nonempty
      | cons c pattern =>
          rw [List.cons_append, List.dropWhile_cons_of_neg]
          simp [kept c List.mem_cons_self]
    split
    · rw [stays]
      exact (List.prefix_append _ _).isInfix
    · exact ⟨_, after, List.append_assoc _ _ _⟩
  have left := outlasts kept nonempty occurs
  rw [trimMatches, List.rdropWhile, ← List.reverse_infix, List.reverse_reverse]
  refine outlasts (fun c member => kept c (List.mem_reverse.mp member)) (by simpa using nonempty) ?_
  rwa [List.reverse_infix]

/-- A pattern that lies on one line lies on one of the lines of a text. -/
theorem exists_line_of_within {pattern : List Char} (one_line : '\n' ∉ pattern)
    (stays : '\r' ∉ pattern) (nonempty : pattern ≠ []) {line text : List Char}
    (occurs : pattern <:+: line ++ text) (inside : '\n' ∉ line) :
    ∃ found ∈ linesFrom line text, pattern <:+: found := by
  induction text generalizing line with
  | nil =>
      rw [List.append_nil] at occurs
      have some_line : line ≠ [] := by
        rintro rfl
        exact nonempty (List.infix_nil.mp occurs)
      exact ⟨line, by rw [linesFrom, if_neg some_line]; exact List.mem_singleton_self _, occurs⟩
  | cons c text induction =>
      rw [linesFrom]
      split
      · rename_i newline
        subst newline
        rcases List.infix_append_iff_ne_nil.mp occurs with
          here | behind | ⟨_, last, -, last_ne, rfl, -, ends⟩
        · refine ⟨_, List.mem_cons_self, ?_⟩
          split
          · rename_i returned
            obtain ⟨shorter, rfl⟩ := List.getLast?_eq_some_iff.mp returned
            rw [List.dropLast_concat]
            rcases List.infix_concat_iff.mp here with ends | earlier
            · have last_mem := List.getLast_mem nonempty
              rw [ends.getLast nonempty, List.getLast_concat] at last_mem
              exact absurd last_mem stays
            · exact earlier
          · exact here
        · rcases List.infix_cons_iff.mp behind with starts | later
          · cases pattern with
            | nil => exact absurd rfl nonempty
            | cons d pattern =>
                rw [(List.cons_prefix_cons.mp starts).1] at one_line
                exact absurd List.mem_cons_self one_line
          · obtain ⟨found, member, inside⟩ := @induction [] later List.not_mem_nil
            exact ⟨found, List.mem_cons_of_mem _ member, inside⟩
        · cases last with
          | nil => exact absurd rfl last_ne
          | cons d last =>
              rw [(List.cons_prefix_cons.mp ends).1] at one_line
              exact absurd (List.mem_append_right _ List.mem_cons_self) one_line
      · rename_i same_line
        refine induction (by rwa [List.append_assoc]) ?_
        rw [List.mem_append, List.mem_singleton, not_or]
        exact ⟨inside, Ne.symm same_line⟩

/-! ## The first pass -/

/-- Lines that tell of no object move only the flag. -/
theorem readLines_append (xml : List Char) {quiet : List (List Char)}
    (silent : ∀ line ∈ quiet, opensObject (trimMatches isWhiteSpace line) = false)
    (lines : List (List Char)) (flag : Bool) :
    readLines xml (quiet ++ lines) flag =
      readLines xml lines
        (flag || quiet.any fun line => decide (truncatedLine <:+: trimMatches isWhiteSpace line)) := by
  induction quiet generalizing flag with
  | nil => simp
  | cons line quiet induction =>
      obtain ⟨here, later⟩ := List.forall_mem_cons.mp silent
      rw [List.cons_append, readLines]
      simp only [here, Bool.false_eq_true, if_false]
      rw [induction later, List.any_cons, Bool.or_assoc]

/-- A line of a text behind its first one starts with the tag of an object. -/
def StartsObject (text : List Char) : Prop :=
  ∃ blank : List Char, (∀ c ∈ blank, isWhiteSpace c = true) ∧
    ('\n' :: blank) ++ XmlTag.contents.text <:+: text

/-- A line that tells of an object has its key or starts with its tag. -/
theorem opensObject_line {line : List Char}
    (opens : opensObject (trimMatches isWhiteSpace line) = true) :
    XmlTag.key.text <:+: line ∨ ∃ blank : List Char, (∀ c ∈ blank, isWhiteSpace c = true) ∧
      blank ++ XmlTag.contents.text <+: line := by
  rw [opensObject, Bool.or_eq_true, List.isPrefixOf_iff_prefix, decide_eq_true_eq] at opens
  rcases opens with starts | inside
  · refine .inr ⟨line.takeWhile isWhiteSpace, fun c => List.mem_takeWhile_imp, ?_⟩
    have whole := starts.trans (List.rdropWhile_prefix _ _)
    rw [← List.prefix_append_right_inj (line.takeWhile isWhiteSpace),
      List.takeWhile_append_dropWhile] at whole
    exact whole
  · exact .inl (inside.trans (trimMatches_within _ _))

/-- The lines before the objects tell of none, if no text has a key or starts one on a line of its
own. -/
theorem not_opensObject {response : ListObjectsV2Response} {line : List Char}
    (no_key : ∀ text ∈ headTexts response, Lacks text XmlTag.key)
    (starts_none : ∀ text ∈ headTexts response, ¬ StartsObject text.toList)
    (member : line ∈ linesFrom [] (render response.headSegments ++ ['\n'])) :
    opensObject (trimMatches isWhiteSpace line) = false := by
  rw [Bool.eq_false_iff]
  intro opens
  have plain : '<' ∉ ['\n'] := by decide
  have declared : ∃ rest, render response.headSegments ++ ['\n'] =
      XmlTag.declaration.text ++ rest := by
    simp [ListObjectsV2Response.headSegments, ListObjectsV2Response.openingSegments]
  rcases opensObject_line opens with occurs | ⟨blank, white, starts⟩
  · have inside := infix_of_mem_linesFrom member
    rw [List.nil_append] at inside
    exact (clear_headSegments (by simp [readTags]) no_key).not_infix_append plain
      (occurs.trans inside)
  · have no_bracket : '<' ∉ '\n' :: blank := by
      rw [List.mem_cons, not_or]
      exact ⟨by decide, fun bracket => absurd (white _ bracket) (by decide)⟩
    rcases starts_of_mem_linesFrom member with first | behind
    · -- the first line is the declaration
      obtain ⟨rest, declared⟩ := declared
      have whole := starts.trans first
      rw [List.nil_append, declared] at whole
      cases blank with
      | nil => exact absurd (Tag.eq_of_starts whole) (by decide)
      | cons c blank =>
          obtain rfl : c = '<' := (List.cons_prefix_cons.mp whole).1
          exact no_bracket (by simp)
    · have made := madeOf_headSegments response
      have other : ∀ segment ∈ response.headSegments,
          segment.tag ≠ XmlTag.contents ∧ '\n' ∉ segment.tag.text := fun segment known =>
        (by decide : ∀ tag ∈ headTags, tag ≠ XmlTag.contents ∧ '\n' ∉ tag.text) _
          (made segment known).1
      have absent : ∀ segment ∈ response.headSegments,
          ¬ ('\n' :: blank) ++ XmlTag.contents.text <:+: segment.text := by
        intro segment known occurs
        obtain ⟨-, no_tag | ⟨text, listed, text_eq⟩⟩ := made segment known
        · exact no_tag (occurs.subset (List.mem_append_right _ List.mem_cons_self))
        · exact starts_none text listed ⟨blank, white, text_eq ▸ occurs⟩
      have last : Foreign (('\n' :: blank) ++ XmlTag.contents.text) ['\n'] [] := by
        refine foreign_of_absent (fun occurs => ?_) fun start stop _ _ nonempty ends =>
          nonempty (List.prefix_nil.mp ends)
        exact plain (occurs.subset (List.mem_append_right _ List.mem_cons_self))
      have nowhere := not_infix_of_foreign
        (Foreign.append (foreign_line no_bracket other absent _) last) (List.cons_ne_nil _ _)
      exact nowhere ((List.cons_prefix_cons.mpr ⟨rfl, starts⟩).isInfix.trans behind)

/-- Without an object the first pass goes through all lines. -/
theorem readLines_of_none {xml : List Char} (none_read : readObject xml = none)
    (lines : List (List Char)) (flag : Bool) :
    readLines xml lines flag =
      (flag || lines.any fun line => decide (truncatedLine <:+: trimMatches isWhiteSpace line),
        []) := by
  induction lines generalizing flag with
  | nil => simp [readLines]
  | cons line lines induction =>
      rw [readLines]
      simp only [none_read, ite_self]
      rw [induction, List.any_cons, Bool.or_assoc]

/-- With one it stops at the first line that may tell of it. -/
theorem readLines_of_opening {xml : List Char} {object : ObjectInfo}
    (read : readObject xml = some object) {quiet : List (List Char)} {opening : List Char}
    (opens : opensObject (trimMatches isWhiteSpace opening) = true)
    (complete : ∀ line ∈ quiet ++ [opening], ¬ truncatedLine <:+: trimMatches isWhiteSpace line)
    (lines : List (List Char)) :
    readLines xml (quiet ++ opening :: lines) false = (false, [object]) := by
  induction quiet with
  | nil =>
      have quiet := complete opening List.mem_cons_self
      simp [readLines, opens, read, quiet]
  | cons line quiet induction =>
      have here := complete line List.mem_cons_self
      have later := induction fun other member => complete other (List.mem_cons_of_mem line member)
      rw [List.cons_append, readLines]
      simp [here, read, later]

/-- The line of a truncated listing, as it is written. -/
def flagLine : List Char := "  ".toList ++ truncatedLine

theorem flagLine_mem {response : ListObjectsV2Response} (truncated : response.isTruncated = true)
    (rest : List Char) : flagLine ∈ linesFrom [] (render response.headSegments ++ rest) := by
  have head : render response.headSegments ++ rest =
      render response.openingSegments ++ '\n' :: (flagLine ++ '\n' ::
        ("  ".toList ++ (XmlTag.keyCount.text ++ ((toString response.keyCount).toList ++
          (XmlTag.keyCount.closing.text ++ rest))))) := by
    simp [ListObjectsV2Response.headSegments, truncated, xmlElement, flagLine, truncatedLine,
      Tag.element]
  have one_line : '\n' ∉ flagLine := by decide
  have unstripped : flagLine.getLast? ≠ some '\r' := by decide
  rw [head, linesFrom_append_newline, linesFrom_of_not_mem one_line, List.nil_append, linesFrom,
    if_pos rfl, if_neg unstripped]
  exact List.mem_append_right _ List.mem_cons_self

/-- The document of a response. -/
theorem toList_toXml (response : ListObjectsV2Response) :
    response.toXml.toList = render (response.headSegments ++
      (response.contents.flatMap ListedObject.segments ++ response.tailSegments)) := by
  rw [ListObjectsV2Response.toXml, String.toList_ofList, List.append_assoc]

/-- The line of a truncated listing is read if it stands anywhere in a text. -/
theorem any_truncatedLine_iff {text : List Char} :
    ((linesFrom [] text).any fun line =>
        decide (truncatedLine <:+: trimMatches isWhiteSpace line)) = true ↔
      truncatedLine <:+: text := by
  have kept : (truncatedLine.all fun c => !isWhiteSpace c) = true := by decide
  rw [List.any_eq_true]
  constructor
  · rintro ⟨line, member, occurs⟩
    have inside := infix_of_mem_linesFrom member
    rw [List.nil_append] at inside
    exact (of_decide_eq_true occurs).trans ((trimMatches_within _ _).trans inside)
  · intro occurs
    obtain ⟨line, member, inside⟩ := @exists_line_of_within truncatedLine (by decide) (by decide)
      (by decide) [] text occurs List.not_mem_nil
    refine ⟨line, member, decide_eq_true (infix_trimMatches (fun c letter => ?_) (by decide) inside)⟩
    simpa using List.all_eq_true.mp kept c letter

/-- The line before an object. -/
def contentsLine : List Char := "  ".toList ++ XmlTag.contents.text

/-- No text of a response with objects stands in the way of the scanner: none before the objects
opens an element that is read, none of an object one that is read behind it, and no other text makes
a block.  The line of a truncated listing stands in none before the objects, or is read first. -/
structure Apart (response : ListObjectsV2Response) : Prop where
  head : ∀ text ∈ headTexts response, ∀ tag ∈ readTags, Lacks text tag
  unopened : ∀ object ∈ response.contents, Unopened object
  settled : ∀ object ∈ response.contents, Settled object
  tail : ∃ tag ∈ blockTags, ∀ text ∈ tailTexts response, Lacks text tag
  complete : response.isTruncated = false → ∀ text ∈ headTexts response,
    ¬ truncatedLine <:+: text.toList
  truncated : response.isTruncated = true → ∀ text ∈ headTexts response,
    ¬ StartsObject text.toList

section

variable {response : ListObjectsV2Response} {object : ListedObject} {objects : List ListedObject}

/-- The text behind the line before the first object. -/
def behindContents (response : ListObjectsV2Response) (object : ListedObject)
    (objects : List ListedObject) : List Char :=
  innerText object ++ (XmlTag.contents.closing.text ++
    (render (objects.flatMap ListedObject.segments) ++ render response.tailSegments))

theorem toList_toXml_of_cons (listed : response.contents = object :: objects) :
    response.toXml.toList = render response.headSegments ++
      ("\n  ".toList ++ (XmlTag.contents.text ++ behindContents response object objects)) := by
  rw [toList_toXml, listed, List.flatMap_cons, render_append, render_append, render_append,
    render_object, behindContents]
  simp only [List.append_assoc]

/-- The whole document describes its first object. -/
theorem readObject_toXml (apart : Apart response) (listed : response.contents = object :: objects)
    (small : object.size < 2 ^ 64) :
    readObject response.toXml.toList = some (received object) := by
  have first : object ∈ response.contents := by
    rw [listed]
    exact List.mem_cons_self
  have clear : ∀ tag ∈ readTags,
      Clear tag (response.headSegments ++ [⟨"\n  ".toList, XmlTag.contents⟩]) := by
    intro tag member
    have different : XmlTag.contents ≠ tag :=
      (by decide : ∀ tag ∈ readTags, XmlTag.contents ≠ tag) tag member
    refine clear_append_iff.mpr ⟨clear_headSegments member
      fun text known => apart.head text known tag member, ?_⟩
    exact clear_cons_iff.mpr ⟨⟨different, not_infix_of_not_mem (by decide)⟩, clear_nil⟩
  have read := (readObject_render clear (apart.unopened object first) small
    (render (xmlElement 4 XmlTag.storageClass object.storageClass) ++ ("\n  ".toList ++
      (XmlTag.contents.closing.text ++ (render (objects.flatMap ListedObject.segments) ++
        render response.tailSegments))))).2
  rw [toList_toXml_of_cons listed, behindContents, innerText]
  simpa only [render_append, render_cons, render_nil, List.append_nil, List.append_assoc] using read

/-- The lines of a document with objects. -/
theorem linesFrom_toXml (listed : response.contents = object :: objects) :
    ∃ lines, linesFrom [] response.toXml.toList =
      linesFrom [] (render response.headSegments ++ ['\n']) ++ contentsLine :: lines := by
  have starts : ∃ rest, behindContents response object objects = '\n' :: rest := by
    simp [behindContents, innerText, readSegments, xmlElement]
  obtain ⟨rest, behind_eq⟩ := starts
  have one_line : '\n' ∉ contentsLine := by decide
  have unstripped : contentsLine.getLast? ≠ some '\r' := by decide
  have whole : response.toXml.toList =
      render response.headSegments ++ '\n' :: (contentsLine ++ '\n' :: rest) := by
    rw [toList_toXml_of_cons listed, behind_eq]
    simp [contentsLine]
  refine ⟨linesFrom [] rest, ?_⟩
  rw [whole, linesFrom_append_newline, linesFrom_of_not_mem one_line, List.nil_append,
    linesFrom, if_pos rfl, if_neg unstripped]

/-- With objects the first pass reads the flag and the first object. -/
theorem readLines_of_cons (apart : Apart response) (listed : response.contents = object :: objects)
    (small : object.size < 2 ^ 64) :
    readLines response.toXml.toList (linesFrom [] response.toXml.toList) false =
      (response.isTruncated, [received object]) := by
  have read := readObject_toXml apart listed small
  obtain ⟨lines, lines_eq⟩ := linesFrom_toXml listed
  have opens : opensObject (trimMatches isWhiteSpace contentsLine) = true := by decide
  rw [lines_eq]
  cases flag : response.isTruncated with
  | false =>
      refine readLines_of_opening read opens (fun line member => ?_) lines
      rcases List.mem_append.mp member with before | last
      · have absent := not_infix_of_foreign (Foreign.append
          (truncatedLine_foreign flag (apart.complete flag) _)
          (foreign_of_not_mem (by decide : '<' ∉ ['\n']) _ _)) (List.cons_ne_nil _ _)
        have inside := infix_of_mem_linesFrom before
        rw [List.nil_append] at inside
        exact fun occurs => absent (occurs.trans ((trimMatches_within _ _).trans inside))
      · rw [List.mem_singleton.mp last]
        decide
  | true =>
      have no_key : ∀ text ∈ headTexts response, Lacks text XmlTag.key :=
        fun text known => apart.head text known _ (by simp [readTags])
      have silent : ∀ line ∈ linesFrom [] (render response.headSegments ++ ['\n']),
          opensObject (trimMatches isWhiteSpace line) = false := fun line member =>
        not_opensObject no_key (apart.truncated flag) member
      have flagged : ((linesFrom [] (render response.headSegments ++ ['\n'])).any fun line =>
          decide (truncatedLine <:+: trimMatches isWhiteSpace line)) = true :=
        List.any_eq_true.mpr ⟨flagLine, flagLine_mem flag ['\n'], by decide⟩
      rw [readLines_append _ silent, flagged]
      simp [readLines, opens, read]

/-! ## Whole documents -/

/-- What the scanner reads in a document with objects whose texts do not stand in its way. -/
theorem parseListResponse_toXml (apart : Apart response)
    (listed : response.contents = object :: objects)
    (small : ∀ object ∈ response.contents, object.size < 2 ^ 64) :
    parseListResponse response.toXml =
      .ok
        { objects := (response.contents.filterMap shown).foldl addObject [received object]
          isTruncated := response.isTruncated
          nextToken := none } := by
  have first : object ∈ response.contents := by
    rw [listed]
    exact List.mem_cons_self
  have others : ∀ other ∈ objects, other ∈ response.contents := by
    intro other member
    rw [listed]
    exact List.mem_cons_of_mem _ member
  have after : (blocks (render response.tailSegments)).filterMap readBlock = [] := by
    obtain ⟨tag, needed, lacks⟩ := apart.tail
    have different : tag ∉ tailTags :=
      (by decide : ∀ tag ∈ blockTags, tag ∉ tailTags) tag needed
    exact filterMap_blocks_of_lacking needed
      (clear_of_madeOf (madeOf_tailSegments response) different lacks).absent
  have lacking : ∀ tag ∈ readTags,
      ¬ tag.text <:+: render response.headSegments ++ "\n  ".toList := fun tag member =>
    (clear_headSegments member
      fun text known => apart.head text known tag member).not_infix_append (by decide)
  have read : (blocks response.toXml.toList).filterMap readBlock =
      response.contents.filterMap shown := by
    have behind := filterMap_blocks_behind (apart.unopened object first)
      (apart.settled object first) (small object first) lacking
      (render (objects.flatMap ListedObject.segments) ++ render response.tailSegments)
    rw [filterMap_blocks_objects (fun other member => readBlock_object
        (apart.unopened other (others other member)) (small other (others other member)))
      (fun other member => (apart.settled other (others other member)).filterMap_blocks_leftover),
      after, List.append_nil] at behind
    rw [toList_toXml_of_cons listed, behindContents, ← List.append_assoc, behind, listed]
    cases found : shown object <;> simp [found]
  unfold parseListResponse
  rw [read, readLines_of_cons apart listed (small object first)]

end

end CyxCloud.Cli
