import CyxCloud.Library.Scanning

/-!
# Markup without escapes

A document of texts and tags in angle brackets, in which texts stand as they are.  A scan for a tag
finds it in its place if no text before it contains it.
-/

namespace CyxCloud.Library

/-- A tag without its brackets. -/
structure Tag where
  name : List Char
  opening_not_mem : '<' ∉ name := by decide
  closing_not_mem : '>' ∉ name := by decide
  deriving DecidableEq

/-- A text and the tag that follows it. -/
structure Segment where
  text : List Char
  tag : Tag

namespace Tag

/-- A tag in brackets. -/
def text (tag : Tag) : List Char := '<' :: (tag.name ++ ['>'])

/-- The tag that ends an element. -/
def closing (tag : Tag) : Tag where
  name := '/' :: tag.name
  opening_not_mem := by simpa using tag.opening_not_mem
  closing_not_mem := by simpa using tag.closing_not_mem

theorem text_ne_nil (tag : Tag) : tag.text ≠ [] := List.cons_ne_nil _ _

theorem opening_not_mem_tail (tag : Tag) : '<' ∉ tag.name ++ ['>'] := by
  simpa using tag.opening_not_mem

/-- Texts up to a terminator agree if one with its terminator starts the other. -/
theorem eq_of_terminated {stop : Char} {first second rest rest' : List Char}
    (plain : stop ∉ first) (plain' : stop ∉ second)
    (starts : first ++ stop :: rest <+: second ++ stop :: rest') : first = second := by
  induction first generalizing second with
  | nil =>
      cases second with
      | nil => rfl
      | cons d second =>
          have same := (List.cons_prefix_cons.mp starts).1
          exact absurd (same ▸ List.mem_cons_self) plain'
  | cons c first induction =>
      cases second with
      | nil =>
          have same := (List.cons_prefix_cons.mp starts).1
          exact absurd (same ▸ List.mem_cons_self) plain
      | cons d second =>
          obtain ⟨rfl, later⟩ := List.cons_prefix_cons.mp starts
          rw [List.mem_cons, not_or] at plain plain'
          rw [induction plain.2 plain'.2 later]

/-- Only the same tag starts with a tag. -/
theorem eq_of_starts {tag other : Tag} {rest : List Char}
    (starts : tag.text <+: other.text ++ rest) : tag = other := by
  have inner : tag.name ++ ['>'] <+: other.name ++ '>' :: rest := by
    simpa [text, List.cons_prefix_cons] using starts
  have same := eq_of_terminated tag.closing_not_mem other.closing_not_mem inner
  cases tag
  cases other
  cases same
  rfl

theorem foreign_tag {tag other : Tag} (different : other ≠ tag) (rest : List Char) :
    Foreign tag.text other.text rest :=
  ⟨fun starts => different (eq_of_starts starts).symm,
    foreign_of_not_mem other.opening_not_mem_tail _ _⟩

/-- A tag does not start in a text without it that another tag follows. -/
theorem foreign_text {tag : Tag} {text : List Char} (absent : ¬ tag.text <:+: text) (other : Tag)
    (rest : List Char) : Foreign tag.text text (other.text ++ rest) := by
  refine foreign_of_absent absent fun start stop whole nonempty nonempty' follows => ?_
  cases start with
  | nil => exact nonempty rfl
  | cons c start =>
      cases stop with
      | nil => exact nonempty' rfl
      | cons d stop =>
          -- the overlap would have a second opening bracket inside the tag
          have same := (List.cons_prefix_cons.mp follows).1
          have inner := (List.cons.inj whole).2
          exact tag.opening_not_mem_tail (by rw [inner, same]; simp)

/-- Neither does plain text with a tag behind it. -/
theorem foreign_plain_text {tag other : Tag} {plain text : List Char} (no_bracket : '<' ∉ plain)
    (absent : ¬ plain ++ tag.text <:+: text) (different : other ≠ tag) (rest : List Char) :
    Foreign (plain ++ tag.text) text (other.text ++ rest) := by
  refine foreign_of_absent absent fun start stop whole _ nonempty follows => ?_
  cases stop with
  | nil => exact nonempty rfl
  | cons c stop =>
      obtain rfl : c = '<' := (List.cons_prefix_cons.mp follows).1
      rcases List.append_eq_append_iff.mp whole with ⟨gap, split, rest_eq⟩ | ⟨gap, split, rest_eq⟩
      · cases gap with
        | nil =>
            rw [List.nil_append] at rest_eq
            rw [← rest_eq] at follows
            exact different (eq_of_starts follows).symm
        | cons d gap =>
            -- the tag would have its bracket inside itself
            have inner := (List.cons.inj rest_eq).2
            exact tag.opening_not_mem_tail (by rw [inner]; simp)
      · cases gap with
        | nil =>
            rw [List.nil_append] at rest_eq
            rw [rest_eq] at follows
            exact different (eq_of_starts follows).symm
        | cons d gap =>
            obtain rfl : '<' = d := (List.cons.inj rest_eq).1
            exact no_bracket (by rw [split]; simp)

end Tag

/-- The document as text. -/
def render (segments : List Segment) : List Char :=
  segments.flatMap fun segment => segment.text ++ segment.tag.text

/-- A tag stands nowhere in a document. -/
def Clear (tag : Tag) (segments : List Segment) : Prop :=
  ∀ segment ∈ segments, segment.tag ≠ tag ∧ ¬ tag.text <:+: segment.text

section

variable {tag : Tag} {segments : List Segment}

@[simp]
theorem render_nil : render [] = [] := rfl

@[simp]
theorem render_cons (segment : Segment) (segments : List Segment) :
    render (segment :: segments) = segment.text ++ (segment.tag.text ++ render segments) := by
  simp [render]

@[simp]
theorem render_append (first second : List Segment) :
    render (first ++ second) = render first ++ render second := by
  simp [render]

@[simp]
theorem clear_nil : Clear tag [] := fun _ member => nomatch member

@[simp]
theorem clear_cons_iff {segment : Segment} :
    Clear tag (segment :: segments) ↔
      (segment.tag ≠ tag ∧ ¬ tag.text <:+: segment.text) ∧ Clear tag segments :=
  List.forall_mem_cons

@[simp]
theorem clear_append_iff {first second : List Segment} :
    Clear tag (first ++ second) ↔ Clear tag first ∧ Clear tag second :=
  List.forall_mem_append

theorem Clear.foreign (clear : Clear tag segments) (rest : List Char) :
    Foreign tag.text (render segments) rest := by
  induction segments with
  | nil => trivial
  | cons segment segments induction =>
      obtain ⟨⟨different, absent⟩, later⟩ := clear_cons_iff.mp clear
      rw [render_cons]
      refine Foreign.append ?_ (Foreign.append ?_ (induction later))
      · rw [List.append_assoc]
        exact Tag.foreign_text absent _ _
      · exact Tag.foreign_tag different _

theorem Clear.absent (clear : Clear tag segments) : ¬ tag.text <:+: render segments :=
  not_infix_of_foreign (clear.foreign []) tag.text_ne_nil

/-- Neither does it stand in a document and plain text behind it. -/
theorem Clear.not_infix_append (clear : Clear tag segments) {plain : List Char}
    (absent : '<' ∉ plain) : ¬ tag.text <:+: render segments ++ plain := by
  refine not_infix_of_foreign (Foreign.append (clear.foreign _) ?_) tag.text_ne_nil
  exact foreign_of_not_mem absent _ _

/-- A scan for a tag finds it behind a document and a text without it. -/
theorem Clear.cut_render (clear : Clear tag segments) {text : List Char}
    (absent : ¬ tag.text <:+: text) (rest : List Char) :
    cut tag.text (render segments ++ (text ++ (tag.text ++ rest))) =
      some (render segments ++ text, rest) := by
  rw [cut_append_of_foreign (clear.foreign _), cut_append_of_foreign (Tag.foreign_text absent _ _),
    cut_append_self tag.text_ne_nil]
  simp

/-- A scan for the tag that ends a text stops there, or at an earlier occurrence in the text. -/
theorem cut_text_tag (tag : Tag) (text rest : List Char) :
    (cut tag.text (text ++ (tag.text ++ rest))).map Prod.fst = some (upTo tag.text text) :=
  cut_append_pattern tag.text_ne_nil text rest fun absent => Tag.foreign_text absent tag rest

theorem infix_render_of_mem {segment : Segment} (member : segment ∈ segments) :
    segment.text <:+: render segments := by
  obtain ⟨before, after, rfl⟩ := List.append_of_mem member
  exact ⟨render before, segment.tag.text ++ render after, by simp⟩

/-- In a document without it among its tags, a tag stands nowhere exactly if it stands in no
text. -/
theorem not_infix_render_iff (other : ∀ segment ∈ segments, segment.tag ≠ tag) :
    ¬ tag.text <:+: render segments ↔ ∀ segment ∈ segments, ¬ tag.text <:+: segment.text := by
  constructor
  · intro absent segment member occurs
    exact absent (occurs.trans (infix_render_of_mem member))
  · intro lacking
    have clear : Clear tag segments := fun segment member =>
      ⟨other segment member, lacking segment member⟩
    exact clear.absent

/-- A line of plain text that ends with a tag does not start in a document without it. -/
theorem foreign_line {c : Char} {plain : List Char} (no_bracket : '<' ∉ c :: plain)
    (other : ∀ segment ∈ segments, segment.tag ≠ tag ∧ c ∉ segment.tag.text)
    (absent : ∀ segment ∈ segments, ¬ (c :: plain) ++ tag.text <:+: segment.text)
    (rest : List Char) : Foreign ((c :: plain) ++ tag.text) (render segments) rest := by
  induction segments with
  | nil => trivial
  | cons segment segments induction =>
      obtain ⟨⟨different, apart⟩, others⟩ := List.forall_mem_cons.mp other
      obtain ⟨here, later⟩ := List.forall_mem_cons.mp absent
      rw [render_cons]
      refine Foreign.append ?_ (Foreign.append ?_ (induction others later))
      · rw [List.append_assoc]
        exact Tag.foreign_plain_text no_bracket here different _
      · exact foreign_of_not_mem apart _ _

end

/-! ## Elements -/

/-- An element with a plain text. -/
def Tag.element (tag : Tag) (value : List Char) : List Char :=
  tag.text ++ (value ++ tag.closing.text)

/-- An element stands nowhere in a document without its tags. -/
def ClearOf (tag : Tag) (value : List Char) (segments : List Segment) : Prop :=
  ∀ segment ∈ segments, segment.tag ≠ tag ∧ segment.tag ≠ tag.closing ∧
    ¬ tag.element value <:+: segment.text

section

variable {tag : Tag} {value : List Char}

theorem Tag.closing_ne (tag : Tag) : tag.closing ≠ tag := by
  intro same
  have names := congrArg (fun tag => tag.name.length) same
  simp [closing] at names

/-- An element does not start in a text without it that another tag than its end follows. -/
theorem Tag.foreign_element_text (plain : '<' ∉ value) {text : List Char}
    (absent : ¬ tag.element value <:+: text) {other : Tag} (different : other ≠ tag.closing)
    (rest : List Char) : Foreign (tag.element value) text (other.text ++ rest) := by
  refine foreign_of_absent absent fun start stop whole nonempty nonempty' follows => ?_
  cases start with
  | nil => exact nonempty rfl
  | cons c start =>
      have tails : tag.name ++ ['>'] ++ (value ++ tag.closing.text) = start ++ stop :=
        congrArg List.tail whole
      have inner : start ++ stop = tag.name ++ ['>'] ++ value ++ tag.closing.text := by
        rw [← tails, List.append_assoc _ value]
      have head : stop.head? = some '<' := by
        cases stop with
        | nil => exact absurd rfl nonempty'
        | cons d stop => rw [(List.cons_prefix_cons.mp follows).1]; rfl
      have middle : '<' ∉ tag.name ++ ['>'] ++ value := by
        rw [List.mem_append, not_or]
        exact ⟨tag.opening_not_mem_tail, plain⟩
      rcases List.append_eq_append_iff.mp inner with ⟨gap, split, rest_eq⟩ | ⟨gap, split, rest_eq⟩
      · cases gap with
        | nil =>
            rw [rest_eq, List.nil_append] at follows
            exact different (eq_of_starts follows).symm
        | cons d gap =>
            rw [rest_eq] at head
            obtain rfl : d = '<' := by simpa using head
            exact middle (by rw [split]; simp)
      · -- the end of the element would start inside its own end
        cases gap with
        | nil =>
            rw [List.nil_append] at rest_eq
            rw [← rest_eq] at follows
            exact different (eq_of_starts follows).symm
        | cons d gap =>
            have tails := congrArg List.tail rest_eq
            rw [List.cons_append, List.tail_cons] at tails
            refine tag.closing.opening_not_mem_tail ?_
            change '<' ∈ tag.closing.text.tail
            rw [tails, List.mem_append]
            exact .inr (List.mem_of_head? head)

theorem Tag.foreign_element_tag {other : Tag} (different : other ≠ tag) (rest : List Char) :
    Foreign (tag.element value) other.text rest :=
  Foreign.of_prefix (List.prefix_append _ _) (foreign_tag different rest)

theorem ClearOf.foreign (plain : '<' ∉ value) {segments : List Segment}
    (clear : ClearOf tag value segments) (rest : List Char) :
    Foreign (tag.element value) (render segments) rest := by
  induction segments with
  | nil => trivial
  | cons segment segments induction =>
      obtain ⟨⟨different, different', absent⟩, later⟩ := List.forall_mem_cons.mp clear
      rw [render_cons]
      refine Foreign.append ?_ (Foreign.append ?_ (induction later))
      · rw [List.append_assoc]
        exact Tag.foreign_element_text plain absent different' _
      · exact Tag.foreign_element_tag different _

/-- An element does not start where one with another plain text stands. -/
theorem Tag.foreign_element_other {value' : List Char} (plain : '<' ∉ value) (plain' : '<' ∉ value')
    (different : value ≠ value') (rest : List Char) :
    Foreign (tag.element value) (tag.element value') rest := by
  refine Foreign.append ?_ (Foreign.append (foreign_of_not_mem plain' _ _)
    (Tag.foreign_element_tag tag.closing_ne rest))
  refine ⟨fun starts => different ?_, foreign_of_not_mem tag.opening_not_mem_tail _ _⟩
  have values : value ++ tag.closing.text <+: value' ++ (tag.closing.text ++ rest) := by
    rw [← List.append_assoc]
    exact (List.prefix_append_right_inj tag.text).mp starts
  exact eq_of_terminated plain plain' values

end

end CyxCloud.Library
