import Mathlib.Data.List.Basic
import Mathlib.Data.List.Infix
import Mathlib.Data.List.Nodup
import Mathlib.Data.List.Pairwise

/-!
# Escapes

Letters with a meaning of their own are written as a marker and a code.  Replacing them one after
the other in the whole text is the same as replacing each letter once, if the marker comes first,
and the text is read back from left to right.
-/

namespace CyxCloud.Library

variable {α : Type*} [DecidableEq α]

/-- A text with every occurrence of a letter replaced. -/
def replaceAll (letter : α) (substitute text : List α) : List α :=
  text.flatMap fun c => if c = letter then substitute else [c]

/-- Letters with their codes; the marker is the first of them.  No code contains a letter that is
escaped, and none starts another. -/
structure EscapeTable (α : Type*) where
  marker : α
  markerCode : List α
  others : List (α × List α)
  distinct : (marker :: others.map Prod.fst).Nodup
  clean : ∀ entry ∈ (marker, markerCode) :: others, ∀ letter ∈ marker :: others.map Prod.fst,
    letter ∉ entry.2
  apart : ((marker, markerCode) :: others).Pairwise fun entry other =>
    ¬ entry.2 <+: other.2 ∧ ¬ other.2 <+: entry.2

namespace EscapeTable

variable (table : EscapeTable α)

/-- The letters with their codes. -/
def entries : List (α × List α) := (table.marker, table.markerCode) :: table.others

/-- The letters that are escaped. -/
def letters : List α := table.marker :: table.others.map Prod.fst

/-- What is written for an entry. -/
def substitute (entry : α × List α) : List α := table.marker :: entry.2

/-- The letters are replaced one after the other, each in the whole text. -/
def escape (text : List α) : List α :=
  table.entries.foldl (fun text entry => replaceAll entry.1 (table.substitute entry) text) text

/-- What is written for a letter. -/
def written (c : α) : List α :=
  ((table.entries.find? fun entry => entry.1 == c).map table.substitute).getD [c]

/-- The first entry whose substitute starts a text. -/
def entryAt (text : List α) : Option (α × List α) :=
  table.entries.find? fun entry => decide (table.substitute entry <+: text)

/-- The text read from left to right, with a letter for each substitute. -/
def unescape : List α → List α
  | [] => []
  | c :: rest =>
      match table.entryAt (c :: rest) with
      | some entry => entry.1 :: unescape (rest.drop entry.2.length)
      | none => c :: unescape rest
  termination_by text => text.length
  decreasing_by
    · rw [List.length_cons, List.length_drop]
      exact Nat.lt_succ_of_le (Nat.sub_le _ _)
    · exact Nat.lt_succ_self _

end EscapeTable

/-! ## Replacing -/

section Replace

variable {letter : α} {substitute text : List α}

theorem replaceAll_append (first second : List α) :
    replaceAll letter substitute (first ++ second) =
      replaceAll letter substitute first ++ replaceAll letter substitute second :=
  List.flatMap_append

theorem replaceAll_of_not_mem (absent : letter ∉ text) :
    replaceAll letter substitute text = text := by
  induction text with
  | nil => rfl
  | cons c text induction =>
      rw [List.mem_cons, not_or] at absent
      rw [replaceAll, List.flatMap_cons, if_neg (Ne.symm absent.1), ← replaceAll,
        induction absent.2]
      rfl

theorem replaceAll_singleton : replaceAll letter substitute [letter] = substitute := by
  rw [replaceAll, List.flatMap_singleton, if_pos rfl]

end Replace

namespace EscapeTable

variable (table : EscapeTable α) {entry other : α × List α} {c : α}

/-! ## Entries -/

omit [DecidableEq α] in
theorem letter_mem (member : entry ∈ table.entries) : entry.1 ∈ table.letters :=
  List.mem_map_of_mem member

omit [DecidableEq α] in
theorem eq_of_letter_eq (member : entry ∈ table.entries) (other_mem : other ∈ table.entries)
    (same : entry.1 = other.1) : entry = other := by
  have distinct : (table.entries.map Prod.fst).Nodup := table.distinct
  exact List.inj_on_of_nodup_map distinct member other_mem same

omit [DecidableEq α] in
/-- Only the code of the same entry starts a code or is started by it. -/
theorem eq_of_codes (member : entry ∈ table.entries) (other_mem : other ∈ table.entries)
    (starts : entry.2 <+: other.2 ∨ other.2 <+: entry.2) : entry = other := by
  by_contra different
  have symmetric : Std.Symm fun entry other : α × List α =>
      ¬ entry.2 <+: other.2 ∧ ¬ other.2 <+: entry.2 := ⟨fun _ _ both => both.symm⟩
  have both := table.apart.forall member other_mem different
  exact starts.elim both.1 both.2

/-! ## Escaping letter by letter -/

/-- Replacements work on each part of a text. -/
theorem foldl_replaceAll_append (entries : List (α × List α)) (first second : List α) :
    entries.foldl (fun text entry => replaceAll entry.1 (table.substitute entry) text)
        (first ++ second) =
      entries.foldl (fun text entry => replaceAll entry.1 (table.substitute entry) text) first ++
        entries.foldl (fun text entry => replaceAll entry.1 (table.substitute entry) text)
          second := by
  induction entries generalizing first second with
  | nil => rfl
  | cons entry entries induction =>
      rw [List.foldl_cons, List.foldl_cons, List.foldl_cons, replaceAll_append, induction]

/-- A text without the letters of some entries is left alone by their replacements. -/
theorem foldl_replaceAll_of_not_mem {entries : List (α × List α)} {text : List α}
    (absent : ∀ entry ∈ entries, entry.1 ∉ text) :
    entries.foldl (fun text entry => replaceAll entry.1 (table.substitute entry) text) text =
      text := by
  induction entries with
  | nil => rfl
  | cons entry entries induction =>
      rw [List.foldl_cons, replaceAll_of_not_mem (absent entry List.mem_cons_self)]
      exact induction fun later member => absent later (List.mem_cons_of_mem entry member)

theorem escape_append (first second : List α) :
    table.escape (first ++ second) = table.escape first ++ table.escape second :=
  table.foldl_replaceAll_append table.entries first second

theorem written_of_mem (member : entry ∈ table.entries) :
    table.written entry.1 = table.substitute entry := by
  have found : (table.entries.find? fun other => other.1 == entry.1) = some entry := by
    cases found : table.entries.find? fun other => other.1 == entry.1 with
    | none => exact absurd (List.find?_eq_none.mp found entry member) (by simp)
    | some other =>
        have same : other.1 = entry.1 := by simpa using List.find?_some found
        rw [table.eq_of_letter_eq (List.mem_of_find?_eq_some found) member same]
  rw [written, found]
  rfl

theorem written_of_not_mem (plain : c ∉ table.letters) : table.written c = [c] := by
  have missing : (table.entries.find? fun entry => entry.1 == c) = none := by
    rw [List.find?_eq_none]
    intro entry member
    rw [beq_iff_eq]
    rintro rfl
    exact plain (table.letter_mem member)
  rw [written, missing]
  rfl

/-- A letter is replaced once, and what is written for it is not replaced again. -/
theorem escape_letter (member : entry ∈ table.entries) :
    table.escape [entry.1] = table.substitute entry := by
  obtain ⟨first, last, entries_eq⟩ := List.append_of_mem member
  have distinct : (table.entries.map Prod.fst).Nodup := table.distinct
  have later_others : ∀ later ∈ last, later ∈ table.others := by
    intro later later_mem
    rw [entries] at entries_eq
    cases first with
    | nil =>
        rw [(List.cons.inj entries_eq).2]
        exact later_mem
    | cons head first =>
        rw [(List.cons.inj entries_eq).2]
        exact List.mem_append_right _ (List.mem_cons_of_mem _ later_mem)
  rw [entries_eq, List.map_append, List.map_cons, List.nodup_append] at distinct
  have untouched : first.foldl (fun text entry =>
      replaceAll entry.1 (table.substitute entry) text) [entry.1] = [entry.1] := by
    refine table.foldl_replaceAll_of_not_mem fun earlier earlier_mem => ?_
    rw [List.mem_singleton]
    exact distinct.2.2 earlier.1 (List.mem_map_of_mem earlier_mem) entry.1 List.mem_cons_self
  rw [escape, entries_eq, List.foldl_append, untouched, List.foldl_cons, replaceAll_singleton]
  refine table.foldl_replaceAll_of_not_mem fun later later_mem => ?_
  have later_letter := List.mem_map_of_mem (f := Prod.fst) (later_others later later_mem)
  rw [substitute, List.mem_cons, not_or]
  constructor
  · intro same
    exact (List.nodup_cons.mp table.distinct).1 (same ▸ later_letter)
  · exact table.clean entry member later.1 (List.mem_cons_of_mem _ later_letter)

theorem escape_singleton (c : α) : table.escape [c] = table.written c := by
  by_cases escaped : c ∈ table.letters
  · obtain ⟨entry, member, rfl⟩ := List.mem_map.mp (show c ∈ table.entries.map Prod.fst from escaped)
    rw [table.written_of_mem member, table.escape_letter member]
  · rw [table.written_of_not_mem escaped]
    refine table.foldl_replaceAll_of_not_mem fun entry member => ?_
    rw [List.mem_singleton]
    rintro rfl
    exact escaped (table.letter_mem member)

/-- The replacements one after the other replace each letter once. -/
theorem escape_eq_flatMap (text : List α) : table.escape text = text.flatMap table.written := by
  induction text with
  | nil => exact table.foldl_replaceAll_of_not_mem fun _ _ => List.not_mem_nil
  | cons c text induction =>
      rw [← List.singleton_append, escape_append, escape_singleton, induction,
        List.singleton_append, List.flatMap_cons]

/-! ## What is written -/

/-- Of the letters only the marker is left. -/
theorem eq_marker_of_mem_escape {text : List α} (member : c ∈ table.escape text)
    (escaped : c ∈ table.letters) : c = table.marker := by
  rw [escape_eq_flatMap] at member
  obtain ⟨d, -, written_mem⟩ := List.mem_flatMap.mp member
  by_cases letter : d ∈ table.letters
  · obtain ⟨entry, entry_mem, rfl⟩ :=
      List.mem_map.mp (show d ∈ table.entries.map Prod.fst from letter)
    rw [table.written_of_mem entry_mem] at written_mem
    rcases List.mem_cons.mp written_mem with same | coded
    · exact same
    · exact absurd coded (table.clean entry entry_mem c escaped)
  · rw [table.written_of_not_mem letter, List.mem_singleton] at written_mem
    exact absurd (written_mem ▸ escaped) letter

/-- Every marker starts a substitute. -/
theorem substitute_at_marker {text before rest : List α}
    (written : table.escape text = before ++ table.marker :: rest) :
    ∃ entry ∈ table.entries, table.substitute entry <+: table.marker :: rest := by
  rw [escape_eq_flatMap] at written
  induction text generalizing before with
  | nil => exact absurd written.symm (List.append_ne_nil_of_right_ne_nil _ (List.cons_ne_nil _ _))
  | cons c text induction =>
      rw [List.flatMap_cons] at written
      by_cases letter : c ∈ table.letters
      · obtain ⟨entry, member, rfl⟩ :=
          List.mem_map.mp (show c ∈ table.entries.map Prod.fst from letter)
        rw [table.written_of_mem member, substitute, List.cons_append] at written
        cases before with
        | nil =>
            refine ⟨entry, member, ?_⟩
            rw [substitute, ← (List.cons.inj written).2]
            exact List.prefix_append (table.marker :: entry.2) _
        | cons d before =>
            have later := (List.cons.inj written).2
            rcases List.append_eq_append_iff.mp later with
              ⟨between, -, rest_eq⟩ | ⟨between, code_eq, rest_eq⟩
            · exact induction rest_eq
            · cases between with
              | nil => exact @induction [] rest_eq.symm
              | cons e between =>
                  have coded : table.marker ∈ entry.2 := by
                    rw [code_eq, (List.cons.inj rest_eq).1]
                    exact List.mem_append_right _ List.mem_cons_self
                  exact absurd coded (table.clean entry member _ List.mem_cons_self)
      · rw [table.written_of_not_mem letter, List.singleton_append] at written
        cases before with
        | nil =>
            exact absurd ((List.cons.inj written).1 ▸ List.mem_cons_self) letter
        | cons d before => exact induction (List.cons.inj written).2

/-! ## Reading back -/

theorem entryAt_substitute (member : entry ∈ table.entries) (rest : List α) :
    table.entryAt (table.substitute entry ++ rest) = some entry := by
  have starts : table.substitute entry <+: table.substitute entry ++ rest :=
    List.prefix_append _ _
  cases found : table.entryAt (table.substitute entry ++ rest) with
  | none => exact absurd (List.find?_eq_none.mp found entry member) (by simp)
  | some other =>
      have other_starts : table.substitute other <+: table.substitute entry ++ rest := by
        simpa using List.find?_some found
      have comparable : other.2 <+: entry.2 ∨ entry.2 <+: other.2 := by
        rcases List.prefix_or_prefix_of_prefix other_starts starts with shorter | longer
        · exact .inl (List.cons_prefix_cons.mp shorter).2
        · exact .inr (List.cons_prefix_cons.mp longer).2
      rw [table.eq_of_codes (List.mem_of_find?_eq_some found) member comparable]

theorem entryAt_of_ne_marker (plain : c ≠ table.marker) (rest : List α) :
    table.entryAt (c :: rest) = none := by
  refine List.find?_eq_none.mpr fun entry _ => ?_
  rw [decide_eq_true_iff]
  intro starts
  exact plain (List.cons_prefix_cons.mp starts).1.symm

/-- One letter is read for what is written for it. -/
theorem unescape_written (c : α) (rest : List α) :
    table.unescape (table.written c ++ rest) = c :: table.unescape rest := by
  by_cases letter : c ∈ table.letters
  · obtain ⟨entry, member, rfl⟩ :=
      List.mem_map.mp (show c ∈ table.entries.map Prod.fst from letter)
    have found := table.entryAt_substitute member rest
    rw [table.written_of_mem member]
    rw [substitute, List.cons_append] at found ⊢
    rw [unescape, found]
    simp only [List.drop_left]
  · have plain : c ≠ table.marker := by
      rintro rfl
      exact letter List.mem_cons_self
    rw [table.written_of_not_mem letter, List.singleton_append, unescape,
      table.entryAt_of_ne_marker plain]

/-- What is escaped is read back. -/
theorem unescape_escape (text : List α) : table.unescape (table.escape text) = text := by
  rw [escape_eq_flatMap]
  induction text with
  | nil => rw [List.flatMap_nil, unescape]
  | cons c text induction => rw [List.flatMap_cons, unescape_written, induction]

end EscapeTable

end CyxCloud.Library
