import CyxCloud.Cli.Directories
import CyxCloud.Cli.ListingCodec

/-!
# Keys of files

The key of an uploaded file is the prefix without slashes around it, a slash and the path of the
file.  It starts with the prefix exactly if the prefix is regular: without backslashes, without a
slash at its start, and with at most one at its end.  Then it leads back to the path.
-/

namespace CyxCloud.Cli

open CyxCloud.Core hiding Chunk
open Library Gateway

/-- A prefix without backslashes, without a slash at its start, and with at most one at its end. -/
structure RegularPrefix (text : String) : Prop where
  no_backslash : '\\' ∉ text.toList
  no_slash : text.toList.head? ≠ some '/'
  one_slash : ¬ ['/', '/'] <:+ text.toList

instance (text : String) : Decidable (RegularPrefix text) :=
  decidable_of_iff
    ('\\' ∉ text.toList ∧ text.toList.head? ≠ some '/' ∧ ¬ ['/', '/'] <:+ text.toList)
    ⟨fun ⟨no_backslash, no_slash, one_slash⟩ => ⟨no_backslash, no_slash, one_slash⟩,
      fun ⟨no_backslash, no_slash, one_slash⟩ => ⟨no_backslash, no_slash, one_slash⟩⟩

/-- A path as text. -/
def relativeOf (path : List String) : List Char := ['/'].intercalate (path.map String.toList)

/-- A text with slashes for its backslashes. -/
def withSlashes (text : List Char) : List Char := text.map fun c => if c = '\\' then '/' else c

/-- The part of a key before the path. -/
def keyBase : Option String → List Char
  | some text => withSlashes (trimMatches (· == '/') text.toList) ++ ['/']
  | none => []

/-! ## Texts -/

theorem withSlashes_of_not_mem {text : List Char} (absent : '\\' ∉ text) :
    withSlashes text = text := by
  rw [withSlashes, List.map_congr_left (g := id), List.map_id]
  intro c member
  refine if_neg ?_
  rintro rfl
  exact absent member

theorem not_mem_withSlashes (text : List Char) : '\\' ∉ withSlashes text := by
  intro member
  obtain ⟨c, -, replaced⟩ := List.mem_map.mp member
  split at replaced
  · exact absurd replaced (by decide)
  · exact absurd replaced ‹_›

/-- A text that starts with no slash is trimmed at its end only. -/
theorem trimMatches_of_head {text : List Char} (head : text.head? ≠ some '/') :
    trimMatches (· == '/') text = text.rdropWhile (· == '/') := by
  rw [trimMatches]
  cases text with
  | nil => rfl
  | cons c text => rw [List.dropWhile_cons_of_neg (by simpa using head)]

/-- What is trimmed off the end are slashes. -/
theorem eq_append_slashes (text : List Char) :
    ∃ count, text = text.rdropWhile (· == '/') ++ List.replicate count '/' := by
  refine ⟨(text.rtakeWhile (· == '/')).length, ?_⟩
  have slashes : text.rtakeWhile (· == '/') =
      List.replicate (text.rtakeWhile (· == '/')).length '/' := by
    refine List.eq_replicate_of_mem fun c member => ?_
    exact eq_of_beq (List.mem_rtakeWhile_imp (p := (· == '/')) member)
  rw [← slashes, List.rdropWhile_append_rtakeWhile]

/-- A text that starts with no slash and ends with at most one ends with at most one after what is
trimmed. -/
theorem eq_trimmed_or {text : List Char} (head : text.head? ≠ some '/')
    (one : ¬ ['/', '/'] <:+ text) :
    text = trimMatches (· == '/') text ∨ text = trimMatches (· == '/') text ++ ['/'] := by
  rw [trimMatches_of_head head]
  obtain ⟨count, split⟩ := eq_append_slashes text
  match count, split with
  | 0, split => exact .inl (split.trans (List.append_nil _))
  | 1, split => exact .inr split
  | count + 2, split =>
      refine absurd ⟨text.rdropWhile (· == '/') ++ List.replicate count '/', ?_⟩ one
      rw [List.append_assoc]
      conv_rhs => rw [split, List.replicate_add]
      rfl

/-! ## Paths -/

theorem mem_relativeOf {path : List String} {c : Char} (member : c ∈ relativeOf path) :
    c = '/' ∨ ∃ name ∈ path, c ∈ name.toList := by
  induction path with
  | nil => exact nomatch member
  | cons name path induction =>
      cases path with
      | nil => exact .inr ⟨name, List.mem_cons_self, by simpa [relativeOf] using member⟩
      | cons name' path =>
          have split : c ∈ name.toList ∨ c = '/' ∨ c ∈ relativeOf (name' :: path) := by
            simpa [relativeOf, List.intercalate_cons_cons] using member
          rcases split with inside | slash | later
          · exact .inr ⟨name, List.mem_cons_self, inside⟩
          · exact .inl slash
          · rcases induction later with slash | ⟨other, listed, inside⟩
            · exact .inl slash
            · exact .inr ⟨other, List.mem_cons_of_mem name listed, inside⟩

section

variable {path : List String} (path_ne_nil : path ≠ []) (names : ∀ name ∈ path, ValidName name)
include names

theorem no_backslash_relativeOf : '\\' ∉ relativeOf path := by
  intro member
  rcases mem_relativeOf member with slash | ⟨name, listed, inside⟩
  · exact absurd slash (by decide)
  · exact (names name listed).no_backslash inside

theorem uploadKey_toList (keyPrefix : Option String) :
    (uploadKey keyPrefix path).toList = keyBase keyPrefix ++ relativeOf path := by
  have kept := withSlashes_of_not_mem (no_backslash_relativeOf names)
  cases keyPrefix with
  | none => rw [uploadKey, String.toList_ofList]; exact kept
  | some text =>
      rw [uploadKey, String.toList_ofList, List.map_append, List.map_cons, keyBase,
        List.append_assoc]
      exact congrArg (fun rest => withSlashes (trimMatches (· == '/') text.toList) ++ '/' :: rest)
        kept

include path_ne_nil

theorem splitOn_relativeOf : (relativeOf path).splitOn '/' = path.map String.toList := by
  refine List.splitOn_intercalate '/' ?_ (by simpa using path_ne_nil)
  intro chars member
  obtain ⟨name, listed, rfl⟩ := List.mem_map.mp member
  exact (names name listed).no_slash

/-- The names of a path are read back. -/
theorem pathNames_relativeOf : pathNames (relativeOf path) = path := by
  rw [pathNames, splitOn_relativeOf path_ne_nil names, List.filter_eq_self.mpr, List.map_map]
  · simp [Function.comp_def]
  · intro chars member
    obtain ⟨name, listed, rfl⟩ := List.mem_map.mp member
    exact decide_eq_true ⟨(names name listed).nonempty, (names name listed).not_dot⟩

/-- A path of valid names is that of a file. -/
theorem endsAtDirectory_relativeOf : endsAtDirectory (relativeOf path) = false := by
  rw [endsAtDirectory, splitOn_relativeOf path_ne_nil names, List.getLast?_map,
    List.getLast?_eq_some_getLast path_ne_nil]
  have valid := names _ (List.getLast_mem path_ne_nil)
  simp [valid.nonempty, valid.not_dot]

theorem head_relativeOf : (relativeOf path).head? ≠ some '/' := by
  cases path with
  | nil => exact absurd rfl path_ne_nil
  | cons name path =>
      have valid := names name List.mem_cons_self
      obtain ⟨c, rest, chars⟩ := List.exists_cons_of_ne_nil valid.nonempty
      have other : c ≠ '/' := by
        rintro rfl
        exact valid.no_slash (by rw [chars]; exact List.mem_cons_self)
      cases path <;> simp [relativeOf, List.intercalate_cons_cons, chars, other]

/-! ## Keys and prefixes -/

/-- The path that a key leads back to, where the prefix is regular. -/
theorem RegularPrefix.relativePath_uploadKey {text : String} (regular : RegularPrefix text) :
    text.toList <+: (uploadKey (some text) path).toList ∧
      relativePath (some text) (uploadKey (some text) path) = relativeOf path := by
  have trimmed : '\\' ∉ trimMatches (· == '/') text.toList := fun member =>
    regular.no_backslash ((trimMatches_within _ _).subset member)
  have key := uploadKey_toList names (some text)
  rw [keyBase, withSlashes_of_not_mem trimmed, List.append_assoc, List.singleton_append] at key
  have stays : (relativeOf path).dropWhile (· == '/') = relativeOf path := by
    have head := head_relativeOf path_ne_nil names
    cases chars : relativeOf path with
    | nil => rfl
    | cons c rest =>
        rw [chars] at head
        exact List.dropWhile_cons_of_neg (by simpa using head)
  rcases eq_trimmed_or regular.no_slash regular.one_slash with bare | slash
  · rw [← bare] at key
    have starts : text.toList <+: (uploadKey (some text) path).toList := ⟨_, key.symm⟩
    refine ⟨starts, ?_⟩
    rw [relativePath, if_pos starts, key, List.drop_left, List.dropWhile_cons_of_pos (by rfl),
      stays]
  · rw [← List.singleton_append, ← List.append_assoc, ← slash] at key
    have starts : text.toList <+: (uploadKey (some text) path).toList := ⟨_, key.symm⟩
    refine ⟨starts, ?_⟩
    rw [relativePath, if_pos starts, key, List.drop_left, stays]

/-- A key that may be put and starts with the prefix has a regular one. -/
theorem regularPrefix_of_startsWith {text : String}
    (head : (uploadKey (some text) path).toList.head? ≠ some '/')
    (starts : text.toList <+: (uploadKey (some text) path).toList) : RegularPrefix text := by
  have no_backslash : '\\' ∉ text.toList := by
    intro member
    have replaced := starts.subset member
    rw [uploadKey, String.toList_ofList] at replaced
    exact not_mem_withSlashes _ replaced
  have no_slash : text.toList.head? ≠ some '/' := by
    intro slash
    obtain ⟨rest, split⟩ := starts
    obtain ⟨text', chars⟩ := List.head?_eq_some_iff.mp slash
    rw [← split, chars] at head
    exact head rfl
  refine ⟨no_backslash, no_slash, ?_⟩
  rintro ⟨before, ends⟩
  have trimmed : '\\' ∉ trimMatches (· == '/') text.toList := fun member =>
    no_backslash ((trimMatches_within _ _).subset member)
  have same : text.toList.rdropWhile (· == '/') = before.rdropWhile (· == '/') := by
    rw [← ends, ← List.singleton_append, ← List.append_assoc,
      List.rdropWhile_concat_pos _ _ _ (by rfl), List.rdropWhile_concat_pos _ _ _ (by rfl)]
  obtain ⟨count, split⟩ := eq_append_slashes before
  rw [uploadKey_toList names (some text), keyBase, withSlashes_of_not_mem trimmed,
    trimMatches_of_head no_slash, same, ← ends, List.append_assoc, List.singleton_append] at starts
  nth_rewrite 1 [split] at starts
  rw [List.append_assoc, List.prefix_append_right_inj] at starts
  -- the second slash at the end of the prefix would be the first letter of the path
  refine head_relativeOf path_ne_nil names ?_
  cases count with
  | zero =>
      obtain ⟨rest, path_eq⟩ := starts
      rw [← (List.cons_injective path_eq : _ = relativeOf path)]
      rfl
  | succ count =>
      obtain ⟨rest, path_eq⟩ := starts
      rw [← (List.cons_injective path_eq : _ = relativeOf path)]
      cases count <;> rfl

end

/-! ## Behind a prefix -/

/-- What stands in a key behind the prefix, if it has it. -/
def restOf (keyPrefix : Option String) (key : String) : List Char :=
  if startsWith key (keyPrefix.getD "") then
    key.toList.drop (keyPrefix.getD "").toList.length
  else
    key.toList

theorem splitOn_slash_cons (text : List Char) :
    ('/' :: text).splitOn '/' = [] :: text.splitOn '/' :=
  List.splitOn_append_cons_self [] text

/-- Slashes at the start of a path lead nowhere. -/
theorem pathNames_dropWhile (text : List Char) :
    pathNames (text.dropWhile (· == '/')) = pathNames text := by
  induction text with
  | nil => rfl
  | cons c text induction =>
      by_cases slash : c = '/'
      · subst slash
        rw [List.dropWhile_cons_of_pos (by rfl), induction, pathNames, pathNames,
          splitOn_slash_cons, List.filter_cons_of_neg (by simp)]
      · rw [List.dropWhile_cons_of_neg (by simpa using slash)]

theorem endsAtDirectory_dropWhile (text : List Char) :
    endsAtDirectory (text.dropWhile (· == '/')) = endsAtDirectory text := by
  induction text with
  | nil => rfl
  | cons c text induction =>
      by_cases slash : c = '/'
      · subst slash
        have pieces := List.splitOn_ne_nil '/' text
        rw [List.dropWhile_cons_of_pos (by rfl), induction, endsAtDirectory, endsAtDirectory,
          splitOn_slash_cons, List.getLast?_cons, List.getLast?_eq_some_getLast pieces]
        rfl
      · rw [List.dropWhile_cons_of_neg (by simpa using slash)]

/-- A path that does not end at a directory has a name. -/
theorem pathNames_ne_nil {text : List Char} (file : endsAtDirectory text = false) :
    pathNames text ≠ [] := by
  have pieces := List.splitOn_ne_nil '/' text
  rw [endsAtDirectory, List.getLast?_eq_some_getLast pieces] at file
  intro nothing
  have dropped := List.filter_eq_nil_iff.mp (List.map_eq_nil_iff.mp nothing) _
    (List.getLast_mem pieces)
  simp at dropped file
  exact file.2 (dropped file.1)

theorem infix_intercalate {separator part : List Char} {parts : List (List Char)}
    (member : part ∈ parts) : part <:+: separator.intercalate parts := by
  induction parts with
  | nil => exact nomatch member
  | cons first parts induction =>
      cases parts with
      | nil =>
          rw [List.mem_singleton.mp member, List.intercalate_singleton]
      | cons second parts =>
          rw [List.intercalate_cons_cons]
          rcases List.mem_cons.mp member with rfl | later
          · exact (List.prefix_append _ _).isInfix.trans (List.prefix_append _ _).isInfix
          · exact (induction later).trans (List.suffix_append _ _).isInfix

theorem hasDots_of_infix {text : List Char} (occurs : ['.', '.'] <:+: text) :
    hasDots text = true := by
  fun_induction hasDots text with
  | case1 => rfl
  | case2 c rest other induction =>
      rcases List.infix_cons_iff.mp occurs with starts | later
      · obtain ⟨rest', split⟩ := starts
        obtain ⟨rfl, rfl⟩ := List.cons.inj split.symm
        exact absurd rfl (other _ rfl)
      · exact induction later
  | case3 => exact absurd (List.infix_nil.mp occurs) (by decide)

/-- What a valid key is not. -/
theorem of_validateObjectKey {key : String} (valid : validateObjectKey key = .ok ()) :
    hasDots key.toList = false ∧ key.toList.head? ≠ some '/' := by
  revert valid
  unfold validateObjectKey
  split
  · exact fun refused => nomatch refused
  · split
    · exact fun refused => nomatch refused
    · split
      · exact fun refused => nomatch refused
      · rename_i no_dots no_slash
        exact fun _ => ⟨by simpa using no_dots, no_slash⟩

/-- No path below a valid key leads upwards. -/
theorem not_mem_pathNames {key : String} (valid : validateObjectKey key = .ok ()) {text : List Char}
    (inside : text <:+: key.toList) : ".." ∉ pathNames text := by
  intro member
  obtain ⟨name, listed, same⟩ := List.mem_map.mp member
  have piece : name <:+: text := by
    have joined : ['/'].intercalate (text.splitOn '/') = text := List.intercalate_splitOn '/'
    rw [← joined]
    exact infix_intercalate (List.mem_of_mem_filter listed)
  have dots : name = ['.', '.'] := by
    rw [← String.toList_ofList (l := name), same]
    rfl
  rw [dots] at piece
  have found := hasDots_of_infix (piece.trans inside)
  rw [(of_validateObjectKey valid).1] at found
  exact nomatch found

theorem restOf_none (key : String) : restOf none key = key.toList := by
  have starts : startsWith key "" = true := List.isPrefixOf_iff_prefix.mpr List.nil_prefix
  rw [restOf, Option.getD_none, if_pos starts]
  rfl

/-- A valid key leads to the names behind the prefix. -/
theorem joinOutput_relativePath {keyPrefix : Option String} {key : String}
    (valid : validateObjectKey key = .ok ()) :
    joinOutput (relativePath keyPrefix key) = some (pathNames (restOf keyPrefix key)) ∧
      endsAtDirectory (relativePath keyPrefix key) = endsAtDirectory (restOf keyPrefix key) := by
  cases keyPrefix with
  | none =>
      have no_head : ¬ (key.toList.head? = some '/' ∨ ".." ∈ pathNames key.toList) := by
        rintro (slash | upwards)
        · exact (of_validateObjectKey valid).2 slash
        · exact not_mem_pathNames valid (List.infix_refl _) upwards
      rw [restOf_none]
      exact ⟨if_neg no_head, rfl⟩
  | some text =>
      have rest : relativePath (some text) key = (restOf (some text) key).dropWhile (· == '/') := by
        have same : (text.toList <+: key.toList) = (startsWith key text = true) :=
          propext List.isPrefixOf_iff_prefix.symm
        simp only [relativePath, restOf, Option.getD_some, same]
      have inside : restOf (some text) key <:+: key.toList := by
        unfold restOf
        split
        · exact (List.drop_suffix _ _).isInfix
        · exact List.infix_refl _
      rw [rest, joinOutput, pathNames_dropWhile, endsAtDirectory_dropWhile]
      refine ⟨if_neg ?_, rfl⟩
      rintro (slash | upwards)
      · have kept := List.head?_dropWhile_not (· == '/') (restOf (some text) key)
        rw [slash] at kept
        simp at kept
      · exact not_mem_pathNames valid inside upwards

end CyxCloud.Cli
