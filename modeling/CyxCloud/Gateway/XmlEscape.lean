import CyxCloud.Gateway.S3Api
import CyxCloud.Library.Escapes

/-!
# Escaped XML

`xml_escape` and the error responses of `cyxcloud-gateway/src/s3_api.rs`.
-/

namespace CyxCloud.Gateway

open Library

/-! ## Escaping -/

/-- Replace every occurrence of a character. -/
def replaceChar (text : String) (pattern : Char) (replacement : String) : String :=
  .ofList (replaceAll pattern replacement.toList text.toList)

/-- Escape a string for safe inclusion in XML. -/
def xmlEscape (s : String) : String :=
  let s := replaceChar s '&' "&amp;"
  let s := replaceChar s '<' "&lt;"
  let s := replaceChar s '>' "&gt;"
  let s := replaceChar s '"' "&quot;"
  replaceChar s '\'' "&apos;"

/-- The five entities, each after its ampersand. -/
def xmlEntities : EscapeTable Char where
  marker := '&'
  markerCode := "amp;".toList
  others :=
    [('<', "lt;".toList), ('>', "gt;".toList), ('"', "quot;".toList), ('\'', "apos;".toList)]
  distinct := by decide
  clean := by simp
  apart := by decide

/-- The text in which an entity, from left to right, stands for its character. -/
def xmlUnescape (s : String) : String := .ofList (xmlEntities.unescape s.toList)

/-- What is written for a character: its entity, or the character itself. -/
def xmlEntity : Char → String
  | '&' => "&amp;"
  | '<' => "&lt;"
  | '>' => "&gt;"
  | '"' => "&quot;"
  | '\'' => "&apos;"
  | c => .ofList [c]

/-- A text has no special character but ampersands, and each of these begins an entity. -/
structure XmlSafe (text : String) : Prop where
  plain : ∀ c ∈ ['<', '>', '"', '\''], c ∉ text.toList
  entities : ∀ before rest, text.toList = before ++ '&' :: rest →
    ∃ entity ∈ ["&amp;", "&lt;", "&gt;", "&quot;", "&apos;"], entity.toList <+: '&' :: rest

/-! ## Errors -/

/-- Status, code and message of the response to an error. -/
def S3ApiError.responseParts : S3ApiError → Nat × String × String
  | .object (.noSuchBucket _) =>
      (404, "NoSuchBucket", "The specified bucket does not exist")
  | .object (.noSuchKey _) => (404, "NoSuchKey", "The specified key does not exist")
  | .bucketAlreadyExists _ =>
      (409, "BucketAlreadyExists", "The specified bucket already exists")
  | .invalidRequest reason => (400, "InvalidRequest", xmlEscape reason)
  | .object (.internal _) | .bucketLimit _ | .invalidResponse =>
      (500, "InternalError", "An internal error occurred")

/-- The body of the response to an error. -/
def S3ApiError.body (error : S3ApiError) : String :=
  let (_, errorCode, message) := error.responseParts
  "<?xml version=\"1.0\" encoding=\"UTF-8\"?>\n<Error>\n    <Code>" ++ errorCode ++
    "</Code>\n    <Message>" ++ message ++ "</Message>\n</Error>"

/-! ## Round trip -/

theorem xmlEscape_toList (s : String) : (xmlEscape s).toList = xmlEntities.escape s.toList := by
  have amp : "&amp;".toList = '&' :: "amp;".toList := by decide
  have lt : "&lt;".toList = '&' :: "lt;".toList := by decide
  have gt : "&gt;".toList = '&' :: "gt;".toList := by decide
  have quot : "&quot;".toList = '&' :: "quot;".toList := by decide
  have apos : "&apos;".toList = '&' :: "apos;".toList := by decide
  simp only [xmlEscape, replaceChar, String.toList_ofList, amp, lt, gt, quot, apos,
    EscapeTable.escape, EscapeTable.entries, EscapeTable.substitute, xmlEntities,
    List.foldl_cons, List.foldl_nil]

/-- The five replacements write each character once. -/
theorem written_xmlEntities (c : Char) : xmlEntities.written c = (xmlEntity c).toList := by
  by_cases special : c ∈ xmlEntities.letters
  · have cases_on : c = '&' ∨ c = '<' ∨ c = '>' ∨ c = '"' ∨ c = '\'' := by
      simpa [xmlEntities, EscapeTable.letters] using special
    rcases cases_on with rfl | rfl | rfl | rfl | rfl <;> decide
  · rw [xmlEntities.written_of_not_mem special]
    have plain : c ≠ '&' ∧ c ≠ '<' ∧ c ≠ '>' ∧ c ≠ '"' ∧ c ≠ '\'' := by
      simpa [xmlEntities, EscapeTable.letters] using special
    unfold xmlEntity
    split
    · exact absurd rfl plain.1
    · exact absurd rfl plain.2.1
    · exact absurd rfl plain.2.2.1
    · exact absurd rfl plain.2.2.2.1
    · exact absurd rfl plain.2.2.2.2
    · rw [String.toList_ofList]

theorem xmlSafe_xmlEscape (s : String) : XmlSafe (xmlEscape s) where
  plain c special member := by
    rw [xmlEscape_toList] at member
    have escaped : c ∈ xmlEntities.letters := List.mem_cons_of_mem _ special
    have marker := xmlEntities.eq_marker_of_mem_escape member escaped
    rw [marker] at special
    exact absurd special (by decide)
  entities before rest text_eq := by
    rw [xmlEscape_toList] at text_eq
    obtain ⟨entry, member, starts⟩ := xmlEntities.substitute_at_marker text_eq
    have known : ∀ entry ∈ xmlEntities.entries, ∃ entity ∈
        ["&amp;", "&lt;", "&gt;", "&quot;", "&apos;"],
          entity.toList = xmlEntities.substitute entry := by decide
    obtain ⟨entity, entity_mem, same⟩ := known entry member
    exact ⟨entity, entity_mem, same ▸ starts⟩

theorem xmlUnescape_xmlEscape (s : String) : xmlUnescape (xmlEscape s) = s := by
  rw [xmlUnescape, xmlEscape_toList, xmlEntities.unescape_escape, String.ofList_toList]

/-- The five replacements one after the other write an entity or itself for each character. -/
theorem xmlEscape_eq_flatMap (s : String) :
    (xmlEscape s).toList = s.toList.flatMap fun c => (xmlEntity c).toList := by
  rw [xmlEscape_toList, xmlEntities.escape_eq_flatMap]
  exact congrArg (fun written => s.toList.flatMap written) (funext written_xmlEntities)

/-- A text without any of the five characters is safe. -/
theorem xmlSafe_of_plain {text : String}
    (plain : ∀ c ∈ ['&', '<', '>', '"', '\''], c ∉ text.toList) : XmlSafe text where
  plain c special := plain c (List.mem_cons_of_mem _ special)
  entities before rest text_eq := by
    refine absurd ?_ (plain '&' List.mem_cons_self)
    rw [text_eq]
    exact List.mem_append_right _ List.mem_cons_self

/-- The message of every error is safe. -/
theorem xmlSafe_message (error : S3ApiError) : XmlSafe error.responseParts.2.2 := by
  cases error with
  | object cause => cases cause <;> exact xmlSafe_of_plain (by simp [S3ApiError.responseParts])
  | invalidRequest reason => exact xmlSafe_xmlEscape reason
  | bucketAlreadyExists _ | bucketLimit _ | invalidResponse =>
      exact xmlSafe_of_plain (by simp [S3ApiError.responseParts])

/-- Escaped text is safe and is read back, the replacements write each character once, and no two
texts are escaped alike. -/
theorem xmlEscape_invertible :
    (∀ s, XmlSafe (xmlEscape s) ∧ xmlUnescape (xmlEscape s) = s ∧
      (xmlEscape s).toList = s.toList.flatMap fun c => (xmlEntity c).toList) ∧
      Function.Injective xmlEscape := by
  constructor
  · intro s
    exact ⟨xmlSafe_xmlEscape s, xmlUnescape_xmlEscape s, xmlEscape_eq_flatMap s⟩
  · exact Function.LeftInverse.injective xmlUnescape_xmlEscape

end CyxCloud.Gateway
