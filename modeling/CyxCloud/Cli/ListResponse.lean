import CyxCloud.Gateway.ListingXml
import Mathlib.Data.List.DropRight

/-!
# Reading a listing

`parse_list_response` and `extract_xml_value` of `cyxcloud-cli/src/client.rs`: a scanner that reads
one object from the whole document, line by line, and then every block of an object.
-/

namespace CyxCloud.Cli

open Library Gateway

/-- An object of a listing. -/
structure ObjectInfo where
  key : String
  size : Nat
  lastModified : String
  etag : String
  deriving DecidableEq, Repr

/-- A listing. -/
structure ListResponse where
  objects : List ObjectInfo
  isTruncated : Bool
  nextToken : Option String
  deriving DecidableEq, Repr

/-! ## Texts -/

/-- The lines of a text; the last one may have no end. -/
def linesFrom (line : List Char) : List Char → List (List Char)
  | [] => if line = [] then [] else [line]
  | c :: rest =>
      if c = '\n' then
        (if line.getLast? = some '\r' then line.dropLast else line) :: linesFrom [] rest
      else
        linesFrom (line ++ [c]) rest

/-- White space of Unicode. -/
def isWhiteSpace (c : Char) : Bool :=
  (0x09 ≤ c.toNat && c.toNat ≤ 0x0d) || c.toNat == 0x20 || c.toNat == 0x85 || c.toNat == 0xa0 ||
    c.toNat == 0x1680 || (0x2000 ≤ c.toNat && c.toNat ≤ 0x200a) || c.toNat == 0x2028 ||
    c.toNat == 0x2029 || c.toNat == 0x202f || c.toNat == 0x205f || c.toNat == 0x3000

/-- A text without what it starts and ends with. -/
def trimMatches (drops : Char → Bool) (text : List Char) : List Char :=
  (text.dropWhile drops).rdropWhile drops

/-- A decimal number below `2 ^ 64`. -/
def parseU64 (text : List Char) : Option Nat :=
  let digits := if text.head? = some '+' then text.tail else text
  if digits ≠ [] ∧ digits.all Char.isDigit ∧ Nat.ofDigitChars 10 digits 0 < 2 ^ 64 then
    some (Nat.ofDigitChars 10 digits 0)
  else
    none

/-! ## The scanner -/

/-- The text between the first occurrence of a tag and the next one of its end. -/
def extractXmlValue (xml : List Char) (tag : Tag) : Option (List Char) :=
  (cut tag.text xml).bind fun opened => (cut tag.closing.text opened.2).map Prod.fst

/-- The object that the first tags of a text describe. -/
def readObject (xml : List Char) : Option ObjectInfo :=
  (extractXmlValue xml XmlTag.key).map fun key =>
    { key := .ofList key
      size := ((extractXmlValue xml XmlTag.size).bind parseU64).getD 0
      lastModified := .ofList ((extractXmlValue xml XmlTag.lastModified).getD [])
      etag := .ofList
        (trimMatches (· == '"') ((extractXmlValue xml XmlTag.etag).getD [])) }

/-- The line that tells that a listing is truncated. -/
def truncatedLine : List Char := XmlTag.isTruncated.element "true".toList

/-- Whether a line may tell of an object. -/
def opensObject (line : List Char) : Bool :=
  XmlTag.contents.text.isPrefixOf line || decide (XmlTag.key.text <:+: line)

/-- The first pass: the flag, and one object read from the whole text at the first line that may
tell of one. -/
def readLines (xml : List Char) : List (List Char) → Bool → Bool × List ObjectInfo
  | [], isTruncated => (isTruncated, [])
  | line :: lines, isTruncated =>
      let line := trimMatches isWhiteSpace line
      let isTruncated := isTruncated || decide (truncatedLine <:+: line)
      if opensObject line then
        match readObject xml with
        | some object => (isTruncated, [object])
        | none => readLines xml lines isTruncated
      else
        readLines xml lines isTruncated

/-- The second pass: the blocks of the objects. -/
def blocks (xml : List Char) : List (List Char) :=
  match _opened : cut XmlTag.contents.text xml with
  | none => []
  | some (_, inner) =>
      match _closed : cut XmlTag.contents.closing.text (XmlTag.contents.text ++ inner) with
      | none => []
      | some (block, rest) =>
          (block ++ XmlTag.contents.closing.text) :: blocks rest
termination_by xml.length
decreasing_by
  have shorter := congrArg List.length (eq_of_cut _opened)
  have shorter' := congrArg List.length (eq_of_cut _closed)
  simp only [List.length_append, Tag.text, Tag.closing, List.length_cons] at shorter shorter'
  omega

/-- The object of a block, which has to have a size. -/
def readBlock (block : List Char) : Option ObjectInfo :=
  if (extractXmlValue block XmlTag.size).isSome then readObject block else none

/-- Add an object unless there is one with its key. -/
def addObject (objects : List ObjectInfo) (object : ObjectInfo) : List ObjectInfo :=
  if objects.any fun known => known.key == object.key then objects else objects ++ [object]

/-- Read the XML document of a listing. -/
def parseListResponse (xml : String) : Except String ListResponse :=
  let (isTruncated, objects) := readLines xml.toList (linesFrom [] xml.toList) false
  .ok
    { objects := ((blocks xml.toList).filterMap readBlock).foldl addObject objects
      isTruncated
      nextToken := none }

end CyxCloud.Cli
