import CyxCloud.Gateway.S3Api
import CyxCloud.Library.Markup

/-!
# Listings as XML

`ListObjectsV2Response::to_xml` of `cyxcloud-gateway/src/s3_api.rs`.  Every text of the response is
written as it is.
-/

namespace CyxCloud.Gateway

open Library

/-! ## Tags -/

namespace XmlTag

def declaration : Tag where
  name := "?xml version=\"1.0\" encoding=\"UTF-8\"?".toList

def listBucketResult : Tag where
  name := "ListBucketResult xmlns=\"http://s3.amazonaws.com/doc/2006-03-01/\"".toList

def listBucketResultEnd : Tag where
  name := "/ListBucketResult".toList

def bucketName : Tag where
  name := "Name".toList

def keyPrefix : Tag where
  name := "Prefix".toList

def noKeyPrefix : Tag where
  name := "Prefix/".toList

def maxKeys : Tag where
  name := "MaxKeys".toList

def isTruncated : Tag where
  name := "IsTruncated".toList

def keyCount : Tag where
  name := "KeyCount".toList

def contents : Tag where
  name := "Contents".toList

def key : Tag where
  name := "Key".toList

def lastModified : Tag where
  name := "LastModified".toList

def etag : Tag where
  name := "ETag".toList

def size : Tag where
  name := "Size".toList

def storageClass : Tag where
  name := "StorageClass".toList

def commonPrefixes : Tag where
  name := "CommonPrefixes".toList

def nextContinuationToken : Tag where
  name := "NextContinuationToken".toList

end XmlTag

/-! ## Documents -/

/-- An element with a text, on a line of its own. -/
def xmlElement (indent : Nat) (tag : Tag) (value : String) : List Segment :=
  [⟨'\n' :: List.replicate indent ' ', tag⟩, ⟨value.toList, tag.closing⟩]

/-- An object of a listing. -/
def ListedObject.segments (object : ListedObject) : List Segment :=
  ⟨"\n  ".toList, XmlTag.contents⟩ ::
    (xmlElement 4 XmlTag.key object.key ++
      xmlElement 4 XmlTag.lastModified object.lastModified ++
      xmlElement 4 XmlTag.etag object.etag ++
      xmlElement 4 XmlTag.size (toString object.size) ++
      xmlElement 4 XmlTag.storageClass object.storageClass ++
      [⟨"\n  ".toList, XmlTag.contents.closing⟩])

namespace ListObjectsV2Response

variable (response : ListObjectsV2Response)

/-- What comes before the flag. -/
def openingSegments : List Segment :=
  [⟨[], XmlTag.declaration⟩, ⟨"\n".toList, XmlTag.listBucketResult⟩] ++
    xmlElement 2 XmlTag.bucketName response.name ++
    (match response.keyPrefix with
      | some text => xmlElement 2 XmlTag.keyPrefix text
      | none => [⟨"\n  ".toList, XmlTag.noKeyPrefix⟩]) ++
    xmlElement 2 XmlTag.maxKeys (toString response.maxKeys)

/-- What comes before the objects. -/
def headSegments : List Segment :=
  response.openingSegments ++
    xmlElement 2 XmlTag.isTruncated (if response.isTruncated then "true" else "false") ++
    xmlElement 2 XmlTag.keyCount (toString response.keyCount)

/-- What comes after the objects. -/
def tailSegments : List Segment :=
  (response.commonPrefixes.flatMap fun text =>
    ⟨"\n  ".toList, XmlTag.commonPrefixes⟩ ::
      (xmlElement 4 XmlTag.keyPrefix text ++
        [⟨"\n  ".toList, XmlTag.commonPrefixes.closing⟩])) ++
    (match response.nextContinuationToken with
      | some token => xmlElement 2 XmlTag.nextContinuationToken token
      | none => []) ++
    [⟨"\n".toList, XmlTag.listBucketResultEnd⟩]

/-- The XML document of a listing. -/
def toXml : String :=
  .ofList (render (response.headSegments ++
    response.contents.flatMap ListedObject.segments ++ response.tailSegments))

end ListObjectsV2Response

example :
    ListObjectsV2Response.toXml
        { name := "photos", keyPrefix := none, maxKeys := 1000, isTruncated := false
          contents := [], commonPrefixes := ["a/"], continuationToken := none
          nextContinuationToken := none, keyCount := 0 } =
      "<?xml version=\"1.0\" encoding=\"UTF-8\"?>\n" ++
        "<ListBucketResult xmlns=\"http://s3.amazonaws.com/doc/2006-03-01/\">\n" ++
        "  <Name>photos</Name>\n  <Prefix/>\n  <MaxKeys>1000</MaxKeys>\n" ++
        "  <IsTruncated>false</IsTruncated>\n  <KeyCount>0</KeyCount>\n" ++
        "  <CommonPrefixes>\n    <Prefix>a/</Prefix>\n  </CommonPrefixes>\n" ++
        "</ListBucketResult>" := by
  decide +kernel

end CyxCloud.Gateway
