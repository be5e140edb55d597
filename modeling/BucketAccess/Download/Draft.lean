import BucketAccess.Download.CacheControl
import BucketAccess.Download.ContentEncoding
import BucketAccess.Download.MediaType
import BucketAccess.Download.Request

/-!
# Drafts of a download authorization

A request for a download authorization is drafted step by step.  Each setting
checks its own value and gives a new draft; whether the three required settings
have been made is checked when the request is built.  The bucket, the start of
the file names and the language are kept as they were given, null meaning none,
and have to be texts when the request is built.
-/

namespace BucketAccess

/-- The settings made so far. -/
structure DownloadDraft where
  bucketId : Json := .null
  fileNamePrefix : Json := .null
  duration : Option Duration := none
  disposition : Option String := none
  language : Json := .null
  expires : Option String := none
  cacheControl : Option String := none
  encoding : Option String := none
  contentType : Option String := none
deriving Repr

/-- The shortest time a download authorization may be valid: one second. -/
def minDownloadDuration : Duration := .second

/-- The longest time a download authorization may be valid: one week. -/
def maxDownloadDuration : Duration := ⟨⟨604800000000, by decide, by decide⟩, by decide⟩

/-- A duration for which a download authorization may be valid. -/
def checkDownloadDuration (span : Span) : Except Violation Duration := do
  let duration ← Duration.ofSpan span
  if minDownloadDuration ≤ duration ∧ duration ≤ maxDownloadDuration then .ok duration
  else .error .downloadLength

/-- One step in drafting a download authorization. -/
inductive DownloadSetting where
  | bucketId (value : Json)
  | fileNamePrefix (value : Json)
  | duration (span : Span)
  /-- The text of a disposition. -/
  | disposition (text : String)
  | language (value : Json)
  | expires (moment : Calendar.Moment)
  | cacheControl (directives : List String)
  | encoding (value : Json)
  | contentType (text : String)

namespace DownloadDraft

/-- The draft in which nothing is set. -/
def empty : DownloadDraft := {}

/-- Limits the authorization to one bucket. -/
def forBucket (bucketId : Json) (draft : DownloadDraft) : DownloadDraft :=
  { draft with bucketId := bucketId }

/-- Only files whose names start so can be downloaded. -/
def withFileNamePrefix (fileNamePrefix : Json) (draft : DownloadDraft) : DownloadDraft :=
  { draft with fileNamePrefix := fileNamePrefix }

/-- How long the authorization is valid. -/
def validFor (span : Span) (draft : DownloadDraft) : Except Fault DownloadDraft :=
  match checkDownloadDuration span with
  | .error violation => .error (.violation violation)
  | .ok duration => .ok { draft with duration := some duration }

/-- Fixes the disposition. -/
def withDisposition (text : String) (draft : DownloadDraft) : DownloadDraft :=
  { draft with disposition := some text }

/-- Fixes the language. -/
def withLanguage (language : Json) (draft : DownloadDraft) : DownloadDraft :=
  { draft with language := language }

/-- Sets the Expires header.  A moment of unknown offset is taken to be UTC. -/
def expiringAt (moment : Calendar.Moment) (draft : DownloadDraft) :
    Except Fault DownloadDraft :=
  match moment.inUtc? with
  | none => .error .overflow
  | some moment => .ok { draft with expires := some moment.httpText }

/-- Fixes the cache control, of which at least one directive is required. -/
def withCacheControl (directives : List String) (draft : DownloadDraft) :
    Except Fault DownloadDraft :=
  match Download.cacheControl directives with
  | .error violation => .error (.violation violation)
  | .ok text => .ok { draft with cacheControl := some text }

/-- Fixes the coding. -/
def withEncoding (value : Json) (draft : DownloadDraft) : Except Fault DownloadDraft :=
  match Download.ContentEncoding.ofJson value with
  | .error violation => .error (.violation violation)
  | .ok encoding => .ok { draft with encoding := some encoding.name }

/-- Fixes the media type. -/
def withContentType (text : String) (draft : DownloadDraft) : Except Fault DownloadDraft :=
  match Download.checkMediaType text with
  | .error violation => .error (.violation violation)
  | .ok text => .ok { draft with contentType := some text }

/-- Takes one step. -/
def set (draft : DownloadDraft) : DownloadSetting → Except Fault DownloadDraft
  | .bucketId value => .ok (draft.forBucket value)
  | .fileNamePrefix value => .ok (draft.withFileNamePrefix value)
  | .duration span => draft.validFor span
  | .disposition text => .ok (draft.withDisposition text)
  | .language value => .ok (draft.withLanguage value)
  | .expires moment => draft.expiringAt moment
  | .cacheControl directives => draft.withCacheControl directives
  | .encoding value => draft.withEncoding value
  | .contentType text => draft.withContentType text

/-- The required settings that have not been made. -/
def violations (draft : DownloadDraft) : List Violation :=
  (if draft.bucketId.isGiven then [] else [.downloadBucketMissing]) ++
    (if draft.fileNamePrefix.isGiven then [] else [.downloadPrefixMissing]) ++
    (if draft.duration.isSome then [] else [.downloadLengthMissing])

/-- Builds the request. -/
def build (draft : DownloadDraft) : Except Fault DownloadRequest :=
  match draft.violations, draft.duration with
  | [], some duration =>
      ((fun bucketId fileNamePrefix language =>
          { bucketId, fileNamePrefix, duration, language
            disposition := draft.disposition.map .whole
            expires := draft.expires.map .whole
            cacheControl := draft.cacheControl.map .whole
            encoding := draft.encoding.map .whole
            contentType := draft.contentType.map .whole : DownloadRequest })
        <$> Json.readGiven "bucket_id" Json.readText draft.bucketId
        <*> Json.readGiven "file_name_prefix" Json.readText draft.fileNamePrefix
        <*> Json.readGiven "b2_content_language" (Json.readNullable Json.readText)
          draft.language).orIllFormed
  | violations, _ => .error (.invalidRequest violations)

end DownloadDraft

end BucketAccess
