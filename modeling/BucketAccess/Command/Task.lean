import BucketAccess.Command.Basic
import BucketAccess.Console.Basic
import BucketAccess.Console.Table
import BucketAccess.Download.Disposition
import BucketAccess.Download.Draft
import BucketAccess.Key.Draft
import BucketAccess.Session

/-!
# Tasks

What a command asks of the service, with the request already built, and what is
shown when it is done.
-/

namespace BucketAccess.Command

open Http (Client Peer)

/-- What is asked of the service once logged in. -/
inductive Task where
  | check
  | createKey (request : KeyRequest)
  | deleteKey (keyId : String)
  | authorizeDownload (request : DownloadRequest)

/-- A setting that is made only if a value is given for it. -/
def settingGiven {α β : Type} (set : α → β → Except Fault β) (value : Option α)
    (draft : β) : Except Fault β :=
  match value with
  | some value => set value draft
  | none => .ok draft

/-- The life of a key given in days. -/
def expiringAfterDays (days : Int) (draft : KeyDraft) : Except Fault KeyDraft :=
  match Span.ofDays? days with
  | some span => draft.expiringAfter span
  | none => .error .overflow

/-- Builds the request in the order name, capabilities, bucket, prefix, days; the
first value that breaks a rule of its own ends it. -/
def KeyOptions.request (options : KeyOptions) : Except Fault KeyRequest := do
  let draft ← KeyDraft.named options.name
  let draft ← draft.withCapabilities
    (.arr (options.capabilities.map fun capability => .str capability.name))
  let draft ← settingGiven (fun bucketId draft => .ok (KeyDraft.limitedTo (.str bucketId) draft))
    options.bucketId draft
  let draft ← settingGiven
    (fun namePrefix draft => .ok (KeyDraft.withNamePrefix (.str namePrefix) draft))
    options.namePrefix draft
  let draft ← settingGiven expiringAfterDays options.days draft
  draft.build

/-- The validity of a download authorization given in seconds. -/
def validForSeconds (seconds : Int) (draft : DownloadDraft) : Except Fault DownloadDraft :=
  match Span.ofSeconds? seconds with
  | some span => draft.validFor span
  | none => .error .overflow

/-- A disposition given as a text. -/
def withDisposition (text : String) (draft : DownloadDraft) : Except Fault DownloadDraft :=
  match Download.Disposition.ofText text with
  | .error violation => .error (.violation violation)
  | .ok disposition => .ok (draft.withDisposition disposition.text)

/-- Builds the request in the order bucket, prefix, seconds, disposition,
language, media type, coding; the first value that breaks a rule of its own
ends it. -/
def DownloadOptions.request (options : DownloadOptions) : Except Fault DownloadRequest := do
  let draft := (DownloadDraft.empty.forBucket (.str options.bucketId)).withFileNamePrefix
    (.str options.fileNamePrefix)
  let draft ← validForSeconds options.seconds draft
  let draft ← settingGiven withDisposition options.disposition draft
  let draft ← settingGiven (fun language draft => .ok (draft.withLanguage (.str language)))
    options.language draft
  let draft ← settingGiven DownloadDraft.withContentType options.contentType draft
  let draft ← settingGiven
    (fun encoding draft =>
      DownloadDraft.withEncoding (.str encoding.name) draft)
    options.encoding draft
  draft.build

/-- The task of an action. -/
def Action.task : Action → Except Fault Task
  | .check => .ok .check
  | .createKey key => key.request.map .createKey
  | .deleteKey keyId => .ok (.deleteKey keyId)
  | .authorizeDownload download => download.request.map .authorizeDownload

/-- Something to be shown. -/
inductive Item where
  /-- A text with console markup. -/
  | text (text : Loose)
  | table (table : Console.Table)

/-- Something that has been printed, on whatever console. -/
inductive Printed where
  /-- The runs of a text. -/
  | text (runs : List (List Char))
  | table (table : Console.Table)
deriving DecidableEq, Repr

/-- The lines in which it appears on a console. -/
def Printed.lines (console : Console) : Printed → List String
  | .text runs => console.lines runs
  | .table content => content.lines

/-- Prints an item, if its markup can be read and what is left of its text can be
encoded. -/
def Item.print : Item → Except Fault Printed
  | .text content => (Console.readLoose content).map .text
  | .table content => .ok (.table content)

/-- Prints items in order, up to one that cannot be printed. -/
def printItems : List Item → List Printed × Option Fault
  | [] => ([], none)
  | item :: items =>
      match item.print with
      | .error fault => ([], some fault)
      | .ok printed =>
          let (others, fault) := printItems items
          (printed :: others, fault)

/-- An optional text that counts only when it is not empty. -/
def given? (text : Option Loose) : Option Loose := text.filter fun text => !text.isEmpty

/-- What an authorization allows. -/
def authorizationItems (authorization : Authorization) : List Item :=
  let allowed := authorization.allowed
  [.text ("Logged in successfully to account: " ++ authorization.accountId),
   .text ("API URL: " ++ authorization.apiUrl),
   .text ("Download URL: " ++ authorization.downloadUrl),
   .text ("S3 API URL: " ++ authorization.s3ApiUrl),
   .text ("Recommended part size: " ++ Text.intText authorization.recommendedPartSize ++
     " bytes"),
   .text ("Minimum part size: " ++ Text.intText authorization.minimumPartSize ++ " bytes")] ++
  (match given? allowed.bucketId with
    | some bucketId =>
        [.text ("Restricted to bucket: " ++
          (given? allowed.bucketName).getD "(deleted bucket)" ++ " (" ++ bucketId ++ ")")]
    | none => []) ++
  (match given? allowed.namePrefix with
    | some namePrefix =>
        [.text ("Restricted to file names starting with: '" ++ namePrefix ++ "'")]
    | none => []) ++
  [.table ⟨["Granted", "capabilities"], "Capability",
    allowed.capabilities.map Capability.name⟩]

/-- A key that has been created, with its secret. -/
def createdItems (created : Secret × Key) : List Item :=
  [.text ("Created key: '" ++ created.2.name ++ "'"),
   .text ("Application key ID: " ++ created.2.id),
   .text ("Application key: " ++ created.1.value),
   .text "[bold yellow]The application key will not be shown again.[/bold yellow]"]

/-- A key that has been deleted. -/
def deletedItems (key : Key) : List Item :=
  [.text ("Deleted key: '" ++ key.name ++ "' (" ++ key.id ++ ")")]

/-- A token for downloading files. -/
def downloadItems (download : DownloadAuthorization) : List Item :=
  [.text ("Download authorization for bucket " ++ download.bucketId ++ ", prefix '" ++
     download.fileNamePrefix ++ "':"),
   .text download.token.value]

/-- What is shown of an outcome. -/
def showing {σ α : Type} (items : α → List Item) (run : Except Fault α × Client σ) :
    Except Fault (List Item) × Client σ :=
  (run.1.map items, run.2)

/-- Logs in, does a task, and tells what to show. -/
def Task.perform {σ : Type} (reply : Peer σ) (login : Login) (peer : σ) :
    Task → Except Fault (List Item) × Client σ
  | .check => showing authorizationItems (login.authorize reply peer)
  | .createKey request => showing createdItems (login.createKey reply request peer)
  | .deleteKey keyId => showing deletedItems (login.deleteKey reply keyId peer)
  | .authorizeDownload request =>
      showing downloadItems (login.authorizeDownload reply request peer)

end BucketAccess.Command
