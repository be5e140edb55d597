import BucketAccess.Proofs.Command.Traffic
import BucketAccess.Proofs.Console.Shown

/-!
# Values that are shown once

The secret of a key and the token of a download authorization are shown by the
command that obtained them, and nowhere else.  They stand between texts that the
service chose, and all of these are read for markup.  The command succeeds
exactly when nothing is wrong with the markup of any text, and no surrogate is left
without it.  A value of printable ASCII is shown unaltered exactly when the console
spares it, and unbroken exactly when there is room for its line.
-/

namespace BucketAccess.Command

open Http (Client Peer Reply)

/-! ## Printing -/

section Printing

variable {item : Item} {items : List Item} {printed : Printed}

/-- Items are all printed exactly when each of them can be. -/
theorem printItems_eq_none_iff :
    (printItems items).2 = none ↔ ∀ item ∈ items, ∃ printed, item.print = .ok printed := by
  induction items with
  | nil => simp [printItems]
  | cons item items ih =>
      rw [printItems]
      cases hitem : item.print with
      | error fault => simp [hitem]
      | ok printed => simp [hitem, ih]

/-- A text can be printed: its markup can be read, and there are no surrogates outside
of its tags. -/
def IsPrintableText (text : Loose) : Prop := ∃ runs, Console.readLoose text = .ok runs

theorem print_whole {text : String} {runs : List (List Char)}
    (hruns : Console.readMarkup text = .ok runs) :
    (Item.text text).print = .ok (.text runs) := by
  rw [Item.print, Console.readLoose, hruns]
  rfl

theorem exists_print_text_iff {text : Loose} :
    (∃ printed, (Item.text text).print = .ok printed) ↔ IsPrintableText text :=
  exists_map_eq_ok_iff

theorem printItems_texts_eq_none_iff {texts : List Loose} :
    (printItems (texts.map .text)).2 = none ↔ ∀ text ∈ texts, IsPrintableText text := by
  rw [printItems_eq_none_iff, List.forall_mem_map]
  simp only [exists_print_text_iff]

theorem mem_printItems (hnone : (printItems items).2 = none) (hmem : item ∈ items)
    (hitem : item.print = .ok printed) : printed ∈ (printItems items).1 := by
  induction items with
  | nil => cases hmem
  | cons first items ih =>
      obtain ⟨front, hfront⟩ := printItems_eq_none_iff.mp hnone first List.mem_cons_self
      simp only [printItems, hfront] at hnone ⊢
      rcases List.mem_cons.mp hmem with rfl | hrest
      · rw [hitem] at hfront
        obtain rfl := Except.ok.inj hfront
        exact List.mem_cons_self
      · exact List.mem_cons_of_mem front (ih hnone hrest)

theorem exitCode_eq_zero_iff {σ : Type} {report : Report σ} :
    (Outcome.finished report).exitCode = 0 ↔ report.failure = none := by
  cases hfailure : report.failure <;> simp [Outcome.exitCode, hfailure]

end Printing

/-! ## What is obtained -/

section Obtained

variable {σ : Type} {settings : Settings} {reply : Peer σ} {peer : σ} {command : Command}
  {value line : String} {before : List Loose}

/-- A command obtains a value that is shown once, in a line of its own behind
other texts. -/
inductive Obtains (settings : Settings) (reply : Peer σ) (peer : σ) (command : Command) :
    String → String → List Loose → Prop where
  /-- The secret of a key that has been created. -/
  | secret {options : KeyOptions} {request : KeyRequest} {credentials : Credentials}
      {value : String} {key : Key} (haction : command.action = .createKey options)
      (hrequest : options.request = .ok request)
      (hcredentials : settings.credentials command.login.keyId command.login.key = .ok credentials)
      (hcreated : (Login.createKey reply
        ⟨credentials.keyId, credentials.key, command.login.authUrl.getD settings.authUrl⟩
        request peer).1 = .ok (⟨value⟩, key)) :
      Obtains settings reply peer command value ("Application key: " ++ value)
        ["Created key: '" ++ key.name ++ "'", "Application key ID: " ++ key.id]
  /-- The token of a download authorization. -/
  | token {options : DownloadOptions} {request : DownloadRequest} {credentials : Credentials}
      {value : String} {download : DownloadAuthorization}
      (haction : command.action = .authorizeDownload options)
      (hrequest : options.request = .ok request)
      (hcredentials : settings.credentials command.login.keyId command.login.key = .ok credentials)
      (hissued : (Login.authorizeDownload reply
        ⟨credentials.keyId, credentials.key, command.login.authUrl.getD settings.authUrl⟩
        request peer).1 = .ok download) (hvalue : download.token.value = value) :
      Obtains settings reply peer command value value
        ["Download authorization for bucket " ++ download.bucketId ++ ", prefix '" ++
          download.fileNamePrefix ++ "':"]

/-- The value stands in its line behind a text without markup and without
codes. -/
theorem Obtains.spares_line {console : Console}
    (hobtains : Obtains settings reply peer command value line before) :
    console.Spares line.toList ↔ console.Spares value.toList := by
  cases hobtains with
  | secret =>
      have hplain : Console.isPlain ("Application key: " ++ value).toList =
          Console.isPlain value.toList := by
        rw [String.toList_append]
        exact Console.isPlain_append (by decide +kernel) (by decide +kernel)
      have hcodes : Console.codes ("Application key: " ++ value).toList =
          Console.codes value.toList := by
        rw [String.toList_append]
        rfl
      constructor
      · rintro ⟨hline, hunknown⟩
        exact ⟨hplain ▸ hline, hcodes ▸ hunknown⟩
      · rintro ⟨hvalue, hunknown⟩
        exact ⟨hplain.trans hvalue, hcodes.symm ▸ hunknown⟩
  | token => exact Iff.rfl

theorem Obtains.isPrintable_line (hobtains : Obtains settings reply peer command value line before)
    (hvalue : ∀ char ∈ value.toList, Console.isPrintable char = true) :
    ∀ char ∈ line.toList, Console.isPrintable char = true := by
  cases hobtains with
  | secret =>
      have hlabel : "Application key: ".toList.all Console.isPrintable = true := by decide +kernel
      intro char hchar
      rw [String.toList_append, List.mem_append] at hchar
      exact hchar.elim (List.all_eq_true.mp hlabel char) (hvalue char)
  | token => exact hvalue

theorem report_of_ok {task : Task} {credentials : Credentials} {items : List Item}
    (htask : command.action.task = .ok task)
    (hcredentials : settings.credentials command.login.keyId command.login.key = .ok credentials)
    (hperform : (task.perform reply
      ⟨credentials.keyId, credentials.key, command.login.authUrl.getD settings.authUrl⟩
      peer).1 = .ok items) :
    (command.report settings reply peer).printed = (printItems items).1 ∧
      (command.report settings reply peer).failure = (printItems items).2 := by
  simp only [report, htask, hcredentials, Task.report]
  split
  · next hrun =>
      rw [hrun] at hperform
      exact nomatch hperform
  · next hrun =>
      rw [hrun] at hperform
      obtain rfl := Except.ok.inj hperform
      exact ⟨rfl, rfl⟩

/-- The texts are printed in order, with no more than a harmless one behind
them. -/
theorem Obtains.report (hobtains : Obtains settings reply peer command value line before) :
    ∃ after : List Loose, (∀ text ∈ after, IsPrintableText text) ∧
      (command.report settings reply peer).printed =
        (printItems ((before ++ (line : Loose) :: after).map .text)).1 ∧
      (command.report settings reply peer).failure =
        (printItems ((before ++ (line : Loose) :: after).map .text)).2 := by
  cases hobtains with
  | @secret options request _ _ _ haction hrequest hcredentials hcreated =>
      have htask : command.action.task = .ok (.createKey request) := by
        rw [haction]
        exact map_eq_ok_iff.mpr ⟨request, hrequest, rfl⟩
      have hwarning : (Console.readMarkup
          "[bold yellow]The application key will not be shown again.[/bold yellow]").toOption.isSome
            = true := by decide +kernel
      obtain ⟨runs, hruns⟩ := Option.isSome_iff_exists.mp hwarning
      refine ⟨["[bold yellow]The application key will not be shown again.[/bold yellow]"], ?_,
        report_of_ok htask hcredentials ?_⟩
      · intro text htext
        rw [List.mem_singleton.mp htext]
        exact ⟨runs, toOption_eq_some_iff.mp hruns⟩
      · rw [Task.perform, showing, hcreated]
        rfl
  | @token options request _ _ _ haction hrequest hcredentials hissued hvalue =>
      have htask : command.action.task = .ok (.authorizeDownload request) := by
        rw [haction]
        exact map_eq_ok_iff.mpr ⟨request, hrequest, rfl⟩
      refine ⟨[], List.forall_mem_nil _, report_of_ok htask hcredentials ?_⟩
      rw [Task.perform, showing, hissued, ← hvalue]
      rfl

/-- Nothing is missed exactly when the line and the texts in front of it can be
printed. -/
theorem Obtains.failure_eq_none_iff
    (hobtains : Obtains settings reply peer command value line before) :
    (command.report settings reply peer).failure = none ↔
      ∀ text ∈ (line : Loose) :: before, IsPrintableText text := by
  obtain ⟨after, hafter, -, hfailure⟩ := hobtains.report
  rw [hfailure, printItems_texts_eq_none_iff]
  simp only [List.forall_mem_append, List.forall_mem_cons]
  constructor
  · rintro ⟨hbefore, hline, -⟩
    exact ⟨hline, hbefore⟩
  · rintro ⟨hline, hbefore⟩
    exact ⟨hbefore, hline, hafter⟩

/-- If nothing is missed, the runs of the line are among what is printed. -/
theorem Obtains.mem_printed {runs : List (List Char)}
    (hobtains : Obtains settings reply peer command value line before)
    (hnone : (command.report settings reply peer).failure = none)
    (hruns : Console.readMarkup line = .ok runs) :
    .text runs ∈ (command.report settings reply peer).printed := by
  obtain ⟨after, -, hprinted, hfailure⟩ := hobtains.report
  have hmem : Item.text line ∈ (before ++ (line : Loose) :: after).map .text :=
    List.mem_map_of_mem (List.mem_append_right _ List.mem_cons_self)
  rw [hprinted]
  exact mem_printItems (hfailure ▸ hnone) hmem (print_whole hruns)

/-- On every console a command that obtained a value succeeds exactly when its line
and the texts in front of it can be printed.  Its line shows the value unaltered
exactly when the console spares it, and unbroken exactly when there is room; with
all of this the line is in the output. -/
theorem one_time_values_are_shown {toInt? : String → Option Int} (console : Console)
    {words : List String} (hread : read toInt? words = .ready command)
    (hobtains : Obtains settings reply peer command value line before)
    (hvalue : ∀ char ∈ value.toList, Console.isPrintable char = true) :
    ∃ report, run toInt? settings reply peer words = .finished report ∧
      ((run toInt? settings reply peer words).exitCode = 0 ↔
        ∀ text ∈ (line : Loose) :: before, IsPrintableText text) ∧
      ((∃ runs, Console.readMarkup line = .ok runs ∧ console.shown runs = line.toList) ↔
        console.Spares value.toList) ∧
      (Console.layOut console.width line.toList = [line.toList] ↔
        line.length ≤ console.width) ∧
      ((∀ text ∈ before, IsPrintableText text) →
        console.Spares value.toList → line.length ≤ console.width →
        (run toInt? settings reply peer words).exitCode = 0 ∧ line ∈ report.lines console) := by
  have hrun : run toInt? settings reply peer words =
      .finished (command.report settings reply peer) := by
    rw [run, hread]
  have hprintable := hobtains.isPrintable_line hvalue
  have hexit : (run toInt? settings reply peer words).exitCode = 0 ↔
      ∀ text ∈ (line : Loose) :: before, IsPrintableText text := by
    rw [hrun, exitCode_eq_zero_iff, hobtains.failure_eq_none_iff]
  refine ⟨command.report settings reply peer, hrun, hexit, ?_, ?_, ?_⟩
  · rw [Console.shown_eq_self_iff hprintable, hobtains.spares_line]
  · rw [Console.layOut_eq_self_iff hprintable, String.length_toList]
  · intro hbefore hspares hfits
    obtain ⟨runs, hruns, hlines⟩ :=
      Console.lines_of_spares hprintable (hobtains.spares_line.mpr hspares) hfits
    have hall : ∀ text ∈ (line : Loose) :: before, IsPrintableText text :=
      List.forall_mem_cons.mpr ⟨⟨runs, hruns⟩, hbefore⟩
    have hshown := hobtains.mem_printed (hobtains.failure_eq_none_iff.mpr hall) hruns
    have hline : line ∈ (Printed.text runs).lines console := by
      rw [Printed.lines, hlines]
      exact List.mem_cons_self
    refine ⟨hexit.mpr hall, List.mem_cons_of_mem _ (List.mem_append_right _ ?_)⟩
    exact List.mem_flatMap.mpr ⟨_, hshown, hline⟩

/-- A line that creates a key, and what it asks for. -/
def keyWords : List String :=
  ["keys", "create", "my-key", "-c", "readFiles", "--key-id", "id", "--key", "key"]

def keyOptions : KeyOptions := ⟨"my-key", [.readFiles], none, none, none⟩

def keyCommand : Command := ⟨.createKey keyOptions, ⟨some "id", some "key", none⟩⟩

def keyRequest : KeyRequest := ⟨none, [.readFiles], "my-key", none, none, none⟩

def keyLogin : Login := ⟨"id", ⟨"key"⟩, defaultAuthUrl⟩

/-- The key that is created, and replies that create it with a secret. -/
def createdKey : Key := ⟨"my-key", "id5", [.readFiles], "abcdefg", none, none, none, none⟩

def creating (secret : String) : List Reply :=
  [.response 200 (.value (welcomeTo "https://api.test")),
    .response 200 (.value (.obj [("accountId", .str "abcdefg"), ("applicationKeyId", .str "id5"),
      ("keyName", .str "my-key"), ("capabilities", .arr [.str "readFiles"]),
      ("applicationKey", .str secret)]))]

theorem obtains_of_created {secret : String}
    (hcreated : (keyLogin.createKey prepared keyRequest (creating secret)).1.toOption =
      some (⟨secret⟩, createdKey)) :
    Obtains plainSettings prepared (creating secret) keyCommand secret
      ("Application key: " ++ secret)
      ["Created key: '" ++ createdKey.name ++ "'", "Application key ID: " ++ createdKey.id] := by
  have hrequest : keyOptions.request.toOption = some keyRequest := by decide +kernel
  have hcredentials : plainSettings.credentials (some "id") (some "key") = .ok ⟨"id", ⟨"key"⟩⟩ :=
    Settings.credentials_eq_ok_iff.mpr ⟨_, _, rfl, rfl, rfl⟩
  exact @Obtains.secret _ plainSettings prepared (creating secret) keyCommand keyOptions keyRequest
    ⟨"id", ⟨"key"⟩⟩ secret createdKey rfl (toOption_eq_some_iff.mp hrequest) hcredentials
    (toOption_eq_some_iff.mp hcreated)

/-- A console of the usual width that knows one picture. -/
def smallConsole : Console where
  width := 80
  emoji? name := if name = ['x'] then some [Char.ofNat 0x274C] else none
  not_ascii name picture hpicture := by
    split at hpicture
    · obtain rfl := Option.some.inj hpicture
      exact ⟨_, List.mem_cons_self, by decide⟩
    · cases hpicture

theorem one_time_values_are_shown_key :
    read readInt? keyWords = .ready keyCommand ∧
      Obtains plainSettings prepared (creating "K002:secret") keyCommand "K002:secret"
        ("Application key: " ++ "K002:secret")
        ["Created key: '" ++ createdKey.name ++ "'", "Application key ID: " ++ createdKey.id] ∧
      (∀ char ∈ "K002:secret".toList, Console.isPrintable char = true) ∧
      ∃ report,
        run readInt? plainSettings prepared (creating "K002:secret") keyWords =
          .finished report ∧
        (run readInt? plainSettings prepared (creating "K002:secret") keyWords).exitCode = 0 ∧
        "Application key: " ++ "K002:secret" ∈ report.lines smallConsole := by
  have hread : read readInt? keyWords = .ready keyCommand := rfl
  have hprintable : ∀ char ∈ "K002:secret".toList, Console.isPrintable char = true :=
    List.all_eq_true.mp (by decide +kernel)
  have hcreated : (keyLogin.createKey prepared keyRequest (creating "K002:secret")).1.toOption =
      some (⟨"K002:secret"⟩, createdKey) := by
    decide +kernel
  have hobtains := obtains_of_created hcreated
  have hbefore : ∀ text ∈ ["Created key: 'my-key'", "Application key ID: id5"],
      Console.isPlain text.toList = true := by
    decide +kernel
  have hspares : smallConsole.Spares "K002:secret".toList :=
    ⟨by decide +kernel, by decide +kernel⟩
  obtain ⟨report, hrun, -, -, -, hshown⟩ :=
    one_time_values_are_shown smallConsole hread hobtains hprintable
  have hmarkup : ∀ text ∈ (["Created key: '" ++ createdKey.name ++ "'",
      "Application key ID: " ++ createdKey.id] : List Loose), IsPrintableText text := by
    intro text htext
    obtain ⟨content, hcontent, rfl⟩ := List.mem_map.mp
      (show text ∈ ["Created key: 'my-key'", "Application key ID: id5"].map .whole from htext)
    exact ⟨_, Console.readMarkup_of_isPlain (hbefore _ hcontent)⟩
  exact ⟨hread, hobtains, hprintable, report, hrun, hshown hmarkup hspares (by decide +kernel)⟩

/-- What looks like a tag is lost from a secret. -/
theorem tag_is_lost_from_secret :
    Obtains plainSettings prepared (creating "K002[x]secret") keyCommand "K002[x]secret"
        ("Application key: " ++ "K002[x]secret")
        ["Created key: '" ++ createdKey.name ++ "'", "Application key ID: " ++ createdKey.id] ∧
      read readInt? keyWords = .ready keyCommand ∧
      (keyCommand.report plainSettings prepared (creating "K002[x]secret")).printed.flatMap
          (Printed.lines smallConsole) =
        ["Created key: 'my-key'", "Application key ID: id5", "Application key: K002secret",
          "The application key will not be shown again."] := by
  refine ⟨obtains_of_created ?_, rfl, ?_⟩
  · decide +kernel
  · decide +kernel

end Obtained

end BucketAccess.Command
