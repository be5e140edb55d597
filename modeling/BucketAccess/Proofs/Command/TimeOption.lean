import BucketAccess.Proofs.Command.Rekeyed
import BucketAccess.Proofs.Command.Traffic
import BucketAccess.Proofs.Command.Integer

/-!
# Lengths of time on the command line

A key is created for a number of days, and downloads are authorized for a number of
seconds.  Both numbers are read from the command line, turned into spans, and checked
before anything is sent.  A number that makes a span but breaks the rule is refused as
such; a number that makes no span fails in the making.
-/

namespace BucketAccess.Command

open Http (Client Peer)

/-! ## The options -/

/-- The options that take a length of time. -/
inductive TimeOption where
  | days
  | seconds

namespace TimeOption

/-- The command that takes the option. -/
def command : TimeOption → CommandName
  | days => .createKey
  | seconds => .authorizeDownload

def option : TimeOption → OptionName
  | days => .expiresInDays
  | seconds => .durationSeconds

/-- The rule for the number. -/
def Allows : TimeOption → Int → Prop
  | days, number => 1 ≤ number ∧ number < 1000
  | seconds, number => 1 ≤ number ∧ number ≤ 604800

/-- The number makes a span. -/
def Counts : TimeOption → Int → Prop
  | days, number => -999999999 ≤ number ∧ number ≤ 999999999
  | seconds, number => -86399999913600 ≤ number ∧ number ≤ 86399999999999

instance (time : TimeOption) (number : Int) : Decidable (time.Allows number) :=
  match time with
  | days => inferInstanceAs (Decidable (1 ≤ number ∧ number < 1000))
  | seconds => inferInstanceAs (Decidable (1 ≤ number ∧ number ≤ 604800))

instance (time : TimeOption) (number : Int) : Decidable (time.Counts number) :=
  match time with
  | days => inferInstanceAs (Decidable (-999999999 ≤ number ∧ number ≤ 999999999))
  | seconds => inferInstanceAs (Decidable (-86399999913600 ≤ number ∧ number ≤ 86399999999999))

variable {time : TimeOption} {number : Int}

theorem Allows.counts (hallows : time.Allows number) : time.Counts number := by
  cases time <;> simp only [Allows, Counts] at * <;> omega

theorem isSome_ofDays?_iff : (Span.ofDays? number).isSome ↔ days.Counts number := by
  rw [Span.ofDays?, Duration.isSome_ofMicroseconds?_iff]
  simp only [leastMicroseconds, greatestMicroseconds, Span.microsecondsPerDay, Counts]
  omega

theorem isSome_ofSeconds?_iff : (Span.ofSeconds? number).isSome ↔ seconds.Counts number := by
  rw [Span.ofSeconds?, Duration.isSome_ofMicroseconds?_iff]
  simp only [leastMicroseconds, greatestMicroseconds, Span.microsecondsPerSecond, Counts]
  omega

end TimeOption

/-! ## Actions for another length of time -/

/-- The same action for another length of time. -/
def Action.lasting (number : Int) : Action → Action
  | .createKey key => .createKey { key with days := some number }
  | .authorizeDownload download => .authorizeDownload { download with seconds := number }
  | action => action

theorem Action.exists_createKey {action : Action} (hname : action.name = .createKey) :
    ∃ key, action = .createKey key := by
  cases action with
  | createKey key => exact ⟨key, rfl⟩
  | _ => cases hname

theorem Action.exists_authorizeDownload {action : Action}
    (hname : action.name = .authorizeDownload) :
    ∃ download, action = .authorizeDownload download := by
  cases action with
  | authorizeDownload download => exact ⟨download, rfl⟩
  | _ => cases hname

namespace TimeOption

variable {time : TimeOption} {number : Int} {action : Action}

/-- Only one of the rules sees the length of time. -/
theorem sound_lasting_iff (hname : action.name = time.command) (hsound : action.Sound) :
    (action.lasting number).Sound ↔ time.Allows number := by
  cases time with
  | days =>
      obtain ⟨key, rfl⟩ := Action.exists_createKey hname
      constructor
      · intro hlasting
        exact KeyOptions.Sound.days hlasting number rfl
      · intro hallows
        refine ⟨hsound.name, hsound.capabilities, ?_, hsound.scopable, hsound.bucket⟩
        intro days hdays
        obtain rfl := Option.some.inj hdays
        exact hallows
  | seconds =>
      obtain ⟨download, rfl⟩ := Action.exists_authorizeDownload hname
      constructor
      · intro hlasting
        exact DownloadOptions.Sound.seconds hlasting
      · intro hallows
        exact ⟨hallows, hsound.disposition, hsound.contentType⟩

theorem countable_lasting_iff (hname : action.name = time.command) :
    (action.lasting number).Countable ↔ time.Counts number := by
  cases time with
  | days =>
      obtain ⟨key, rfl⟩ := Action.exists_createKey hname
      rw [← isSome_ofDays?_iff]
      change (∀ days ∈ some number, (Span.ofDays? days).isSome) ↔ _
      simp only [Option.mem_some_iff, forall_eq']
  | seconds =>
      obtain ⟨download, rfl⟩ := Action.exists_authorizeDownload hname
      exact isSome_ofSeconds?_iff

/-- Where there is no span, making one fails, and no rule is looked at that is still to
come. -/
theorem task_of_not_counts (hname : action.name = time.command) (hsound : action.Sound)
    (hcounts : ¬ time.Counts number) : (action.lasting number).task = .error .overflow := by
  cases time with
  | days =>
      obtain ⟨key, rfl⟩ := Action.exists_createKey hname
      have hnone : Span.ofDays? number = none := by
        rwa [← isSome_ofDays?_iff, Option.not_isSome_iff_eq_none] at hcounts
      have hrequest : KeyOptions.request { key with days := some number } =
          settingGiven expiringAfterDays (some number) key.draft >>= KeyDraft.build :=
        KeyOptions.request_of_name hsound.name hsound.capabilities
      refine map_eq_error_iff.mpr ?_
      rw [hrequest]
      refine bind_eq_error_iff.mpr (.inl ?_)
      rw [settingGiven, expiringAfterDays, hnone]
  | seconds =>
      obtain ⟨download, rfl⟩ := Action.exists_authorizeDownload hname
      have hnone : Span.ofSeconds? number = none := by
        rwa [← isSome_ofSeconds?_iff, Option.not_isSome_iff_eq_none] at hcounts
      refine map_eq_error_iff.mpr ?_
      rw [DownloadOptions.request_eq]
      refine bind_eq_error_iff.mpr (.inl (bind_eq_error_iff.mpr (.inl ?_)))
      rw [validForSeconds, hnone]

/-- What becomes of the number depends on the rule and on whether it makes a span. -/
theorem task_lasting (hname : action.name = time.command) (hsound : action.Sound) :
    (time.Allows number ∧ ∃ task, (action.lasting number).task = .ok task) ∨
    (¬ time.Allows number ∧ time.Counts number ∧
      ∃ fault, fault.IsViolation ∧ (action.lasting number).task = .error fault) ∨
    (¬ time.Counts number ∧ (action.lasting number).task = .error .overflow) := by
  by_cases hcounts : time.Counts number
  · have hlasting : (action.lasting number).Sound ↔ time.Allows number :=
      sound_lasting_iff hname hsound
    rw [Action.sound_iff] at hlasting
    by_cases hallows : time.Allows number
    · exact .inl ⟨hallows, hlasting.mpr hallows⟩
    · cases htask : (action.lasting number).task with
      | ok task => exact absurd (hlasting.mp ⟨task, htask⟩) hallows
      | error fault =>
          exact .inr (.inl ⟨hallows, hcounts, fault,
            Action.task_error ((countable_lasting_iff hname).mpr hcounts) htask, rfl⟩)
  · exact .inr (.inr ⟨hcounts, task_of_not_counts hname hsound hcounts⟩)

end TimeOption

/-! ## Reading the number -/

namespace TimeOption

variable {time : TimeOption} {line : Line} {action : Action} {text : String}

/-- A line whose number is read as another one asks for the same but for the
length of time. -/
theorem action?_lasting (toInt? : String → Option Int)
    (hvalue : line.value? time.option = some text)
    (haction : action? (fun _ => some 1) line time.command = some action) :
    action? toInt? line time.command = (toInt? text).map action.lasting := by
  cases time with
  | days =>
      change line.value? .expiresInDays = some text at hvalue
      simp only [command, action?, hvalue] at haction ⊢
      split at haction
      · obtain ⟨capabilities, hcapabilities, hrest⟩ := Option.bind_eq_some_iff.mp haction
        obtain ⟨days, -, hlast⟩ := Option.bind_eq_some_iff.mp hrest
        split at hlast
        · cases hlast
        next hsome =>
          obtain rfl := Option.some.inj hlast
          rw [hcapabilities]
          cases hread : toInt? text with
          | none => simp [readOptional, hread]
          | some number => simpa [readOptional, hread, Action.lasting] using hsome
      · cases haction
  | seconds =>
      change line.value? .durationSeconds = some text at hvalue
      simp only [command, action?, hvalue] at haction ⊢
      split at haction
      · obtain ⟨seconds, -, hrest⟩ := Option.bind_eq_some_iff.mp haction
        obtain ⟨encoding, hencoding, hlast⟩ := Option.bind_eq_some_iff.mp hrest
        obtain rfl := Option.some.inj hlast
        rw [hencoding]
        cases hread : toInt? text <;> simp [hread, Action.lasting]
      · cases haction

end TimeOption

/-! ## What becomes of a command -/

section Outcomes

variable {σ : Type} {settings : Settings} {reply : Peer σ} {peer : σ} {login : Login}
  {command : Command} {task : Task} {fault : Fault}

/-- A command fails and has sent nothing. -/
def Report.FailsFirst (report : Report σ) (fault : Fault) : Prop :=
  report.failure = some fault ∧ report.requests = []

/-- If nothing is sent, there is nothing to show but why the login becomes no request. -/
theorem showing_of_nil {α : Type} {items : α → List Item} {run : Except Fault α × Client σ}
    {next : Authorization → α ⊕ Operation α}
    (hcourse : Course reply login next peer run.2.requests run.1) (hnil : run.2.requests = []) :
    ∃ fault, login.operation.call.toRequest = .error fault ∧
      (showing items run).1 = .error fault := by
  rw [hnil] at hcourse
  obtain ⟨fault, hlogin, hrun⟩ := hcourse.fault_of_nil
  refine ⟨fault, hlogin, ?_⟩
  rw [showing, hrun]
  rfl

theorem perform_of_nil (hnil : (task.perform reply login peer).2.requests = []) :
    ∃ fault, login.operation.call.toRequest = .error fault ∧
      (task.perform reply login peer).1 = .error fault := by
  cases task with
  | check => exact showing_of_nil (login.orderly_authorize reply peer).course hnil
  | createKey request =>
      have hpost : ∀ authorization : Authorization,
          (authorization.createKey request).call.method = .post := fun _ => rfl
      exact showing_of_nil (login.orderly_perform reply hpost peer).course hnil
  | deleteKey keyId =>
      have hpost : ∀ authorization : Authorization,
          (authorization.deleteKey keyId).call.method = .post := fun _ => rfl
      exact showing_of_nil (login.orderly_perform reply hpost peer).course hnil
  | authorizeDownload request =>
      have hpost : ∀ authorization : Authorization,
          (authorization.authorizeDownload request).call.method = .post := fun _ => rfl
      exact showing_of_nil (login.orderly_perform reply hpost peer).course hnil

theorem failsFirst_of_task_error (htask : command.action.task = .error fault) {other : Fault} :
    (command.report settings reply peer).FailsFirst other ↔ fault = other := by
  simp [report, htask, Report.FailsFirst, Report.early, Report.requests]

theorem failure_of_perform_error (hperform : (task.perform reply login peer).1 = .error fault) :
    (task.report reply peer login).failure = some fault := by
  unfold Task.report
  split
  · next hrun =>
      rw [hrun] at hperform
      exact congrArg some (Except.error.inj hperform)
  · next hrun =>
      rw [hrun] at hperform
      exact nomatch hperform

/-- A command that has something to do does not fail for its options. -/
theorem not_failsFirst_of_task (htask : command.action.task = .ok task)
    (hfails : (command.report settings reply peer).FailsFirst fault) :
    ¬ (fault.IsViolation ∨ fault = .overflow) := by
  obtain ⟨hfailure, hrequests⟩ := hfails
  rw [report, htask] at hfailure hrequests
  cases hcredentials : settings.credentials command.login.keyId command.login.key with
  | error flaw =>
      rw [hcredentials] at hfailure
      obtain ⟨-, rfl⟩ := Settings.credentials_eq_error_iff.mp hcredentials
      obtain rfl := Option.some.inj hfailure
      simp [Fault.IsViolation]
  | ok credentials =>
      rw [hcredentials] at hfailure hrequests
      dsimp only at hfailure hrequests
      rw [requests_report] at hrequests
      obtain ⟨flaw, hlogin, hperform⟩ := perform_of_nil hrequests
      rw [failure_of_perform_error hperform] at hfailure
      obtain rfl := Option.some.inj hfailure
      have hmade : (Login.mk credentials.keyId credentials.key
          (command.login.authUrl.getD settings.authUrl)).operation.call.fault? = none := by
        obtain ⟨id, secret, -, -, rfl⟩ := Settings.credentials_eq_ok_iff.mp hcredentials
        rfl
      rcases Http.Call.toRequest_error hmade hlogin with rfl | rfl | rfl | rfl | ⟨_, rfl⟩ <;>
        simp [Fault.IsViolation]

/-- What a command makes of a length of time before it sends anything. -/
theorem failsFirst_lasting_iff {time : TimeOption} {number : Int} {action : Action}
    (hname : action.name = time.command) (hsound : action.Sound)
    (haction : command.action = action.lasting number) :
    ((∃ fault, fault.IsViolation ∧ (command.report settings reply peer).FailsFirst fault) ↔
        ¬ time.Allows number ∧ time.Counts number) ∧
      ((command.report settings reply peer).FailsFirst .overflow ↔ ¬ time.Counts number) := by
  rcases TimeOption.task_lasting hname hsound with ⟨hallows, task, htask⟩ |
    ⟨hbreaks, hcounts, fault, hviolation, htask⟩ | ⟨hcounts, htask⟩
  · rw [← haction] at htask
    constructor
    · constructor
      · rintro ⟨fault, hviolation, hfails⟩
        exact absurd (.inl hviolation) (not_failsFirst_of_task htask hfails)
      · rintro ⟨hbreaks, -⟩
        exact absurd hallows hbreaks
    · constructor
      · intro hfails
        exact absurd (.inr rfl) (not_failsFirst_of_task htask hfails)
      · intro hcounts
        exact absurd hallows.counts hcounts
  · rw [← haction] at htask
    constructor
    · exact iff_of_true ⟨fault, hviolation, (failsFirst_of_task_error htask).mpr rfl⟩
        ⟨hbreaks, hcounts⟩
    · rw [failsFirst_of_task_error htask]
      refine iff_of_false ?_ (not_not_intro hcounts)
      rintro rfl
      exact nomatch hviolation
  · rw [← haction] at htask
    constructor
    · refine iff_of_false ?_ fun hrules => hcounts hrules.2
      rintro ⟨fault, hviolation, hfails⟩
      obtain rfl := (failsFirst_of_task_error htask).mp hfails
      exact nomatch hviolation
    · exact iff_of_true ((failsFirst_of_task_error htask).mpr rfl) hcounts

end Outcomes

/-! ## The whole -/

/-- Some words give a number for an option, as it is written, and are otherwise those of a
command that keeps the rules, as they would be with a length of one. -/
def TimeOption.GivenBy (time : TimeOption) (words : List String) (text : String) : Prop :=
  ∃ group behindGroup behindName line action,
    Leads Group.ofWord? words group behindGroup ∧
    Leads (CommandName.ofWord? group) behindGroup time.command behindName ∧
    Line.read time.command.options true behindName = some line ∧
    line.help = false ∧ line.value? time.option = some text ∧
    action? (fun _ => some 1) line time.command = some action ∧ action.Sound

theorem TimeOption.GivenBy.read {time : TimeOption} {words : List String} {text : String}
    (hgiven : time.GivenBy words text) (toInt? : String → Option Int) :
    (toInt? text = none ∧ Command.read toInt? words = .misuse) ∨
      ∃ (number : Int) (action : Action) (login : LoginOptions),
        toInt? text = some number ∧ action.Sound ∧ action.name = time.command ∧
        Command.read toInt? words = .ready ⟨action.lasting number, login⟩ := by
  obtain ⟨group, behindGroup, behindName, line, action, hgroup, hname, hline, hhelp, hvalue,
    haction, hsound⟩ := hgiven
  have hlasting := TimeOption.action?_lasting toInt? hvalue haction
  rw [read_of_leads hgroup hname, readCommand, hline]
  simp only [hhelp, Bool.false_eq_true, if_false, hlasting]
  cases toInt? text with
  | none => exact .inl ⟨rfl, rfl⟩
  | some number =>
      exact .inr ⟨number, action, loginOptions line, rfl, hsound,
        (saidBy_of_action? haction).1, rfl⟩

/-- However the words of numbers are read, with whatever settings and against whatever peer:
a number that breaks the rule but makes a span is refused for it with nothing sent, and no
other is refused before something is sent.  A number that makes no span ends the command as
an overflow, with nothing sent either, and a word that is no number is misuse.  The usual
reader reads every integer in plain decimal unless it has too many digits. -/
theorem lengths_of_time_are_checked {σ : Type} (time : TimeOption)
    (toInt? : String → Option Int) (settings : Settings) (reply : Peer σ) (peer : σ)
    (words : List String) (text : String) (hgiven : time.GivenBy words text) :
    (toInt? text = none → run toInt? settings reply peer words = .misuse) ∧
    (∀ number, toInt? text = some number →
      ∃ report, run toInt? settings reply peer words = .finished report ∧
        ((∃ fault, fault.IsViolation ∧ report.FailsFirst fault) ↔
          ¬ time.Allows number ∧ time.Counts number) ∧
        (report.FailsFirst .overflow ↔ ¬ time.Counts number)) ∧
    ∀ number, readInt? (Text.intText number) =
      if (Text.digits number.natAbs).length ≤ Text.longestNumeral then some number else none := by
  refine ⟨?_, ?_, readInt?_intText⟩
  · intro hnone
    rcases hgiven.read toInt? with ⟨-, hread⟩ | ⟨number, _, _, hsome, -⟩
    · rw [run, hread]
    · rw [hnone] at hsome
      cases hsome
  · intro number hnumber
    rcases hgiven.read toInt? with ⟨hnone, -⟩ | ⟨_, action, login, hsome, hsound, hname, hread⟩
    · rw [hnumber] at hnone
      cases hnone
    obtain rfl := Option.some.inj (hnumber.symm.trans hsome)
    refine ⟨Command.report settings reply peer ⟨action.lasting number, login⟩, ?_,
      failsFirst_lasting_iff hname hsound rfl⟩
    rw [run, hread]

/-- A line that creates a key for a number of days, and what it asks for. -/
def daysWords (text : String) : List String :=
  ["keys", "create", "my-key", "-c", "readFiles", "--expires-in-days", text, "--key-id", "id",
    "--key", "key"]

def daysAction (number : Int) : Action :=
  .createKey ⟨"my-key", [.readFiles], none, none, some number⟩

def daysLine (text : String) : Line where
  help := false
  settings :=
    [(.capability, "readFiles"), (.expiresInDays, text), (.keyId, "id"), (.key, "key")]
  arguments := ["my-key"]

theorem days_givenBy (text : String) : TimeOption.days.GivenBy (daysWords text) text := by
  have hrequest :
      (KeyOptions.request ⟨"my-key", [.readFiles], none, none, some 1⟩).toOption.isSome = true := by
    decide +kernel
  have hsound : (daysAction 1).Sound := by
    obtain ⟨request, hsome⟩ := Option.isSome_iff_exists.mp hrequest
    exact KeyOptions.exists_request_iff.mp ⟨request, toOption_eq_some_iff.mp hsome⟩
  exact ⟨.keys, _, _, daysLine text, daysAction 1, ⟨"keys", rfl, .inl rfl⟩,
    ⟨"create", rfl, .inl rfl⟩, rfl, rfl, rfl, rfl, hsound⟩

/-- A thousand days are refused, and many days cannot be read. -/
theorem lengths_of_time_are_checked_thousand :
    (∃ report, run readInt? plainSettings prepared [] (daysWords "1000") = .finished report ∧
      ∃ fault, fault.IsViolation ∧ report.FailsFirst fault) ∧
    run readInt? plainSettings prepared [] (daysWords "many") = .misuse := by
  constructor
  · obtain ⟨-, hnumber, -⟩ := lengths_of_time_are_checked .days readInt? plainSettings prepared []
      _ "1000" (days_givenBy "1000")
    obtain ⟨report, hrun, hrefused, -⟩ := hnumber 1000 rfl
    exact ⟨report, hrun, hrefused.mpr ⟨by decide, by decide⟩⟩
  · obtain ⟨hmisuse, -, -⟩ := lengths_of_time_are_checked .days readInt? plainSettings prepared []
      _ "many" (days_givenBy "many")
    exact hmisuse rfl

/-- A thousand million days are not refused: they overflow. -/
theorem thousand_million_days_overflow :
    TimeOption.days.GivenBy (daysWords "1000000000") "1000000000" ∧
      readInt? "1000000000" = some 1000000000 ∧ ¬ TimeOption.days.Allows 1000000000 ∧
      ∃ report, run readInt? plainSettings prepared [] (daysWords "1000000000") = .finished report ∧
        report.FailsFirst .overflow := by
  refine ⟨days_givenBy _, rfl, by decide, _, rfl, ?_⟩
  exact ⟨rfl, rfl⟩

end BucketAccess.Command
