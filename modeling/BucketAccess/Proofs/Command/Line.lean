import BucketAccess.Command.Basic

/-!
# What a command line says

A command line that is read as a command names the group and the command, each
perhaps behind two hyphens.  Everything else is said by the line that the words
behind them make: an option that may be given many times stands for all its
values, in their order, and every other option for its last value.
-/

namespace BucketAccess.Command

/-! ## Names in front -/

section Choice

variable {α : Type} {choice? : String → Option α} {words rest : List String} {value : α}

/-- Some words name a value and go on. -/
def Leads (choice? : String → Option α) (words : List String) (value : α)
    (rest : List String) : Prop :=
  ∃ word, choice? word = some value ∧ (words = word :: rest ∨ words = "--" :: word :: rest)

theorem readLetters_nil (help : Bool) (letters : List Char) :
    readLetters [] help letters = .unknown ∨ readLetters [] help letters = .help := by
  induction letters generalizing help with
  | nil => exact .inr rfl
  | cons letter letters ih =>
      rw [readLetters]
      split
      · exact ih true
      · exact .inl rfl

/-- Where no option exists, a word is an argument, two hyphens, a request for
help, or wrong. -/
theorem readWord_nil (word : String) :
    readWord [] word = .argument ∨ (readWord [] word = .ending ∧ word = "--") ∨
      readWord [] word = .unknown ∨ readWord [] word = .help := by
  unfold readWord
  split
  · next hhyphens =>
      right
      left
      exact ⟨rfl, String.toList_inj.mp hhyphens⟩
  · dsimp only [List.find?_nil]
    right
    right
    split
    · exact .inr rfl
    · split
      · exact .inl rfl
      · exact readLetters_nil _ _
  · exact .inl rfl

theorem words_of_read_nil {line : Line} (hread : Line.read [] false words = some line)
    (hhelp : line.help = false) : words = line.arguments ∨ words = "--" :: line.arguments := by
  cases words with
  | nil =>
      obtain rfl := Option.some.inj hread
      exact .inl rfl
  | cons word words =>
      rw [Line.read] at hread
      rcases readWord_nil word with hword | ⟨hword, rfl⟩ | hword | hword
      · rw [hword] at hread
        obtain rfl := Option.some.inj hread
        exact .inl rfl
      · rw [hword] at hread
        obtain rfl := Option.some.inj hread
        exact .inr rfl
      · rw [hword] at hread
        exact nomatch hread
      · rw [hword] at hread
        obtain ⟨other, -, rfl⟩ := Option.map_eq_some_iff.mp hread
        exact nomatch hhelp

theorem leads_of_readChoice (hread : readChoice choice? words = .ready (value, rest)) :
    Leads choice? words value rest := by
  unfold readChoice at hread
  split at hread
  · exact nomatch hread
  split at hread
  · exact nomatch hread
  next line hline =>
    split at hread
    · exact nomatch hread
    next hhelp =>
      split at hread
      · exact nomatch hread
      next word others harguments =>
        split at hread
        · next hvalue =>
            obtain ⟨rfl, rfl⟩ := Prod.mk.inj (Parsed.ready.inj hread)
            refine ⟨word, hvalue, ?_⟩
            rw [← harguments]
            exact words_of_read_nil hline (Bool.eq_false_iff.mpr hhelp)
        · split at hread
          · split at hread
            · exact nomatch hread
            · exact nomatch hread
          · exact nomatch hread

end Choice

/-! ## Other values -/

namespace Line

/-- A setting with its value changed if it is one of an option. -/
def changeEntry (option : OptionName) (change : String → String) (entry : OptionName × String) :
    OptionName × String :=
  if entry.1 = option then (option, change entry.2) else entry

/-- A line on which the values of one option are changed. -/
def changed (option : OptionName) (change : String → String) (line : Line) : Line :=
  { line with settings := line.settings.map (changeEntry option change) }

variable {option other : OptionName} {change : String → String}

theorem changeEntry_fst (entry : OptionName × String) :
    (changeEntry option change entry).1 = entry.1 := by
  rw [changeEntry]
  split
  · next hoption => exact hoption.symm
  · rfl

/-- Changing an option changes its own values and no others. -/
theorem values_changed (line : Line) :
    (line.changed option change).values other =
      (line.values other).map (if other = option then change else id) := by
  have hkept : (fun entry : OptionName × String => decide (entry.1 = other)) ∘
      changeEntry option change = fun entry => decide (entry.1 = other) :=
    funext fun entry => congrArg (fun found => decide (found = other)) (changeEntry_fst entry)
  rw [values, changed, List.filter_map, hkept, values, List.map_map, List.map_map]
  apply List.map_congr_left
  intro entry hentry
  obtain rfl : entry.1 = other := of_decide_eq_true (List.mem_filter.mp hentry).2
  rw [Function.comp_apply, Function.comp_apply, changeEntry]
  split <;> rfl

theorem values_changed_of_ne (hne : other ≠ option) (line : Line) :
    (line.changed option change).values other = line.values other := by
  rw [values_changed, if_neg hne, List.map_id]

theorem value?_changed_of_ne (hne : other ≠ option) (line : Line) :
    (line.changed option change).value? other = line.value? other := by
  rw [value?, value?, values_changed_of_ne hne]

theorem value?_changed (line : Line) :
    (line.changed option change).value? option = (line.value? option).map change := by
  rw [value?, value?, values_changed, if_pos rfl, List.getLast?_map]

end Line

/-! ## What stands behind the names -/

/-- The command that an action belongs to. -/
def Action.name : Action → CommandName
  | .check => .check
  | .createKey _ => .createKey
  | .deleteKey _ => .deleteKey
  | .authorizeDownload _ => .authorizeDownload

/-- An action is what a line asks for. -/
def Action.SaidBy (toInt? : String → Option Int) (line : Line) : Action → Prop
  | .check => line.arguments = []
  | .createKey key =>
      line.arguments = [key.name] ∧
      line.values .capability = key.capabilities.map Capability.name ∧
      line.value? .bucketId = key.bucketId ∧ line.value? .namePrefix = key.namePrefix ∧
      readOptional toInt? (line.value? .expiresInDays) = some key.days
  | .deleteKey keyId => line.arguments = [keyId]
  | .authorizeDownload download =>
      line.arguments = [download.bucketId, download.fileNamePrefix] ∧
      (line.value? .durationSeconds).bind toInt? = some download.seconds ∧
      line.value? .contentDisposition = download.disposition ∧
      line.value? .contentLanguage = download.language ∧
      line.value? .contentType = download.contentType ∧
      line.value? .contentEncoding = download.encoding.map Download.ContentEncoding.name

/-- A command is what some words ask for. -/
def SaidBy (toInt? : String → Option Int) (words : List String) (command : Command) : Prop :=
  ∃ group behindGroup behindName line,
    Leads Group.ofWord? words group behindGroup ∧
    Leads (CommandName.ofWord? group) behindGroup command.action.name behindName ∧
    Line.read command.action.name.options true behindName = some line ∧
    line.help = false ∧ command.action.SaidBy toInt? line ∧ command.login = loginOptions line

theorem name_of_ofName? {text : String} {capability : Capability}
    (hname : Capability.ofName? text = some capability) : capability.name = text := by
  have hfound := List.find?_some hname
  exact of_decide_eq_true hfound

theorem readCapabilities?_eq_some {texts : List String} {capabilities : List Capability}
    (hread : readCapabilities? texts = some capabilities) :
    texts = capabilities.map Capability.name := by
  induction texts generalizing capabilities with
  | nil =>
      obtain rfl := Option.some.inj hread
      rfl
  | cons text texts ih =>
      obtain ⟨capability, hfirst, hrest⟩ := Option.bind_eq_some_iff.mp hread
      obtain ⟨others, hothers, hlast⟩ := Option.bind_eq_some_iff.mp hrest
      obtain rfl := Option.some.inj hlast
      rw [List.map_cons, ← name_of_ofName? hfirst, ← ih hothers]

theorem readOptional_encoding {text? : Option String}
    {encoding? : Option Download.ContentEncoding}
    (hread : readOptional Download.ContentEncoding.ofName? text? = some encoding?) :
    text? = encoding?.map Download.ContentEncoding.name := by
  cases text? with
  | none =>
      obtain rfl := Option.some.inj hread
      rfl
  | some text =>
      obtain ⟨encoding, hname, rfl⟩ := Option.map_eq_some_iff.mp hread
      have hfound := List.find?_some hname
      exact congrArg some (of_decide_eq_true hfound).symm

theorem saidBy_of_action? {toInt? : String → Option Int} {line : Line} {name : CommandName}
    {action : Action} (haction : action? toInt? line name = some action) :
    action.name = name ∧ action.SaidBy toInt? line := by
  cases name with
  | check =>
      rw [action?] at haction
      split at haction
      · next hnone =>
          obtain rfl := Option.some.inj haction
          exact ⟨rfl, hnone⟩
      · exact nomatch haction
  | createKey =>
      rw [action?] at haction
      split at haction
      · next hname =>
          obtain ⟨capabilities, hcapabilities, hrest⟩ := Option.bind_eq_some_iff.mp haction
          obtain ⟨days, hdays, hlast⟩ := Option.bind_eq_some_iff.mp hrest
          split at hlast
          · exact nomatch hlast
          · obtain rfl := Option.some.inj hlast
            exact ⟨rfl, hname, readCapabilities?_eq_some hcapabilities, rfl, rfl, hdays⟩
      · exact nomatch haction
  | deleteKey =>
      rw [action?] at haction
      split at haction
      · next hkeyId =>
          obtain rfl := Option.some.inj haction
          exact ⟨rfl, hkeyId⟩
      · exact nomatch haction
  | authorizeDownload =>
      rw [action?] at haction
      split at haction
      · next harguments =>
          obtain ⟨seconds, hseconds, hrest⟩ := Option.bind_eq_some_iff.mp haction
          obtain ⟨encoding, hencoding, hlast⟩ := Option.bind_eq_some_iff.mp hrest
          obtain rfl := Option.some.inj hlast
          exact ⟨rfl, harguments, hseconds, rfl, rfl, rfl, readOptional_encoding hencoding⟩
      · exact nomatch haction

/-- A command that is read is what the words ask for. -/
theorem saidBy_of_read {toInt? : String → Option Int} {words : List String} {command : Command}
    (hread : read toInt? words = .ready command) : command.SaidBy toInt? words := by
  unfold read at hread
  split at hread
  · exact nomatch hread
  · exact nomatch hread
  next group behindGroup hgroup =>
    split at hread
    · exact nomatch hread
    · exact nomatch hread
    next name behindName hname =>
      unfold readCommand at hread
      split at hread
      · exact nomatch hread
      next line hline =>
        split at hread
        · exact nomatch hread
        next hhelp =>
          cases haction : action? toInt? line name with
          | none =>
              rw [haction] at hread
              exact nomatch hread
          | some action =>
              rw [haction] at hread
              obtain rfl := Parsed.ready.inj hread
              obtain ⟨rfl, hsaid⟩ := saidBy_of_action? haction
              exact ⟨group, behindGroup, behindName, line, leads_of_readChoice hgroup,
                leads_of_readChoice hname, hline, Bool.eq_false_iff.mpr hhelp, hsaid, rfl⟩

end BucketAccess.Command
