import BucketAccess.Proofs.Command.Line
import BucketAccess.Secret

/-!
# Command lines with another key

The key to log in with stands behind an option, as the next word or in the same
one.  A line on which nothing but keys has been replaced by other keys is read
as a line that is the same but for the keys, or it is wrong for the same reason.
So it asks for the same action, under the same identifier, at the same place.
-/

namespace BucketAccess

/-! ## Concealed keys -/

/-- A key as far as it is shown: whether there is one. -/
def concealed (key : String) : String := (Secret.mk key).shown

theorem concealed_eq_of_ne {key key' : String} (hkey : key ≠ "") (hkey' : key' ≠ "") :
    concealed key = concealed key' := by
  have hshown : ∀ key : String, key ≠ "" → concealed key = "**********" := by
    intro key hkey
    rw [concealed, Secret.shown, Loose.isEmpty, if_neg]
    rwa [String.isEmpty_iff]
  rw [hshown key hkey, hshown key' hkey']

namespace Command

/-! ## Lines -/

namespace Line

def concealEntry (entry : OptionName × String) : OptionName × String :=
  if entry.1 = .key then (.key, concealed entry.2) else entry

/-- A line with its keys concealed. -/
def withoutKey (line : Line) : Line :=
  { line with settings := line.settings.map concealEntry }

theorem withoutKey_eq_changed (line : Line) : line.withoutKey = line.changed .key concealed := rfl

/-- Nothing but keys is concealed. -/
theorem values_withoutKey {option : OptionName} (hoption : option ≠ .key) (line : Line) :
    line.withoutKey.values option = line.values option := by
  rw [withoutKey_eq_changed, values_changed_of_ne hoption]

theorem value?_withoutKey {option : OptionName} (hoption : option ≠ .key) (line : Line) :
    line.withoutKey.value? option = line.value? option := by
  rw [withoutKey_eq_changed, value?_changed_of_ne hoption]

theorem value?_key_withoutKey (line : Line) :
    line.withoutKey.value? .key = (line.value? .key).map concealed := by
  rw [withoutKey_eq_changed, value?_changed]

end Line

/-! ## Commands -/

/-- What is given for logging in, with the key concealed. -/
def LoginOptions.withoutKey (login : LoginOptions) : LoginOptions :=
  { login with key := login.key.map concealed }

/-- A command with its key concealed. -/
def withoutKey (command : Command) : Command :=
  { command with login := command.login.withoutKey }

/-- What was read, with the key concealed. -/
def Parsed.withoutKey : Parsed Command → Parsed Command
  | .ready command => .ready command.withoutKey
  | parsed => parsed

/-- What a line asks for has nothing to do with its keys. -/
theorem action?_withoutKey (toInt? : String → Option Int) (line : Line) (name : CommandName) :
    action? toInt? line.withoutKey name = action? toInt? line name := by
  cases name with
  | check | deleteKey => rfl
  | createKey | authorizeDownload =>
      simp (disch := decide) only [action?, Line.values_withoutKey, Line.value?_withoutKey]
      rfl

theorem loginOptions_withoutKey (line : Line) :
    loginOptions line.withoutKey = (loginOptions line).withoutKey := by
  simp (disch := decide) only [loginOptions, LoginOptions.withoutKey, Line.value?_withoutKey,
    Line.value?_key_withoutKey]

/-- What a line comes to, as far as it says nothing of its keys. -/
theorem ready_withoutKey (toInt? : String → Option Int) (line : Line) (name : CommandName) :
    (Parsed.ofOption ((action? toInt? line name).map fun action =>
      (⟨action, loginOptions line⟩ : Command))).withoutKey =
      Parsed.ofOption ((action? toInt? line.withoutKey name).map fun action =>
        ⟨action, loginOptions line.withoutKey⟩) := by
  rw [action?_withoutKey, loginOptions_withoutKey]
  cases action? toInt? line name <;> rfl

/-! ## Replacing keys -/

/-- A word behind which options go on. -/
def Word.IsWhole : Word → Prop
  | .ending | .opening _ _ => False
  | _ => True

/-- Words behind the name of a command, in which nothing but keys has been
replaced, by keys that can be used as well. -/
inductive RestRekeyed (name : CommandName) : List String → List String → Prop where
  | same (words : List String) : RestRekeyed name words words
  /-- A key in a word of its own. -/
  | next {key key' : String} {words words' : List String} (hkey : key ≠ "") (hkey' : key' ≠ "")
      (hrest : RestRekeyed name words words') :
      RestRekeyed name ("--key" :: key :: words) ("--key" :: key' :: words')
  /-- A key behind an equals sign. -/
  | joined {key key' : String} {words words' : List String} (hkey : key ≠ "") (hkey' : key' ≠ "")
      (hrest : RestRekeyed name words words') :
      RestRekeyed name (("--key=" ++ key) :: words) (("--key=" ++ key') :: words')
  | whole {word : String} {words words' : List String}
      (hword : (readWord name.options word).IsWhole) (hrest : RestRekeyed name words words') :
      RestRekeyed name (word :: words) (word :: words')
  | valued {word value : String} {words words' : List String} {help : Bool} {option : OptionName}
      (hword : readWord name.options word = .opening help option)
      (hrest : RestRekeyed name words words') :
      RestRekeyed name (word :: value :: words) (word :: value :: words')

theorem readWord_key (name : CommandName) :
    readWord name.options "--key" = .opening false .key := by
  cases name <;> rfl

theorem readWord_key_value (name : CommandName) (key : String) :
    readWord name.options ("--key=" ++ key) = .setting false .key key := by
  have hfind : name.options.find? (fun option => option.long = "--key") = some .key := by
    cases name <;> rfl
  have hlist : ("--key=" ++ key).toList =
      '-' :: '-' :: 'k' :: 'e' :: 'y' :: '=' :: key.toList := by
    rw [String.toList_append]
    rfl
  have hname : String.ofList (("--key=" ++ key).toList.takeWhile (· ≠ '=')) = "--key" := by
    rw [hlist]
    rfl
  have hvalue : (("--key=" ++ key).toList.dropWhile (· ≠ '=')).drop 1 = key.toList := by
    rw [hlist]
    rfl
  have hvalued : ("--key=" ++ key).toList.contains '=' = true := by
    rw [hlist]
    rfl
  rw [readWord]
  simp only [hname, hvalue, hvalued, hfind, if_true, String.ofList_toList]
  rw [hlist]
  rfl

namespace Line

variable {options : List OptionName} {word value : String} {words : List String} {help : Bool}
  {option : OptionName}

/-- A line with one more option in front. -/
def withOption (help : Bool) (entry : OptionName × String) (line : Line) : Line :=
  (line.withSetting entry.1 entry.2).withHelp help

theorem read_of_opening (hword : readWord options word = .opening help option) :
    Line.read options true (word :: value :: words) =
      (Line.read options true words).map (withOption help (option, value)) := by
  rw [Line.read, hword]
  rfl

theorem read_of_setting (hword : readWord options word = .setting help option value) :
    Line.read options true (word :: words) =
      (Line.read options true words).map (withOption help (option, value)) := by
  rw [Line.read, hword]
  rfl

theorem withoutKey_withOption (help : Bool) (entry : OptionName × String) (line : Line) :
    (line.withOption help entry).withoutKey =
      line.withoutKey.withOption help (concealEntry entry) := rfl

/-- Lines that are the same but for the keys stay so under steps that are. -/
theorem map_withoutKey_congr {step step' conceal : Line → Line} {read read' : Option Line}
    (hstep : ∀ line, (step line).withoutKey = conceal line.withoutKey)
    (hstep' : ∀ line, (step' line).withoutKey = conceal line.withoutKey)
    (hread : read.map withoutKey = read'.map withoutKey) :
    (read.map step).map withoutKey = (read'.map step').map withoutKey := by
  calc
    (read.map step).map withoutKey = (read.map withoutKey).map conceal := by
        rw [Option.map_map, Option.map_map]
        exact congrArg (fun change => read.map change) (funext hstep)
    _ = (read'.map withoutKey).map conceal := by rw [hread]
    _ = (read'.map step').map withoutKey := by
        rw [Option.map_map, Option.map_map]
        exact congrArg (fun change => read'.map change) (funext hstep').symm

/-- A word behind which options go on is wrong, or adds to the line. -/
theorem read_of_whole (hword : (readWord options word).IsWhole) :
    (∀ words, Line.read options true (word :: words) = none) ∨
      ∃ step conceal : Line → Line, (∀ line, (step line).withoutKey = conceal line.withoutKey) ∧
        ∀ words, Line.read options true (word :: words) =
          (Line.read options true words).map step := by
  simp only [Line.read]
  cases hkind : readWord options word with
  | unknown => exact .inl fun _ => rfl
  | argument => exact .inr ⟨withArgument word, withArgument word, fun _ => rfl, fun _ => rfl⟩
  | help => exact .inr ⟨withHelp true, withHelp true, fun _ => rfl, fun _ => rfl⟩
  | setting help option value =>
      exact .inr ⟨_, _, withoutKey_withOption help (option, value), fun _ => rfl⟩
  | ending | opening help option =>
      rw [hkind] at hword
      exact hword.elim

end Line

variable {name : CommandName} {words words' : List String}

/-- Words of which keys have been replaced make lines that are the same but for
the keys. -/
theorem RestRekeyed.read (hrest : RestRekeyed name words words') :
    (Line.read name.options true words).map Line.withoutKey =
      (Line.read name.options true words').map Line.withoutKey := by
  have hkeys : ∀ {key key' : String}, key ≠ "" → key' ≠ "" →
      Line.concealEntry (.key, key) = Line.concealEntry (.key, key') := by
    intro key key' hkey hkey'
    exact congrArg (Prod.mk _) (concealed_eq_of_ne hkey hkey')
  induction hrest with
  | same => rfl
  | next hkey hkey' _ ih =>
      rw [Line.read_of_opening (readWord_key name), Line.read_of_opening (readWord_key name)]
      refine Line.map_withoutKey_congr (Line.withoutKey_withOption _ _) ?_ ih
      rw [hkeys hkey hkey']
      exact Line.withoutKey_withOption _ _
  | joined hkey hkey' _ ih =>
      rw [Line.read_of_setting (readWord_key_value name _),
        Line.read_of_setting (readWord_key_value name _)]
      refine Line.map_withoutKey_congr (Line.withoutKey_withOption _ _) ?_ ih
      rw [hkeys hkey hkey']
      exact Line.withoutKey_withOption _ _
  | whole hword _ ih =>
      rcases Line.read_of_whole hword with hnone | ⟨step, conceal, hstep, hread⟩
      · rw [hnone, hnone]
      · rw [hread, hread]
        exact Line.map_withoutKey_congr hstep hstep ih
  | valued hword _ ih =>
      rw [Line.read_of_opening hword, Line.read_of_opening hword]
      exact Line.map_withoutKey_congr (Line.withoutKey_withOption _ _)
        (Line.withoutKey_withOption _ _) ih

/-- A command is read the same but for the key. -/
theorem RestRekeyed.readCommand (toInt? : String → Option Int)
    (hrest : RestRekeyed name words words') :
    (readCommand toInt? name words).withoutKey = (readCommand toInt? name words').withoutKey := by
  have hread := hrest.read
  unfold Command.readCommand
  cases hline : Line.read name.options true words with
  | none =>
      rw [hline, eq_comm] at hread
      rw [Option.map_eq_none_iff.mp hread]
  | some line =>
      rw [hline, eq_comm] at hread
      obtain ⟨line', hline', hsame⟩ := Option.map_eq_some_iff.mp hread
      have hhelp : line'.help = line.help := (Line.mk.inj hsame).1
      rw [hline']
      dsimp only
      rw [hhelp]
      split
      · rfl
      · rw [ready_withoutKey, ready_withoutKey, hsame]

/-- Words lead to a command, behind the name of which nothing but keys has been
replaced. -/
inductive Rekeyed (name : CommandName) : List String → List String → Prop where
  | behind {group : Group} {words words' behind behind' rest rest' : List String}
      (hgroup : Leads Group.ofWord? words group behind)
      (hgroup' : Leads Group.ofWord? words' group behind')
      (hname : Leads (CommandName.ofWord? group) behind name rest)
      (hname' : Leads (CommandName.ofWord? group) behind' name rest')
      (hrest : RestRekeyed name rest rest') : Rekeyed name words words'

theorem readWord_of_group {word : String} {group : Group}
    (hword : Group.ofWord? word = some group) : readWord [] word = .argument := by
  unfold Group.ofWord? at hword
  split at hword
  · rfl
  · rfl
  · rfl
  · exact nomatch hword

theorem readWord_of_command {group : Group} {word : String}
    (hword : CommandName.ofWord? group word = some name) : readWord [] word = .argument := by
  unfold CommandName.ofWord? at hword
  split at hword
  · rfl
  · rfl
  · rfl
  · rfl
  · exact nomatch hword

/-- Names that look like no option are read as what they name. -/
theorem readChoice_of_leads {α : Type} {choice? : String → Option α} {rest : List String}
    {value : α} (hwords : ∀ word, choice? word = some value → readWord [] word = .argument)
    (hleads : Leads choice? words value rest) :
    readChoice choice? words = .ready (value, rest) := by
  obtain ⟨word, hvalue, hspelling⟩ := hleads
  have hread : Line.read [] false words = some (Line.plain (word :: rest)) := by
    rcases hspelling with rfl | rfl
    · rw [Line.read, hwords word hvalue]
      rfl
    · rw [Line.read]
      rfl
  have hsome : words.isEmpty = false := by
    rcases hspelling with rfl | rfl
    · rfl
    · rfl
  simp only [readChoice, hsome, hread, Line.plain, hvalue, Bool.false_eq_true, if_false]

theorem read_of_leads {toInt? : String → Option Int} {group : Group} {behind rest : List String}
    (hgroup : Leads Group.ofWord? words group behind)
    (hname : Leads (CommandName.ofWord? group) behind name rest) :
    Command.read toInt? words = readCommand toInt? name rest := by
  rw [Command.read, readChoice_of_leads (fun _ => readWord_of_group) hgroup]
  dsimp only
  rw [readChoice_of_leads (fun _ => readWord_of_command) hname]

/-- Command lines on which nothing but keys has been replaced are read the same
but for the key. -/
theorem Rekeyed.read (toInt? : String → Option Int) (hwords : Rekeyed name words words') :
    (Command.read toInt? words).withoutKey = (Command.read toInt? words').withoutKey := by
  cases hwords with
  | behind hgroup hgroup' hname hname' hrest =>
      rw [read_of_leads hgroup hname, read_of_leads hgroup' hname',
        hrest.readCommand toInt?]

end Command

end BucketAccess
