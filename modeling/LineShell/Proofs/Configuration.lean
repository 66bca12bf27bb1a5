/-
This file proves that the command line adds settings to a session and nothing else. The settings are
taken from arguments before variables before defaults, each by its own rule about empty texts. If
they make no sense, nothing has been touched yet; otherwise the session is the one that is held with
the chosen prompt. How much is written down about it, and where, makes no difference to it, not even
if the choice is made by variables that the session goes on with.
-/

import LineShell.CommandLine.Run
import LineShell.Proofs.Lookup
import LineShell.Proofs.Variables

namespace LineShell

/-! ### Which setting is chosen -/

namespace Settings

/-- A text that was given and counts. An empty text counts where the setting may be empty. -/
def Counts (mayBeEmpty : Bool) (given : Option Text) (text : Text) : Prop :=
  given = some text ∧ (mayBeEmpty ∨ text ≠ [])

/-- What is chosen for a setting: the argument if it counts, else the inherited value if that
counts, else nothing. Whether an empty text counts is told for each of the two. -/
inductive Precedence (emptyArgument emptyInherited : Bool) (argument inherited : Option Text) :
    Option Text → Prop
  | argument {text : Text} : Counts emptyArgument argument text →
      Precedence emptyArgument emptyInherited argument inherited (some text)
  | inherited {text : Text} : (∀ other, ¬ Counts emptyArgument argument other) →
      Counts emptyInherited inherited text →
      Precedence emptyArgument emptyInherited argument inherited (some text)
  | neither : (∀ other, ¬ Counts emptyArgument argument other) →
      (∀ other, ¬ Counts emptyInherited inherited other) →
      Precedence emptyArgument emptyInherited argument inherited none

variable {emptyArgument emptyInherited mayBeEmpty : Bool} {argument inherited given : Option Text}

/-- A text that counts is kept. -/
theorem counts_iff {text : Text} : Counts mayBeEmpty given text ↔
    given.filter (fun text => mayBeEmpty || !text.isEmpty) = some text := by
  simp [Counts, Option.filter_eq_some_iff]

theorem uncounted_iff : (∀ text, ¬ Counts mayBeEmpty given text) ↔
    given.filter (fun text => mayBeEmpty || !text.isEmpty) = none := by
  simp only [counts_iff, Option.eq_none_iff_forall_ne_some, ne_eq]

/-- The first text that is kept is chosen. -/
theorem precedence_iff {chosen : Option Text} :
    Precedence emptyArgument emptyInherited argument inherited chosen ↔
      chosen = (argument.filter fun text => emptyArgument || !text.isEmpty).or
        (inherited.filter fun text => emptyInherited || !text.isEmpty) := by
  constructor
  · intro precedence
    cases precedence with
    | argument counts =>
      rw [counts_iff.mp counts]
      rfl
    | inherited passed counts =>
      rw [uncounted_iff.mp passed, counts_iff.mp counts]
      rfl
    | neither passed absent =>
      rw [uncounted_iff.mp passed, uncounted_iff.mp absent]
      rfl
  · rintro rfl
    cases first : argument.filter fun text => emptyArgument || !text.isEmpty with
    | some text => exact .argument (counts_iff.mpr first)
    | none =>
      have passed := uncounted_iff.mpr first
      cases second : inherited.filter fun text => emptyInherited || !text.isEmpty with
      | some text => exact .inherited passed (counts_iff.mpr second)
      | none => exact .neither passed (uncounted_iff.mpr second)

/-- The variables that settings are taken from. -/
def sources : List Text := [promptVariable, levelVariable, journalVariable]

end Settings

/-- The text is the name of the level, but for blanks around it and the case of its letters. -/
def Level.NamedBy (text : Text) (level : Level) : Prop :=
  Text.upperCase (Text.trim text) = Text.of level.name

theorem Level.ofText_eq_none_iff {text : Text} :
    ofText text = none ↔ ∀ level : Level, ¬ level.NamedBy text := by
  simp only [ofText, List.find?_eq_none, decide_eq_true_eq, NamedBy]
  exact ⟨fun unnamed level same => unnamed level (mem_all level) same.symm,
    fun unnamed level _ same => unnamed level same.symm⟩

namespace CommandLine

/-- What a command line and the variables choose: a prompt, unless the prompt was given without a
text, the name of a level, and perhaps a journal file. -/
structure Selected (wishes : Arguments.Wishes) (environment : Environment) (prompt : Option Text)
    (name : Text) (file : Option Text) : Prop where
  prompt : if wishes.promptless then prompt = none else
    ∃ chosen, Settings.Precedence true true wishes.choices.prompt
      (environment Settings.promptVariable) chosen ∧ prompt = some (chosen.getD (Text.of "$ "))
  level : ∃ chosen, Settings.Precedence false true wishes.choices.level
    (environment Settings.levelVariable) chosen ∧ name = chosen.getD (Text.of "WARNING")
  journal : Settings.Precedence false false wishes.choices.journal
    (environment Settings.journalVariable) file

/-- The surroundings open the file of this name, under its absolute path. -/
def Surroundings.Opens (surroundings : Surroundings) (world : World) (file : Text) : Prop :=
  ∃ path, world.absoluteForm file = .ok path ∧ surroundings.openAtEnd world path = .ok ()

/-- The file of this name has no absolute path, or the surroundings refuse to open it there. -/
def Surroundings.Refuses (surroundings : Surroundings) (world : World) (file : Text)
    (failure : Failure) : Prop :=
  world.absoluteForm file = .error failure ∨
  ∃ path, world.absoluteForm file = .ok path ∧ surroundings.openAtEnd world path = .error failure

/-- The name is that of a level, and the journal file can be opened if there is one. -/
def Sound (surroundings : Surroundings) (world : World) (name : Text) (journal : Option Text) :
    Prop :=
  (∃ level : Level, level.NamedBy name) ∧
  ∀ file, journal = some file → surroundings.Opens world file

/-- The run has not touched anything but the error output. -/
structure Report.Untouched (report : Report) (lines : List Text) (world : World) : Prop where
  output : report.output = []
  journals : report.journals = []
  unread : report.unread = lines
  world : report.world = world
  effects : report.effects = []

/-- The run comes to what the session comes to. -/
structure Report.Follows (report : Report) (session : Ending) : Prop where
  ending : report.ending = endOf session.result
  output : report.output = Terminal.output session.effects
  unread : report.unread = session.unread
  world : report.world = session.world
  effects : report.effects = session.effects

/-- Two runs that come to the same but for these variables, and for what they write down. -/
structure Report.SameBut (hidden : List Text) (first second : Report) : Prop where
  ending : first.ending = second.ending
  output : first.output = second.output
  unread : first.unread = second.unread
  world : first.world.SameBut hidden second.world
  effects : first.effects = second.effects

/-- The prompt that the session is held with. -/
def chosenPrompt (wishes : Arguments.Wishes) (environment : Environment) : Option Text :=
  if wishes.promptless then none else some (Settings.choosePrompt wishes.choices environment)

/-- Just one selection is made. -/
theorem selected_iff {wishes : Arguments.Wishes} {environment : Environment}
    {prompt : Option Text} {name : Text} {file : Option Text} :
    Selected wishes environment prompt name file ↔
      prompt = chosenPrompt wishes environment ∧
      name = Settings.chooseLevel wishes.choices environment ∧
      file = Settings.chooseJournal wishes.choices environment := by
  have kept (given : Option Text) : given.filter (fun text => true || !text.isEmpty) = given := by
    cases given <;> rfl
  have level : (∃ chosen, Settings.Precedence false true wishes.choices.level
      (environment Settings.levelVariable) chosen ∧ name = chosen.getD (Text.of "WARNING")) ↔
      name = Settings.chooseLevel wishes.choices environment := by
    simp only [Settings.precedence_iff, exists_eq_left, kept]
    rfl
  have shown : (if wishes.promptless then prompt = none else
      ∃ chosen, Settings.Precedence true true wishes.choices.prompt
        (environment Settings.promptVariable) chosen ∧
        prompt = some (chosen.getD (Text.of "$ "))) ↔ prompt = chosenPrompt wishes environment := by
    simp only [Settings.precedence_iff, exists_eq_left, kept, chosenPrompt]
    split <;> rfl
  rw [← level, ← shown]
  exact ⟨fun ⟨prompt, level, journal⟩ => ⟨prompt, level, Settings.precedence_iff.mp journal⟩,
    fun ⟨prompt, level, journal⟩ => ⟨prompt, level, Settings.precedence_iff.mpr journal⟩⟩

/-! ### What a run comes to -/

variable {surroundings : Surroundings} {wishes : Arguments.Wishes} {lines : List Text}
  {world : World}

theorem openJournal_ok_iff {file : Text} :
    (∃ path, openJournal surroundings world file = .ok path) ↔ surroundings.Opens world file := by
  unfold openJournal Surroundings.Opens
  rw [absolutePath_apply]
  cases world.absoluteForm file with
  | error failure => simp [bind, Except.bind]
  | ok path =>
    cases answer : surroundings.openAtEnd world path <;>
      simp [bind, Except.bind, pure, Except.pure, answer]

theorem openJournal_error_iff {file : Text} {failure : Failure} :
    openJournal surroundings world file = .error failure ↔
      surroundings.Refuses world file failure := by
  unfold openJournal Surroundings.Refuses
  rw [absolutePath_apply]
  cases world.absoluteForm file with
  | error failure => simp [bind, Except.bind]
  | ok path =>
    cases answer : surroundings.openAtEnd world path <;>
      simp [bind, Except.bind, pure, Except.pure, answer]

/-- Without a level nothing is started. -/
theorem start_of_unnamed
    (unnamed : ∀ level : Level,
      ¬ level.NamedBy (Settings.chooseLevel wishes.choices world.environment)) :
    (start surroundings wishes lines world).Untouched lines world ∧
    (start surroundings wishes lines world).ending = .returned 2 := by
  rw [start, Settings.choose, Level.ofText_eq_none_iff.mpr unnamed]
  exact ⟨⟨rfl, rfl, rfl, rfl, rfl⟩, rfl⟩

section

variable {level : Level}
  (named : Level.ofText (Settings.chooseLevel wishes.choices world.environment) = some level)

include named

/-- A journal file that cannot be opened breaks the run off before the session. -/
theorem start_of_refused {file : Text} {failure : Failure}
    (chosen : Settings.chooseJournal wishes.choices world.environment = some file)
    (refused : surroundings.Refuses world file failure) :
    (start surroundings wishes lines world).Untouched lines world ∧
    (start surroundings wishes lines world).ending = .broken failure := by
  simp only [start, Settings.choose, named, chosen, openJournal_error_iff.mpr refused]
  exact ⟨⟨rfl, rfl, rfl, rfl, rfl⟩, rfl⟩

/-- Otherwise the session is held. -/
theorem start_of_opened
    (opens : ∀ file, Settings.chooseJournal wishes.choices world.environment = some file →
      surroundings.Opens world file) :
    (start surroundings wishes lines world).Follows
      (hold (chosenPrompt wishes world.environment) lines world) := by
  cases chosen : Settings.chooseJournal wishes.choices world.environment with
  | none =>
    simp only [start, Settings.choose, named, chosen]
    exact ⟨rfl, rfl, rfl, rfl, rfl⟩
  | some file =>
    obtain ⟨path, success⟩ := openJournal_ok_iff.mpr (opens file chosen)
    simp only [start, Settings.choose, named, chosen, success]
    exact ⟨rfl, rfl, rfl, rfl, rfl⟩

end

theorem exists_ofText {text : Text} (named : ∃ level : Level, level.NamedBy text) :
    ∃ level, Level.ofText text = some level := by
  obtain ⟨level, named⟩ := named
  cases read : Level.ofText text with
  | none => exact absurd named (Level.ofText_eq_none_iff.mp read level)
  | some other => exact ⟨other, rfl⟩

theorem hold_sameBut {hidden : List Text} (only : hidden ⊆ Settings.sources)
    (prompt : Option Text) (lines : List Text) {first second : World}
    (same : first.SameBut hidden second) :
    (hold prompt lines first).SameBut hidden (hold prompt lines second) := by
  cases prompt with
  | none => exact ⟨rfl, rfl, same, rfl⟩
  | some prompt =>
    have search : pathVariable ∉ Settings.sources := by decide
    have home : homeVariable ∉ Settings.sources := by decide
    exact Session.run_sameBut (fun inside => search (only inside))
      (fun inside => home (only inside)) Console.terminal prompt lines same

/-- Runs that follow the same session come to the same. -/
theorem Report.Follows.sameBut {hidden : List Text} {first second : Report}
    {firstSession secondSession : Ending} (one : first.Follows firstSession)
    (other : second.Follows secondSession) (same : firstSession.SameBut hidden secondSession) :
    first.SameBut hidden second where
  ending := by rw [one.ending, other.ending, same.result]
  output := by rw [one.output, other.output, same.effects]
  unread := by rw [one.unread, other.unread, same.unread]
  world := by
    rw [one.world, other.world]
    exact same.world
  effects := by rw [one.effects, other.effects, same.effects]

theorem start_of_sound {prompt : Option Text} {name : Text} {journal : Option Text}
    (selected : Selected wishes world.environment prompt name journal)
    (sound : Sound surroundings world name journal) :
    (start surroundings wishes lines world).Follows (hold prompt lines world) := by
  obtain ⟨rfl, rfl, rfl⟩ := selected_iff.mp selected
  obtain ⟨_, named⟩ := exists_ofText sound.1
  exact start_of_opened named sound.2

/-- What a world that holds nothing but its root is found in: a file can be made in the root. -/
def bareSurroundings : Surroundings where
  openAtEnd _ path :=
    if path = Text.of "/log" then .ok () else .error (.refused (.known .noEntry (some path)))
  shown := id

/-- An empty prompt. -/
def plainArguments : List Text := [Text.of "--prompt", []]

/-- An empty prompt, a level in its own spelling and a journal file. -/
def frankArguments : List Text :=
  plainArguments ++ [Text.of "--log-level", Text.of " debug", Text.of "--log-file", Text.of "log"]

/-- A journal file in a directory that is not there. -/
def lostArguments : List Text := [Text.of "--log-file", Text.of "lost/log"]

end CommandLine

end LineShell
