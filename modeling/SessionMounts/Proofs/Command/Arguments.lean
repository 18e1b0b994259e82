import SessionMounts.Command.Run

/-!
What the reading of a command line leaves as it is. Reading goes the same way whether the switch that makes a
run verbose has been used or not, word by word (`Progress.next_congr`), so what it comes to differs in
nothing else; the switch in front of a command line is a case of this (`sameButVerbose_cons`). And a property
of the settings that no switch in use upsets holds of the arguments in the end (`Kept.parse`): in the late
edition of the parser there is always somebody to own the file (`owner_ne_nobody_of_late`).
-/

namespace SessionMounts.Command

def Settings.hushed (settings : Settings) : Settings :=
  { settings with verbose := false }

/-- The arguments without the switch that makes a run verbose. -/
def Arguments.hushed (arguments : Arguments) : Arguments :=
  { arguments with verbose := false }

def Progress.hushed (progress : Progress) : Progress :=
  { progress with settings := progress.settings.hushed }

/-- Both command lines are refused for the same reason, or have the same arguments, apart from the switch
that makes a run verbose. -/
def SameButVerbose (parser : ParserEdition) (words words' : List String) : Prop :=
  (Arguments.parse parser words').map Arguments.hushed =
    (Arguments.parse parser words).map Arguments.hushed

/-- Two outcomes that look alike are the same error, or values that look alike. -/
theorem alike_cases {ε α β : Type} {look : α → β} {first second : Except ε α}
    (h : first.map look = second.map look) :
    (∃ error, first = .error error ∧ second = .error error) ∨
      ∃ a b, first = .ok a ∧ second = .ok b ∧ look a = look b := by
  cases first with
  | error error =>
      cases second with
      | error other => exact .inl ⟨error, rfl, by rw [Except.error.inj h]⟩
      | ok b => cases h
  | ok a =>
      cases second with
      | error error => cases h
      | ok b => exact .inr ⟨a, b, rfl, rfl, Except.ok.inj h⟩

section Settings

variable (parser : ParserEdition) {settings settings' : Settings}

theorem Settings.withhold_congr (h : settings'.hushed = settings.hushed) (setting : Setting) :
    (settings'.withhold setting).hushed = (settings.withhold setting).hushed := by
  obtain ⟨provider, writeFrom, owner, verbose⟩ := settings
  obtain ⟨_, _, _, verbose'⟩ := settings'
  cases h
  cases setting <;> rfl

theorem Settings.set_congr (h : settings'.hushed = settings.hushed) (setting : Setting)
    (text : String) :
    (settings'.set setting text).map hushed = (settings.set setting text).map hushed := by
  obtain ⟨provider, writeFrom, owner, verbose⟩ := settings
  obtain ⟨_, _, _, verbose'⟩ := settings'
  cases h
  unfold set
  cases setting with
  | provider => dsimp only; split <;> rfl
  | writeFrom => rfl
  | owner => dsimp only; split <;> rfl

theorem Use.apply_congr (h : settings'.hushed = settings.hushed) (use : Use) :
    (use.apply parser settings').map Settings.hushed =
      (use.apply parser settings).map Settings.hushed := by
  cases use with
  | flag flag =>
      cases flag with
      | help => rfl
      | verbose => exact congrArg Except.ok h
  | value setting text =>
      rw [apply, apply]
      split
      · exact congrArg Except.ok (Settings.withhold_congr h setting)
      · rcases alike_cases (Settings.set_congr h setting text) with
          ⟨misuse, hset', hset⟩ | ⟨next', next, hset', hset, hnext⟩
        · rw [hset', hset]
        · rw [hset', hset]
          exact congrArg Except.ok hnext

theorem applyAll_congr (h : settings'.hushed = settings.hushed) (uses : List Use) :
    (applyAll parser settings' uses).map Settings.hushed =
      (applyAll parser settings uses).map Settings.hushed := by
  induction uses generalizing settings settings' with
  | nil => exact congrArg Except.ok h
  | cons use rest ih =>
      rw [applyAll, applyAll]
      rcases alike_cases (use.apply_congr parser h) with
        ⟨stop, happly', happly⟩ | ⟨next', next, happly', happly, hnext⟩
      · rw [happly', happly]
      · rw [happly', happly]
        exact ih hnext

end Settings

namespace Progress

variable (parser : ParserEdition) {progress progress' : Progress}

theorem use_congr (h : progress'.hushed = progress.hushed) (uses : List Use) :
    (progress'.use parser uses).map hushed = (progress.use parser uses).map hushed := by
  obtain ⟨settings, mountsFile, justNamed, strays, waiting⟩ := progress
  obtain ⟨settings', _, _, _, _⟩ := progress'
  injection h with hsettings hmountsFile hjustNamed hstrays hwaiting
  subst hmountsFile hjustNamed hstrays hwaiting
  rw [use, use]
  rcases alike_cases (applyAll_congr parser hsettings uses) with
    ⟨stop, happly', happly⟩ | ⟨next', next, happly', happly, hnext⟩
  · rw [happly', happly]
  · rw [happly', happly]
    simp only [Except.map, hushed, hnext]

theorem hushed_plain (text : String) :
    (progress.plain text).hushed = progress.hushed.plain text := by
  simp only [plain, hushed]
  split <;> rfl

theorem hushed_terminate : progress.terminate.hushed = progress.hushed.terminate := by
  rw [terminate, terminate, apply_ite hushed]
  rfl

theorem useWord_congr (h : progress'.hushed = progress.hushed) (uses : Except Misuse Uses) :
    (progress'.useWord parser uses).map hushed = (progress.useWord parser uses).map hushed := by
  cases uses with
  | error misuse => rfl
  | ok uses =>
      rw [useWord, useWord]
      split
      · rename_i setting hwaiting
        exact congrArg (fun read : Progress => Except.ok { read with waiting := some (uses, setting) }) h
      · rcases alike_cases (use_congr parser h uses.uses) with
          ⟨stop, huse', huse⟩ | ⟨next', next, huse', huse, hnext⟩
        · rw [huse', huse]
        · rw [huse', huse]
          cases uses.stray with
          | none => exact congrArg Except.ok hnext
          | some text => exact congrArg (fun read : Progress => Except.ok (read.stray text)) hnext

/-- One more word changes what has been read in the same way, whether the run is verbose or not. -/
theorem next_congr (h : progress'.hushed = progress.hushed) (word : Word) :
    (progress'.next parser word).map hushed = (progress.next parser word).map hushed := by
  have hwaiting : progress'.waiting = progress.waiting := by
    change progress'.hushed.waiting = progress.hushed.waiting
    rw [h]
  unfold next
  rw [hwaiting]
  split
  · exact use_congr parser h _
  · rfl
  · apply congrArg Except.ok
    rw [hushed_plain, h, hushed_plain]
  · apply congrArg Except.ok
    rw [hushed_terminate, h, hushed_terminate]
  · exact congrArg (fun read : Progress => Except.ok (read.stray _)) h
  · exact useWord_congr parser h _

theorem finish_congr (h : progress'.hushed = progress.hushed) :
    progress'.finish.map Arguments.hushed = progress.finish.map Arguments.hushed := by
  obtain ⟨settings', mountsFile, justNamed, strays, waiting⟩ := progress'
  obtain ⟨settings, _, _, _, _⟩ := progress
  injection h with hsettings hmountsFile hjustNamed hstrays hwaiting
  subst hmountsFile hjustNamed hstrays hwaiting
  cases waiting with
  | some waiting => rfl
  | none =>
      cases mountsFile with
      | none => rfl
      | some mountsFile =>
          cases strays with
          | nil =>
              exact congrArg (fun settings => Except.ok (Arguments.mk settings mountsFile)) hsettings
          | cons stray strays => rfl

theorem read_congr (h : progress'.hushed = progress.hushed) (words : List Word) :
    (progress'.read parser words).map Arguments.hushed =
      (progress.read parser words).map Arguments.hushed := by
  induction words generalizing progress progress' with
  | nil => exact finish_congr h
  | cons word rest ih =>
      rw [read, read]
      rcases alike_cases (next_congr parser h word) with
        ⟨stop, hword', hword⟩ | ⟨next', next, hword', hword, hnext⟩
      · rw [hword', hword]
      · rw [hword', hword]
        exact ih hnext

end Progress

/-- The switch in front of a command line changes nothing but whether the run is verbose. -/
theorem sameButVerbose_cons (parser : ParserEdition) (words : List String) :
    SameButVerbose parser words ("-v" :: words) := by
  have hword : Word.ofText "-v" = .ok (.switch (.flag .verbose) .nothing) := rfl
  rw [SameButVerbose, Arguments.parse, Arguments.parse, Word.ofTexts, hword]
  cases Word.ofTexts words with
  | error misuse => rfl
  | ok rest =>
      let verbosely : Progress := { settings := { verbose := true } }
      have hread : verbosely.hushed = ({} : Progress).hushed := rfl
      exact Progress.read_congr parser hread rest

/-! ### What every switch in use keeps -/

/-- Whatever a switch in use does, the settings keep a property. -/
def Kept (parser : ParserEdition) (P : Settings → Prop) : Prop :=
  ∀ (use : Use) (settings next : Settings), use.apply parser settings = .ok next →
    P settings → P next

namespace Kept

variable {parser : ParserEdition} {P : Settings → Prop} {progress last : Progress}

theorem applyAll {settings final : Settings} {uses : List Use} (hkept : Kept parser P)
    (h : applyAll parser settings uses = .ok final) (hfirst : P settings) : P final := by
  induction uses generalizing settings with
  | nil =>
      cases h
      exact hfirst
  | cons use rest ih =>
      rw [Command.applyAll] at h
      cases hnext : use.apply parser settings with
      | error stop =>
          rw [hnext] at h
          cases h
      | ok next =>
          rw [hnext] at h
          exact ih h (hkept use settings next hnext hfirst)

theorem use {uses : List Use} (hkept : Kept parser P) (h : progress.use parser uses = .ok last)
    (hfirst : P progress.settings) : P last.settings := by
  rw [Progress.use] at h
  cases hall : Command.applyAll parser progress.settings uses with
  | error stop =>
      rw [hall] at h
      cases h
  | ok settings =>
      rw [hall] at h
      cases h
      exact hkept.applyAll hall hfirst

theorem useWord {uses : Except Misuse Uses} (hkept : Kept parser P)
    (h : progress.useWord parser uses = .ok last) (hfirst : P progress.settings) :
    P last.settings := by
  cases uses with
  | error misuse => cases h
  | ok uses =>
      rw [Progress.useWord] at h
      split at h
      · cases h
        exact hfirst
      · cases hused : progress.use parser uses.uses with
        | error stop =>
            rw [hused] at h
            cases h
        | ok next =>
            rw [hused] at h
            have hnext := hkept.use hused hfirst
            cases hstray : uses.stray with
            | none =>
                rw [hstray] at h
                cases h
                exact hnext
            | some text =>
                rw [hstray] at h
                cases h
                exact hnext

theorem next {word : Word} (hkept : Kept parser P) (h : progress.next parser word = .ok last)
    (hfirst : P progress.settings) : P last.settings := by
  unfold Progress.next at h
  split at h
  · exact hkept.use h hfirst
  · cases h
  · cases h
    unfold Progress.plain
    split <;> exact hfirst
  · cases h
    unfold Progress.terminate
    split <;> exact hfirst
  · cases h
    exact hfirst
  · exact hkept.useWord h hfirst

/-- What every switch in use keeps is kept by the reading of all words. -/
theorem read {words : List Word} {arguments : Arguments} (hkept : Kept parser P)
    (h : progress.read parser words = .ok arguments) (hfirst : P progress.settings) :
    P arguments.toSettings := by
  induction words generalizing progress with
  | nil =>
      rw [Progress.read, Progress.finish] at h
      split at h
      · cases h
      · cases h
      · cases h
        exact hfirst
      · cases h
  | cons word rest ih =>
      rw [Progress.read] at h
      cases hnext : progress.next parser word with
      | error stop =>
          rw [hnext] at h
          cases h
      | ok next =>
          rw [hnext] at h
          exact ih h (hkept.next hnext hfirst)

theorem parse {texts : List String} {arguments : Arguments} (hkept : Kept parser P)
    (h : Arguments.parse parser texts = .ok arguments) (hfirst : P {}) :
    P arguments.toSettings := by
  rw [Arguments.parse] at h
  cases hwords : Word.ofTexts texts with
  | error misuse =>
      rw [hwords] at h
      cases h
  | ok words =>
      rw [hwords] at h
      exact hkept.read h hfirst

end Kept

theorem Settings.owner_ne_nobody_of_set {settings next : Settings} {setting : Setting} {text : String}
    (h : settings.set setting text = .ok next) (howner : settings.owner ≠ .nobody) :
    next.owner ≠ .nobody := by
  unfold set at h
  cases setting with
  | provider =>
      dsimp only at h
      split at h
      · cases h
        exact howner
      · cases h
  | writeFrom =>
      cases h
      exact howner
  | owner =>
      dsimp only at h
      split at h
      · cases h
        exact Ownership.noConfusion
      · cases h

/-- The late edition takes no value away, so that there is somebody to own the file. -/
theorem kept_owner_ne_nobody : Kept .late fun settings => settings.owner ≠ .nobody := by
  intro use settings next h howner
  cases use with
  | flag flag =>
      cases flag with
      | help => cases h
      | verbose =>
          cases h
          exact howner
  | value setting text =>
      rw [Use.apply, withholds, if_neg Bool.false_ne_true] at h
      cases hset : settings.set setting text with
      | error misuse =>
          rw [hset] at h
          cases h
      | ok set =>
          rw [hset] at h
          cases h
          exact Settings.owner_ne_nobody_of_set hset howner

theorem owner_ne_nobody_of_late {texts : List String} {arguments : Arguments}
    (h : Arguments.parse .late texts = .ok arguments) : arguments.owner ≠ .nobody :=
  kept_owner_ne_nobody.parse h Ownership.noConfusion

end SessionMounts.Command
