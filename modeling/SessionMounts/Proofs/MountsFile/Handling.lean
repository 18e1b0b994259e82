import SessionMounts.MountsFile.Mount
import SessionMounts.Proofs.Mounting.Outcome
import SessionMounts.Proofs.Utf8.Validity

/-!
Dealing with a mounts file. It passes three gates before anything is mounted: it has to be a text,
the text has to list an entry, and there has to be a provider to mount with. A file that fails at a gate
leaves everybody alone. Behind the last gate the entries are mounted with a new instance of the
provider; if that serves them all, it is closed after the last completion has been taken
(`mountOnce_of_serves`).
-/

namespace SessionMounts

/-! ### Which provider is chosen

The command line goes before the environment, and a name in the environment that is empty counts as none
(`requestedName`). Such a name stands for a provider that can be had, or for none, and selecting a provider
tells the two apart. -/

namespace Mounting

variable {σ : Type}

/-- The name of the provider that is asked for: the one on the command line, else one that the
environment names by a value that is not empty, else the one that mounts in the process itself. -/
def requestedName (given : Option Backend) (environment : Environment) : String :=
  match given with
  | some backend => backend.name
  | none =>
    match environment.provider with
    | none => "gio"
    | some name => if name = "" then "gio" else name

theorem chosenName_eq (given : Option Backend) (environment : Environment) :
    Backends.chosenName (given.map Backend.name) environment = requestedName given environment := by
  cases given with
  | some backend => cases backend <;> rfl
  | none =>
      rw [requestedName, Backends.chosenName, Environment.preferredProvider]
      cases environment.provider with
      | none => rfl
      | some name =>
          by_cases hname : name = ""
          · subst hname
            rfl
          · simp [Option.filter, hname]

/-- A name stands for a provider that can be had. -/
def Backends.Named (backends : Backends σ) (name : String) (provider : Provider σ) : Prop :=
  name = "gio" ∧ backends.gio = some provider ∨ name = "cli" ∧ backends.cli = provider

/-- A name stands for no provider, or for the one whose library is missing. -/
def Backends.Missing (backends : Backends σ) (name : String) : Prop :=
  (name ≠ "gio" ∧ name ≠ "cli") ∨ (name = "gio" ∧ backends.gio = none)

namespace Backends

variable {backends : Backends σ} {given : Option Backend} {environment : Environment}

theorem missing_or_named (backends : Backends σ) (name : String) :
    backends.Missing name ∨ ∃ provider, backends.Named name provider := by
  by_cases hgio : name = "gio"
  · cases hlibrary : backends.gio with
    | none => exact .inl (.inr ⟨hgio, hlibrary⟩)
    | some provider => exact .inr ⟨provider, .inl ⟨hgio, hlibrary⟩⟩
  · by_cases hcli : name = "cli"
    · exact .inr ⟨backends.cli, .inr ⟨hcli, rfl⟩⟩
    · exact .inl (.inl ⟨hgio, hcli⟩)

theorem not_missing {name : String} {provider : Provider σ} (h : backends.Named name provider) :
    ¬backends.Missing name := by
  rintro (⟨hgio, hcli⟩ | ⟨hgio, hlibrary⟩)
  · rcases h with ⟨hname, -⟩ | ⟨hname, -⟩
    · exact hgio hname
    · exact hcli hname
  · rcases h with ⟨-, hfound⟩ | ⟨hname, -⟩
    · cases hlibrary.symm.trans hfound
    · exact absurd (hgio.symm.trans hname) (by decide)

theorem named_unique {name : String} {provider other : Provider σ}
    (h : backends.Named name provider) (hother : backends.Named name other) : provider = other := by
  rcases h with ⟨hname, hfound⟩ | ⟨hname, rfl⟩
  · rcases hother with ⟨-, hother⟩ | ⟨hother, -⟩
    · exact Option.some.inj (hfound.symm.trans hother)
    · exact absurd (hname.symm.trans hother) (by decide)
  · rcases hother with ⟨hother, -⟩ | ⟨-, rfl⟩
    · exact absurd (hname.symm.trans hother) (by decide)
    · rfl

theorem select_of_missing (h : backends.Missing (requestedName given environment)) :
    ∃ reason, backends.select (given.map Backend.name) environment = .error reason := by
  rw [select, chosenName_eq]
  rcases h with ⟨hgio, hcli⟩ | ⟨hgio, hlibrary⟩
  · have hnone : Backend.ofName? (requestedName given environment) = none :=
      (if_neg hgio).trans (if_neg hcli)
    refine ⟨.unsupported (requestedName given environment), ?_⟩
    simp only [hnone]
  · refine ⟨.missingLibrary, ?_⟩
    rw [hgio]
    simp only [Backend.ofName?, Backend.name, if_true, find, hlibrary]
    rfl

theorem select_of_named {provider : Provider σ}
    (h : backends.Named (requestedName given environment) provider) :
    ∃ backend, backends.select (given.map Backend.name) environment = .ok (backend, provider) := by
  rw [select, chosenName_eq]
  rcases h with ⟨hgio, hlibrary⟩ | ⟨hcli, rfl⟩
  · refine ⟨.gio, ?_⟩
    rw [hgio]
    simp only [Backend.ofName?, Backend.name, if_true, find, hlibrary]
    rfl
  · refine ⟨.cli, ?_⟩
    rw [hcli]
    rfl

end Backends

end Mounting

/-! ### The gates of a mounts file -/

namespace FileSystem

variable {files : FileSystem} {path : String} {text : List Char}

/-- A file gives no text: it cannot be read, or its bytes are no text in UTF-8. -/
def Unreadable (files : FileSystem) (path : String) : Prop :=
  (∃ error, files.read path = .error error) ∨
    ∃ bytes, files.read path = .ok bytes ∧ ∀ text, bytes ≠ Utf8.encode text

theorem unreadable_or_text (files : FileSystem) (path : String) :
    files.Unreadable path ∨ ∃ text, files.read path = .ok (Utf8.encode text) := by
  cases hread : files.read path with
  | error error => exact .inl (.inl ⟨error, hread⟩)
  | ok bytes =>
      by_cases htext : ∃ text, bytes = Utf8.encode text
      · obtain ⟨text, rfl⟩ := htext
        exact .inr ⟨text, rfl⟩
      · exact .inl (.inr ⟨bytes, hread, fun text heq => htext ⟨text, heq⟩⟩)

theorem not_unreadable (h : files.read path = .ok (Utf8.encode text)) : ¬files.Unreadable path := by
  rintro (⟨error, herror⟩ | ⟨bytes, hbytes, hno⟩)
  · cases h.symm.trans herror
  · cases h.symm.trans hbytes
    exact hno text rfl

theorem readText_of_text (h : files.read path = .ok (Utf8.encode text)) :
    files.readText path = .ok text := by
  simp only [readText, h, Utf8.decode_encode]

/-- Without a NUL character in the path, the system or the decoder says what is wrong. -/
theorem readText_of_unreadable (hpath : '\x00' ∉ path.toList) (h : files.Unreadable path) :
    ∃ error, files.readText path = .error error ∧ error ≠ .unreadable .nulInPath := by
  rcases h with ⟨error, herror⟩ | ⟨bytes, hbytes, hno⟩
  · refine ⟨.unreadable error, by simp only [readText, herror], ?_⟩
    rintro ⟨⟩
    rw [read, if_neg (by simpa using hpath)] at herror
    split at herror
    · cases herror
    · split at herror
      · split at herror <;> cases herror
      · cases herror
      · cases herror
  · cases hdecoded : Utf8.decode bytes with
    | error fault =>
        refine ⟨.undecodable fault, by simp only [readText, hbytes, hdecoded], ?_⟩
        rintro ⟨⟩
    | ok text => exact absurd (Utf8.decode_eq_ok_iff.mp hdecoded) (hno text)

end FileSystem

namespace MountsFile

open Mounting (Mounted Unavailable)

variable {σ : Type} {verbose : Bool} {files : FileSystem} {path : String} {state : σ}
  {mount : List Entry → Except Unavailable (Mounted σ)}

theorem read_of_text {text : List Char} (verbose : Bool)
    (h : files.read path = .ok (Utf8.encode text)) :
    (read verbose files path).1 = .ok (Entry.parse text) := by
  simp only [read, FileSystem.readText_of_text h]

theorem read_of_unreadable (verbose : Bool) (hpath : '\x00' ∉ path.toList)
    (h : files.Unreadable path) :
    ∃ reason, (read verbose files path).1 = .error (.unreadable path reason) := by
  obtain ⟨error, herror, hne⟩ := FileSystem.readText_of_unreadable hpath h
  rw [read, herror]
  cases error with
  | undecodable fault => exact ⟨_, rfl⟩
  | unreadable error =>
      cases error with
      | nulInPath => exact absurd rfl hne
      | system error => exact ⟨_, rfl⟩

/-- Nothing has been mounted, and nobody has been asked to. -/
def Handled.Idle (handled : Handled σ) (state : σ) : Prop :=
  handled.acts = [] ∧ handled.state = state

theorem handle_of_error {error : ReadError} (h : (read verbose files path).1 = .error error) :
    (handle verbose files path state mount).result = .error (.file error) ∧
      (handle verbose files path state mount).Idle state := by
  rcases hread : read verbose files path with ⟨result, log⟩
  rw [hread] at h
  cases h
  rw [handle, hread]
  exact ⟨rfl, rfl, rfl⟩

theorem handle_of_nothing (h : (read verbose files path).1 = .ok []) :
    (handle verbose files path state mount).result = .ok () ∧
      (handle verbose files path state mount).Idle state := by
  rcases hread : read verbose files path with ⟨result, log⟩
  rw [hread] at h
  cases h
  rw [handle, hread]
  exact ⟨rfl, rfl, rfl⟩

variable {entries : List Entry}

theorem handle_of_unavailable {reason : Unavailable}
    (h : (read verbose files path).1 = .ok entries) (hne : entries ≠ [])
    (hmount : mount entries = .error reason) :
    (handle verbose files path state mount).result = .error (.unavailable reason) ∧
      (handle verbose files path state mount).Idle state := by
  rcases hread : read verbose files path with ⟨result, log⟩
  rw [hread] at h
  cases h
  cases entries with
  | nil => exact absurd rfl hne
  | cons entry rest =>
      simp only [handle, hread, hmount]
      exact ⟨trivial, rfl, rfl⟩

theorem handle_of_mounted {mounted : Mounted σ}
    (h : (read verbose files path).1 = .ok entries) (hne : entries ≠ [])
    (hmount : mount entries = .ok mounted) :
    (handle verbose files path state mount).result = (conclude path mounted.ending).1 ∧
      (handle verbose files path state mount).acts = mounted.acts ∧
      (handle verbose files path state mount).state = mounted.state := by
  rcases hread : read verbose files path with ⟨result, log⟩
  rw [hread] at h
  cases h
  cases entries with
  | nil => exact absurd rfl hne
  | cons entry rest =>
      simp only [handle, hread, hmount]
      exact ⟨trivial, trivial, trivial⟩

section Selection

open Mounting

variable {backends : Backends σ} {given : Option Backend} {environment : Environment}

theorem mountSelecting_of_missing (h : (read verbose files path).1 = .ok entries)
    (hne : entries ≠ []) (hmissing : backends.Missing (requestedName given environment)) :
    let handled := mountSelecting backends (given.map Backend.name) environment verbose files path
      state
    ∃ reason, handled.result = .error (.unavailable reason) ∧ handled.Idle state := by
  obtain ⟨reason, hselect⟩ := Backends.select_of_missing hmissing
  refine ⟨reason, ?_⟩
  exact handle_of_unavailable h hne (by simp only [hselect])

theorem mountSelecting_of_named {provider : Provider σ}
    (h : (read verbose files path).1 = .ok entries) (hne : entries ≠ [])
    (hnamed : backends.Named (requestedName given environment) provider) :
    let handled := mountSelecting backends (given.map Backend.name) environment verbose files path
      state
    let mounted := mountOnce provider environment.ticket verbose state entries
    handled.result = (conclude path mounted.ending).1 ∧ handled.acts = mounted.acts ∧
      handled.state = mounted.state := by
  obtain ⟨backend, hselect⟩ := Backends.select_of_named hnamed
  exact handle_of_mounted h hne (by simp only [hselect])

/-- A provider that serves all entries is closed after the last completion has been taken. -/
theorem mountOnce_of_serves {provider : Provider σ} {ticket : Bool} {status : Nat → Status}
    {order : List Nat} (hne : entries ≠ [])
    (h : provider.Serves ticket verbose (provider.build state) entries status order) :
    let once := mountOnce provider ticket verbose state entries
    let mounted := provider.mount ticket verbose (provider.build state) entries
    once.ending = mounted.ending ∧
      once.acts = .built :: (entries.map (fun entry => .dispatched (Request.fresh entry)) ++
        (order.filterMap fun number => Run.announced? entries (number, status number)).map
          .consumed) ++ [.closed] ∧
      once.state = provider.close mounted.state := by
  intro once mounted
  have hacts := h.acts_eq hne
  have hsettled : mounted.ending ≠ .waiting := by
    rw [h.ending_eq hne]
    split <;> rintro ⟨⟩
  simp only [once, mountOnce]
  split
  · exact absurd ‹_› hsettled
  · exact ⟨rfl, by rw [← hacts], rfl⟩

/-- An instance of a provider that has refused a request is closed. -/
theorem mountOnce_of_refused {provider : Provider σ} {ticket verbose : Bool} {refusal : Refusal}
    (h : (provider.mount ticket verbose (provider.build state) entries).ending = .refused refusal) :
    let mounted := provider.mount ticket verbose (provider.build state) entries
    let once := mountOnce provider ticket verbose state entries
    once.ending = .refused refusal ∧ once.acts = .built :: mounted.acts ++ [.closed] ∧
      once.state = provider.close mounted.state ∧ once.docket = mounted.docket := by
  simp only [mountOnce, h]
  exact ⟨trivial, trivial, trivial, trivial⟩

end Selection

end MountsFile

/-! ### The ends of reading

Reading a mounts file comes to one of three ends (`Reading`): the entries of its text, a report that the
file is unreadable, or, for a path with a NUL character, an error of another kind. A file that gives no
text is dealt with before anybody is asked to mount anything (`handle_of_unreadable`). -/

section Unreadable

variable {files : FileSystem} {path : String}

/-- No file can be read under a path with a NUL character. -/
theorem FileSystem.read_of_nul (h : '\x00' ∈ path.toList) : files.read path = .error .nulInPath :=
  if_pos (by simpa using h)

namespace MountsFile

open Mounting (Mounted Unavailable)

/-- What reading a mounts file comes to. -/
inductive Reading (files : FileSystem) (path : String) : Except ReadError (List Entry) → Prop where
  | entries {text : List Char} (hread : files.read path = .ok (Utf8.encode text))
      (hplain : '\x00' ∉ path.toList) : Reading files path (.ok (Entry.parse text))
  | unreadable {reason : String} (hunreadable : files.Unreadable path)
      (hplain : '\x00' ∉ path.toList) : Reading files path (.error (.unreadable path reason))
  | nul (hunreadable : files.Unreadable path) (hnul : '\x00' ∈ path.toList) :
      Reading files path (.error .nulInPath)

theorem reading (verbose : Bool) (files : FileSystem) (path : String) :
    Reading files path (read verbose files path).1 := by
  by_cases hnul : '\x00' ∈ path.toList
  · have hread : files.read path = .error .nulInPath := FileSystem.read_of_nul hnul
    have herror : (read verbose files path).1 = .error .nulInPath := by
      simp only [read, FileSystem.readText, hread]
    rw [herror]
    exact .nul (.inl ⟨_, hread⟩) hnul
  · rcases files.unreadable_or_text path with hunreadable | ⟨text, htext⟩
    · obtain ⟨reason, hreason⟩ := read_of_unreadable verbose hnul hunreadable
      rw [hreason]
      exact .unreadable hunreadable hnul
    · rw [read_of_text verbose htext]
      exact .entries htext hnul

namespace Reading

variable {outcome : Except ReadError (List Entry)}

theorem eq_ok_iff (h : Reading files path outcome) (entries : List Entry) :
    outcome = .ok entries ↔
      ∃ text, files.read path = .ok (Utf8.encode text) ∧ entries = Entry.parse text := by
  cases h with
  | entries hread hplain =>
      constructor
      · rintro ⟨⟩
        exact ⟨_, hread, rfl⟩
      · rintro ⟨text, htext, rfl⟩
        rw [Utf8.encode_injective (Except.ok.inj (hread.symm.trans htext))]
  | unreadable hunreadable hplain =>
      refine iff_of_false (by rintro ⟨⟩) ?_
      rintro ⟨text, htext, -⟩
      exact FileSystem.not_unreadable htext hunreadable
  | nul hunreadable hnul =>
      refine iff_of_false (by rintro ⟨⟩) ?_
      rintro ⟨text, htext, -⟩
      exact FileSystem.not_unreadable htext hunreadable

/-- A NUL in the path is what keeps reading from an end that it is meant to have. -/
theorem proper_iff (h : Reading files path outcome) :
    ((∃ entries, outcome = .ok entries) ∨ ∃ reason, outcome = .error (.unreadable path reason)) ↔
      '\x00' ∉ path.toList := by
  cases h with
  | entries hread hplain => exact iff_of_true (.inl ⟨_, rfl⟩) hplain
  | unreadable hunreadable hplain => exact iff_of_true (.inr ⟨_, rfl⟩) hplain
  | nul hunreadable hnul =>
      refine iff_of_false ?_ (not_not_intro hnul)
      rintro (⟨entries, ⟨⟩⟩ | ⟨reason, ⟨⟩⟩)

theorem eq_error_nul_iff (h : Reading files path outcome) :
    outcome = .error .nulInPath ↔ '\x00' ∈ path.toList := by
  cases h with
  | entries hread hplain => exact iff_of_false (by rintro ⟨⟩) hplain
  | unreadable hunreadable hplain => exact iff_of_false (by rintro ⟨⟩) hplain
  | nul hunreadable hnul => exact iff_of_true rfl hnul

end Reading

variable {σ : Type}

/-- A file that gives no text is dealt with before anybody is asked to mount; it is reported to be unreadable
unless its path has a NUL character. -/
theorem handle_of_unreadable (verbose : Bool) (state : σ)
    (mount : List Entry → Except Unavailable (Mounted σ)) (h : files.Unreadable path) :
    let handled := handle verbose files path state mount
    handled.Idle state ∧
      ((∃ reason, handled.result = .error (.file (.unreadable path reason))) ↔
        '\x00' ∉ path.toList) ∧
      (handled.result = .error (.file .nulInPath) ↔ '\x00' ∈ path.toList) := by
  intro handled
  have hreading := reading verbose files path
  generalize houtcome : (read verbose files path).1 = outcome at hreading
  cases hreading with
  | entries hread hplain => exact absurd h (FileSystem.not_unreadable hread)
  | unreadable hunreadable hplain =>
      obtain ⟨hresult, hidle⟩ : handled.result = _ ∧ handled.Idle state := handle_of_error houtcome
      rw [hresult]
      exact ⟨hidle, iff_of_true ⟨_, rfl⟩ hplain, iff_of_false (by rintro ⟨⟩) hplain⟩
  | nul hunreadable hnul =>
      obtain ⟨hresult, hidle⟩ : handled.result = _ ∧ handled.Idle state := handle_of_error houtcome
      rw [hresult]
      refine ⟨hidle, iff_of_false ?_ (not_not_intro hnul), iff_of_true rfl hnul⟩
      rintro ⟨reason, ⟨⟩⟩

theorem mountSelecting_of_unreadable (backends : Mounting.Backends σ) (given : Option String)
    (environment : Environment) (verbose : Bool) (state : σ) (h : files.Unreadable path) :
    let handled := mountSelecting backends given environment verbose files path state
    handled.Idle state ∧
      ((∃ reason, handled.result = .error (.file (.unreadable path reason))) ↔
        '\x00' ∉ path.toList) ∧
      (handled.result = .error (.file .nulInPath) ↔ '\x00' ∈ path.toList) :=
  handle_of_unreadable verbose state _ h

end MountsFile

end Unreadable

end SessionMounts
