import SessionMounts.Proofs.InProcess.Schedules
import SessionMounts.Proofs.Mounting.Outcome

/-!
Mounting in the process itself, end to end. Each entry has one operation, in the order of the entries;
all its questions are answered by a gate of its own, and its end is reported once. What the mounting
comes to is decided by the errors, and the failures stand in the order of the entries
(`EachOnce`). This is so for the requests served one by one, and for every other order of the steps of
the two threads (`every_entry_is_mounted_once`).
-/

namespace SessionMounts

open Auth (Challenge Reply Gate)

/-- The exchanges of a gate that is put challenges one after another. -/
def Auth.Gate.exchanges (ticket verbose : Bool) : Gate → List Challenge → List (Challenge × Reply)
  | _, [] => []
  | gate, challenge :: rest =>
    let answer := gate.answer ticket verbose challenge
    (challenge, answer.reply) :: exchanges ticket verbose answer.state rest

theorem Mounting.Request.exchanges_foldl_asked (ticket verbose : Bool) (request : Request)
    (challenges : List Challenge) :
    (challenges.foldl (asked ticket verbose) request).exchanges =
      request.exchanges ++ request.gate.exchanges ticket verbose challenges := by
  induction challenges generalizing request with
  | nil => exact (List.append_nil _).symm
  | cons challenge rest ih =>
      rw [List.foldl_cons, ih, asked, List.append_assoc]
      rfl

namespace InProcess

open Mounting

section Entries

variable (library : State) (entries : List Entry) (ticket verbose : Bool)

/-- The exchanges of the operation for the entry with a number: the questions of its course are put to
a gate of its own. -/
def exchangesAt (entry : Entry) (number : Nat) : List (Challenge × Reply) :=
  Gate.exchanges ticket verbose { anonymous := entry.anonymous }
    ((library.courseAt entries number).questions.map Question.challenge)

/-- The entries whose operations end with errors, with the failures that are made of these. -/
def failedEntries : Failures :=
  entries.zipIdx.filterMap fun (entry, number) =>
    (library.courseAt entries number).error.map fun error => (entry.location, error.failure)

/-- Each entry has been mounted once: the operations of the library, the requests of the run with what
was said and reported of them, and the ending of the run. -/
structure EachOnce (requests : List Request) (operations : List Operation) (ending : Ending) :
    Prop where
  operations : operations = library.operations ++ entries.zipIdx.map fun (entry, number) =>
    { location := entry.location
      flags := 0
      anonymous := entry.anonymous
      replies := (exchangesAt library entries ticket verbose entry number).map Prod.snd }
  requests : (requests.map fun request => (request.entry, request.exchanges, request.reports)) =
    entries.zipIdx.map fun (entry, number) =>
      (entry, exchangesAt library entries ticket verbose entry number,
        [(library.courseAt entries number).status])
  mounted : ending = .mounted ↔ ∀ number < entries.length, ∀ error,
    (library.courseAt entries number).error = some error → error.AlreadyMounted
  failed : ∀ failures, ending = .failed failures ↔ failures = failedEntries library entries ∧
    ∃ number < entries.length, ∃ error,
      (library.courseAt entries number).error = some error ∧ ¬error.AlreadyMounted

theorem served_eq (place : Entry × Nat) :
    let request := served library entries ticket verbose place
    request.entry = place.1 ∧
      request.exchanges = exchangesAt library entries ticket verbose place.1 place.2 := by
  obtain ⟨gate, exchanges, hasked⟩ := Request.foldl_asked ticket verbose (.fresh place.1)
    (challengesAt library entries place.2)
  constructor
  · exact congrArg Request.entry hasked
  · exact Request.exchanges_foldl_asked ticket verbose (.fresh place.1) _

/-- The failures in the order in which the operations end are those in the order of the entries. -/
theorem failuresIn_range :
    failuresIn entries (fun number => (library.courseAt entries number).status)
      (List.range entries.length) = failedEntries library entries := by
  let failed (place : Entry × Nat) : Option (String × Failure) :=
    (library.courseAt entries place.2).error.map fun error => (place.1.location, error.failure)
  have hplaces : (List.range entries.length).map (fun number => entries[number]?.map (·, number)) =
      entries.zipIdx.map some := by
    apply List.ext_getElem?
    intro number
    rw [List.getElem?_map, List.getElem?_map, List.getElem?_zipIdx, Nat.zero_add]
    by_cases hlt : number < entries.length
    · rw [List.getElem?_range hlt, Option.map_some, List.getElem?_eq_getElem hlt]
      rfl
    · rw [List.getElem?_eq_none (by rw [List.length_range]; omega),
        List.getElem?_eq_none (by omega)]
      rfl
  have hat (number : Nat) :
      failureAt? entries (fun number => (library.courseAt entries number).status) number =
        (entries[number]?.map (·, number)).bind failed := by
    rw [failureAt?, Option.bind_map]
    refine congrArg (entries[number]?.bind ·) (funext fun entry => ?_)
    simp only [Function.comp_apply, failed, Course.status]
    cases (library.courseAt entries number).error <;> rfl
  calc
    failuresIn entries (fun number => (library.courseAt entries number).status)
        (List.range entries.length)
      = ((List.range entries.length).map fun number => entries[number]?.map (·, number)).filterMap
          (·.bind failed) := by
      rw [List.filterMap_map]
      exact congrArg (fun f => (List.range entries.length).filterMap f) (funext hat)
    _ = failedEntries library entries := by
      rw [hplaces, List.filterMap_map]
      rfl

theorem onlyMountedBefore_iff :
    OnlyMountedBefore entries (fun number => (library.courseAt entries number).status) ↔
      ∀ number < entries.length, ∀ error,
        (library.courseAt entries number).error = some error → error.AlreadyMounted := by
  refine forall₂_congr fun number _ => ?_
  cases herror : (library.courseAt entries number).error with
  | none => simp [Course.status, herror]
  | some error =>
      simp [Course.status, herror, Error.failure, Error.kind_eq_alreadyMounted_iff]

end Entries

variable {library : State} {entries : List Entry} {ticket verbose : Bool}

/-- When all operations have ended and all completions have been taken, each entry has been mounted once. -/
theorem Loop.Stands.eachOnce {loop : Loop}
    (h : Stands library entries ticket verbose entries.length entries.length loop)
    (hsettled : loop.run.settlement.settled = true) :
    EachOnce library entries ticket verbose loop.run.docket.requests loop.library.operations
      loop.run.settlement.ending := by
  have hlength : loop.run.docket.requests.length = entries.length := by
    have hmade := h.accounted.length_entries
    have horder := h.tended.order.2
    omega
  have hplaces : entries.zipIdx.take entries.length = entries.zipIdx :=
    List.take_of_length_le (Nat.le_of_eq List.length_zipIdx)
  have hrequests : loop.run.docket.requests =
      entries.zipIdx.map (served library entries ticket verbose) := by
    rw [← hplaces, ← h.tended.finished, ← hlength, List.take_length]
  have hmounted : ((failedEntries library entries).all fun failed => failed.2.isAlreadyMounted) =
      true ↔ ∀ number < entries.length, ∀ error,
        (library.courseAt entries number).error = some error → error.AlreadyMounted := by
    rw [← failuresIn_range, all_failuresIn_iff (.refl _), onlyMountedBefore_iff]
  have hfailed : (∃ number < entries.length, ∃ error,
        (library.courseAt entries number).error = some error ∧ ¬error.AlreadyMounted) ↔
      ¬((failedEntries library entries).all fun failed => failed.2.isAlreadyMounted) = true := by
    rw [hmounted]
    push Not
    rfl
  rw [h.reaches.ending_eq hsettled, failuresIn_range]
  constructor
  · rw [h.tended.operations, hplaces]
    refine congrArg _ (List.map_congr_left fun place _ => ?_)
    rw [operationAt, (served_eq library entries ticket verbose place).2]
  · rw [hrequests, List.map_map]
    refine List.map_congr_left fun place _ => ?_
    obtain ⟨hentry, hexchanges⟩ := served_eq library entries ticket verbose place
    rw [Function.comp_apply, hentry, hexchanges]
    rfl
  · rw [← hmounted]
    split
    · exact iff_of_true rfl ‹_›
    · exact iff_of_false (by rintro ⟨⟩) ‹_›
  · intro failures
    rw [hfailed]
    split
    · exact iff_of_false (by rintro ⟨⟩) fun hsome => hsome.2 ‹_›
    · rw [Ending.failed.injEq, eq_comm, and_iff_left ‹_›]

theorem eachOnce_mount (library : State) (entries : List Entry) (ticket verbose : Bool) :
    let mounted := provider.mount ticket verbose library entries
    EachOnce library entries ticket verbose mounted.docket.requests mounted.state.operations
      mounted.ending := by
  by_cases hne : entries = []
  · subst hne
    refine ⟨(List.append_nil _).symm, rfl, iff_of_true rfl ?_, ?_⟩
    · rintro number ⟨⟩
    · refine fun failures => iff_of_false (by rintro ⟨⟩) ?_
      rintro ⟨-, number, ⟨⟩, -⟩
  · obtain ⟨last, ⟨actions, hactions⟩, hserving, hqueue, hlast, hstop, hdocket, hstate, hending⟩ :=
      Loop.reaches_mount ticket verbose library hne
    have hsound := (Loop.Sound.start library entries ticket verbose).steps hactions
    have hended := hsound.ended_of_quiet hserving hqueue hlast
    have hsettled := hstop.elim id hended.settled_of_empty
    intro mounted
    rw [← hdocket, ← hstate, ← hending]
    exact hended.eachOnce hsettled

/-- Mounting in the process itself starts one operation for each entry, in the order of the entries,
with anonymous credentials exactly if the entry is anonymous; the gate of the entry answers each
question of the operation once, and the operation is reported once. Mounting fails exactly if
some operation ends with an error that is not that of a location mounted before, and then hands over
the failures of all operations that end with errors, in the order of the entries. It does not matter
how the steps of the main thread and of the background thread follow on one another: whatever they
have done, they can go on until all is settled, and what is settled is the same. A challenge has
the texts of its question, and offers anonymous access by the fifth bit of the flags; a failure has
the message of its error and the name of its code, if it is an input or output error that has one. -/
theorem every_entry_is_mounted_once (library : State) (entries : List Entry)
    (ticket verbose : Bool) :
    let mounted := provider.mount ticket verbose library entries
    EachOnce library entries ticket verbose mounted.docket.requests mounted.state.operations
      mounted.ending ∧
    (∀ (actions : List Loop.Action) (loop : Loop),
      (Loop.start ticket library entries).steps? verbose actions = some loop →
      (∃ more last, loop.steps? verbose more = some last ∧ last.run.settlement.settled = true) ∧
      (loop.run.settlement.settled = true →
        EachOnce library entries ticket verbose loop.run.docket.requests loop.library.operations
          loop.run.settlement.ending)) ∧
    (∀ question : Question, question.challenge =
      { message := question.message.getD ""
        defaultUser := question.user.getD ""
        defaultDomain := question.domain.getD ""
        anonymousSupported := question.flags.testBit 4 }) ∧
    ∀ error : Error, error.failure.message = error.message ∧
      (error.Named → errorNames[error.code.toNat]? = some error.failure.kind) ∧
      (¬error.Named → error.failure.kind = Failure.failed) := by
  refine ⟨eachOnce_mount library entries ticket verbose, ?_, ?_, ?_⟩
  · intro actions loop hsteps
    have hsound := (Loop.Sound.start library entries ticket verbose).steps hsteps
    constructor
    · obtain ⟨last, ⟨more, hmore⟩, hsettled⟩ := hsound.exists_settled
      exact ⟨more, last, hmore, hsettled⟩
    · intro hsettled
      exact (hsound.ended_of_settled hsettled).eachOnce hsettled
  · intro question
    rw [Question.challenge, Question.offersAnonymous_eq]
  · intro error
    exact ⟨rfl, Error.kind_of_named, Error.kind_of_not_named⟩

/-- A library with two courses for one location. The error of the first is that of a location mounted
before; the error of the second has the same code in another domain. -/
def busyLibrary : State where
  courses := [("smb://h/a", [
    { questions := [{ flags := 16 }, { message := some "again", flags := -16 }, {}]
      error := some ⟨ioDomain, 17, "mounted"⟩ },
    { error := some ⟨"g-dbus-error-quark", 17, "no reply"⟩ }])]

/-- The background thread is at work on the first request while the others are made, and a completion
is taken while it is at work on the last. -/
def interleaved : List Loop.Action :=
  [.dispatch, .turn, .dispatch, .turn, .turn, .dispatch, .turn, .turn, .turn, .track, .turn, .turn,
    .turn, .track, .turn, .track]

/-- The anonymous entry accepts the first offer only, and a foreign error makes the mounting fail. -/
theorem interleaved_run_mounts_each_once :
    ∃ loop, (Loop.start false busyLibrary
        [⟨"smb://h/a", true⟩, ⟨"smb://h/b", false⟩, ⟨"smb://h/a", false⟩]).steps? true interleaved =
          some loop ∧
      loop.library.operations =
        [⟨"smb://h/a", 0, true, [.handled, .aborted, .aborted]⟩, ⟨"smb://h/b", 0, false, []⟩,
          ⟨"smb://h/a", 0, false, []⟩] ∧
      loop.run.settlement.ending = .failed
        [("smb://h/a", ⟨"already-mounted", "mounted"⟩), ("smb://h/a", ⟨"failed", "no reply"⟩)] := by
  have h := Option.some_get (show ((Loop.start false busyLibrary
    [⟨"smb://h/a", true⟩, ⟨"smb://h/b", false⟩, ⟨"smb://h/a", false⟩]).steps? true
      interleaved).isSome = true by decide +kernel)
  obtain ⟨-, hschedules, -⟩ := every_entry_is_mounted_once busyLibrary
    [⟨"smb://h/a", true⟩, ⟨"smb://h/b", false⟩, ⟨"smb://h/a", false⟩] false true
  have honce := (hschedules _ _ h.symm).2 (by decide +kernel)
  refine ⟨_, h.symm, honce.operations.trans (by decide +kernel), (honce.failed _).mpr ⟨?_, ?_⟩⟩
  · decide +kernel
  · refine ⟨2, by decide, ⟨"g-dbus-error-quark", 17, "no reply"⟩, by decide +kernel, ?_⟩
    rintro ⟨hdomain, -⟩
    exact absurd hdomain (by decide)

end InProcess

end SessionMounts
