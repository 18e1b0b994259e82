import SessionMounts.Proofs.MountTool.Asking
import SessionMounts.Proofs.Mounting.Outcome
import SessionMounts.Proofs.Text.Lines

/-!
What counts as mounted before. A tool that fails prints the location and then its reason in one line,
and the words are looked for in the whole line. They hold no colon and neither begin nor end with a
blank, so they are found exactly if they stand in the reason or in the location
(`saysMounted_line_iff`): a location that holds them passes for a reason, and a failure to mount it
for a success (`location_passes_for_a_reason`).
-/

namespace SessionMounts.MountTool

open Mounting

theorem holds_iff {part text : List Char} : holds part text = true ↔ part <:+: text := by
  induction text with
  | nil => rw [holds, List.isEmpty_iff, List.infix_nil]
  | cons c rest ih =>
      rw [holds, Bool.or_eq_true, List.isPrefixOf_iff_prefix, ih, List.infix_cons_iff]

section Infix

variable {α : Type} {part front back : List α} {a : α}

/-- What holds no separator stands on one side of it. -/
theorem infix_append_cons_iff (ha : a ∉ part) :
    part <:+: front ++ a :: back ↔ part <:+: front ∨ part <:+: back := by
  constructor
  · intro h
    rcases List.infix_append_iff.mp h with hfront | hback | ⟨left, right, rfl, hleft, hright⟩
    · exact .inl hfront
    · rcases List.infix_cons_iff.mp hback with hstart | hback
      · rcases List.prefix_cons_iff.mp hstart with rfl | ⟨rest, rfl, -⟩
        · exact .inl List.nil_infix
        · exact absurd List.mem_cons_self ha
      · exact .inr hback
    · rcases List.prefix_cons_iff.mp hright with rfl | ⟨rest, rfl, -⟩
      · rw [List.append_nil]
        exact .inl hleft.isInfix
      · exact absurd (List.mem_append_right left List.mem_cons_self) ha
  · rintro (hfront | hback)
    · exact hfront.trans List.infix_append_left
    · exact (hback.trans (List.suffix_cons a back).isInfix).trans List.infix_append_right

/-- What ends with something that the back does not hold stands before the back. -/
theorem infix_append_iff_of_last (ha : a ∉ back) :
    part ++ [a] <:+: front ++ back ↔ part ++ [a] <:+: front := by
  constructor
  · intro h
    rcases List.infix_append_iff.mp h with hfront | hback | ⟨left, right, hsplit, hleft, hright⟩
    · exact hfront
    · exact absurd (hback.subset (List.mem_append_right part List.mem_cons_self)) ha
    · -- what reaches into the back ends there, and so does its last element
      rcases right.eq_nil_or_concat' with rfl | ⟨right, last, rfl⟩
      · rw [hsplit, List.append_nil]
        exact hleft.isInfix
      · rw [← List.append_assoc] at hsplit
        cases List.append_inj_right' hsplit rfl
        exact absurd (hright.subset (List.mem_append_right right List.mem_cons_self)) ha
  · exact fun hfront => hfront.trans List.infix_append_left

theorem infix_append_iff_of_head (ha : a ∉ front) :
    a :: part <:+: front ++ back ↔ a :: part <:+: back := by
  calc
    a :: part <:+: front ++ back ↔ part.reverse ++ [a] <:+: back.reverse ++ front.reverse := by
      rw [← List.reverse_append, ← List.reverse_cons, List.reverse_infix]
    _ ↔ part.reverse ++ [a] <:+: back.reverse :=
      infix_append_iff_of_last (mt List.mem_reverse.mp ha)
    _ ↔ a :: part <:+: back := by rw [← List.reverse_cons, List.reverse_infix]

end Infix

/-- A text says, whatever the case of its letters, that something was mounted before. -/
def SaysMounted (text : List Char) : Prop :=
  alreadyMountedPhrase <:+: text.map Char.toLower

instance (text : List Char) : Decidable (SaysMounted text) :=
  decidable_of_iff _ holds_iff

section SaysMounted

variable {front back text blanks : List Char}

theorem toLower_of_not_upper {c : Char} (h : c.toNat < 65 ∨ 90 < c.toNat) : c.toLower = c := by
  have hlower : ¬('A'.val ≤ c.val ∧ c.val ≤ 'Z'.val) := by
    rintro ⟨hA, hZ⟩
    have hfrom : 65 ≤ c.toNat := hA
    have hto : c.toNat ≤ 90 := hZ
    omega
  exact dif_neg hlower

theorem toLower_of_isBlank {c : Char} (h : Text.isBlank c = true) : c.toLower = c := by
  apply toLower_of_not_upper
  simp only [Text.isBlank, Bool.or_eq_true, Bool.and_eq_true, decide_eq_true_eq, beq_iff_eq] at h
  omega

theorem not_mem_map_toLower_of_blank {c : Char} (hblanks : Text.Blank blanks)
    (hc : Text.isBlank c = false) : c ∉ blanks.map Char.toLower := by
  intro hmem
  obtain ⟨b, hb, hlower⟩ := List.mem_map.mp hmem
  rw [toLower_of_isBlank (hblanks b hb)] at hlower
  rw [← hlower, hblanks b hb] at hc
  cases hc

theorem saysMounted_append_blank (h : Text.Blank blanks) :
    SaysMounted (text ++ blanks) ↔ SaysMounted text := by
  have hphrase : alreadyMountedPhrase = "already mounte".toList ++ ['d'] := rfl
  rw [SaysMounted, SaysMounted, List.map_append, hphrase]
  exact infix_append_iff_of_last (not_mem_map_toLower_of_blank h rfl)

theorem saysMounted_blank_append (h : Text.Blank blanks) :
    SaysMounted (blanks ++ text) ↔ SaysMounted text := by
  have hphrase : alreadyMountedPhrase = 'a' :: "lready mounted".toList := rfl
  rw [SaysMounted, SaysMounted, List.map_append, hphrase]
  exact infix_append_iff_of_head (not_mem_map_toLower_of_blank h rfl)

theorem saysMounted_trim : SaysMounted (Text.trim text) ↔ SaysMounted text := by
  obtain ⟨front, back, htext, hfront, hback⟩ := Text.exists_eq_trim text
  calc
    SaysMounted (Text.trim text) ↔ SaysMounted (front ++ Text.trim text) :=
      (saysMounted_blank_append hfront).symm
    _ ↔ SaysMounted (front ++ Text.trim text ++ back) := (saysMounted_append_blank hback).symm
    _ ↔ SaysMounted text := by rw [← htext]

theorem saysMounted_append_colon :
    SaysMounted (front ++ ':' :: back) ↔ SaysMounted front ∨ SaysMounted back := by
  rw [SaysMounted, List.map_append, List.map_cons]
  exact infix_append_cons_iff (by decide)

end SaysMounted

/-- The last line of an output that is not blank. -/
def LastWords (output line : List Char) : Prop :=
  ((Text.lines output).filter fun line => !(Text.trim line).isEmpty).getLast? = some line

instance (output line : List Char) : Decidable (LastWords output line) :=
  inferInstanceAs (Decidable (_ = _))

/-- The line in which a tool says why it could not mount a location. -/
def complaintLine (location reason : List Char) : List Char :=
  "gio: ".toList ++ location ++ ": ".toList ++ reason

/-- What a tool leaves behind when it has failed: its output, which ends with the location and the
reason, and its exit status. -/
structure Complaint where
  location : List Char
  reason : List Char
  output : List Char
  status : ExitStatus
  lastWords : LastWords output (complaintLine location reason)
  reasonable : ¬Text.Blank reason
  failing : status ≠ some 0

namespace Complaint

variable (complaint : Complaint)

def failure : Failure :=
  failureOf complaint.output complaint.status

/-- The words stand in the reason, or in the location. -/
def Passes : Prop :=
  SaysMounted complaint.reason ∨ SaysMounted complaint.location

instance : Decidable complaint.Passes :=
  inferInstanceAs (Decidable (_ ∨ _))

end Complaint

theorem saysMounted_line_iff {location reason : List Char} :
    SaysMounted (complaintLine location reason) ↔ SaysMounted reason ∨ SaysMounted location := by
  -- the colons part the line into the tool's name, the location and the reason
  have hspace (text : List Char) : SaysMounted ([' '] ++ text) ↔ SaysMounted text :=
    saysMounted_blank_append (by simp [Text.Blank, Text.isBlank])
  have hgio : ¬SaysMounted ['g', 'i', 'o'] := by decide
  have hline : complaintLine location reason =
      ['g', 'i', 'o'] ++ ':' :: ([' '] ++ location ++ ':' :: ([' '] ++ reason)) :=
    List.append_assoc ("gio: ".toList ++ location) ": ".toList reason
  calc
    SaysMounted (complaintLine location reason)
      ↔ SaysMounted ['g', 'i', 'o'] ∨ SaysMounted ([' '] ++ location ++ ':' :: ([' '] ++ reason)) := by
      rw [hline, saysMounted_append_colon]
    _ ↔ SaysMounted ([' '] ++ location) ∨ SaysMounted ([' '] ++ reason) := by
      rw [or_iff_right hgio, saysMounted_append_colon]
    _ ↔ SaysMounted reason ∨ SaysMounted location := by rw [hspace, hspace, or_comm]

theorem reason_of_lastWords {output line : List Char} (h : LastWords output line)
    (status : ExitStatus) : reason output status = Text.trim line := by
  have hlast : (reasonLines output).getLast? = some (Text.trim line) := by
    rw [reasonLines, List.filter_map, List.getLast?_map]
    exact congrArg (Option.map Text.trim) h
  unfold reason
  rw [hlast]

theorem kind_failureOf (output : List Char) (status : ExitStatus) :
    (failureOf output status).kind =
      if SaysMounted (reason output status) then Failure.alreadyMounted else Failure.failed := by
  rw [failureOf]
  exact if_congr holds_iff rfl rfl

namespace Complaint

theorem message_failure (complaint : Complaint) : complaint.failure.message =
    String.ofList (Text.trim (complaintLine complaint.location complaint.reason)) := by
  rw [failure, failureOf, reason_of_lastWords complaint.lastWords]

theorem kind_failure (complaint : Complaint) : complaint.failure.kind =
    if complaint.Passes then Failure.alreadyMounted else Failure.failed := by
  rw [failure, kind_failureOf, reason_of_lastWords complaint.lastWords]
  exact if_congr (saysMounted_trim.trans saysMounted_line_iff) rfl rfl

theorem isAlreadyMounted_iff (complaint : Complaint) :
    complaint.failure.isAlreadyMounted = true ↔ complaint.Passes := by
  rw [Failure.isAlreadyMounted, kind_failure, beq_iff_eq]
  by_cases h : complaint.Passes
  · exact iff_of_true (if_pos h) h
  · rw [if_neg h]
    exact iff_of_false (by decide) h

end Complaint

section Quiet

variable {command location : String} {state launched : State} {pieces : List (List UInt8)}
  {output : List Char} {status : ExitStatus} {last : Utf8.Pending}

theorem launch_workers (state : State) (workers : Nat) (command location : String) :
    ({ state with workers := workers }).launch command location =
      ((state.launch command location).1,
        { (state.launch command location).2 with workers := workers }) := by
  unfold State.launch
  cases state.children.take? location <;> rfl

/-- A child that asks for nothing is judged by its output and its exit status. -/
theorem value_mount_of_quiet
    (hlaunch : state.launch command location = (.running (pieces.map .bytes) status, launched))
    (hfeed : Utf8.feed .nothing 0 pieces.flatten = .ok (output, last))
    (hquiet : ¬Prompt.Occurs output) {τ : Type} (verbose : Bool) (party : Party τ) (heard : τ)
    (worker : Option String) (request : Nat) (anonymous : Bool) :
    ((mount command worker state request location anonymous).run verbose party heard).value.1 =
      .ok (statusOf output status) := by
  rw [run_mount_of_running verbose party command state heard hlaunch,
    Dialogue.ofOutput_of_not_occurs hfeed hquiet]
  rfl

/-- The mounting of one location by a child that asks for nothing. -/
theorem serves_quiet
    (hlaunch : state.launch command location = (.running (pieces.map .bytes) status, launched))
    (hfeed : Utf8.feed .nothing 0 pieces.flatten = .ok (output, last))
    (hquiet : ¬Prompt.Occurs output) (ticket verbose anonymous : Bool) :
    (provider command).Serves ticket verbose state [⟨location, anonymous⟩]
      (fun _ => statusOf output status) [0] where
  accepted := (dispatch_workers command ticket verbose [⟨location, anonymous⟩] state {}).1
  reported := by
    let opened := Docket.openRequest {} ⟨location, anonymous⟩
    have hworker : ({ state with workers := state.workers + 1 }).launch command location =
        (.running (pieces.map .bytes) status, { launched with workers := state.workers + 1 }) := by
      rw [launch_workers, hlaunch]
    have hvalue := value_mount_of_quiet hworker hfeed hquiet verbose (Docket.party ticket verbose)
      opened (some state.nextWorker) 0 anonymous
    have hreports : (serve command state 0 (.fresh ⟨location, anonymous⟩)).reports
        (Docket.party ticket verbose) opened = [(0, statusOf output status)] := by
      rw [serve, Conduct.reports_bind verbose, reports_mount]
      simp only [Request.fresh, hvalue]
      rfl
    have haccepted := (request_worker command ticket verbose state {} ⟨location, anonymous⟩).1
    rw [reports_provider, Provider.reportsOfDispatch, haccepted]
    exact (List.append_nil _).trans (congrArg opened.heard hreports)
  once := .refl _

end Quiet

namespace Complaint

variable (complaint : Complaint)

/-- The location that failed, with its failure. -/
def failed : String × Failure :=
  (String.ofList complaint.location, complaint.failure)

/-- Started for its location, the tool asks for nothing and leaves this complaint behind. -/
def Awaits (command : String) (state : State) : Prop :=
  ∃ (pieces : List (List UInt8)) (last : Utf8.Pending) (launched : State),
    Utf8.feed .nothing 0 pieces.flatten = .ok (complaint.output, last) ∧
    ¬Prompt.Occurs complaint.output ∧
    state.launch command (String.ofList complaint.location) =
      (.running (pieces.map .bytes) complaint.status, launched)

theorem statusOf_eq : statusOf complaint.output complaint.status = .failed complaint.failure :=
  if_neg complaint.failing

variable {complaint}

theorem Awaits.value_mount {command : String} {state : State} (h : complaint.Awaits command state)
    {τ : Type} (verbose : Bool) (party : Party τ) (heard : τ) (worker : Option String)
    (request : Nat) (anonymous : Bool) :
    ((mount command worker state request (String.ofList complaint.location) anonymous).run verbose
      party heard).value.1 = .ok (.failed complaint.failure) := by
  obtain ⟨pieces, last, launched, hfeed, hquiet, hlaunch⟩ := h
  rw [value_mount_of_quiet hlaunch hfeed hquiet, statusOf_eq]

theorem Awaits.ending {command : String} {state : State} (h : complaint.Awaits command state)
    (ticket verbose anonymous : Bool) :
    ((provider command).mount ticket verbose state
        [⟨String.ofList complaint.location, anonymous⟩]).ending =
      if complaint.Passes then .mounted else .failed [complaint.failed] := by
  obtain ⟨pieces, last, launched, hfeed, hquiet, hlaunch⟩ := h
  have hserves := serves_quiet hlaunch hfeed hquiet ticket verbose anonymous
  rw [statusOf_eq] at hserves
  rw [hserves.ending_eq (List.cons_ne_nil _ _)]
  refine if_congr ?_ rfl rfl
  rw [← complaint.isAlreadyMounted_iff]
  exact Bool.eq_iff_iff.mp (Bool.and_true _)

end Complaint

theorem allMounted_iff (complaints : List Complaint) :
    Verdict.ofFailures (complaints.map Complaint.failed) = .allMounted ↔
      ∀ complaint ∈ complaints, complaint.Passes := by
  have hall : ((complaints.map Complaint.failed).all fun failed => failed.2.isAlreadyMounted) =
      true ↔ ∀ complaint ∈ complaints, complaint.Passes := by
    rw [List.all_map, List.all_eq_true]
    exact forall₂_congr fun complaint _ => complaint.isAlreadyMounted_iff
  rw [Verdict.ofFailures, ← hall]
  split
  · exact iff_of_true rfl ‹_›
  · exact iff_of_false (by rintro ⟨⟩) ‹_›

/-- A failure is told by the tool's last words as a whole, so it counts as one of a location mounted
before exactly if the words stand in the reason or in the location itself. The reason alone decides
exactly if the location does not hold the words or the reason holds them too. Mounting a location
by a tool that asks for nothing ends with that failure, and a list of failures is passed over exactly
if each of them counts. -/
theorem location_passes_for_a_reason (complaints : List Complaint) :
    (∀ complaint ∈ complaints,
      let failure := complaint.failure
      let told := complaintLine complaint.location complaint.reason
      let counts := failure.kind = Failure.alreadyMounted
      failure.message = String.ofList (Text.trim told) ∧
      (counts ∨ failure.kind = Failure.failed) ∧
      (counts ↔ SaysMounted complaint.reason ∨ SaysMounted complaint.location) ∧
      ((counts ↔ SaysMounted complaint.reason) ↔
        (SaysMounted complaint.location → SaysMounted complaint.reason)) ∧
      ∀ (command : String) (state : State), complaint.Awaits command state →
        (∀ (τ : Type) (party : Party τ) (verbose : Bool) (heard : τ) (worker : Option String)
            (request : Nat) (anonymous : Bool),
          ((mount command worker state request (String.ofList complaint.location) anonymous).run
            verbose party heard).value.1 = .ok (.failed failure)) ∧
        ∀ ticket verbose anonymous : Bool,
          ((provider command).mount ticket verbose state
              [⟨String.ofList complaint.location, anonymous⟩]).ending =
            if SaysMounted complaint.reason ∨ SaysMounted complaint.location then .mounted
            else .failed [(String.ofList complaint.location, failure)]) ∧
    (Verdict.ofFailures (complaints.map Complaint.failed) = .allMounted ↔
      ∀ complaint ∈ complaints,
        SaysMounted complaint.reason ∨ SaysMounted complaint.location) := by
  refine ⟨?_, allMounted_iff complaints⟩
  intro complaint _ failure told counts
  have hcounts : counts ↔ SaysMounted complaint.reason ∨ SaysMounted complaint.location :=
    beq_iff_eq.symm.trans complaint.isAlreadyMounted_iff
  refine ⟨complaint.message_failure, ?_, hcounts, ?_, ?_⟩
  · by_cases hpasses : complaint.Passes
    · exact .inl (hcounts.mpr hpasses)
    · exact .inr (complaint.kind_failure.trans (if_neg hpasses))
  · rw [hcounts, or_iff_left_iff_imp]
  · intro command state hawaits
    refine ⟨?_, hawaits.ending⟩
    intro τ party verbose heard worker request anonymous
    exact hawaits.value_mount verbose party heard worker request anonymous

/-- A location whose name holds the words, and a reason that does not. -/
def namesake : Complaint where
  location := "smb://h/already mounted".toList
  reason := "Timed out".toList
  output := "gio: smb://h/already mounted: Timed out\r\n".toList
  status := some 2
  lastWords := by decide +kernel
  reasonable := by simp [Text.Blank, Text.isBlank]
  failing := by decide

/-- The same reason for a location of another name. -/
def stranger : Complaint where
  location := "smb://h/a".toList
  reason := "Timed out".toList
  output := "gio: smb://h/a: Timed out\r\n".toList
  status := some 2
  lastWords := by decide +kernel
  reasonable := by simp [Text.Blank, Text.isBlank]
  failing := by decide

/-- A tool whose only child leaves a complaint behind. -/
def Complaint.tool (complaint : Complaint) : State where
  children := [(String.ofList complaint.location,
    [.running [.bytes (Utf8.encode complaint.output)] complaint.status])]

theorem Complaint.awaits_tool {complaint : Complaint} (hquiet : ¬Prompt.Occurs complaint.output) :
    complaint.Awaits "gio" complaint.tool := by
  let launched : State := { children := [(String.ofList complaint.location, [])] }
  refine ⟨[Utf8.encode complaint.output], .nothing, launched, ?_, hquiet, ?_⟩
  · rw [List.flatten_singleton, Utf8.feed_encode]
  · unfold State.launch Complaint.tool Prepared.take?
    rw [if_pos rfl]
    rfl

/-- The stranger's failure is handed over; the namesake's is not. -/
theorem stranger_fails_and_namesake_passes :
    ((provider "gio").mount false false stranger.tool [⟨"smb://h/a", false⟩]).ending =
      .failed [("smb://h/a", ⟨"failed", "gio: smb://h/a: Timed out"⟩)] ∧
    ((provider "gio").mount false false namesake.tool
      [⟨"smb://h/already mounted", false⟩]).ending = .mounted := by
  have hstranger : stranger.Awaits "gio" stranger.tool :=
    Complaint.awaits_tool (Prompt.find?_eq_none_iff.mp (by decide +kernel))
  have hnamesake : namesake.Awaits "gio" namesake.tool :=
    Complaint.awaits_tool (Prompt.find?_eq_none_iff.mp (by decide +kernel))
  obtain ⟨hcomplaints, -⟩ := location_passes_for_a_reason [stranger, namesake]
  constructor
  · obtain ⟨-, -, -, -, hends⟩ := hcomplaints stranger (by simp)
    refine ((hends "gio" _ hstranger).2 false false false).trans ?_
    decide +kernel
  · obtain ⟨-, -, -, -, hends⟩ := hcomplaints namesake (by simp)
    refine ((hends "gio" _ hnamesake).2 false false false).trans ?_
    decide +kernel

/-- The namesake's reason does not hold the words, but its failure counts as one of a location mounted
before. -/
theorem namesake_counts_as_mounted :
    ¬SaysMounted namesake.reason ∧ namesake.failure =
      ⟨"already-mounted", "gio: smb://h/already mounted: Timed out"⟩ := by
  decide +kernel

end SessionMounts.MountTool
