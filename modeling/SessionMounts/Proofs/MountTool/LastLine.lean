import SessionMounts.Proofs.MountTool.Reason
import SessionMounts.Proofs.Text.Lines

/-!
The line that a tool's failure is told by. Line breaks are blanks, so the lines of an output that are not blank
are those before a break and those after it, whatever breaks they are (`reasonLines_append`); blanks
after a line, with or without breaks among them, add nothing. The last such line is the reason, and neither
what stands before it nor what follows makes a difference (`last_line_is_the_reason`). An output without
such a line leaves the exit status.
-/

namespace SessionMounts.MountTool

open Mounting (Failure)

variable {line output blanks : List Char} {c : Char} {status : ExitStatus}

theorem reasonLines_of_unbroken (h : Text.Unbroken line) :
    reasonLines line = if Text.trim line = [] then [] else [Text.trim line] := by
  by_cases hempty : line = []
  · rw [hempty]
    rfl
  · rw [reasonLines, Text.lines_of_unbroken h hempty]
    by_cases hblank : Text.trim line = [] <;> simp [hblank]

/-- A line with its break comes before the rest. -/
theorem reasonLines_line_append (h : Text.Unbroken line) (hc : Text.isLineBreak c = true)
    (rest : List Char) : reasonLines (line ++ c :: rest) = reasonLines line ++ reasonLines rest := by
  have hempty : Text.trim [] = [] := rfl
  obtain ⟨others, hbreak, hrest⟩ := Text.exists_lines_break hc rest
  have hothers : reasonLines rest = (others.map Text.trim).filter fun line => !line.isEmpty := by
    rcases hrest with hrest | hrest <;> simp [reasonLines, hrest, hempty]
  rw [reasonLines_of_unbroken h, hothers, reasonLines, Text.lines_append h hbreak]
  by_cases hblank : Text.trim line = [] <;> simp [hblank]

/-- A break parts an output into what the one and what the other text gives. -/
theorem reasonLines_append (front : List Char) (hc : Text.isLineBreak c = true) (back : List Char) :
    reasonLines (front ++ c :: back) = reasonLines front ++ reasonLines back := by
  induction front using Text.byBreaks Text.isLineBreak with
  | last line h => exact reasonLines_line_append h hc back
  | more line d rest h hd ih =>
      rw [List.append_assoc, List.cons_append, reasonLines_line_append h hd,
        reasonLines_line_append h hd, ih, List.append_assoc]

theorem reasonLines_eq_nil_iff : reasonLines output = [] ↔ Text.Blank output := by
  have hline : ∀ {line}, Text.Unbroken line → (reasonLines line = [] ↔ Text.Blank line) := by
    intro line h
    rw [reasonLines_of_unbroken h, ← Text.trim_eq_nil_iff]
    by_cases hblank : Text.trim line = [] <;> simp [hblank]
  induction output using Text.byBreaks Text.isLineBreak with
  | last line h => exact hline h
  | more line c rest h hc ih =>
      have hparts : Text.Blank (line ++ c :: rest) ↔ Text.Blank line ∧ Text.Blank rest := by
        simp [Text.Blank, or_imp, forall_and, Text.isBlank_of_isLineBreak hc]
      rw [reasonLines_append line hc rest, List.append_eq_nil_iff, hline h, hparts]
      exact and_congr_right fun _ => ih

/-- Blanks after a line add nothing to it, whatever breaks are among them. -/
theorem reasonLines_append_blank (h : Text.Unbroken line) (hnonblank : ¬Text.Blank line)
    (hblanks : Text.Blank blanks) : reasonLines (line ++ blanks) = [Text.trim line] := by
  have hline : ∀ {front}, Text.Unbroken front → Text.Blank front →
      reasonLines (line ++ front) = [Text.trim line] := by
    intro front hfront hblank
    rw [reasonLines_of_unbroken (List.forall_mem_append.mpr ⟨h, hfront⟩),
      Text.trim_append_blank hblank, if_neg (mt Text.trim_eq_nil_iff.mp hnonblank)]
  cases blanks using Text.byBreaks Text.isLineBreak with
  | last front hfront => exact hline hfront hblanks
  | more front c rest hfront hc _ =>
      obtain ⟨hblank, hrest⟩ := List.forall_mem_append.mp hblanks
      rw [← List.append_assoc, reasonLines_append _ hc, hline hfront hblank,
        reasonLines_eq_nil_iff.mpr (List.forall_mem_cons.mp hrest).2, List.append_nil]

/-- A line that may be a reason: not empty, without blanks around it, and without breaks. -/
structure Reasonable (line : List Char) : Prop where
  nonempty : line ≠ []
  trimmed : Text.trim line = line
  unbroken : Text.Unbroken line

theorem reasonable_of_mem (h : line ∈ reasonLines output) : Reasonable line := by
  have hline : ∀ {whole}, Text.Unbroken whole → line ∈ reasonLines whole → Reasonable line := by
    intro whole hwhole hmem
    rw [reasonLines_of_unbroken hwhole] at hmem
    split at hmem
    · cases hmem
    · rename_i hnonempty
      obtain rfl := List.mem_singleton.mp hmem
      exact ⟨hnonempty, Text.trim_trim whole, fun c hc => hwhole c (Text.mem_of_mem_trim hc)⟩
  induction output using Text.byBreaks Text.isLineBreak with
  | last whole hwhole => exact hline hwhole h
  | more whole c rest hwhole hc ih =>
      rw [reasonLines_append whole hc, List.mem_append] at h
      exact h.elim (hline hwhole) ih

/-- How an exit status is written. -/
def statusText : ExitStatus → String
  | some code => toString code
  | none => "None"

/-- The message about a tool that printed nothing. -/
def exitMessage (status : ExitStatus) : String := "gio exited with status " ++ statusText status

theorem toList_exitMessage (status : ExitStatus) :
    (exitMessage status).toList = "gio exited with status ".toList ++ (statusText status).toList :=
  String.toList_append

theorem reason_of_blank (h : Text.Blank output) (status : ExitStatus) :
    reason output status = (exitMessage status).toList := by
  unfold reason
  rw [reasonLines_eq_nil_iff.mpr h, toList_exitMessage]
  cases status <;> rfl

theorem reason_of_getLast? (h : (reasonLines output).getLast? = some line) (status : ExitStatus) :
    reason output status = line := by
  unfold reason
  rw [h]

/-- An output that is not blank gives one of its lines for a reason. -/
theorem reasonable_reason (h : ¬Text.Blank output) (status : ExitStatus) :
    Reasonable (reason output status) := by
  cases hlast : (reasonLines output).getLast? with
  | none => exact absurd (reasonLines_eq_nil_iff.mp (List.getLast?_eq_none_iff.mp hlast)) h
  | some line =>
      rw [reason_of_getLast? hlast]
      exact reasonable_of_mem (List.mem_of_getLast? hlast)

theorem mem_toString_code {code : Int} (h : c ∈ (toString code).toList) :
    c.isDigit = true ∨ c = '-' := by
  have hdigits : ∀ {n : Nat}, c ∈ n.repr.toList → c.isDigit = true := by
    intro n hmem
    rw [Nat.toList_repr] at hmem
    exact Nat.isDigit_of_mem_toDigits (by decide) (by decide) hmem
  cases code with
  | ofNat n => exact .inl (hdigits h)
  | negSucc n =>
      have hmem : c ∈ ("-" ++ n.succ.repr).toList := h
      rw [String.toList_append, List.mem_append] at hmem
      rcases hmem with hsign | hmem
      · exact .inr (by simpa using hsign)
      · exact .inl (hdigits hmem)

/-- No exit status makes the message say that something was mounted before: it has no m. -/
theorem not_saysMounted_exitMessage (status : ExitStatus) :
    ¬SaysMounted (exitMessage status).toList := by
  have hcode : 'm' ∉ (statusText status).toList.map Char.toLower := by
    cases status with
    | none => decide
    | some code =>
        intro hmem
        obtain ⟨c, hc, hlower⟩ := List.mem_map.mp hmem
        have hsame : c.toLower = c := by
          apply toLower_of_not_upper
          rcases mem_toString_code hc with hdigit | rfl
          · simp only [Char.isDigit, Bool.and_eq_true, decide_eq_true_eq] at hdigit
            exact .inl (Nat.lt_of_le_of_lt hdigit.2 (by decide))
          · exact .inl (by decide)
        rw [hsame] at hlower
        subst hlower
        exact absurd (mem_toString_code hc) (by decide)
  intro h
  have hphrase : 'm' ∈ alreadyMountedPhrase := by decide
  have hm : 'm' ∈ (exitMessage status).toList.map Char.toLower := h.subset hphrase
  rw [toList_exitMessage, List.map_append, List.mem_append] at hm
  exact hm.elim (by decide) hcode

/-- A failure is told by the last line of the output that is not blank, and by nothing else. Whatever stands
before that line, whichever break parts it from it, and whatever blanks and breaks follow, the message
is the line, trimmed, and its words alone decide the kind. An output of blanks only is a failure with
the exit status for a message. The message is never empty, and one that comes from the output has
no blanks around it and no break in it. -/
theorem last_line_is_the_reason :
    (∀ (line blanks : List Char) (status : ExitStatus),
      (∃ c ∈ line, Text.isBlank c = false) → (∀ c ∈ line, Text.isLineBreak c = false) →
      (∀ c ∈ blanks, Text.isBlank c = true) →
      let told : Failure :=
        { kind := if SaysMounted line then Failure.alreadyMounted else Failure.failed
          message := String.ofList (Text.trim line) }
      failureOf (line ++ blanks) status = told ∧
      ∀ (front : List Char) (c : Char), Text.isLineBreak c = true →
        failureOf (front ++ c :: (line ++ blanks)) status = told) ∧
    (∀ (output : List Char) (status : ExitStatus), (∀ c ∈ output, Text.isBlank c = true) →
      failureOf output status =
        { kind := Failure.failed, message := "gio exited with status " ++ statusText status }) ∧
    ∀ (output : List Char) (status : ExitStatus),
      (failureOf output status).message ≠ "" ∧
      ((∃ c ∈ output, Text.isBlank c = false) →
        let message := (failureOf output status).message.toList
        Text.trim message = message ∧ ∀ c ∈ message, Text.isLineBreak c = false) := by
  have hnonblank : ∀ {text}, (∃ c ∈ text, Text.isBlank c = false) → ¬Text.Blank text := by
    rintro text ⟨c, hc, hno⟩ hblank
    rw [hblank c hc] at hno
    cases hno
  have hlast : ∀ {output line : List Char} (status : ExitStatus),
      (reasonLines output).getLast? = some (Text.trim line) →
      failureOf output status =
        { kind := if SaysMounted line then Failure.alreadyMounted else Failure.failed
          message := String.ofList (Text.trim line) } := by
    intro output line status hlast
    have hreason := reason_of_getLast? hlast status
    rw [← if_congr saysMounted_trim rfl rfl, ← hreason, ← kind_failureOf]
    rfl
  refine ⟨?_, ?_, ?_⟩
  · intro line blanks status hline hunbroken hblanks told
    have hlines := reasonLines_append_blank hunbroken (hnonblank hline) hblanks
    constructor
    · exact hlast status (by rw [hlines]; rfl)
    · intro front c hc
      exact hlast status (by rw [reasonLines_append front hc, hlines, List.getLast?_concat])
  · intro output status hblank
    have hreason := reason_of_blank hblank status
    have hkind : (failureOf output status).kind = Failure.failed := by
      rw [kind_failureOf, hreason, if_neg (not_saysMounted_exitMessage status)]
    have hmessage : (failureOf output status).message = exitMessage status := by
      rw [failureOf, hreason, String.ofList_toList]
    calc
      failureOf output status =
          ⟨(failureOf output status).kind, (failureOf output status).message⟩ := rfl
      _ = ⟨Failure.failed, exitMessage status⟩ := by rw [hkind, hmessage]
  · intro output status
    have hmessage : (failureOf output status).message.toList = reason output status :=
      String.toList_ofList
    rw [Ne, ← String.toList_eq_nil_iff, hmessage]
    constructor
    · by_cases hblank : Text.Blank output
      · rw [reason_of_blank hblank, toList_exitMessage]
        exact List.append_ne_nil_of_left_ne_nil (by decide) _
      · exact (reasonable_reason hblank status).nonempty
    · intro hsome
      have hreasonable := reasonable_reason (hnonblank hsome) status
      exact ⟨hreasonable.trimmed, hreasonable.unbroken⟩

/-- An earlier line that says that something was mounted does not count, nor do the separators, returns and
line feeds after the last one; by themselves these tell nothing but the exit status. -/
theorem sample_output_is_told_by_last_line :
    let line := "\x1f gio: smb://h/b: Timed out\u00a0".toList
    let blanks := "\t\x1c\r\n\u2028 \x0b".toList
    let front := "gio: smb://h/a: Location is already mounted\r".toList
    failureOf (front ++ '\n' :: (line ++ blanks)) (some 2) =
        ⟨"failed", "gio: smb://h/b: Timed out"⟩ ∧
      failureOf blanks none = ⟨"failed", "gio exited with status None"⟩ := by
  intro line blanks front
  have hsome : ∃ c ∈ line, Text.isBlank c = false := ⟨'g', by decide +kernel, by decide⟩
  have hunbroken : Text.Unbroken line := by
    have hall : line.all (fun c => !Text.isLineBreak c) = true := by decide +kernel
    intro c hc
    simpa only [Bool.not_eq_true'] using List.all_eq_true.mp hall c hc
  have hblanks : Text.Blank blanks :=
    List.all_eq_true.mp (by decide +kernel : blanks.all Text.isBlank = true)
  obtain ⟨htold, hsilent, -⟩ := last_line_is_the_reason
  constructor
  · have hlast := (htold line blanks (some 2) hsome hunbroken hblanks).2 front '\n' (by decide)
    refine hlast.trans ?_
    decide +kernel
  · exact hsilent blanks none hblanks

end SessionMounts.MountTool
