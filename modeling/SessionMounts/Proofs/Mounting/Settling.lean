import SessionMounts.Mounting.Settlement

/-!
Taking completions from a channel, and handing them over one by one. A settlement that waits for a number of
completions accepts exactly so many, whoever brings them: `hand` brings each singly and keeps the
answers, `handWhileExpected` goes on until an answer says that no more are expected, and `drain` takes
them from a channel. Each of the first two steps is a step of the third, so all come to the same settlement
(`exactly_the_outstanding_are_taken`).
-/

namespace SessionMounts.Mounting.Settlement

open Console (Log)

/-- What came of completions that were handed over one by one: the settlement, the answer to each, which
says whether more are expected or that it was surplus, and what was printed. -/
structure Handed where
  settlement : Settlement
  answers : List (Except Surplus Bool)
  log : Log

/-- Hands completions over one by one. A surplus one is refused and changes nothing. -/
def hand (verbose : Bool) (settlement : Settlement) : List Completion → Handed
  | [] => ⟨settlement, [], []⟩
  | completion :: rest =>
    match settlement.record verbose completion with
    | .error surplus =>
      let handed := hand verbose settlement rest
      { handed with answers := .error surplus :: handed.answers }
    | .ok (next, log) =>
      let handed := hand verbose next rest
      { handed with answers := .ok (!next.settled) :: handed.answers, log := log ++ handed.log }

/-- Hands completions over until one is answered with no; a surplus one puts an end to it. -/
def handWhileExpected (verbose : Bool) (settlement : Settlement) :
    List Completion → Except Surplus Drained
  | [] => .ok ⟨settlement, [], [], []⟩
  | completion :: rest =>
    match settlement.record verbose completion with
    | .error surplus => .error surplus
    | .ok (next, log) =>
      if next.settled then .ok ⟨next, [completion], rest, log⟩
      else (handWhileExpected verbose next rest).map fun drained =>
        { drained with taken := completion :: drained.taken, log := log ++ drained.log }

variable (verbose : Bool) {settlement : Settlement}

theorem record_of_settled (h : settlement.settled = true) (completion : Completion) :
    settlement.record verbose completion = .error ⟨completion⟩ :=
  if_pos h

theorem record_of_unsettled (h : settlement.settled = false) (completion : Completion) :
    settlement.record verbose completion =
      .ok (settlement.take completion, report verbose completion) :=
  if_neg (Bool.eq_false_iff.mp h)

theorem settled_eq_false {count : Nat} (h : settlement.outstanding = (count + 1 : Nat)) :
    settlement.settled = false := by
  rw [settled, h, beq_eq_false_iff_ne]
  omega

theorem outstanding_take {count : Nat} (h : settlement.outstanding = (count + 1 : Nat))
    (completion : Completion) : (settlement.take completion).outstanding = (count : Nat) := by
  simp only [take, h]
  omega

/-- A settlement for which nothing is outstanding reads nothing. -/
theorem drain_of_settled (h : settlement.settled = true) (channel : List Completion) :
    settlement.drain verbose channel = ⟨settlement, [], channel, []⟩ := by
  cases channel with
  | nil => rfl
  | cons completion rest => rw [drain, record_of_settled verbose h]

/-- What a settlement that waits for a number of completions takes from a channel. -/
theorem drain_of_outstanding (count : Nat) (hcount : settlement.outstanding = count)
    (channel : List Completion) :
    settlement.drain verbose channel =
      { settlement := ⟨(count - channel.length : Nat),
          settlement.failures ++ Mounting.failures (channel.take count)⟩
        taken := channel.take count
        unread := channel.drop count
        log := (channel.take count).flatMap (report verbose) } := by
  induction channel generalizing settlement count with
  | nil =>
      obtain ⟨outstanding, kept⟩ := settlement
      cases hcount
      simp [drain, Mounting.failures]
  | cons completion rest ih =>
      cases count with
      | zero =>
          obtain ⟨outstanding, kept⟩ := settlement
          cases hcount
          rw [drain_of_settled verbose rfl]
          simp [Mounting.failures]
      | succ count =>
          have hrest := ih count (outstanding_take hcount completion)
          rw [drain, record_of_unsettled verbose (settled_eq_false hcount)]
          simp only [hrest]
          simp only [take, List.append_assoc, ← failures_append, List.singleton_append,
            List.length_cons, Nat.add_sub_add_right, List.take_succ_cons, List.drop_succ_cons,
            List.flatMap_cons]

/-- What it takes from a channel that has enough of them. -/
theorem drain_of_enough (count : Nat) {channel : List Completion}
    (hcount : settlement.outstanding = count) (henough : count ≤ channel.length) :
    settlement.drain verbose channel =
      { settlement := ⟨0, settlement.failures ++ Mounting.failures (channel.take count)⟩
        taken := channel.take count
        unread := channel.drop count
        log := (channel.take count).flatMap (report verbose) } := by
  rw [drain_of_outstanding verbose count hcount, Nat.sub_eq_zero_of_le henough]
  rfl

/-- Completions that are all expected are all accepted, and the last that is expected is told apart by
its answer. -/
theorem hand_of_expected (count : Nat) {completions : List Completion}
    (hcount : settlement.outstanding = count) (hexpected : completions.length ≤ count) :
    settlement.hand verbose completions =
      { settlement := ⟨(count - completions.length : Nat),
          settlement.failures ++ Mounting.failures completions⟩
        answers := (List.range completions.length).map fun place => .ok (decide (place + 1 < count))
        log := completions.flatMap (report verbose) } := by
  induction completions generalizing settlement count with
  | nil =>
      obtain ⟨outstanding, kept⟩ := settlement
      cases hcount
      simp [hand, Mounting.failures]
  | cons completion rest ih =>
      cases count with
      | zero => cases hexpected
      | succ count =>
          have htaken := outstanding_take hcount completion
          have hrest := ih count htaken (Nat.le_of_succ_le_succ hexpected)
          have hanswer : (!(settlement.take completion).settled) = decide (0 + 1 < count + 1) := by
            rw [settled, htaken]
            cases count <;> simp
            omega
          rw [hand, record_of_unsettled verbose (settled_eq_false hcount)]
          simp only [hrest, hanswer]
          simp only [take, List.append_assoc, ← failures_append, List.singleton_append,
            List.length_cons, Nat.add_sub_add_right, List.range_succ_eq_map, List.map_cons,
            List.map_map, List.flatMap_cons]
          -- the answers to the others, counted from the second place on
          congr 2
          apply List.map_congr_left
          intro place _
          simp

/-- Once nothing is outstanding, everything that is handed over is refused. -/
theorem hand_of_settled (h : settlement.settled = true) (completions : List Completion) :
    settlement.hand verbose completions =
      ⟨settlement, completions.map fun completion => .error ⟨completion⟩, []⟩ := by
  induction completions with
  | nil => rfl
  | cons completion rest ih =>
      rw [hand, record_of_settled verbose h, ih]
      rfl

/-- Taking completions from a channel is handing them over until one is answered with no. -/
theorem handWhileExpected_eq_drain (h : settlement.settled = false) (channel : List Completion) :
    settlement.handWhileExpected verbose channel = .ok (settlement.drain verbose channel) := by
  induction channel generalizing settlement with
  | nil => rfl
  | cons completion rest ih =>
      rw [handWhileExpected, drain, record_of_unsettled verbose h]
      cases hnext : (settlement.take completion).settled with
      | true => simp [hnext, drain_of_settled verbose hnext]
      | false => simp [hnext, ih hnext, Except.map]

/-- What is taken from a channel after some completions have been handed over singly. -/
theorem drain_hand (count : Nat) {singly channel : List Completion}
    (hexpected : singly.length ≤ count) (henough : count ≤ (singly ++ channel).length) :
    (hand verbose ⟨count, []⟩ singly).settlement.drain verbose channel =
      { settlement := ⟨0, Mounting.failures ((singly ++ channel).take count)⟩
        taken := channel.take (count - singly.length)
        unread := (singly ++ channel).drop count
        log := (channel.take (count - singly.length)).flatMap (report verbose) } := by
  have hstart : (⟨count, []⟩ : Settlement).outstanding = count := rfl
  rw [List.length_append] at henough
  rw [hand_of_expected verbose count hstart hexpected,
    drain_of_enough verbose (count - singly.length) rfl (by omega), List.nil_append,
    List.take_append, List.take_of_length_le hexpected, failures_append, List.drop_append,
    List.drop_of_length_le hexpected, List.nil_append]

/-- A settlement that waits for a number of completions takes exactly so many, whatever their statuses. Some
may be handed over singly first, each answered with whether more are expected, and the rest taken from a
channel: together these are the first ones in the order of their arrival, the later ones stay unread
in their order, nothing is outstanding in the end, and the failures are those among the completions taken.
It makes no difference how many are handed over singly, none, some or all that are expected, nor whether
the others are taken from the channel or handed over until one is answered with no. After that every
completion that is handed over is refused and changes nothing, and nothing is read from a channel. -/
theorem exactly_the_outstanding_are_taken (verbose : Bool) (count : Nat)
    (singly channel : List Completion) (hexpected : singly.length ≤ count)
    (henough : count ≤ (singly ++ channel).length) :
    let handed := hand verbose ⟨count, []⟩ singly
    let drained := handed.settlement.drain verbose channel
    let whole := drain verbose ⟨count, []⟩ (singly ++ channel)
    handed.answers =
      (List.range singly.length).map (fun place => .ok (decide (place + 1 < count))) ∧
    singly ++ drained.taken = (singly ++ channel).take count ∧
    drained.unread = (singly ++ channel).drop count ∧
    drained.settlement.outstanding = 0 ∧
    drained.settlement.failures = ((singly ++ channel).take count).filterMap (fun completion =>
      match completion.status with
      | .failed failure => some (completion.location, failure)
      | _ => none) ∧
    drained.settlement = whole.settlement ∧ drained.unread = whole.unread ∧
    singly ++ drained.taken = whole.taken ∧ handed.log ++ drained.log = whole.log ∧
    (singly.length < count →
      handed.settlement.handWhileExpected verbose channel = .ok drained) ∧
    ∀ settlement : Settlement, settlement.outstanding = 0 →
      (∀ late, settlement.hand verbose late =
        ⟨settlement, late.map fun completion => .error ⟨completion⟩, []⟩) ∧
      ∀ later, settlement.drain verbose later = ⟨settlement, [], later, []⟩ := by
  intro handed drained whole
  have hstart : (⟨count, []⟩ : Settlement).outstanding = count := rfl
  have hhanded := hand_of_expected verbose count hstart hexpected
  have hdrained : drained = _ := drain_hand verbose count hexpected henough
  have hwhole : whole = _ := drain_of_enough verbose count hstart henough
  have hsplit : (singly ++ channel).take count =
      singly ++ channel.take (count - singly.length) := by
    rw [List.take_append, List.take_of_length_le hexpected]
  refine ⟨congrArg Handed.answers hhanded, ?_, ?_, ?_, ?_, ?_, ?_, ?_, ?_, ?_, ?_⟩
  · rw [hdrained, hsplit]
  · rw [hdrained]
  · rw [hdrained]
  · rw [hdrained]
    apply congrArg fun failed => List.filterMap failed _
    funext completion
    cases completion.status <;> rfl
  · rw [hdrained, hwhole]
    rfl
  · rw [hdrained, hwhole]
  · rw [hdrained, hwhole, hsplit]
  · rw [hdrained, hwhole, hsplit, List.flatMap_append]
    exact congrArg (fun handed => handed.log ++ _) hhanded
  · intro hfewer
    have hremaining : handed.settlement.outstanding = (count - singly.length : Nat) :=
      congrArg (fun handed => handed.settlement.outstanding) hhanded
    apply handWhileExpected_eq_drain
    rw [settled, hremaining, beq_eq_false_iff_ne]
    omega
  · intro settlement hnone
    have hsettled : settlement.settled = true := beq_iff_eq.mpr hnone
    exact ⟨hand_of_settled verbose hsettled, drain_of_settled verbose hsettled⟩

/-- A settlement that waits for three completions is handed one, takes two of three from the channel, and
refuses the one that was left. -/
theorem third_is_the_last_that_is_taken :
    let a : Completion := ⟨"smb://h/a", .failed ⟨Failure.alreadyMounted, "mounted"⟩⟩
    let b : Completion := ⟨"smb://h/b", .stray .asked⟩
    let c : Completion := ⟨"smb://h/a", .failed ⟨Failure.failed, "refused"⟩⟩
    let d : Completion := ⟨"smb://h/d", .done⟩
    let handed := hand true ⟨3, []⟩ [a]
    let drained := handed.settlement.drain true [b, c, d]
    handed.answers = [.ok true] ∧ drained.unread = [d] ∧
      drained.settlement.outstanding = 0 ∧
      drained.settlement.failures = [("smb://h/a", ⟨Failure.alreadyMounted, "mounted"⟩),
        ("smb://h/a", ⟨Failure.failed, "refused"⟩)] ∧
      (drained.settlement.hand true [d]).answers = [.error ⟨d⟩] := by
  intro a b c d handed drained
  obtain ⟨hanswers, -, hunread, hnone, hfailures, -, -, -, -, -, hafter⟩ :=
    exactly_the_outstanding_are_taken true 3 [a] [b, c, d] (by decide) (by decide)
  refine ⟨hanswers, hunread, hnone, hfailures, ?_⟩
  exact congrArg Handed.answers ((hafter drained.settlement hnone).1 [d])

end SessionMounts.Mounting.Settlement
