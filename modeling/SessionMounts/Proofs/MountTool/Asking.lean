import SessionMounts.Proofs.MountTool.Interview

/-!
Whether a tool asks for anything. The search for a prompt finds one exactly if a prompt is shown
somewhere in the text (`find?_isSome_iff`), so a prompt that has arrived does not go away when more
arrives, and a dialogue stops at a prompt exactly if the text of all its pieces shows one
(`Dialogue.stops_ne_nil_iff`). An output that shows none is the last words of its tool as a whole.
-/

namespace SessionMounts.MountTool

namespace Prompt

/-- A prompt is shown somewhere in a text. -/
def Occurs (text : List Char) : Prop :=
  ∃ (prompt : Prompt) (shown : List Char), Shown prompt shown ∧ shown <:+: text

theorem Occurs.append {text : List Char} (h : Occurs text) (more : List Char) :
    Occurs (text ++ more) := by
  obtain ⟨prompt, shown, hshown, hin⟩ := h
  exact ⟨prompt, shown, hshown, hin.trans (List.prefix_append text more).isInfix⟩

theorem find?_isSome_iff {text : List Char} : (find? text).isSome = true ↔ Occurs text := by
  constructor
  · intro h
    obtain ⟨found, hfound⟩ := Option.isSome_iff_exists.mp h
    obtain ⟨hshown, htext⟩ := shown_of_find? hfound
    exact ⟨found.prompt, found.shown, hshown, found.before, found.after, htext.symm⟩
  · rintro ⟨prompt, shown, hshown, before, after, rfl⟩
    induction before with
    | nil =>
        rw [List.nil_append, find?_of_shown hshown]
        rfl
    | cons c before ih =>
        rw [List.cons_append, List.cons_append, find?]
        split
        · rfl
        · rw [Option.isSome_map]
          exact ih

theorem find?_eq_none_iff {text : List Char} : find? text = none ↔ ¬Occurs text := by
  rw [← find?_isSome_iff, Bool.not_eq_true, Option.isSome_eq_false_iff, Option.isNone_iff_eq_none]

end Prompt

/-- When pieces can be decoded one after another, so can the first and then the others. -/
theorem exists_decodeNext_of_feed {pending last : Utf8.Pending} {piece : List UInt8}
    {pieces : List (List UInt8)} {text : List Char}
    (hfeed : Utf8.feed pending 0 (piece :: pieces).flatten = .ok (text, last)) :
    ∃ start next more, Utf8.decodeNext pending piece = .ok (start, next) ∧ text = start ++ more ∧
      Utf8.feed next 0 pieces.flatten = .ok (more, last) := by
  rw [List.flatten_cons] at hfeed
  cases hpiece : Utf8.decodeNext pending piece with
  | error fault =>
      obtain ⟨fault, hfault⟩ := Utf8.undecodable_append_of_error hpiece pieces.flatten
      cases hfault.symm.trans hfeed
  | ok decoded =>
      obtain ⟨start, next⟩ := decoded
      obtain ⟨more, htext, hmore⟩ := exists_feed_of_append hfeed hpiece
      exact ⟨start, next, more, rfl, htext, hmore⟩

namespace Dialogue

variable {pending last : Utf8.Pending} {buffer text : List Char} {pieces : List (List UInt8)}

/-- Pieces whose text shows no prompt are read to their end. -/
theorem ofReads_of_not_occurs (hfeed : Utf8.feed pending 0 pieces.flatten = .ok (text, last))
    (hquiet : ¬Prompt.Occurs (buffer ++ text)) :
    ofReads pending buffer (pieces.map Read.bytes) = .ended (buffer ++ text) := by
  induction pieces generalizing pending buffer text with
  | nil =>
      cases hfeed
      rw [List.append_nil] at hquiet ⊢
      exact ofReads_of_none (Prompt.find?_eq_none_iff.mpr hquiet)
  | cons piece pieces ih =>
      have hnone : Prompt.find? buffer = none :=
        Prompt.find?_eq_none_iff.mpr fun hoccurs => hquiet (hoccurs.append text)
      obtain ⟨start, next, more, hpiece, rfl, hmore⟩ := exists_decodeNext_of_feed hfeed
      rw [← List.append_assoc] at hquiet ⊢
      rw [List.map_cons, ofReads_of_piece hnone hpiece]
      exact ih hmore hquiet

/-- Pieces whose text shows a prompt make a dialogue that stops at one. -/
theorem stops_ofReads_ne_nil (hfeed : Utf8.feed pending 0 pieces.flatten = .ok (text, last))
    (hoccurs : Prompt.Occurs (buffer ++ text)) :
    (ofReads pending buffer (pieces.map Read.bytes)).stops ≠ [] := by
  induction pieces generalizing pending buffer text with
  | nil =>
      cases hfeed
      rw [List.append_nil, ← Prompt.find?_isSome_iff] at hoccurs
      obtain ⟨found, hfound⟩ := Option.isSome_iff_exists.mp hoccurs
      rw [ofReads_of_found hfound]
      exact List.cons_ne_nil _ _
  | cons piece pieces ih =>
      cases hfind : Prompt.find? buffer with
      | some found =>
          rw [ofReads_of_found hfind]
          exact List.cons_ne_nil _ _
      | none =>
          obtain ⟨start, next, more, hpiece, rfl, hmore⟩ := exists_decodeNext_of_feed hfeed
          rw [← List.append_assoc] at hoccurs
          rw [List.map_cons, ofReads_of_piece hfind hpiece]
          exact ih hmore hoccurs

theorem ofOutput_of_not_occurs (hfeed : Utf8.feed .nothing 0 pieces.flatten = .ok (text, last))
    (hquiet : ¬Prompt.Occurs text) : ofOutput (pieces.map Read.bytes) = .ended text :=
  ofReads_of_not_occurs (show Utf8.feed .nothing 0 pieces.flatten = _ from hfeed)
    (show ¬Prompt.Occurs ([] ++ text) from hquiet)

/-- A dialogue stops at a prompt exactly if its text shows one. -/
theorem stops_ne_nil_iff (hfeed : Utf8.feed .nothing 0 pieces.flatten = .ok (text, last)) :
    (ofOutput (pieces.map Read.bytes)).stops ≠ [] ↔ Prompt.Occurs text := by
  constructor
  · intro hstops
    by_contra hquiet
    rw [ofOutput_of_not_occurs hfeed hquiet] at hstops
    exact hstops rfl
  · exact fun hoccurs => stops_ofReads_ne_nil hfeed hoccurs

end Dialogue

end SessionMounts.MountTool
