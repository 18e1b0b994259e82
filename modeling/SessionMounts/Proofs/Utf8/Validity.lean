import Mathlib.Tactic.SplitIfs
import SessionMounts.Utf8.Codec

/-!
What the decoder of UTF-8 does with the bytes of a text, and which bytes it accepts. Bytes that arrive
in two pieces are decoded like all of them at once (`feed_append`), and decoding is a left inverse of the
encoding (`decode_encode`). The second statement goes through one lemma for each kind of step: a byte that
gives a character, a byte that is kept, and the lead byte of each length. Conversely only encodings of
texts can be decoded (`decode_eq_ok_iff`).
-/

namespace SessionMounts.Utf8

theorem toNat_byte {n : Nat} (h : n < 256) : (UInt8.ofNat n).toNat = n := by
  simp [UInt8.toNat_ofNat', Nat.mod_eq_of_lt h]

theorem toNat_continuation (n : Nat) : (continuation n).toNat = 0x80 + n % 0x40 :=
  toNat_byte (by omega)

/-- The scalar values leave out the surrogates. -/
theorem scalar_range (c : Char) : c.toNat < 0xD800 ∨ (0xDFFF < c.toNat ∧ c.toNat < 0x110000) :=
  c.valid

theorem feed_pending {pending next : Pending} {byte : UInt8} (h : pending.next byte = .pending next)
    (position : Nat) (rest : List UInt8) :
    feed pending position (byte :: rest) = feed next (position + 1) rest := by
  rw [feed, h]

theorem feed_character {pending : Pending} {byte : UInt8} {c : Char}
    (h : pending.next byte = .character c) (position : Nat) (rest : List UInt8) :
    feed pending position (byte :: rest) =
      (feed .nothing (position + 1) rest).map fun (text, last) => (c :: text, last) := by
  rw [feed, h]
  cases feed .nothing (position + 1) rest <;> rfl

/-- The byte that completes a sequence gives its character. -/
theorem next_last {seen : List UInt8} {value missing low high : Nat} {byte : UInt8}
    (hlow : low ≤ byte.toNat) (hhigh : byte.toNat ≤ high) (hmissing : missing ≤ 1) :
    (Pending.begun ⟨seen, value, missing, low, high⟩).next byte =
      .character (Char.ofNat (0x40 * value + byte.toNat % 0x40)) := by
  simp [Pending.next, Sequence.next, hlow, hhigh, hmissing]

/-- An earlier byte in its range adds its six bits. -/
theorem next_more {seen : List UInt8} {value missing low high : Nat} {byte : UInt8}
    (hlow : low ≤ byte.toNat) (hhigh : byte.toNat ≤ high) (hmissing : 1 < missing) :
    (Pending.begun ⟨seen, value, missing, low, high⟩).next byte =
      .pending (.begun
        ⟨seen ++ [byte], 0x40 * value + byte.toNat % 0x40, missing - 1, 0x80, 0xBF⟩) := by
  simp [Pending.next, Sequence.next, hlow, hhigh, Nat.not_le.mpr hmissing]

/-- The lead byte of two bytes carries five bits. -/
theorem next_leadOfTwo {n : Nat} (hlow : 0xC2 ≤ n) (hhigh : n < 0xE0) :
    Pending.nothing.next (UInt8.ofNat n) =
      .pending (.begun ⟨[UInt8.ofNat n], n - 0xC0, 1, 0x80, 0xBF⟩) := by
  simp only [Pending.next, first, toNat_byte (show n < 256 by omega)]
  rw [if_neg (by omega), if_neg (by omega), if_pos hhigh]

/-- The lead byte of three bytes carries the upper four bits, and the range of its second byte
has room for the next six bits of every scalar value. -/
theorem next_leadOfThree {n : Nat} (hlow : 0x800 ≤ n) (hhigh : n < 0x10000)
    (hscalar : n < 0xD800 ∨ 0xDFFF < n) :
    ∃ low high, Pending.nothing.next (UInt8.ofNat (0xE0 + n / 0x1000)) = .pending (.begun
        ⟨[UInt8.ofNat (0xE0 + n / 0x1000)], n / 0x1000, 2, low, high⟩) ∧
      low ≤ 0x80 + n / 0x40 % 0x40 ∧ 0x80 + n / 0x40 % 0x40 ≤ high := by
  have hb : (UInt8.ofNat (0xE0 + n / 0x1000)).toNat = 0xE0 + n / 0x1000 := toNat_byte (by omega)
  simp only [Pending.next, first, hb]
  rw [if_neg (by omega), if_neg (by omega), if_neg (by omega)]
  split
  · exact ⟨0xA0, 0xBF, by simp only [show n / 0x1000 = 0 by omega], by omega, by omega⟩
  · split
    · exact ⟨0x80, 0x9F, by simp only [show n / 0x1000 = 0x0D by omega], by omega, by omega⟩
    · rw [if_pos (by omega)]
      exact ⟨0x80, 0xBF, by simp only [Nat.add_sub_cancel_left], by omega, by omega⟩

/-- The lead byte of four bytes carries the upper three bits, and the range of its second byte has
room for the next six bits of every scalar value. -/
theorem next_leadOfFour {n : Nat} (hlow : 0x10000 ≤ n) (hhigh : n < 0x110000) :
    ∃ low high, Pending.nothing.next (UInt8.ofNat (0xF0 + n / 0x40000)) = .pending (.begun
        ⟨[UInt8.ofNat (0xF0 + n / 0x40000)], n / 0x40000, 3, low, high⟩) ∧
      low ≤ 0x80 + n / 0x1000 % 0x40 ∧ 0x80 + n / 0x1000 % 0x40 ≤ high := by
  have hb : (UInt8.ofNat (0xF0 + n / 0x40000)).toNat = 0xF0 + n / 0x40000 := toNat_byte (by omega)
  simp only [Pending.next, first, hb]
  rw [if_neg (by omega), if_neg (by omega), if_neg (by omega), if_neg (by omega),
    if_neg (by omega), if_neg (by omega)]
  split
  · exact ⟨0x90, 0xBF, by simp only [show n / 0x40000 = 0 by omega], by omega, by omega⟩
  · split
    · exact ⟨0x80, 0xBF, by simp only [Nat.add_sub_cancel_left], by omega, by omega⟩
    · rw [if_pos (by omega)]
      exact ⟨0x80, 0x8F, by simp only [show n / 0x40000 = 4 by omega], by omega, by omega⟩

/-- Feeding a character's bytes gives the character. -/
theorem feed_encodeChar (c : Char) (position : Nat) (rest : List UInt8) :
    feed .nothing position (encodeChar c ++ rest) =
      (feed .nothing (position + (encodeChar c).length) rest).map
        fun (text, last) => (c :: text, last) := by
  have hc := scalar_range c
  have hof : ∀ m, m = c.toNat → Char.ofNat m = c := fun m hm => hm ▸ Char.ofNat_toNat c
  have hlast := toNat_continuation c.toNat
  have hsecond := toNat_continuation (c.toNat / 0x40)
  have hthird := toNat_continuation (c.toNat / 0x1000)
  unfold encodeChar
  dsimp only
  split
  · rename_i h
    refine feed_character ?_ _ _
    simp only [Pending.next, first, toNat_byte (show c.toNat < 256 by omega), if_pos h,
      hof c.toNat rfl]
  · split
    · have hlead := next_leadOfTwo (n := 0xC0 + c.toNat / 0x40) (by omega) (by omega)
      simp only [List.cons_append, List.nil_append]
      rw [feed_pending hlead]
      refine feed_character ?_ _ _
      rw [next_last (by omega) (by omega) (by omega), hof _ (by omega)]
    · split
      · obtain ⟨low, high, hlead, hlow, hhigh⟩ :=
          next_leadOfThree (n := c.toNat) (by omega) (by omega) (by omega)
        simp only [List.cons_append, List.nil_append]
        rw [feed_pending hlead, feed_pending (next_more (by omega) (by omega) (by omega))]
        refine feed_character ?_ _ _
        rw [next_last (by omega) (by omega) (by omega), hof _ (by omega)]
      · obtain ⟨low, high, hlead, hlow, hhigh⟩ :=
          next_leadOfFour (n := c.toNat) (by omega) (by omega)
        simp only [List.cons_append, List.nil_append]
        rw [feed_pending hlead, feed_pending (next_more (by omega) (by omega) (by omega)),
          feed_pending (next_more (by omega) (by omega) (by omega))]
        refine feed_character ?_ _ _
        rw [next_last (by omega) (by omega) (by omega), hof _ (by omega)]

/-- Feeding the bytes of a text gives the text, and the decoder keeps nothing. -/
theorem feed_encode (text : List Char) (position : Nat) :
    feed .nothing position (encode text) = .ok (text, .nothing) := by
  induction text generalizing position with
  | nil => rfl
  | cons c rest ih =>
    rw [encode, List.flatMap_cons, ← encode, feed_encodeChar, ih]
    rfl

/-- Decoding the bytes of a text gives the text back. -/
theorem decode_encode (text : List Char) : decode (encode text) = .ok text := by
  simp only [decode, feed_encode, Pending.atEnd]

/-- Bytes that arrive in two pieces are decoded like all of them at once. -/
theorem feed_append (pending : Pending) (position : Nat) (front back : List UInt8) :
    feed pending position (front ++ back) =
      match feed pending position front with
      | .error fault => .error fault
      | .ok (text, next) =>
        (feed next (position + front.length) back).map fun (more, last) => (text ++ more, last) := by
  induction front generalizing pending position with
  | nil =>
    simp only [List.nil_append, feed, List.length_nil, Nat.add_zero]
    cases feed pending position back <;> rfl
  | cons byte rest ih =>
    rw [List.cons_append, feed, feed]
    cases hstep : pending.next byte with
    | character c =>
      simp only [ih]
      cases feed .nothing (position + 1) rest with
      | error fault => rfl
      | ok pair =>
        simp only [List.length_cons, Nat.add_assoc, Nat.add_comm 1]
        cases feed pair.2 (position + (rest.length + 1)) back <;> rfl
    | pending next =>
      simp only [ih, List.length_cons, Nat.add_assoc, Nat.add_comm 1]
    | fault reason => rfl

/-! ### Bytes that can be decoded

The invariant of the decoder is that a sequence that has begun is sound: whatever its missing bytes are,
they and the bytes seen are the bytes of the character that it gives. -/

/-- The number that continuation bytes make of a value: each adds its six bits. -/
def carried (value : Nat) : List UInt8 → Nat
  | [] => value
  | byte :: rest => carried (0x40 * value + byte.toNat % 0x40) rest

/-- Whatever the missing bytes of the sequence are, the number that they make of its value is a
character, and its bytes are those seen and those missing. -/
structure Sequence.Sound (sequence : Sequence) : Prop where
  unfinished : 0 < sequence.missing
  encodes : ∀ (byte : UInt8) (rest : List UInt8), rest.length + 1 = sequence.missing →
    sequence.low ≤ byte.toNat → byte.toNat ≤ sequence.high →
    (∀ other ∈ rest, 0x80 ≤ other.toNat ∧ other.toNat ≤ 0xBF) →
    encodeChar (Char.ofNat (carried sequence.value (byte :: rest))) =
      sequence.seen ++ byte :: rest

def Pending.Sound : Pending → Prop
  | begun sequence => sequence.Sound
  | nothing => True
  | surrogate _ => True

/-- A step gives the character whose bytes have been seen, or keeps them all. -/
def Step.Follows (seen : List UInt8) : Step → Prop
  | character c => encodeChar c = seen
  | pending next => next.Sound ∧ next.seen = seen
  | fault _ => True

theorem toNat_ofNat {n : Nat} (h : n < 0xD800 ∨ (0xDFFF < n ∧ n < 0x110000)) :
    (Char.ofNat n).toNat = n := by
  rw [Char.ofNat, dif_pos h]
  rfl

theorem ofNat_byte {byte : UInt8} {n : Nat} (h : n = byte.toNat) : UInt8.ofNat n = byte := by
  rw [h, UInt8.ofNat_toNat]

theorem continuation_eq {byte : UInt8} {n : Nat} (hlow : 0x80 ≤ byte.toNat)
    (hhigh : byte.toNat ≤ 0xBF) (h : n % 0x40 = byte.toNat % 0x40) : continuation n = byte := by
  rw [continuation, ofNat_byte (show _ = byte.toNat by omega)]

section Lead

variable {lead : UInt8} {value low high : Nat}

/-- A lead byte of two bytes begins a sound sequence unless it would write an ASCII character. -/
theorem sound_of_two (hlow : 0xC2 ≤ lead.toNat) (hhigh : lead.toNat < 0xE0) :
    Sequence.Sound ⟨[lead], lead.toNat - 0xC0, 1, 0x80, 0xBF⟩ := by
  refine ⟨Nat.one_pos, ?_⟩
  intro byte rest hlength hbyte hbyte' _
  obtain rfl : rest = [] := List.length_eq_zero_iff.mp (Nat.succ.inj hlength)
  dsimp only at hbyte hbyte'
  simp only [carried]
  rw [encodeChar, toNat_ofNat (by omega), if_neg (by omega), if_pos (by omega),
    ofNat_byte (show _ = lead.toNat by omega), continuation_eq hbyte hbyte' (by omega)]
  rfl

/-- One of three bytes does so if the range of its second byte leaves out the characters that take
fewer bytes, and the surrogates. -/
theorem sound_of_three (hlead : 0xE0 + value = lead.toNat) (hvalue : value < 0x10)
    (hlow : 0x80 ≤ low) (hhigh : high ≤ 0xBF) (hshortest : value = 0 → 0xA0 ≤ low)
    (hscalar : value = 0x0D → high ≤ 0x9F) : Sequence.Sound ⟨[lead], value, 2, low, high⟩ := by
  refine ⟨Nat.two_pos, ?_⟩
  intro byte rest hlength hbyte hbyte' hrest
  obtain ⟨last, rfl⟩ := List.length_eq_one_iff.mp (Nat.succ.inj hlength)
  obtain ⟨hlast, hlast'⟩ := hrest last (List.mem_singleton_self last)
  dsimp only at hbyte hbyte'
  simp only [carried]
  rw [encodeChar, toNat_ofNat (by omega), if_neg (by omega), if_neg (by omega), if_pos (by omega),
    ofNat_byte (show _ = lead.toNat by omega),
    continuation_eq (show 0x80 ≤ byte.toNat by omega) (by omega) (by omega),
    continuation_eq hlast hlast' (by omega)]
  rfl

/-- One of four bytes does so if that range leaves out the characters that take fewer bytes, and the
numbers beyond the last scalar value. -/
theorem sound_of_four (hlead : 0xF0 + value = lead.toNat) (hvalue : value ≤ 4)
    (hlow : 0x80 ≤ low) (hhigh : high ≤ 0xBF) (hshortest : value = 0 → 0x90 ≤ low)
    (hscalar : value = 4 → high ≤ 0x8F) : Sequence.Sound ⟨[lead], value, 3, low, high⟩ := by
  refine ⟨Nat.succ_pos 2, ?_⟩
  intro byte rest hlength hbyte hbyte' hrest
  obtain ⟨third, last, rfl⟩ : ∃ third last, rest = [third, last] := by
    match rest, hlength with
    | [third, last], _ => exact ⟨third, last, rfl⟩
  obtain ⟨hthird, hthird'⟩ := hrest third (List.mem_cons_self ..)
  obtain ⟨hlast, hlast'⟩ := hrest last (List.mem_cons_of_mem third (List.mem_singleton_self last))
  dsimp only at hbyte hbyte'
  simp only [carried]
  rw [encodeChar, toNat_ofNat (by omega), if_neg (by omega), if_neg (by omega), if_neg (by omega),
    ofNat_byte (show _ = lead.toNat by omega),
    continuation_eq (show 0x80 ≤ byte.toNat by omega) (by omega) (by omega),
    continuation_eq hthird hthird' (by omega), continuation_eq hlast hlast' (by omega)]
  rfl

end Lead

/-- Every first byte is a character, begins a sound sequence, or cannot stand there. -/
theorem first_follows (byte : UInt8) : (first byte).Follows [byte] := by
  unfold first
  dsimp only
  split_ifs with hascii hinvalid htwo hshortest hsurrogates hthree hlowest hfour hhighest
  · rw [Step.Follows, encodeChar, toNat_ofNat (by omega), if_pos hascii, ofNat_byte rfl]
  · trivial
  · exact ⟨sound_of_two (by omega) (by omega), rfl⟩
  · exact ⟨sound_of_three (by omega) (by omega) (by omega) (by omega) (by omega) (by omega), rfl⟩
  · exact ⟨sound_of_three (by omega) (by omega) (by omega) (by omega) (by omega) (by omega), rfl⟩
  · exact ⟨sound_of_three (by omega) (by omega) (by omega) (by omega) (by omega) (by omega), rfl⟩
  · exact ⟨sound_of_four (by omega) (by omega) (by omega) (by omega) (by omega) (by omega), rfl⟩
  · exact ⟨sound_of_four (by omega) (by omega) (by omega) (by omega) (by omega) (by omega), rfl⟩
  · exact ⟨sound_of_four (by omega) (by omega) (by omega) (by omega) (by omega) (by omega), rfl⟩
  · trivial

/-- A byte in the range of a sound sequence ends it, or begins one that is sound as well. -/
theorem Sequence.Sound.next_follows {sequence : Sequence} (h : sequence.Sound) (byte : UInt8) :
    (sequence.next byte).Follows (sequence.seen ++ [byte]) := by
  have hmissing := h.unfinished
  unfold Sequence.next
  dsimp only
  split
  · rename_i hrange
    split
    · exact h.encodes byte [] (by simp only [List.length_nil]; omega) hrange.1 hrange.2
        (fun other hmem => absurd hmem List.not_mem_nil)
    · refine ⟨⟨by dsimp only; omega, ?_⟩, rfl⟩
      intro next rest hlength hnext hnext' hrest
      dsimp only at hlength hnext hnext' ⊢
      rw [List.append_assoc, List.singleton_append]
      refine h.encodes byte (next :: rest) (by simp only [List.length_cons]; omega) hrange.1
        hrange.2 ?_
      rintro other (_ | ⟨_, hmem⟩)
      · exact ⟨hnext, hnext'⟩
      · exact hrest other hmem
  · split
    · rename_i hsurrogate
      exact ⟨trivial, by rw [hsurrogate.1]; rfl⟩
    · trivial

theorem Pending.Sound.next_follows {pending : Pending} (h : pending.Sound) (byte : UInt8) :
    (pending.next byte).Follows (pending.seen ++ [byte]) := by
  cases pending with
  | nothing => exact first_follows byte
  | begun sequence => exact Sequence.Sound.next_follows h byte
  | surrogate second => trivial

/-- Nothing is lost: the bytes kept before and those fed are those of the text and those kept after. -/
theorem encode_of_feed {pending last : Pending} {position : Nat} {bytes : List UInt8}
    {text : List Char} (hsound : pending.Sound) (h : feed pending position bytes = .ok (text, last)) :
    pending.seen ++ bytes = encode text ++ last.seen := by
  induction bytes generalizing pending position text with
  | nil =>
      cases h
      exact List.append_nil _
  | cons byte rest ih =>
      have hfollows := hsound.next_follows byte
      rw [feed] at h
      cases hnext : pending.next byte with
      | fault reason => simp [hnext] at h
      | pending next =>
          simp only [hnext, Step.Follows] at h hfollows
          have hrest := ih hfollows.1 h
          rw [hfollows.2, List.append_assoc] at hrest
          exact hrest
      | character c =>
          simp only [hnext, Step.Follows] at h hfollows
          cases hrest : feed .nothing (position + 1) rest with
          | error fault => simp [hrest] at h
          | ok decoded =>
              obtain ⟨others, after⟩ := decoded
              simp only [hrest, Except.ok.injEq, Prod.mk.injEq] at h
              obtain ⟨rfl, rfl⟩ := h
              have hothers : rest = encode others ++ after.seen :=
                ih (show Pending.nothing.Sound from trivial) hrest
              have hcons : encode (c :: others) = encodeChar c ++ encode others := List.flatMap_cons
              rw [hothers, hcons, hfollows]
              simp only [List.append_assoc, List.cons_append, List.nil_append]

/-- Bytes are decoded exactly if they are the encoding of a text, and give that text. -/
theorem decode_eq_ok_iff {bytes : List UInt8} {text : List Char} :
    decode bytes = .ok text ↔ bytes = encode text := by
  constructor
  · intro h
    rw [decode] at h
    cases hfeed : feed .nothing 0 bytes with
    | error fault => simp [hfeed] at h
    | ok decoded =>
        obtain ⟨decoded, last⟩ := decoded
        simp only [hfeed] at h
        have hall := encode_of_feed (show Pending.nothing.Sound from trivial) hfeed
        cases last with
        | nothing =>
            cases h
            exact hall.trans (List.append_nil _)
        | begun sequence => simp [Pending.atEnd] at h
        | surrogate second => simp [Pending.atEnd] at h
  · rintro rfl
    exact decode_encode text

theorem encode_injective {text other : List Char} (h : encode text = encode other) : text = other := by
  have hdecoded := decode_encode text
  rw [h, decode_encode] at hdecoded
  exact (Except.ok.inj hdecoded).symm

end SessionMounts.Utf8
