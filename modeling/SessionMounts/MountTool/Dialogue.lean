import SessionMounts.FileSystem.Basic

/-!
The output of a mounting tool as a dialogue: the prompts in it, one after another, and how it ends.
-/

namespace SessionMounts.MountTool

/-! ### Prompts

The prompts by which a mounting tool asks for credentials: a word, for a user or a domain a
default in brackets if there is one, and a colon with a blank. The default may hold any
characters but the closing bracket. -/

/-- What a prompt asks for. -/
inductive Prompt where
  | user
  | domain
  | password
  deriving DecidableEq, Repr

namespace Prompt

/-- The word that a prompt begins with. -/
def word : Prompt → List Char
  | .user => "User".toList
  | .domain => "Domain".toList
  | .password => "Password".toList

/-- Whether a default may follow the word. -/
def mayOffer : Prompt → Bool
  | .user => true
  | .domain => true
  | .password => false

/-- What follows a given beginning of a text, if it begins like that. -/
def after? : List Char → List Char → Option (List Char)
  | [], text => some text
  | _ :: _, [] => none
  | c :: beginning, d :: text => if c = d then after? beginning text else none

/-- What follows the next closing bracket, if there is one. -/
def afterBracket? : List Char → Option (List Char)
  | [] => none
  | c :: rest => if c = ']' then some rest else afterBracket? rest

/-- What follows the end of a prompt, a colon and a blank. -/
def afterColon? (text : List Char) : Option (List Char) :=
  after? [':', ' '] text

/-- What follows a prompt at the beginning of a text, if there is a complete one. -/
def rest? (prompt : Prompt) (text : List Char) : Option (List Char) :=
  match after? prompt.word text with
  | none => none
  | some text =>
    match if prompt.mayOffer then after? [' ', '['] text else none with
    | none => afterColon? text
    | some offer => (afterBracket? offer).bind afterColon?

/-- The prompt at the beginning of a text and what follows it. -/
def atFront? (text : List Char) : Option (Prompt × List Char) :=
  match rest? .user text, rest? .domain text, rest? .password text with
  | some rest, _, _ => some (.user, rest)
  | none, some rest, _ => some (.domain, rest)
  | none, none, some rest => some (.password, rest)
  | none, none, none => none

/-- A prompt in a text: what stands before it, what it asks for, the prompt itself, and what
follows it. -/
structure Found where
  before : List Char
  prompt : Prompt
  shown : List Char
  after : List Char
  deriving DecidableEq, Repr

/-- The first complete prompt in a text. -/
def find? : List Char → Option Found
  | [] => none
  | c :: rest =>
    match atFront? (c :: rest) with
    | some (prompt, after) =>
      some ⟨[], prompt, (c :: rest).take ((c :: rest).length - after.length), after⟩
    | none => (find? rest).map fun found => { found with before := c :: found.before }

/-- What follows a given beginning is shorter by its length. -/
theorem length_of_after? {beginning text rest : List Char} (h : after? beginning text = some rest) :
    beginning.length + rest.length = text.length := by
  fun_induction after? beginning text with
  | case1 text => simp_all
  | case2 => simp at h
  | case3 beginning d text ih => simp [← ih h]; omega
  | case4 => simp at h

theorem length_of_afterBracket? {text rest : List Char} (h : afterBracket? text = some rest) :
    rest.length < text.length := by
  fun_induction afterBracket? text with
  | case1 => simp at h
  | case2 rest' => simp_all
  | case3 c rest' _ ih => simp only [List.length_cons]; have := ih h; omega

/-- A prompt takes at least six characters. -/
theorem length_of_rest? {prompt : Prompt} {text rest : List Char}
    (h : prompt.rest? text = some rest) : 6 + rest.length ≤ text.length := by
  unfold rest? at h
  split at h
  · simp at h
  · rename_i tail hword
    have hw := length_of_after? hword
    have hlen : 4 ≤ prompt.word.length := by cases prompt <;> decide
    split at h
    · have := length_of_after? h
      simp only [List.length_cons, List.length_nil] at this
      omega
    · rename_i offer hoffer
      obtain ⟨inner, hinner, hcolon⟩ := Option.bind_eq_some_iff.1 h
      have h1 := length_of_after? hcolon
      have h2 := length_of_afterBracket? hinner
      have h3 : 2 + offer.length = tail.length := by
        split at hoffer
        · exact length_of_after? hoffer
        · simp at hoffer
      simp only [List.length_cons, List.length_nil] at h1
      omega

theorem length_of_atFront? {prompt : Prompt} {text rest : List Char}
    (h : atFront? text = some (prompt, rest)) : 6 + rest.length ≤ text.length := by
  unfold atFront? at h
  split at h <;> simp only [Option.some.injEq, Prod.mk.injEq, reduceCtorEq] at h <;>
    obtain ⟨rfl, rfl⟩ := h <;> exact length_of_rest? (by assumption)

/-- What follows a prompt is shorter than the text by at least six characters. -/
theorem length_of_find? {text : List Char} {found : Found} (h : find? text = some found) :
    6 + found.after.length ≤ text.length := by
  fun_induction find? text generalizing found with
  | case1 => simp at h
  | case2 c rest prompt after hfront =>
    simp only [Option.some.injEq] at h
    subst h
    exact length_of_atFront? hfront
  | case3 c rest hfront ih =>
    obtain ⟨inner, hinner, rfl⟩ := Option.map_eq_some_iff.1 h
    have := ih hinner
    simp only [List.length_cons]
    omega

end Prompt

/-! ### Dialogues

The output arrives in pieces of bytes. What has arrived is searched for the first complete prompt; when
there is none, one more piece is read and all of it is searched again. -/

/-- What one read of the output gives: bytes, or a fault of reading. An end of file that the system
reports as an error (EIO, when the terminal of the child is gone) is the end of the reads and not
such a fault. -/
inductive Read where
  | bytes (piece : List UInt8)
  | fault (error : SystemError)
  deriving DecidableEq, Repr

/-- Why a mounting tool gives no result: it cannot be started, reading its output fails, or its
output is no text. -/
inductive Trouble where
  | unavailable (text : String)
  | system (error : SystemError)
  | undecodable (fault : Utf8.Fault)
  deriving DecidableEq, Repr

def Trouble.message : Trouble → String
  | .unavailable text => text
  | .system error => error.message
  | .undecodable fault => fault.message

/-- The prompts of an output in their order, each with the text since the one before it and the
number of reads still to come, and the end: the text after the last prompt, or the trouble that
stopped the reading. -/
inductive Dialogue where
  | prompt (kind : Prompt) (before shown : List Char) (unread : Nat) (next : Dialogue)
  | ended (before : List Char)
  | broken (trouble : Trouble) (unread : Nat)
  deriving DecidableEq, Repr

namespace Dialogue

/-- The dialogue of the reads to come, when some text has arrived and not been used and the
decoder has kept the beginning of a sequence. A sequence that is unfinished at the end of the
output is dropped. -/
def ofReads (pending : Utf8.Pending) (buffer : List Char) (reads : List Read) : Dialogue :=
  match _found : Prompt.find? buffer with
  | some found =>
    .prompt found.prompt found.before found.shown reads.length
      (ofReads pending found.after reads)
  | none =>
    match reads with
    | [] => .ended buffer
    | .fault error :: rest => .broken (.system error) rest.length
    | .bytes piece :: rest =>
      match Utf8.decodeNext pending piece with
      | .error fault => .broken (.undecodable fault) rest.length
      | .ok (text, pending) => ofReads pending (buffer ++ text) rest
termination_by (reads.length, buffer.length)
decreasing_by
  · have := Prompt.length_of_find? _found
    exact Prod.Lex.right _ (by omega)
  · exact Prod.Lex.left _ _ (by simp)

def ofOutput (reads : List Read) : Dialogue :=
  ofReads .nothing [] reads

end Dialogue

end SessionMounts.MountTool
