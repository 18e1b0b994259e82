import SessionMounts.Mounting.Scripted
import SessionMounts.Proofs.Mounting.Reports
import SessionMounts.Proofs.MountsFile.Format
import SessionMounts.Proofs.MountsFile.Handling

/-!
The locations of a mounts file. Its entries stand on the lines that are not blank, one on each and in the order
of the lines (`standsOn_parse`). A line is blank if nothing is left of it without the carriage return at its
end, and the tag is taken away only after that, so a line with the tag alone lists an empty location; no other
line does. The requests that are made for a mounts file are those of its first entries, so an empty location
reaches a provider from such a line only (`no_location_is_empty_unless_tag_stands_alone`).
-/

namespace SessionMounts

namespace Entry

variable {entry : Entry} {line part content : List Char}

/-- A line without anything on it, apart from a carriage return at its end. -/
def Blank (line : List Char) : Prop := line = [] ∨ line = ['\r']

instance : DecidablePred Blank := fun line =>
  inferInstanceAs (Decidable (line = [] ∨ line = ['\r']))

/-- A line is that of an entry which can be written, with a carriage return at its end or, if it has none of
its own there, without one. -/
structure StandsOn (line : List Char) (entry : Entry) : Prop where
  writable : entry.Writable
  ended : line = entry.toLine ∧ Unreturned entry.toLine ∨ line = entry.toLine ++ ['\r']

/-- Some line holds the tag and nothing else, apart from a carriage return at its end. -/
def TagAlone (content : List Char) : Prop :=
  tag ∈ Text.splitOn '\n' content ∨ tag ++ ['\r'] ∈ Text.splitOn '\n' content

theorem dropReturn_eq_iff :
    dropReturn line = part ↔ line = part ∧ Unreturned part ∨ line = part ++ ['\r'] := by
  constructor
  · rintro rfl
    by_cases hreturned : line.getLast? = some '\r'
    · obtain ⟨front, rfl⟩ := List.getLast?_eq_some_iff.mp hreturned
      rw [dropReturn_concat]
      exact .inr rfl
    · rw [dropReturn_of_unreturned hreturned]
      exact .inl ⟨rfl, hreturned⟩
  · rintro (⟨rfl, hunreturned⟩ | rfl)
    · exact dropReturn_of_unreturned hunreturned
    · exact dropReturn_concat part

theorem dropReturn_eq_nil_iff : dropReturn line = [] ↔ Blank line := by
  rw [dropReturn_eq_iff, Blank, List.nil_append, Unreturned]
  simp

theorem standsOn_iff : StandsOn line entry ↔ entry.Writable ∧ dropReturn line = entry.toLine := by
  rw [dropReturn_eq_iff]
  exact ⟨fun h => ⟨h.writable, h.ended⟩, fun h => ⟨h.1, h.2⟩⟩

theorem standsOn_ofLine (hsingle : '\n' ∉ line) (hlisted : ¬Blank line) :
    StandsOn line (ofLine (dropReturn line)) := by
  refine standsOn_iff.mpr ⟨?_, (toLine_ofLine _).symm⟩
  exact writable_ofLine (mt dropReturn_eq_nil_iff.mp hlisted)
    fun hmem => hsingle (mem_of_mem_dropReturn hmem)

theorem parse_eq_map (content : List Char) :
    parse content = ((Text.splitOn '\n' content).filter fun line => ¬Blank line).map
      fun line => ofLine (dropReturn line) := by
  have hlisted : ((fun line : List Char => !line.isEmpty) ∘ dropReturn) =
      fun line => decide ¬Blank line := by
    funext line
    simp only [Function.comp_apply, ← dropReturn_eq_nil_iff]
    cases dropReturn line <;> simp
  rw [parse, listedLines, List.filter_map, List.map_map, hlisted]
  rfl

/-- The entries stand on the lines that are not blank, one on each and in their order. -/
theorem standsOn_parse (content : List Char) :
    List.Forall₂ StandsOn ((Text.splitOn '\n' content).filter fun line => ¬Blank line)
      (parse content) := by
  rw [parse_eq_map, List.forall₂_map_right_iff, List.forall₂_same]
  intro line hmem
  obtain ⟨hline, hlisted⟩ := List.mem_filter.mp hmem
  exact standsOn_ofLine (Text.not_mem_of_mem_splitOn hline) (of_decide_eq_true hlisted)

theorem mem_parse_iff :
    entry ∈ parse content ↔ ∃ line ∈ Text.splitOn '\n' content, StandsOn line entry := by
  rw [parse_eq_map, List.mem_map]
  constructor
  · rintro ⟨line, hmem, rfl⟩
    obtain ⟨hline, hlisted⟩ := List.mem_filter.mp hmem
    exact ⟨line, hline, standsOn_ofLine (Text.not_mem_of_mem_splitOn hline)
      (of_decide_eq_true hlisted)⟩
  · rintro ⟨line, hline, hstands⟩
    obtain ⟨hwritable, hentry⟩ := standsOn_iff.mp hstands
    have hlisted : ¬Blank line := by
      rw [← dropReturn_eq_nil_iff, hentry]
      exact hwritable.nonblank
    refine ⟨line, List.mem_filter.mpr ⟨hline, decide_eq_true hlisted⟩, ?_⟩
    rw [hentry]
    exact hwritable.ofLine_toLine

theorem Writable.feed_notMem_location (h : entry.Writable) : '\n' ∉ entry.location.toList := by
  intro hmem
  apply h.single
  rw [toLine]
  split
  · exact List.mem_append_right tag hmem
  · exact hmem

/-- Of the entries that can be written, only one has an empty location. -/
theorem Writable.location_eq_empty_iff (h : entry.Writable) :
    entry.location = "" ↔ entry = ⟨"", true⟩ := by
  obtain ⟨location, anonymous⟩ := entry
  constructor
  · rintro rfl
    cases anonymous with
    | true => rfl
    | false => exact absurd rfl h.nonblank
  · rintro ⟨⟩
    rfl

/-- An entry with an empty location is listed by a tag that stands alone, and by nothing else. -/
theorem location_ne_empty_iff (content : List Char) :
    (∀ entry ∈ parse content, entry.location ≠ "") ↔ ¬TagAlone content := by
  -- the one entry without a location that can be written, and its line is the tag
  let nowhere : Entry := ⟨"", true⟩
  have hwritable : nowhere.Writable := ⟨by decide, by decide, .inl rfl⟩
  have hunreturned : Unreturned nowhere.toLine := by
    rw [Unreturned]
    decide
  have hstands (line : List Char) : StandsOn line nowhere ↔ line = tag ∨ line = tag ++ ['\r'] := by
    rw [standsOn_iff, dropReturn_eq_iff]
    simp only [hwritable, hunreturned, true_and, and_true]
    rfl
  have hlisted : nowhere ∈ parse content ↔ TagAlone content := by
    rw [mem_parse_iff, TagAlone]
    simp only [hstands, and_or_left, exists_or, exists_eq_right]
  rw [← hlisted]
  constructor
  · exact fun hall hmem => hall nowhere hmem rfl
  · intro hnot entry hmem hempty
    rw [(writable_of_mem_parse hmem).location_eq_empty_iff.mp hempty] at hmem
    exact hnot hmem

end Entry

namespace Mounting

variable {σ : Type} {ticket verbose : Bool}

/-- The requests that are made among acts. -/
def requests (acts : List Act) : List Request :=
  acts.filterMap fun
    | .dispatched request => some request
    | _ => none

/-- No request is made for an empty location. -/
def Addressed (requests : List Request) : Prop :=
  ∀ request ∈ requests, request.entry.location ≠ ""

theorem requests_append (front back : List Act) :
    requests (front ++ back) = requests front ++ requests back :=
  List.filterMap_append

theorem requests_dispatched (made : List Request) : requests (made.map .dispatched) = made := by
  rw [requests, List.filterMap_map]
  exact List.filterMap_some

theorem requests_consumed (taken : List Completion) : requests (taken.map .consumed) = [] := by
  rw [requests, List.filterMap_map, List.filterMap_eq_nil_iff]
  exact fun _ _ => rfl

theorem addressed_fresh_iff (entries : List Entry) :
    Addressed (entries.map Request.fresh) ↔ ∀ entry ∈ entries, entry.location ≠ "" :=
  List.forall_mem_map

theorem Addressed.of_first {made all : List Request} (hall : Addressed all) (h : made <+: all) :
    Addressed made :=
  fun request hmem => hall request (h.subset hmem)

/-- The requests of the first entries are made, in their order. -/
theorem Provider.made_first (provider : Provider σ) (state : σ) (docket : Docket)
    (entries : List Entry) :
    (provider.dispatch ticket verbose state docket entries).made <+: entries.map Request.fresh := by
  induction entries generalizing state docket with
  | nil => exact List.prefix_refl []
  | cons entry rest ih =>
      rw [dispatch]
      cases hrefusal : (provider.request ticket verbose state docket entry).refusal with
      | some refusal => exact List.prefix_append [Request.fresh entry] (rest.map Request.fresh)
      | none => exact (List.prefix_cons_inj _).mpr (ih _ _)

theorem Provider.requests_mount (provider : Provider σ) (state : σ) (entries : List Entry) :
    requests (provider.mount ticket verbose state entries).acts =
      (provider.dispatch ticket verbose state {} entries).made := by
  cases entries with
  | nil => rfl
  | cons entry rest =>
      rw [mount]
      cases hrefusal : (provider.dispatch ticket verbose state {} (entry :: rest)).refusal with
      | some refusal => exact requests_dispatched _
      | none =>
          simp only [requests_append, requests_dispatched, requests_consumed, List.append_nil]

end Mounting

namespace MountsFile

open Mounting

variable {σ : Type} {files : FileSystem} {path : String} {content : List Char}

theorem requests_handle (verbose : Bool) (state : σ) (h : files.read path = .ok (Utf8.encode content))
    (mount : List Entry → Except Unavailable (Mounted σ)) :
    requests (handle verbose files path state mount).acts =
      if Entry.parse content = [] then []
      else match mount (Entry.parse content) with
        | .error _ => []
        | .ok mounted => requests mounted.acts := by
  have hread := read_of_text verbose h
  split
  · rename_i hnone
    rw [hnone] at hread
    rw [(handle_of_nothing hread).2.1]
    rfl
  · rename_i hne
    cases hmount : mount (Entry.parse content) with
    | error reason =>
        rw [(handle_of_unavailable hread hne hmount).2.1]
        rfl
    | ok mounted => rw [(handle_of_mounted hread hne hmount).2.1]

theorem requests_mountOnce (provider : Provider σ) (ticket verbose : Bool) (state : σ)
    (entries : List Entry) :
    requests (mountOnce provider ticket verbose state entries).acts =
      (provider.dispatch ticket verbose (provider.build state) {} entries).made := by
  rw [← provider.requests_mount, mountOnce]
  split
  · rfl
  · exact (requests_append (.built :: _) [.closed]).trans (List.append_nil _)

section Requests

variable (environment : Environment) (verbose : Bool) (state : σ)

/-- The requests made with a provider of the caller's. -/
theorem requests_mountUsing (provider : Provider σ) (h : files.read path = .ok (Utf8.encode content)) :
    requests (mountUsing provider environment verbose files path state).acts =
      (provider.dispatch environment.ticket verbose state {} (Entry.parse content)).made := by
  rw [mountUsing, requests_handle verbose state h]
  split
  · rename_i hnone
    rw [hnone]
    rfl
  · exact provider.requests_mount state (Entry.parse content)

/-- The requests made with a provider that is selected. -/
theorem requests_mountSelecting {backends : Backends σ} {given : Option String} {backend : Backend}
    {provider : Provider σ} (hselect : backends.select given environment = .ok (backend, provider))
    (h : files.read path = .ok (Utf8.encode content)) :
    requests (mountSelecting backends given environment verbose files path state).acts =
      (provider.dispatch environment.ticket verbose (provider.build state) {}
        (Entry.parse content)).made := by
  rw [mountSelecting, requests_handle verbose state h]
  simp only [hselect]
  split
  · rename_i hnone
    rw [hnone]
    rfl
  · exact requests_mountOnce provider environment.ticket verbose state (Entry.parse content)

/-- Without a provider to select no request is made. -/
theorem requests_mountSelecting_of_unavailable {backends : Backends σ} {given : Option String}
    {reason : Unavailable} (hselect : backends.select given environment = .error reason)
    (h : files.read path = .ok (Utf8.encode content)) :
    requests (mountSelecting backends given environment verbose files path state).acts = [] := by
  rw [mountSelecting, requests_handle verbose state h]
  simp only [hselect, ite_self]

end Requests

/-- No location is empty unless a tag stands alone on its line. The lines of a content are what is between its
line feeds. Its entries stand on the lines that are not blank, one on each and in their order, and no location
has a line feed. All locations are nonempty exactly if no line holds the tag and nothing else, apart from a
carriage return at its end. The requests made for a file with this content are those of its first entries,
with the provider of a caller or with a selected one, and for a file that is unreadable there are none. So
none has an empty location unless a tag stands alone; and if it does, and the provider accepts all
requests, one of them has. -/
theorem no_location_is_empty_unless_tag_stands_alone {σ : Type} (backends : Backends σ)
    (provider : Provider σ) (given : Option String) (environment : Environment) (verbose : Bool)
    (state : σ) (content : List Char) :
    let lines := Text.splitOn '\n' content
    let entries := Entry.parse content
    ['\n'].intercalate lines = content ∧ (∀ line ∈ lines, '\n' ∉ line) ∧
    List.Forall₂ Entry.StandsOn (lines.filter fun line => ¬Entry.Blank line) entries ∧
    (∀ entry ∈ entries, '\n' ∉ entry.location.toList) ∧
    ((∀ entry ∈ entries, entry.location ≠ "") ↔ ¬Entry.TagAlone content) ∧
    ∀ (files : FileSystem) (path : String),
      let used := requests (mountUsing provider environment verbose files path state).acts
      let selected :=
        requests (mountSelecting backends given environment verbose files path state).acts
      (files.Unreadable path → used = [] ∧ selected = []) ∧
      (files.read path = .ok (Utf8.encode content) →
        used <+: entries.map Request.fresh ∧ selected <+: entries.map Request.fresh ∧
        (¬Entry.TagAlone content → Addressed used ∧ Addressed selected) ∧
        ((provider.dispatch environment.ticket verbose state {} entries).refusal = none →
          (Addressed used ↔ ¬Entry.TagAlone content)) ∧
        ∀ backend chosen, backends.select given environment = .ok (backend, chosen) →
          (chosen.dispatch environment.ticket verbose (chosen.build state) {} entries).refusal =
            none → (Addressed selected ↔ ¬Entry.TagAlone content)) := by
  intro lines entries
  have hlocations := Entry.location_ne_empty_iff content
  have hfresh : Addressed (entries.map Request.fresh) ↔ ¬Entry.TagAlone content := by
    rw [addressed_fresh_iff]
    exact hlocations
  refine ⟨Text.intercalate_splitOn '\n' content, fun line => Text.not_mem_of_mem_splitOn,
    Entry.standsOn_parse content, ?_, hlocations, ?_⟩
  · exact fun entry hmem => (Entry.writable_of_mem_parse hmem).feed_notMem_location
  intro files path used selected
  refine ⟨?_, fun hread => ?_⟩
  · intro hunreadable
    constructor
    · exact congrArg requests (handle_of_unreadable verbose state _ hunreadable).1.1
    · exact congrArg requests (handle_of_unreadable verbose state _ hunreadable).1.1
  have hused := requests_mountUsing environment verbose state provider hread
  have husedFirst : used <+: entries.map Request.fresh := by
    rw [show used = _ from hused]
    exact provider.made_first state {} entries
  have hselectedFirst : selected <+: entries.map Request.fresh := by
    cases hselect : backends.select given environment with
    | error reason =>
        rw [show selected = _ from
          requests_mountSelecting_of_unavailable environment verbose state hselect hread]
        exact ⟨_, rfl⟩
    | ok found =>
        rw [show selected = _ from
          requests_mountSelecting environment verbose state hselect hread]
        exact found.2.made_first (found.2.build state) {} entries
  refine ⟨husedFirst, hselectedFirst, ?_, ?_, ?_⟩
  · intro halone
    have hall := hfresh.mpr halone
    exact ⟨hall.of_first husedFirst, hall.of_first hselectedFirst⟩
  · intro haccepted
    rw [show used = _ from hused, provider.made_eq haccepted]
    exact hfresh
  · intro backend chosen hselect haccepted
    rw [show selected = _ from requests_mountSelecting environment verbose state hselect hread,
      chosen.made_eq haccepted]
    exact hfresh

/-- A file system with a mounts file of some content. -/
def filesWith (content : List Char) : FileSystem where
  workingDirectory := [['w']]
  user := ⟨0, 0⟩
  nodes := [([['w'], ['m']], .file { content := Utf8.encode content, owner := ⟨0, 0⟩ })]

/-- Two entries among blank lines; the provider refuses the second. -/
theorem sample_locations_are_requested :
    let content := "[anonymous]smb://h/[anonymous]\r\n\r\n\nb\r".toList
    let plans : Scripted.State := { plans := [.serve [] .done, .refuse "no more"] }
    let handled := mountUsing Scripted.provider {} false (filesWith content) "m" plans
    Entry.parse content = [⟨"smb://h/[anonymous]", true⟩, ⟨"b", false⟩] ∧
      ¬Entry.TagAlone content ∧ Addressed (requests handled.acts) ∧
      handled.result = .error (.refused (.fault "no more")) := by
  intro content plans handled
  have hread : (filesWith content).read "m" = .ok (Utf8.encode content) := by decide +kernel
  have halone : ¬Entry.TagAlone content := by
    rw [Entry.TagAlone]
    decide +kernel
  obtain ⟨-, -, -, -, -, hrequests⟩ := no_location_is_empty_unless_tag_stands_alone
    ⟨none, Scripted.provider⟩ Scripted.provider none {} false plans content
  obtain ⟨-, -, haddressed, -⟩ := (hrequests (filesWith content) "m").2 hread
  exact ⟨by decide +kernel, halone, (haddressed halone).1, by decide +kernel⟩

/-- A tag alone on its line lists an entry with an empty location, and so does one before a carriage return;
both are requested of the provider. -/
theorem tag_alone_requests_empty_location :
    let content := "[anonymous]\n\n[anonymous]\r\n".toList
    let handled := mountSelecting ⟨none, Scripted.provider⟩ (some "cli") {} false
      (filesWith content) "m" { plans := [] }
    Entry.parse content = [⟨"", true⟩, ⟨"", true⟩] ∧
      (¬∀ entry ∈ Entry.parse content, entry.location ≠ "") ∧
      requests handled.acts = [Request.fresh ⟨"", true⟩, Request.fresh ⟨"", true⟩] ∧
      ¬Addressed (requests handled.acts) := by
  intro content handled
  have hparsed : Entry.parse content = [⟨"", true⟩, ⟨"", true⟩] := by decide +kernel
  have hrequested : requests handled.acts =
      [Request.fresh ⟨"", true⟩, Request.fresh ⟨"", true⟩] := by decide +kernel
  refine ⟨hparsed, ?_, hrequested, ?_⟩
  · rw [hparsed]
    exact fun hall => hall ⟨"", true⟩ List.mem_cons_self rfl
  · rw [hrequested]
    exact fun haddressed => haddressed (Request.fresh ⟨"", true⟩) List.mem_cons_self rfl

end MountsFile

end SessionMounts
