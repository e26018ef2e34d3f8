import IssueQuery.Proofs.Registers

namespace IssueQuery

/-! Changes that fail.

A file of settings is written once, when the whole of its new text is known.  So a change
that comes to nothing, because the file does not load or the changed settings cannot be
written, leaves each byte of the file where it was.
-/

/-- Whether a path leads to one file on a disk on which nothing goes wrong.  `file` is what
the file holds in a state of the disk, which need not be text. -/
structure Disk.Stores {State : Type} (disk : Disk (StateM State)) (path : String)
    (file : State → Option ByteArray) : Prop where
  missing {state : State} (absent : file state = none) :
    (disk.read path).run state = (.ok none, state)
  readable {state : State} {text : String} (held : file state = some text.toUTF8) :
    (disk.read path).run state = (.ok (some text), state)
  unreadable {state : State} {content : ByteArray} (held : file state = some content)
    (noText : ¬ content.IsValidUTF8) : ∃ detail, (disk.read path).run state = (.error detail, state)
  create (state : State) {directory : String} (above : Disk.directory? path = some directory) :
    ∃ next, (disk.createDirectory directory).run state = (.ok (), next) ∧ file next = file state
  write (state : State) (text : String) :
    ∃ next, (disk.write path text).run state = (.ok (), next) ∧ file next = some text.toUTF8

/-- A disk with room for one file of bytes, to which every path leads. -/
def Disk.byteCell : Disk (StateM (Option ByteArray)) where
  read _ := do
    match ← get with
    | none => return .ok none
    | some content =>
        match String.fromUTF8? content with
        | none => return .error "stream did not contain valid UTF-8"
        | some text => return .ok (some text)
  createDirectory _ := return .ok ()
  write _ text := do
    set (some text.toUTF8)
    return .ok ()

theorem Disk.byteCell_stores (path : String) : Disk.byteCell.Stores path id where
  missing absent := by
    obtain rfl := absent
    rfl
  readable {state text} held := by
    obtain rfl := held
    have decoded : String.fromUTF8? text.toByteArray = some text := dif_pos text.isValidUTF8
    simp [byteCell, decoded]
    rfl
  unreadable {state content} held noText := by
    obtain rfl := held
    have undecoded : String.fromUTF8? content = none := dif_neg noText
    refine ⟨"stream did not contain valid UTF-8", ?_⟩
    simp [byteCell, undecoded]
    rfl
  create state _ _ := ⟨state, rfl, rfl⟩
  write _ text := ⟨some text.toUTF8, rfl, rfl⟩

namespace Toml

theorem mem_of_writeEntries? {entries : Entries} {written : List Char}
    (writes : writeEntries? entries = some written) {entry : String × Toml}
    (listed : entry ∈ entries) : ∃ text, writeValue? entry.2 = some text := by
  induction entries generalizing written with
  | nil => cases listed
  | cons first rest ih =>
      obtain ⟨name, value⟩ := first
      rw [writeEntries?] at writes
      split at writes
      · rename_i line lines lineWritten linesWritten
        rcases List.mem_cons.mp listed with rfl | later
        · obtain ⟨text, valueWritten, -⟩ := Option.map_eq_some_iff.mp lineWritten
          exact ⟨text, valueWritten⟩
        · exact ih linesWritten later
      · cases writes

theorem lt_of_writeValue?_integer {number : Nat} {written : List Char}
    (writes : writeValue? (.integer number) = some written) : number < Nat.pow 2 63 := by
  rw [writeValue?] at writes
  split at writes
  · rename_i fits
    simp only [isInteger64, Bool.and_eq_true, decide_eq_true_eq] at fits
    have limit : Int.pow 2 63 = (Nat.pow 2 63 : Nat) := rfl
    rw [limit] at fits
    exact Int.ofNat_lt.mp fits.2
  · cases writes

end Toml

namespace Settings

theorem mem_entries_of_mem_members {settings : Settings} {name : String} {value : Toml}
    (listed : (name, some value) ∈ settings.members) : (name, value) ∈ settings.entries := by
  rw [entries_eq]
  exact List.mem_filterMap.mpr ⟨_, listed, rfl⟩

theorem fits_of_toText? {settings : Settings} {text : String}
    (written : settings.toText? = some text) : settings.Fits := by
  obtain ⟨lines, entriesWritten, -⟩ := Option.map_eq_some_iff.mp written
  constructor
  · intro id isSet
    have listed : ("active_board", some (Toml.integer id.toNat)) ∈ settings.members := by
      simp [members, isSet]
    obtain ⟨digits, writes⟩ :=
      Toml.mem_of_writeEntries? entriesWritten (mem_entries_of_mem_members listed)
    exact Toml.lt_of_writeValue?_integer writes
  · intro seconds isSet
    have listed : ("timeout_secs", some (Toml.integer seconds.toNat)) ∈ settings.members := by
      simp [members, isSet]
    obtain ⟨digits, writes⟩ :=
      Toml.mem_of_writeEntries? entriesWritten (mem_entries_of_mem_members listed)
    exact Toml.lt_of_writeValue?_integer writes

variable {State : Type} {disk : Disk (StateM State)} {path : String}
  {file : State → Option ByteArray} {state : State} {settings : Settings}

theorem run_update_of_unloaded {change : Change} {error : SettingsError}
    (failed : (load disk path).run state = (.error error, state)) :
    (update disk path change).run state = (.error error, state) := by
  rw [update, run_bind_of failed]
  rfl

section Stored

variable (stores : disk.Stores path file)

include stores

/-- Loading changes nothing. -/
theorem exists_run_load (state : State) :
    ∃ outcome, (load disk path).run state = (outcome, state) := by
  cases held : file state with
  | none =>
      rw [load, run_bind_of (stores.missing held)]
      exact ⟨_, rfl⟩
  | some content =>
      by_cases isText : content.IsValidUTF8
      · have text : file state = some (String.fromUTF8 content isText).toUTF8 := held
        rw [load, run_bind_of (stores.readable text)]
        simp only
        split
        · exact ⟨_, rfl⟩
        · exact ⟨_, rfl⟩
      · obtain ⟨detail, failed⟩ := stores.unreadable held isText
        rw [load, run_bind_of failed]
        exact ⟨_, rfl⟩

theorem run_load_of_text {text : String} (held : file state = some text.toUTF8)
    (read : ofText? text = some settings) :
    (load disk path).run state = (.ok settings, state) := by
  rw [load, run_bind_of (stores.readable held)]
  simp only [read]
  rfl

theorem run_save_of_fits (fits : settings.Fits) (state : State) :
    ∃ next, (save disk path settings).run state = (.ok (), next) ∧
      (load disk path).run next = (.ok settings, next) := by
  obtain ⟨text, written, read⟩ := ofText?_toText? fits
  obtain ⟨prepared, prepares, -⟩ := run_prepare stores.create state
  obtain ⟨next, writes, holds⟩ := stores.write prepared text
  refine ⟨next, ?_, run_load_of_text stores holds read⟩
  rw [save, run_bind_of prepares]
  simp only [written]
  rw [run_bind_of writes]
  rfl

/-- The text is made before the file is touched. -/
theorem run_save_of_not_fits (tooLarge : ¬ settings.Fits) (state : State) :
    ∃ next, (save disk path settings).run state = (.error .outOfRange, next) ∧
      file next = file state := by
  have unwritten : settings.toText? = none := by
    cases written : settings.toText? with
    | none => rfl
    | some text => exact absurd (fits_of_toText? written) tooLarge
  obtain ⟨prepared, prepares, kept⟩ := run_prepare stores.create state
  refine ⟨prepared, ?_, kept⟩
  rw [save, run_bind_of prepares]
  simp only [unwritten]
  rfl

variable {change : Change}

theorem run_update_of_fits (loaded : (load disk path).run state = (.ok settings, state))
    (fits : (settings.apply change).Fits) :
    ∃ next, (update disk path change).run state = (.ok (settings.apply change), next) ∧
      (load disk path).run next = (.ok (settings.apply change), next) := by
  obtain ⟨next, saves, reloaded⟩ := run_save_of_fits stores fits state
  refine ⟨next, ?_, reloaded⟩
  rw [update, run_bind_of loaded]
  simp only
  rw [run_bind_of saves]
  rfl

theorem run_update_of_not_fits (loaded : (load disk path).run state = (.ok settings, state))
    (tooLarge : ¬ (settings.apply change).Fits) :
    ∃ next, (update disk path change).run state = (.error .outOfRange, next) ∧
      file next = file state := by
  obtain ⟨next, fails, kept⟩ := run_save_of_not_fits stores tooLarge state
  refine ⟨next, ?_, kept⟩
  rw [update, run_bind_of loaded]
  simp only
  rw [run_bind_of fails]
  rfl

/-- Whatever bytes a file of settings holds, a change of it succeeds exactly if they load and
the changed settings can be written.  If it fails, the file has the bytes that it had, or is
still missing; if it succeeds, the file loads to the settings that were returned. -/
theorem failed_change_leaves_file (state : State) (change : Change) :
    (∀ error, ((update disk path change).run state).1 = .error error →
      file ((update disk path change).run state).2 = file state) ∧
    (∀ settings, ((update disk path change).run state).1 = .ok settings →
      ((load disk path).run ((update disk path change).run state).2).1 = .ok settings) ∧
    (∀ error, ((load disk path).run state).1 = .error error →
      ((update disk path change).run state).1 = .error error) ∧
    ∀ settings, ((load disk path).run state).1 = .ok settings →
      ((settings.apply change).Fits →
        ((update disk path change).run state).1 = .ok (settings.apply change)) ∧
      (¬ (settings.apply change).Fits →
        ((update disk path change).run state).1 = .error .outOfRange) := by
  obtain ⟨outcome, loads⟩ := exists_run_load stores state
  cases outcome with
  | error cause =>
      have fails : (update disk path change).run state = (.error cause, state) :=
        run_update_of_unloaded loads
      simp [loads, fails]
  | ok before =>
      by_cases fits : (before.apply change).Fits
      · obtain ⟨after, succeeds, reloads⟩ := run_update_of_fits stores loads fits
        simp [loads, succeeds, fits, reloads]
      · obtain ⟨after, fails, kept⟩ := run_update_of_not_fits stores loads fits
        simp [loads, fails, fits, kept]

end Stored

/-- A byte that is in no text. -/
def scrambled : ByteArray := ⟨#[0x61, 0xFF]⟩

def negativeBoard : String := "active_project = 'A'\nactive_board = -1\n"

def greatestTimeout : String := "timeout_secs = 9223372036854775807 # for ever\n"

def greatestNumbers : Settings where
  board := some 9223372036854775807
  timeout := some 9223372036854775807

theorem greatestNumbers_fit : greatestNumbers.Fits := by
  constructor
  · intro id isSet
    obtain rfl := Option.some.inj isSet
    decide
  · intro seconds isSet
    obtain rfl := Option.some.inj isSet
    decide

/-- Changes of bytes that are no text, of a number below zero, to a number that is too great,
and to the greatest. -/
theorem scrambled_and_overfull_files_left :
    Disk.byteCell.Stores "a/b.toml" id ∧
      (update Disk.byteCell "a/b.toml" (.project "B")).run (some scrambled) =
        (.error (.unreadable "a/b.toml" "stream did not contain valid UTF-8"), some scrambled) ∧
      (update Disk.byteCell "a/b.toml" (.project "B")).run (some negativeBoard.toUTF8) =
        (.error (.malformed "a/b.toml"), some negativeBoard.toUTF8) ∧
      (update Disk.byteCell "a/b.toml" (.board 9223372036854775808)).run none =
        (.error .outOfRange, none) ∧
      ((update Disk.byteCell "a/b.toml" (.board 9223372036854775807)).run
        (some greatestTimeout.toUTF8)).1 = .ok greatestNumbers ∧
      ((load Disk.byteCell "a/b.toml").run
        ((update Disk.byteCell "a/b.toml" (.board 9223372036854775807)).run
          (some greatestTimeout.toUTF8)).2).1 = .ok greatestNumbers := by
  have stores := Disk.byteCell_stores "a/b.toml"
  refine ⟨stores, ?_, ?_, ?_, ?_⟩
  · have noText : String.fromUTF8? scrambled = none := by decide +kernel
    have loads : ((load Disk.byteCell "a/b.toml").run (some scrambled)).1 =
        .error (.unreadable "a/b.toml" "stream did not contain valid UTF-8") := by
      simp [load, Disk.byteCell, noText]
      rfl
    obtain ⟨left, -, fails, -⟩ := failed_change_leaves_file stores (some scrambled) (.project "B")
    exact Prod.ext (fails _ loads) (left _ (fails _ loads))
  · have noSettings : ofText? negativeBoard = none := by decide +kernel
    have answers : (Disk.byteCell.read "a/b.toml").run (some negativeBoard.toUTF8) =
        (.ok (some negativeBoard), some negativeBoard.toUTF8) := stores.readable rfl
    have loads : ((load Disk.byteCell "a/b.toml").run (some negativeBoard.toUTF8)).1 =
        .error (.malformed "a/b.toml") := by
      rw [load, run_bind_of answers]
      simp only [noSettings]
      rfl
    obtain ⟨left, -, fails, -⟩ :=
      failed_change_leaves_file stores (some negativeBoard.toUTF8) (.project "B")
    exact Prod.ext (fails _ loads) (left _ (fails _ loads))
  · have tooLarge : ¬ (({} : Settings).apply (.board 9223372036854775808)).Fits := by
      intro fits
      have small : (9223372036854775808 : UInt64).toNat < Nat.pow 2 63 := fits.board _ rfl
      exact absurd small (by decide)
    obtain ⟨left, -, -, changes⟩ :=
      failed_change_leaves_file stores none (.board 9223372036854775808)
    have fails := (changes {} rfl).2 tooLarge
    exact Prod.ext fails (left _ fails)
  · have read : ofText? greatestTimeout = some { timeout := some 9223372036854775807 } := by
      decide +kernel
    have held : id (some greatestTimeout.toUTF8) = some greatestTimeout.toUTF8 := rfl
    have loads := congrArg Prod.fst (run_load_of_text stores held read)
    have applied : ({ timeout := some 9223372036854775807 } : Settings).apply
        (.board 9223372036854775807) = greatestNumbers := rfl
    obtain ⟨-, holds, -, changes⟩ :=
      failed_change_leaves_file stores (some greatestTimeout.toUTF8) (.board 9223372036854775807)
    have succeeds := (changes _ loads).1
    rw [applied] at succeeds
    exact ⟨succeeds greatestNumbers_fit, holds _ (succeeds greatestNumbers_fit)⟩

end Settings

end IssueQuery
