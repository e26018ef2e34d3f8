import IssueQuery.Disk.Cell
import IssueQuery.Proofs.Documents
import IssueQuery.Settings.File

namespace IssueQuery

/-! Settings as registers.

What is saved is loaded again, whatever characters the texts in it have.  A file of
settings therefore behaves as the record it stands for, in which each change sets
members of its own.
-/

namespace Settings

/-- The members of settings by the names of their entries. -/
def members (settings : Settings) : List (String × Option Toml) :=
  [("instance_url", settings.address.map .string),
    ("email", settings.email.map .string),
    ("instance_type", settings.deployment.map fun deployment => .string deployment.name),
    ("auth_type", settings.auth.map fun auth => .string auth.name),
    ("active_project", settings.project.map .string),
    ("active_board", settings.board.map fun id => .integer id.toNat),
    ("timeout_secs", settings.timeout.map fun seconds => .integer seconds.toNat)]

def memberNames : List String :=
  ["instance_url", "email", "instance_type", "auth_type", "active_project", "active_board",
    "timeout_secs"]

def present (members : List (String × Option Toml)) : Toml.Entries :=
  members.filterMap fun (name, value) => value.map (name, ·)

theorem entries_eq (settings : Settings) : settings.entries = present settings.members := rfl

section Present

variable {members : List (String × Option Toml)}

theorem present_cons (name : String) (value : Option Toml) :
    present ((name, value) :: members) = (value.map (name, ·)).toList ++ present members := by
  cases value <;> rfl

theorem mem_present {entry : String × Toml} (listed : entry ∈ present members) :
    (entry.1, some entry.2) ∈ members := by
  obtain ⟨⟨name, value⟩, member, given⟩ := List.mem_filterMap.mp listed
  obtain ⟨content, rfl, rfl⟩ := Option.map_eq_some_iff.mp given
  exact member

theorem names_present_sublist (members : List (String × Option Toml)) :
    ((present members).map (·.1)).Sublist (members.map (·.1)) := by
  induction members with
  | nil => exact .slnil
  | cons member rest ih =>
      obtain ⟨name, value⟩ := member
      cases value with
      | none => exact ih.cons name
      | some content => exact ih.cons_cons name

theorem lookup_present {name : String} {value : Option Toml}
    (distinct : (members.map (·.1)).Nodup) (listed : (name, value) ∈ members) :
    (present members).lookup name = value := by
  induction members with
  | nil => cases listed
  | cons member rest ih =>
      obtain ⟨head, content⟩ := member
      obtain ⟨fresh, others⟩ := List.nodup_cons.mp distinct
      rw [present_cons]
      rcases List.mem_cons.mp listed with same | later
      · cases same
        cases value with
        | some content => simp
        | none =>
            refine List.lookup_eq_none_iff.mpr fun entry within => ?_
            have named := (names_present_sublist rest).mem (List.mem_map_of_mem within)
            refine bne_iff_ne.mpr fun same => fresh ?_
            exact same ▸ named
      · have different : name ≠ head := fun same =>
          fresh (List.mem_map.mpr ⟨_, later, same⟩)
        rw [List.lookup_append, ih others later]
        cases content <;> simp [Json.lookup_cons_if, different]

theorem entry?_present {α : Type} (decode : Toml → Option α) {encode : α → Toml} {name : String}
    {content : Option α} (distinct : (members.map (·.1)).Nodup)
    (listed : (name, content.map encode) ∈ members)
    (back : ∀ value, decode (encode value) = some value) :
    entry? (present members) name decode = some content := by
  rw [ entry?, lookup_present distinct listed]
  cases content with
  | none => rfl
  | some value => exact congrArg (Option.map some) (back value)

end Present

/-- Whether the numbers in settings fit into 64 bits with sign, as documents have them. -/
structure Fits (settings : Settings) : Prop where
  board : ∀ id, settings.board = some id → id.toNat < Nat.pow 2 63
  timeout : ∀ seconds, settings.timeout = some seconds → seconds.toNat < Nat.pow 2 63

def Change.Fits : Change → Prop
  | .board id => id.toNat < Nat.pow 2 63
  | .project _ => True
  | .service _ _ _ _ => True

theorem Fits.apply {settings : Settings} (fits : settings.Fits) {change : Change}
    (changeFits : change.Fits) : (settings.apply change).Fits := by
  cases change with
  | project key => exact ⟨fits.board, fits.timeout⟩
  | board id =>
      refine ⟨?_, fits.timeout⟩
      rintro _ ⟨⟩
      exact changeFits
  | service address email deployment auth => exact ⟨fits.board, fits.timeout⟩

theorem bare_of_mem_memberNames {name : String} (listed : name ∈ memberNames) : Toml.Bare name := by
  have all : (memberNames.all fun name =>
      !name.toList.isEmpty && name.toList.all Toml.isBareChar) = true := by decide
  have bare := List.all_eq_true.mp all name listed
  simpa [Toml.Bare] using bare

theorem distinct_members (settings : Settings) : (settings.members.map (·.1)).Nodup := by
  have distinct : memberNames.Nodup := by decide
  exact distinct

theorem bare_of_mem_entries {settings : Settings} {entry : String × Toml}
    (listed : entry ∈ settings.entries) : Toml.Bare entry.1 :=
  bare_of_mem_memberNames
    (List.mem_map_of_mem (mem_present listed) : entry.1 ∈ settings.members.map (·.1))

theorem lined_of_mem_entries {settings : Settings} (fits : settings.Fits) {entry : String × Toml}
    (listed : entry ∈ settings.entries) : entry.2.Lined := by
  have member := mem_present listed
  obtain ⟨name, value⟩ := entry
  simp only [List.mem_cons, Prod.mk.injEq, List.not_mem_nil, or_false] at member
  rcases member with member | member | member | member | member | member | member
  all_goals
    obtain ⟨-, given⟩ := member
    obtain ⟨content, present, rfl⟩ := Option.map_eq_some_iff.mp given.symm
  · exact .string content
  · exact .string content
  · exact .string content.name
  · exact .string content.name
  · exact .string content
  · exact .integer (fits.board content present)
  · exact .integer (fits.timeout content present)

theorem distinct_entries (settings : Settings) : (settings.entries.map (·.1)).Nodup :=
  (names_present_sublist settings.members).nodup settings.distinct_members

theorem Deployment.ofName?_name (deployment : Deployment) :
    Deployment.ofName? deployment.name = some deployment := by
  cases deployment <;> rfl

theorem AuthScheme.ofName?_name (scheme : AuthScheme) :
    AuthScheme.ofName? scheme.name = some scheme := by
  cases scheme <;> rfl

theorem word?_toNat (word : UInt64) : word? (.integer word.toNat) = some word := by
  have read : word? (.integer word.toNat) =
      if word.toNat < UInt64.size then some word.toNat.toUInt64 else none := rfl
  rw [read, if_pos word.toNat_lt]
  simp

theorem ofEntries?_entries (settings : Settings) : ofEntries? settings.entries = some settings := by
  have distinct := settings.distinct_members
  have address := entry?_present text? distinct (.head _) fun _ => rfl
  have email := entry?_present text? distinct (.tail _ (.head _)) fun _ => rfl
  have deployment := entry?_present (choice? Deployment.ofName?) distinct
    (.tail _ (.tail _ (.head _))) Deployment.ofName?_name
  have auth := entry?_present (choice? AuthScheme.ofName?) distinct
    (.tail _ (.tail _ (.tail _ (.head _)))) AuthScheme.ofName?_name
  have project := entry?_present text? distinct
    (.tail _ (.tail _ (.tail _ (.tail _ (.head _))))) fun _ => rfl
  have board := entry?_present word? distinct
    (.tail _ (.tail _ (.tail _ (.tail _ (.tail _ (.head _)))))) word?_toNat
  have timeout := entry?_present word? distinct
    (.tail _ (.tail _ (.tail _ (.tail _ (.tail _ (.tail _ (.head _))))))) word?_toNat
  rw [entries_eq]
  simp only [ofEntries?, address, email, deployment, auth, project, board, timeout]
  rfl

theorem ofText?_toText? {settings : Settings} (fits : settings.Fits) :
    ∃ text, settings.toText? = some text ∧ ofText? text = some settings := by
  obtain ⟨text, written, read⟩ := Toml.ofText?_toText? (fun _ => bare_of_mem_entries)
    (fun _ => lined_of_mem_entries fits) settings.distinct_entries
  refine ⟨text, written, ?_⟩
  rw [ofText?, read]
  exact settings.ofEntries?_entries

end Settings

/-- Whether a path leads to one file on a disk, which can be read and written and holds
what was written last.  `file` is its text in a state of the disk. -/
structure Disk.Keeps {State : Type} (disk : Disk (StateM State)) (path : String)
    (file : State → Option String) : Prop where
  read (state : State) : (disk.read path).run state = (.ok (file state), state)
  create (state : State) {directory : String} (above : Disk.directory? path = some directory) :
    ∃ next, (disk.createDirectory directory).run state = (.ok (), next) ∧ file next = file state
  write (state : State) (text : String) :
    ∃ next, (disk.write path text).run state = (.ok (), next) ∧ file next = some text

theorem Disk.cell_keeps (path : String) : Disk.cell.Keeps path id where
  read _ := rfl
  create state _ _ := ⟨state, rfl, rfl⟩
  write _ text := ⟨some text, rfl, rfl⟩

namespace Settings

/-- What a file says, or what is missing says if there is none. -/
def ofFile (path : String) : Option String → Except SettingsError Settings
  | none => .ok {}
  | some text =>
      match ofText? text with
      | none => .error (.malformed path)
      | some settings => .ok settings

theorem run_bind_of {State α β : Type} {first : StateM State α} {following : α → StateM State β}
    {state next : State} {result : α} (ran : first.run state = (result, next)) :
    (first >>= following).run state = (following result).run next := by
  rw [StateT.run_bind, ran]
  rfl

/-- Making the directory of a file changes nothing in it, whatever the disk keeps of files. -/
theorem run_prepare {State Content : Type} {disk : Disk (StateM State)} {path : String}
    {file : State → Content}
    (create : ∀ (state : State) {directory : String}, Disk.directory? path = some directory →
      ∃ next, (disk.createDirectory directory).run state = (.ok (), next) ∧
        file next = file state) (state : State) :
    ∃ next, (prepare disk path).run state = (.ok (), next) ∧ file next = file state := by
  rw [prepare]
  split
  · exact ⟨state, rfl, rfl⟩
  · rename_i directory above
    obtain ⟨next, created, kept⟩ := create state above
    exact ⟨next, by rw [run_bind_of created]; rfl, kept⟩

section Files

variable {State : Type} {disk : Disk (StateM State)} {path : String}
  {file : State → Option String} (keeps : disk.Keeps path file)

include keeps

theorem run_load (state : State) :
    (load disk path).run state = (ofFile path (file state), state) := by
  rw [load, run_bind_of (keeps.read state)]
  cases file state with
  | none => rfl
  | some text =>
      simp only [ofFile]
      cases ofText? text <;> rfl

/-- Settings whose numbers fit are saved, and are then what the file says. -/
theorem run_save (state : State) {settings : Settings} (fits : settings.Fits) :
    ∃ next, (save disk path settings).run state = (.ok (), next) ∧
      ofFile path (file next) = .ok settings := by
  obtain ⟨prepared, prepares, -⟩ := run_prepare keeps.create state
  obtain ⟨text, written, read⟩ := ofText?_toText? fits
  obtain ⟨next, writes, holds⟩ := keeps.write prepared text
  refine ⟨next, ?_, ?_⟩
  · rw [save, run_bind_of prepares]
    simp only [written]
    rw [run_bind_of writes]
    rfl
  · rw [holds]
    simp only [ofFile, read]

theorem run_update {state : State} {settings : Settings} {change : Change}
    (loaded : ofFile path (file state) = .ok settings) (fits : (settings.apply change).Fits) :
    ∃ next, (update disk path change).run state = (.ok (settings.apply change), next) ∧
      ofFile path (file next) = .ok (settings.apply change) := by
  obtain ⟨next, saves, holds⟩ := run_save keeps state fits
  refine ⟨next, ?_, holds⟩
  rw [update, run_bind_of (run_load keeps state), loaded]
  simp only
  rw [run_bind_of saves]
  rfl

theorem run_updates {state : State} {settings : Settings} {changes : List Change}
    (loaded : ofFile path (file state) = .ok settings) (fits : settings.Fits)
    (changesFit : ∀ change ∈ changes, change.Fits) :
    ∃ final, (changes.mapM (update disk path)).run state =
        ((changes.scanl apply settings).tail.map .ok, final) ∧
      ofFile path (file final) = .ok (changes.foldl apply settings) := by
  -- What one change saves is what the next one loads.
  induction changes generalizing state settings with
  | nil => exact ⟨state, rfl, loaded⟩
  | cons change rest ih =>
      obtain ⟨first, others⟩ := List.forall_mem_cons.mp changesFit
      have applied := fits.apply first
      obtain ⟨next, updates, holds⟩ := run_update keeps loaded applied
      obtain ⟨final, updatesOthers, kept⟩ := ih holds applied others
      refine ⟨final, ?_, kept⟩
      have answers : rest.scanl apply (settings.apply change) =
          settings.apply change :: (rest.scanl apply (settings.apply change)).tail := by
        cases rest with
        | nil => rfl
        | cons second others => rw [List.scanl_cons, List.tail_cons]
      rw [List.mapM_cons, run_bind_of updates, run_bind_of updatesOthers, List.scanl_cons,
        List.tail_cons, answers]
      rfl

end Files

/-- The service to ask and how one is known to it, which are set together. -/
structure Account where
  address : Option String
  email : Option String
  deployment : Option Deployment
  auth : Option AuthScheme

/-- What is set together, apart from all else. -/
inductive Register where
  | account
  | project
  | board
deriving DecidableEq

namespace Change

def register : Change → Register
  | .project _ => .project
  | .board _ => .board
  | .service _ _ _ _ => .account

def project? : Change → Option (Option String)
  | .project key => some (some (Text.trim key))
  | _ => none

def board? : Change → Option (Option UInt64)
  | .board id => some (some id)
  | _ => none

def account? : Change → Option Account
  | .service address email deployment auth =>
      some ⟨some (Client.dropSlashes (Text.trim address)), email, deployment, auth⟩
  | _ => none

end Change

/-- What the last change that gives a value gives, or else what was there before. -/
def lastGiven {α : Type} (given? : Change → Option α) (before : α) (changes : List Change) : α :=
  (changes.filterMap given?).getLast?.getD before

/-- Settings of which each register holds what was last given to it. -/
def lastWritten (settings : Settings) (changes : List Change) : Settings :=
  let account := lastGiven Change.account?
    ⟨settings.address, settings.email, settings.deployment, settings.auth⟩ changes
  { address := account.address
    email := account.email
    deployment := account.deployment
    auth := account.auth
    project := lastGiven Change.project? settings.project changes
    board := lastGiven Change.board? settings.board changes
    timeout := settings.timeout }

theorem lastGiven_cons {α : Type} (given? : Change → Option α) (before : α) (change : Change)
    (rest : List Change) :
    lastGiven given? before (change :: rest) =
      lastGiven given? ((given? change).getD before) rest := by
  rw [lastGiven, lastGiven, List.filterMap_cons]
  cases given? change with
  | none => rfl
  | some value => simp [List.getLast?_cons]

theorem foldl_apply_eq (settings : Settings) (changes : List Change) :
    changes.foldl apply settings = settings.lastWritten changes := by
  induction changes generalizing settings with
  | nil => rfl
  | cons change rest ih =>
      rw [List.foldl_cons, ih]
      simp only [lastWritten, lastGiven_cons]
      cases change <;> rfl

/-- Changes of other registers do not matter to what one register is last given. -/
theorem lastGiven_filter {α : Type} {given? : Change → Option α} {register : Register}
    (alone : ∀ change, change.register ≠ register → given? change = none) (before : α)
    (changes : List Change) :
    lastGiven given? before (changes.filter (·.register = register)) =
      lastGiven given? before changes := by
  have same : (changes.filter (·.register = register)).filterMap given? =
      changes.filterMap given? := by
    rw [List.filterMap_filter]
    congr 1
    funext change
    by_cases here : change.register = register
    · simp [here]
    · simp [here, alone change here]
  rw [lastGiven, same, lastGiven]

theorem lastWritten_congr (settings : Settings) {changes others : List Change}
    (same : ∀ register, others.filter (·.register = register) =
      changes.filter (·.register = register)) :
    settings.lastWritten others = settings.lastWritten changes := by
  have agrees {α : Type} (given? : Change → Option α) (register : Register)
      (alone : ∀ change, change.register ≠ register → given? change = none) (before : α) :
      lastGiven given? before others = lastGiven given? before changes := by
    rw [← lastGiven_filter alone, same register, lastGiven_filter alone]
  have account := agrees Change.account? .account fun
    | .project _, _ => rfl
    | .board _, _ => rfl
    | .service _ _ _ _, other => absurd rfl other
  have project := agrees Change.project? .project fun
    | .project _, other => absurd rfl other
    | .board _, _ => rfl
    | .service _ _ _ _, _ => rfl
  have board := agrees Change.board? .board fun
    | .project _, _ => rfl
    | .board _, other => absurd rfl other
    | .service _ _ _ _, _ => rfl
  simp only [lastWritten, account, project, board]

/-- A file of settings behaves as three registers.  Changes, one after another, all
succeed; loading then gives the settings in which each register holds what it was given
last; and how changes of different registers follow each other does not matter. -/
theorem kept_as_registers {State : Type} {disk : Disk (StateM State)} {path : String}
    {file : State → Option String} (keeps : disk.Keeps path file) {state : State}
    {initial : Settings} (loaded : ((load disk path).run state).1 = .ok initial)
    (fits : initial.Fits) {changes : List Change} (changesFit : ∀ change ∈ changes, change.Fits) :
    ∃ final,
      (changes.mapM (update disk path)).run state =
        ((changes.scanl apply initial).tail.map .ok, final) ∧
      (load disk path).run final = (.ok (changes.foldl apply initial), final) ∧
      changes.foldl apply initial = initial.lastWritten changes ∧
      ∀ others : List Change, (∀ register, others.filter (·.register = register) =
          changes.filter (·.register = register)) →
        ((load disk path).run ((others.mapM (update disk path)).run state).2).1 =
          .ok (changes.foldl apply initial) := by
  rw [run_load keeps] at loaded
  obtain ⟨final, updates, holds⟩ := run_updates keeps loaded fits changesFit
  refine ⟨final, updates, ?_, foldl_apply_eq initial changes, ?_⟩
  · rw [run_load keeps, holds]
  · intro others same
    have othersFit : ∀ change ∈ others, change.Fits := by
      intro change member
      have listed : change ∈ others.filter (·.register = change.register) := by simpa using member
      rw [same] at listed
      exact changesFit change (List.mem_filter.mp listed).1
    obtain ⟨otherFinal, otherUpdates, otherHolds⟩ := run_updates keeps loaded fits othersFit
    rw [otherUpdates, run_load keeps, otherHolds, foldl_apply_eq, foldl_apply_eq,
      lastWritten_congr initial same]

/-- A file that was written by hand, with a number of base 16 and a comment. -/
def handwritten : String := "timeout_secs = 0x1F # slow\nactive_board = 7\n"

/-- Changes with texts that have marks, line breaks and other controls in them. -/
def tangledChanges : List Change :=
  [.project " A\"B'''\\\"\"\"\n\x00'' ",
    .service "http://x//" (some "''\"\"\"") none (some .bearer),
    .board 9223372036854775807,
    .service "\tx" none (some .server) none,
    .project "'''\n\"\"\"\\\""]

theorem tangledChanges_kept :
    ((load Disk.cell "a/b.toml").run (some handwritten)).1 =
        .ok { board := some 7, timeout := some 31 } ∧
      Fits { board := some 7, timeout := some 31 } ∧
      (∀ change ∈ tangledChanges, change.Fits) ∧
      ∃ final,
        (tangledChanges.mapM (update Disk.cell "a/b.toml")).run (some handwritten) =
          ((tangledChanges.scanl apply { board := some 7, timeout := some 31 }).tail.map .ok,
            final) ∧
        (load Disk.cell "a/b.toml").run final =
          (.ok {
            address := some "x"
            deployment := some .server
            project := some "'''\n\"\"\"\\\""
            board := some 9223372036854775807
            timeout := some 31 }, final) := by
  have read : ofText? handwritten = some { board := some 7, timeout := some 31 } := by
    decide +kernel
  have keeps := Disk.cell_keeps "a/b.toml"
  have loaded : ((load Disk.cell "a/b.toml").run (some handwritten)).1 =
      .ok { board := some 7, timeout := some 31 } := by
    rw [run_load keeps]
    simp only [id, ofFile, read]
  have fits : Fits { board := some 7, timeout := some 31 } :=
    ⟨by rintro _ ⟨⟩; decide, by rintro _ ⟨⟩; decide⟩
  have changesFit : ∀ change ∈ tangledChanges, change.Fits := by
    simp [tangledChanges, Change.Fits]
  have folded : tangledChanges.foldl apply { board := some 7, timeout := some 31 } = {
      address := some "x"
      deployment := some .server
      project := some "'''\n\"\"\"\\\""
      board := some 9223372036854775807
      timeout := some 31 } := by
    decide +kernel
  obtain ⟨final, updates, reloaded, -⟩ := kept_as_registers keeps loaded fits changesFit
  rw [folded] at reloaded
  exact ⟨loaded, fits, changesFit, final, updates, reloaded⟩

end Settings

end IssueQuery
