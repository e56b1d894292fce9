import FeedMonitor.Identity
import FeedMonitor.Proofs.Disk
import FeedMonitor.Proofs.Json.Shape

/-!
A kept user id survives restarts.

Once an identity has been resolved without a failure, its file holds the user id, and every later
session that resolves the same path has that id and leaves the disk as it is. Naming the user of a
session has no part in this.
-/

namespace FeedMonitor.Identity

/-! ### What a file holds -/

/-- The draft of a kept identity after the members of some names. -/
def noted (userId : String) (names : List String) : Option String :=
  if userIdName ∈ names then some userId else none

theorem notes_keep (userId : String) :
    shape.Notes (noted userId) [(userIdName, .string userId)] := by
  intro name value member names new rest ended
  obtain ⟨rfl, rfl⟩ := Prod.mk.inj (List.mem_singleton.mp member)
  have slot : shape.find? userIdName = some () := rfl
  have free : noted userId names = none := if_neg new
  have done : noted userId (userIdName :: names) = some userId := if_pos List.mem_cons_self
  rw [Json.Shape.readMember, slot, free, done]
  simp only [Json.readColon_cons, shape, bind, Except.bind, Json.expectString_write]
  rfl

theorem parse_keep (userId : String) :
    shape.parse none (String.ofList (Json.Utf8.decode (keep userId))) = .ok (some userId) := by
  have distinct : ([(userIdName, Json.string userId)].map Prod.fst).Nodup := by simp
  have complete : shape.isComplete
      (noted userId ([(userIdName, Json.string userId)].map Prod.fst).reverse) = true := rfl
  have read := Json.Shape.parse_writeFields (List.cons_ne_nil _ _) (notes_keep userId) distinct complete
  rw [keep, Json.Utf8.decode_encode]
  exact read

theorem kept?_eq_some {bytes : List UInt8} {userId : String} :
    kept? bytes = some userId ↔
      shape.parse none (String.ofList (Json.Utf8.decode bytes)) = .ok (some userId) ∧
        (Text.trim userId).isEmpty = false := by
  rw [kept?]
  cases shape.parse none (String.ofList (Json.Utf8.decode bytes)) with
  | error fault => simp [Except.toOption]
  | ok draft =>
    cases draft with
    | none => simp [Except.toOption]
    | some text =>
      simp only [Except.toOption, Option.join_some, Option.bind_eq_bind, Option.bind_some,
        Option.pure_def, Except.ok.injEq, Option.some.injEq]
      split
      · rename_i blank
        constructor
        · intro known
          cases known
        · rintro ⟨rfl, filled⟩
          rw [blank] at filled
          cases filled
      · rename_i filled
        constructor
        · intro known
          cases known
          exact ⟨rfl, Bool.eq_false_iff.mpr filled⟩
        · rintro ⟨rfl, -⟩
          rfl

theorem kept?_keep_anonymous (unique : String) :
    kept? (keep (anonymous unique)) = some (anonymous unique) := by
  have letter : 'a' ∈ (anonymous unique).toList := by simp [anonymous]
  refine kept?_eq_some.mpr ⟨parse_keep _, ?_⟩
  rw [Text.isEmpty_trim, List.all_eq_false]
  exact ⟨'a', letter, by decide⟩

/-! ### One session -/

variable {disk : Disk} {path unique userId : String} {bytes : List UInt8}

/-- There is no file, or it holds no user id. -/
def Vacant (disk : Disk) (path : String) : Prop :=
  disk.read (.ofText path) = .error .missing ∨
    ∃ bytes, disk.read (.ofText path) = .ok bytes ∧ kept? bytes = none

/-- A session that has to do without a file: it cannot be read, or it holds no user id and cannot
be written. -/
inductive FallsBack (disk : Disk) (path unique : String) : Prop
  | unread (fault : Disk.Fault) (failed : disk.read (.ofText path) = .error fault)
      (present : fault ≠ .missing)
  | unwritten (fault : Disk.Fault) (vacant : Vacant disk path)
      (failed : (disk.place (.ofText path) (keep (anonymous unique))).1 = .error fault)

theorem loadOrKeep_of_kept (held : disk.read (.ofText path) = .ok bytes)
    (known : kept? bytes = some userId) (other : String) :
    loadOrKeep disk path other =
      (.ok userId, disk, [Journal.telemetry .debug "Reusing persisted identity"]) := by
  simp only [loadOrKeep, held, known]

theorem loadOrKeep_of_fault {fault : Disk.Fault} (failed : disk.read (.ofText path) = .error fault)
    (present : fault ≠ .missing) (userId : String) :
    loadOrKeep disk path userId = (.error fault, disk, []) := by
  cases fault with
  | missing => exact absurd rfl present
  | _ => simp only [loadOrKeep, failed]

theorem loadOrKeep_of_vacant (vacant : Vacant disk path) (userId : String) :
    ∃ journal, loadOrKeep disk path userId =
      ((disk.place (.ofText path) (keep userId)).1.map fun _ => userId,
        (disk.place (.ofText path) (keep userId)).2, journal) := by
  rcases vacant with missing | ⟨bytes, held, unknown⟩
  · simp only [loadOrKeep, missing]
    rcases disk.place (.ofText path) (keep userId) with ⟨_ | _, next⟩
    · exact ⟨_, rfl⟩
    · exact ⟨_, rfl⟩
  · simp only [loadOrKeep, held, unknown]
    rcases disk.place (.ofText path) (keep userId) with ⟨_ | _, next⟩
    · exact ⟨_, rfl⟩
    · exact ⟨_, rfl⟩

theorem resolve_of_kept (held : disk.read (.ofText path) = .ok bytes)
    (known : kept? bytes = some userId) (sessionId unique : String) :
    resolve disk (some path) sessionId unique = (⟨sessionId, userId, some path⟩, disk,
      [Journal.telemetry .debug "Reusing persisted identity"]) := by
  simp only [resolve, loadOrKeep_of_kept held known]

theorem resolve_of_fault {fault : Disk.Fault} (failed : disk.read (.ofText path) = .error fault)
    (present : fault ≠ .missing) (sessionId unique : String) :
    ∃ journal, resolve disk (some path) sessionId unique =
      (⟨sessionId, anonymous unique, some path⟩, disk, journal) := by
  simp only [resolve, loadOrKeep_of_fault failed present]
  exact ⟨_, rfl⟩

theorem resolve_of_vacant (vacant : Vacant disk path) (sessionId unique : String) :
    ∃ journal, resolve disk (some path) sessionId unique =
      (⟨sessionId, anonymous unique, some path⟩,
        (disk.place (.ofText path) (keep (anonymous unique))).2, journal) := by
  obtain ⟨journal, kept⟩ := loadOrKeep_of_vacant vacant (anonymous unique)
  simp only [resolve, kept]
  -- The user is the same whether or not the file could be written.
  cases (disk.place (.ofText path) (keep (anonymous unique))).1 with
  | error fault => exact ⟨_, rfl⟩
  | ok => exact ⟨_, rfl⟩

theorem kept_or_vacant_or_fault (disk : Disk) (path : String) :
    (∃ bytes userId, disk.read (.ofText path) = .ok bytes ∧ kept? bytes = some userId) ∨
      Vacant disk path ∨ ∃ fault, disk.read (.ofText path) = .error fault ∧ fault ≠ .missing := by
  cases held : disk.read (.ofText path) with
  | ok bytes =>
    cases known : kept? bytes with
    | some userId => exact .inl ⟨bytes, userId, rfl, known⟩
    | none => exact .inr (.inl (.inr ⟨bytes, held, known⟩))
  | error fault =>
    by_cases missing : fault = .missing
    · exact .inr (.inl (.inl (missing ▸ held)))
    · exact .inr (.inr ⟨fault, rfl, missing⟩)

theorem fallsBack_iff :
    FallsBack disk path unique ↔ ∃ fault, (loadOrKeep disk path (anonymous unique)).1 = .error fault := by
  constructor
  · rintro (⟨fault, failed, present⟩ | ⟨fault, vacant, failed⟩)
    · rw [loadOrKeep_of_fault failed present]
      exact ⟨fault, rfl⟩
    · obtain ⟨journal, stored⟩ := loadOrKeep_of_vacant vacant (anonymous unique)
      rw [stored, failed]
      exact ⟨fault, rfl⟩
  · rintro ⟨fault, failing⟩
    rcases kept_or_vacant_or_fault disk path with ⟨bytes, userId, held, known⟩ | vacant |
      ⟨other, failed, present⟩
    · rw [loadOrKeep_of_kept held known] at failing
      cases failing
    · obtain ⟨journal, stored⟩ := loadOrKeep_of_vacant vacant (anonymous unique)
      rw [stored] at failing
      cases placed : (disk.place (.ofText path) (keep (anonymous unique))).1 with
      | error fault => exact .unwritten fault vacant placed
      | ok =>
        rw [placed] at failing
        cases failing
    · exact .unread other failed present

theorem not_fallsBack_of_kept (held : disk.read (.ofText path) = .ok bytes)
    (known : kept? bytes = some userId) (unique : String) : ¬FallsBack disk path unique := by
  intro alone
  obtain ⟨fault, failing⟩ := fallsBack_iff.mp alone
  rw [loadOrKeep_of_kept held known] at failing
  cases failing

/-! ### Any number of sessions -/

/-- What comes after a session has begun. -/
inductive Happening
  /-- A new session of the same path. -/
  | start (sessionId unique : String)
  | rename (userId : String)
  /-- Something else is done to the disk. -/
  | change (disk : Disk)

structure Machine where
  disk : Disk
  identity : Identity

namespace Machine

def begin (disk : Disk) (path sessionId unique : String) : Machine :=
  ⟨(resolve disk (some path) sessionId unique).2.1, (resolve disk (some path) sessionId unique).1⟩

def take (path : String) (machine : Machine) : Happening → Machine
  | .start sessionId unique => begin machine.disk path sessionId unique
  | .rename userId => ⟨machine.disk, machine.identity.withUserId userId⟩
  | .change disk => ⟨disk, machine.identity⟩

def after (path : String) (machine : Machine) (happenings : List Happening) : Machine :=
  happenings.foldl (take path) machine

/-- Only the sessions themselves touch the file. -/
def Undisturbed (path : String) (machine : Machine) : List Happening → Prop
  | [] => True
  | happening :: rest =>
    (∀ disk, happening = .change disk →
      disk.read (.ofText path) = machine.disk.read (.ofText path)) ∧
      Undisturbed path (machine.take path happening) rest

variable {machine : Machine}

theorem read_take (held : machine.disk.read (.ofText path) = .ok bytes)
    (known : kept? bytes = some userId) {happening : Happening}
    (undisturbed : ∀ disk, happening = .change disk →
      disk.read (.ofText path) = machine.disk.read (.ofText path)) :
    (machine.take path happening).disk.read (.ofText path) = .ok bytes := by
  cases happening with
  | start sessionId unique => simpa only [take, begin, resolve_of_kept held known] using held
  | rename userId => exact held
  | change disk => exact (undisturbed disk rfl).trans held

theorem read_after (held : machine.disk.read (.ofText path) = .ok bytes)
    (known : kept? bytes = some userId) {happenings : List Happening}
    (undisturbed : machine.Undisturbed path happenings) :
    (machine.after path happenings).disk.read (.ofText path) = .ok bytes := by
  -- The bytes never change, so each new session reads the user id that the first one left.
  induction happenings generalizing machine with
  | nil => exact held
  | cons happening rest ih =>
    obtain ⟨first, others⟩ := undisturbed
    exact ih (read_take held known first) others

end Machine

/-! ### The life of a user id -/

/-- What has become of a disk and a session that resolved a path on it. -/
structure Outlives (disk : Disk) (path unique : String) (machine : Machine) : Prop where
  kept : ¬FallsBack disk path unique → ∃ bytes,
    machine.disk.read (.ofText path) = .ok bytes ∧
    shape.parse none (String.ofList (Json.Utf8.decode bytes)) = .ok (some machine.identity.userId) ∧
    (Text.trim machine.identity.userId).isEmpty = false ∧
    ∀ happenings, machine.Undisturbed path happenings →
      let later := machine.after path happenings
      later.disk.read (.ofText path) = .ok bytes ∧
      ∀ sessionId unique, later.take path (.start sessionId unique) =
        ⟨later.disk, ⟨sessionId, machine.identity.userId, some path⟩⟩
  /-- A user id that was there already. -/
  reused : ∀ bytes userId, disk.read (.ofText path) = .ok bytes → kept? bytes = some userId →
    ¬FallsBack disk path unique ∧ machine.disk = disk ∧ machine.identity.userId = userId
  unread : ∀ fault, disk.read (.ofText path) = .error fault → fault ≠ .missing →
    machine.disk = disk ∧ machine.identity.userId = anonymous unique
  /-- A user id of one session. -/
  lost : FallsBack disk path unique → machine.identity.userId = anonymous unique

theorem kept_of_not_fallsBack (lasting : ¬FallsBack disk path unique) (sessionId : String) :
    ∃ bytes, (Machine.begin disk path sessionId unique).disk.read (.ofText path) = .ok bytes ∧
      kept? bytes = some (Machine.begin disk path sessionId unique).identity.userId := by
  rcases kept_or_vacant_or_fault disk path with ⟨bytes, userId, held, known⟩ | vacant |
    ⟨fault, failed, present⟩
  · rw [Machine.begin, resolve_of_kept held known]
    exact ⟨bytes, held, known⟩
  · obtain ⟨journal, resolved⟩ := resolve_of_vacant vacant sessionId unique
    rw [Machine.begin, resolved]
    -- Whatever was there holds no user id, so the file is the one that was written just now.
    cases placed : (disk.place (.ofText path) (keep (anonymous unique))).1 with
    | error fault => exact absurd (.unwritten fault vacant placed) lasting
    | ok =>
      have written := Disk.read_place (Prod.ext placed rfl)
      exact ⟨keep (anonymous unique), written, kept?_keep_anonymous unique⟩
  · exact absurd (.unread fault failed present) lasting

theorem survives_restarts (disk : Disk) (path sessionId unique : String) :
    Outlives disk path unique (Machine.begin disk path sessionId unique) where
  kept lasting := by
    obtain ⟨bytes, held, known⟩ := kept_of_not_fallsBack lasting sessionId
    obtain ⟨parsed, filled⟩ := kept?_eq_some.mp known
    refine ⟨bytes, held, parsed, filled, ?_⟩
    intro happenings undisturbed later
    have still : later.disk.read (.ofText path) = .ok bytes :=
      Machine.read_after held known undisturbed
    refine ⟨still, ?_⟩
    intro sessionId unique
    simp only [Machine.take, Machine.begin, resolve_of_kept still known]
  reused bytes userId held known := by
    have lasting := not_fallsBack_of_kept held known unique
    rw [Machine.begin, resolve_of_kept held known]
    exact ⟨lasting, rfl, rfl⟩
  unread fault failed present := by
    obtain ⟨journal, resolved⟩ := resolve_of_fault failed present sessionId unique
    rw [Machine.begin, resolved]
    exact ⟨rfl, rfl⟩
  lost alone := by
    rcases alone with ⟨fault, failed, present⟩ | ⟨fault, vacant, failed⟩
    · obtain ⟨journal, resolved⟩ := resolve_of_fault failed present sessionId unique
      rw [Machine.begin, resolved]
    · obtain ⟨journal, resolved⟩ := resolve_of_vacant vacant sessionId unique
      rw [Machine.begin, resolved]

/-- Directories are made on the way, and a name for the user is forgotten with the next session. -/
theorem survives_restarts_renamed :
    ¬FallsBack .empty "state/id.json" "1" ∧
    ((Machine.begin .empty "state/id.json" "first" "1").after "state/id.json"
      [.rename "trader", .start "second" "2", .rename "guest", .start "third" "3"]).identity =
        ⟨"third", "anon-1", some "state/id.json"⟩ := by
  have lasting : ¬FallsBack .empty "state/id.json" "1" := by
    rintro (⟨fault, failed, present⟩ | ⟨fault, vacant, failed⟩)
    · cases failed
      exact present rfl
    · cases failed
  obtain ⟨bytes, held, parsed, filled, later⟩ :=
    (survives_restarts .empty "state/id.json" "first" "1").kept lasting
  have undisturbed : (Machine.begin .empty "state/id.json" "first" "1").Undisturbed "state/id.json"
      [.rename "trader", .start "second" "2", .rename "guest"] := by
    simp [Machine.Undisturbed]
  obtain ⟨still, again⟩ := later _ undisturbed
  exact ⟨lasting, congrArg Machine.identity (again "third" "3")⟩

end FeedMonitor.Identity
