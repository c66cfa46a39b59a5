import Mathlib.Data.List.Basic
import Mathlib.Data.List.Lattice
import Mathlib.Data.Nat.Notation

/-!
# Transactions side by side

Transactions over one database under READ COMMITTED, statement by statement and in any
order.  A statement sees what is committed when it begins and what its own transaction
has found or written so far, which its task carries.  A lock waits while another
transaction holds it and is held until its transaction ends; what a transaction wrote
becomes visible in one piece when it commits.  An invariant of the database then holds in
every run once each statement keeps what its transaction relies on, and each commit what
every transaction relies on that holds none of its locks.
-/

namespace Lib.Interleaving

variable {Database Reading Task Lock : Type}

/-- What the next statement of a transaction comes to. -/
inductive Move (Database Task Lock : Type) where
  | goTo (task : Task)
  | lock (key : Lock) (task : Task)
  | commit (database : Database)
  | abort

/-- A transaction: what it is at, unless it has ended, and the locks it holds. -/
structure Thread (Task Lock : Type) where
  task : Option Task
  locks : List Lock := []
  deriving DecidableEq

/-- What is committed, and the transactions. -/
structure Server (Database Task Lock : Type) where
  database : Database
  threads : List (Thread Task Lock)

/-- What happens next: a statement, with what it reads of the world outside, or a
transaction rolled back. -/
inductive Action (Reading : Type) where
  | advance (i : ℕ) (now : Reading)
  | rollback (i : ℕ)
  deriving DecidableEq, Repr

/-- The statements of a program: from the database, the reading and the task. -/
abbrev Program (Database Reading Task Lock : Type) :=
  Database → Reading → Task → Move Database Task Lock

namespace Server

variable (server : Server Database Task Lock) (i : ℕ)

/-- Another transaction holds the lock. -/
def held [DecidableEq Lock] (key : Lock) : Bool :=
  (server.threads.eraseIdx i).any fun other => key ∈ other.locks

def move (thread : Thread Task Lock) : Server Database Task Lock :=
  { server with threads := server.threads.set i thread }

def taskOf : Option Task := server.threads[i]?.bind Thread.task

/-- The next statement of a transaction, unless it waits or has ended. -/
def advance [DecidableEq Lock] (program : Program Database Reading Task Lock) (now : Reading) :
    Option (Server Database Task Lock) :=
  match server.threads[i]? with
  | some ⟨some task, locks⟩ =>
      match program server.database now task with
      | .goTo next => some (server.move i ⟨some next, locks⟩)
      | .lock key next =>
          if server.held i key then none else some (server.move i ⟨some next, key :: locks⟩)
      | .commit database => some { server.move i ⟨none, []⟩ with database }
      | .abort => some (server.move i ⟨none, []⟩)
  | _ => none

def rollback : Server Database Task Lock := server.move i ⟨none, []⟩

/-- The statement meets a condition on the database, the reading and the task. -/
def Allows (allowed : Database → Reading → Task → Prop) (now : Reading) : Prop :=
  ∀ task ∈ server.taskOf i, allowed server.database now task

instance (allowed : Database → Reading → Task → Prop) [∀ database now task,
    Decidable (allowed database now task)] (now : Reading) : Decidable (server.Allows i allowed now) :=
  match found : server.taskOf i with
  | none => isTrue (by simp [Allows, found])
  | some task => decidable_of_iff (allowed server.database now task) (by simp [Allows, found])

end Server

section Runs

variable [DecidableEq Lock] (program : Program Database Reading Task Lock)

def act (server : Server Database Task Lock) : Action Reading → Option (Server Database Task Lock)
  | .advance i now => server.advance i program now
  | .rollback i => some (server.rollback i)

/-- A schedule of statements and rollbacks. -/
def runSchedule (server : Server Database Task Lock) (schedule : List (Action Reading)) :
    Option (Server Database Task Lock) :=
  schedule.foldlM (act program) server

variable (allowed : Database → Reading → Task → Prop)

/-- The servers that runs reach whose statements all meet a condition. -/
inductive Reaches (start : Server Database Task Lock) : Server Database Task Lock → Prop where
  | start : Reaches start start
  | advance {server next : Server Database Task Lock} {i : ℕ} {now : Reading} :
      Reaches start server → server.Allows i allowed now →
      server.advance i program now = some next → Reaches start next
  | rollback {server : Server Database Task Lock} (i : ℕ) :
      Reaches start server → Reaches start (server.rollback i)

variable [∀ database now task, Decidable (allowed database now task)]

/-- A schedule whose statements are checked against the condition. -/
def runAllowed (server : Server Database Task Lock) :
    List (Action Reading) → Option (Server Database Task Lock)
  | [] => some server
  | .advance i now :: rest =>
      if server.Allows i allowed now then
        (server.advance i program now).bind fun next => runAllowed next rest
      else none
  | .rollback i :: rest => runAllowed (server.rollback i) rest

theorem reaches_of_runAllowed {start server final : Server Database Task Lock}
    {schedule : List (Action Reading)} (reached : Reaches program allowed start server)
    (run : runAllowed program allowed server schedule = some final) :
    Reaches program allowed start final := by
  induction schedule generalizing server with
  | nil =>
      cases run
      exact reached
  | cons action rest ih =>
      cases action with
      | advance i now =>
          simp only [runAllowed] at run
          split at run
          · next meets =>
              cases moved : server.advance i program now with
              | none => simp [moved] at run
              | some next =>
                  rw [moved, Option.bind_some] at run
                  exact ih (reached.advance meets moved) run
          · cases run
      | rollback i => exact ih (reached.rollback i) run

end Runs

/-! ## Invariants -/

/-- What holds between statements: of the database, of what each transaction relies on
under its locks, and of the locks of any two. -/
structure Server.Ok (inv : Database → Prop) (relies : Database → List Lock → Task → Prop)
    (server : Server Database Task Lock) : Prop where
  database : inv server.database
  relies : ∀ (i : ℕ) (task : Task) (locks : List Lock),
    server.threads[i]? = some ⟨some task, locks⟩ → relies server.database locks task
  apart : ∀ (i j : ℕ) (thread other : Thread Task Lock), i ≠ j →
    server.threads[i]? = some thread → server.threads[j]? = some other →
    thread.locks.Disjoint other.locks

/-- What each statement has to keep. -/
structure Keeps (program : Program Database Reading Task Lock) (allowed : Database → Reading → Task → Prop)
    (inv : Database → Prop) (relies : Database → List Lock → Task → Prop) : Prop where
  goTo : ∀ {database now task locks next}, inv database → relies database locks task →
    allowed database now task → program database now task = .goTo next → relies database locks next
  lock : ∀ {database now task locks key next}, inv database → relies database locks task →
    allowed database now task → program database now task = .lock key next →
    relies database (key :: locks) next
  commit : ∀ {database now task locks later}, inv database → relies database locks task →
    allowed database now task → program database now task = .commit later → inv later
  others : ∀ {database now task locks later other held}, inv database →
    relies database locks task → allowed database now task →
    program database now task = .commit later → locks.Disjoint held →
    relies database held other → relies later held other

/-- Where a statement leads: the task it goes on with, under the locks then held, or the
database it leaves. -/
def Move.Leads (locks : List Lock) (goesOn : List Lock → Task → Prop) (leaves : Database → Prop) :
    Move Database Task Lock → Prop
  | .goTo next => goesOn locks next
  | .lock key next => goesOn (key :: locks) next
  | .commit later => leaves later
  | .abort => True

section Invariants

variable {program : Program Database Reading Task Lock} {allowed : Database → Reading → Task → Prop}
variable {inv : Database → Prop} {relies : Database → List Lock → Task → Prop}
variable {server next : Server Database Task Lock} {i : ℕ}

theorem Move.Leads.imp {move : Move Database Task Lock} {locks : List Lock}
    {goesOn goesOn' : List Lock → Task → Prop} {leaves leaves' : Database → Prop}
    (leads : move.Leads locks goesOn leaves) (goes : ∀ locks task, goesOn locks task → goesOn' locks task)
    (left : ∀ later, leaves later → leaves' later) : move.Leads locks goesOn' leaves' := by
  cases move with
  | goTo next => exact goes _ _ leads
  | lock key next => exact goes _ _ leads
  | commit later => exact left later leads
  | abort => trivial

/-- It is enough to follow each statement once. -/
theorem keeps_of_leads {leaves : Database → List Lock → Database → Prop}
    (leads : ∀ {database now task locks}, inv database → relies database locks task →
      allowed database now task → (program database now task).Leads locks (relies database)
        fun later => inv later ∧ leaves database locks later)
    (others : ∀ {database locks later held other}, inv database → leaves database locks later →
      locks.Disjoint held → relies database held other → relies later held other) :
    Keeps program allowed inv relies where
  goTo := fun holds relied meets outcome => by
    have led := leads holds relied meets
    rwa [outcome] at led
  lock := fun holds relied meets outcome => by
    have led := leads holds relied meets
    rwa [outcome] at led
  commit := fun holds relied meets outcome => by
    have led := leads holds relied meets
    rw [outcome] at led
    exact led.1
  others := fun holds relied meets outcome disjoint theirs => by
    have led := leads holds relied meets
    rw [outcome] at led
    exact others holds led.2 disjoint theirs

/-- A thread of the moved server is the one that moved, or one of the others. -/
theorem Server.getElem?_move {thread moved : Thread Task Lock} {j : ℕ}
    (found : (server.move i moved).threads[j]? = some thread) :
    i = j ∧ thread = moved ∨ i ≠ j ∧ server.threads[j]? = some thread := by
  change (server.threads.set i moved)[j]? = some thread at found
  by_cases same : i = j
  · subst same
    by_cases within : i < server.threads.length
    · rw [List.getElem?_set_self within] at found
      exact Or.inl ⟨rfl, (Option.some.inj found).symm⟩
    · rw [List.getElem?_eq_none (by simpa using within)] at found
      cases found
  · rw [List.getElem?_set_ne same] at found
    exact Or.inr ⟨same, found⟩

/-- One transaction moves over an unchanged database. -/
theorem Server.Ok.move (ok : server.Ok inv relies) {moved : Thread Task Lock}
    (relied : ∀ task locks, moved = ⟨some task, locks⟩ → relies server.database locks task)
    (apart : ∀ (j : ℕ) (other : Thread Task Lock), i ≠ j → server.threads[j]? = some other →
      moved.locks.Disjoint other.locks) : (server.move i moved).Ok inv relies where
  database := ok.database
  relies := by
    intro j task locks found
    rcases getElem?_move found with ⟨_, same⟩ | ⟨_, stands⟩
    · exact relied task locks same.symm
    · exact ok.relies j task locks stands
  apart := by
    intro j k thread other different threadFound otherFound
    rcases getElem?_move threadFound with ⟨rfl, rfl⟩ | ⟨threadElse, threadStands⟩
    · rcases getElem?_move otherFound with ⟨same, _⟩ | ⟨_, otherStands⟩
      · exact (different same).elim
      · exact apart k other different otherStands
    · rcases getElem?_move otherFound with ⟨rfl, rfl⟩ | ⟨_, otherStands⟩
      · exact (apart j thread different.symm threadStands).symm
      · exact ok.apart j k thread other different threadStands otherStands

theorem Server.Ok.rollback (ok : server.Ok inv relies) : (server.rollback i).Ok inv relies := by
  apply ok.move
  · intro task locks same
    cases same
  · intro j other _ _
    exact List.disjoint_nil_left _

/-- Transactions that have not begun, over a database that satisfies the invariant. -/
theorem Server.ok_of_tasks {database : Database} {tasks : List Task} (holds : inv database)
    (relied : ∀ task ∈ tasks, relies database [] task) :
    Server.Ok inv relies ⟨database, tasks.map fun task => ⟨some task, ([] : List Lock)⟩⟩ where
  database := holds
  relies := by
    intro i task locks found
    rw [List.getElem?_map] at found
    obtain ⟨_, taskFound, same⟩ := Option.map_eq_some_iff.mp found
    cases same
    exact relied task (List.mem_of_getElem? taskFound)
  apart := by
    intro i j thread other _ found _
    rw [List.getElem?_map] at found
    obtain ⟨_, _, same⟩ := Option.map_eq_some_iff.mp found
    cases same
    exact List.disjoint_nil_left _

variable [DecidableEq Lock]

/-- The lock was free, so it is apart from the locks of the others. -/
theorem Server.not_held {key : Lock} (free : ¬server.held i key = true) {j : ℕ}
    {other : Thread Task Lock} (different : i ≠ j) (found : server.threads[j]? = some other) :
    key ∉ other.locks := by
  intro member
  apply free
  apply List.any_eq_true.mpr
  exact ⟨other, List.mem_eraseIdx_iff_getElem?.mpr ⟨j, different.symm, found⟩, by simpa using member⟩

/-- One statement. -/
theorem Server.Ok.advance (ok : server.Ok inv relies) (keeps : Keeps program allowed inv relies)
    {now : Reading} (meets : server.Allows i allowed now)
    (moved : server.advance i program now = some next) : next.Ok inv relies := by
  simp only [Server.advance] at moved
  split at moved
  case h_2 => cases moved
  case h_1 task locks found =>
    have relied := ok.relies i task locks found
    have allowedHere : allowed server.database now task :=
      meets task (by simp [Server.taskOf, found])
    split at moved
    case h_1 later outcome =>
      cases moved
      apply ok.move
      · intro _ _ same
        cases same
        exact keeps.goTo ok.database relied allowedHere outcome
      · intro j other different otherFound
        exact ok.apart i j ⟨some task, locks⟩ other different found otherFound
    case h_2 key later outcome =>
      split at moved
      · cases moved
      · next free =>
          cases moved
          apply ok.move
          · intro _ _ same
            cases same
            exact keeps.lock ok.database relied allowedHere outcome
          · intro j other different otherFound
            rw [List.disjoint_cons_left]
            constructor
            · exact Server.not_held free different otherFound
            · exact ok.apart i j ⟨some task, locks⟩ other different found otherFound
    case h_3 database outcome =>
      cases moved
      constructor
      · exact keeps.commit ok.database relied allowedHere outcome
      · intro j other held otherFound
        rcases getElem?_move otherFound with ⟨_, same⟩ | ⟨different, stands⟩
        · cases same
        · have disjoint := ok.apart i j _ _ different found stands
          exact keeps.others ok.database relied allowedHere outcome disjoint
            (ok.relies j other held stands)
      · exact (ok.rollback (i := i)).apart
    case h_4 outcome =>
      cases moved
      exact ok.rollback

/-- Every run. -/
theorem Reaches.ok {start : Server Database Task Lock} (keeps : Keeps program allowed inv relies)
    (reached : Reaches program allowed start server) (ok : start.Ok inv relies) :
    server.Ok inv relies := by
  induction reached with
  | start => exact ok
  | advance _ meets moved ih => exact ih.advance keeps meets moved
  | rollback i _ ih => exact ih.rollback

end Invariants

end Lib.Interleaving
