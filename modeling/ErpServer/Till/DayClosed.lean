import ErpServer.Lib.Places
import ErpServer.Till.DayTransactions

/-!
# A closed day is closed over nothing live

In every run in which a session is inserted only into a day that is not closed, and a
close with an exception finds no live session it has not counted, a closed day has no
session that holds a drawer and no cash that waits for its receipt.  The Z numbers of a
branch are consecutive, and kept, in every run.
-/

namespace ErpServer.Till.DayClose

open Lib
open Interleaving

/-! ## The law -/

/-- Its drawer is closed and its cash in the safe. -/
structure Rests (session : TillSession) : Prop where
  holding : session.tssStatus ∉ HOLDING_SESSION_STATUSES
  awaiting : session.awaiting = 0

instance (session : TillSession) : Decidable (Rests session) :=
  decidable_of_iff (session.tssStatus ∉ HOLDING_SESSION_STATUSES ∧ session.awaiting = 0)
    ⟨fun rests => ⟨rests.1, rests.2⟩, fun rests => ⟨rests.1, rests.2⟩⟩

/-- The sessions of a closed day rest. -/
def ClosedOverNothing (tables : DayTables) : Prop :=
  ∀ (session : TillSession) (day : TillBusinessDay), session ∈ tables.sessions →
    tables.days[session.tssDayId]? = some day → day.tbdStatus = .CLOSED → Rests session

/-- A day's Z number, in the series of a branch. -/
def DayTables.numberOf (tables : DayTables) (scope : Scope) (tbdId : ℕ) : Option ℕ :=
  tables.days[tbdId]?.bind fun day => if day.scope = scope then day.tbdZNo else none

/-- The closes of a branch's days, with the number each printed. -/
def DayTables.journalOf (tables : DayTables) (scope : Scope) : List (ℕ × ℕ) :=
  (tables.journal.filter fun event =>
    tables.days[event.tevDayId]?.map TillBusinessDay.scope = some scope).map fun event =>
      (event.tevDayId, event.zNo)

/-- The Z numbers of every branch are consecutive in the order in which its days first
close, each is one day's, and every close of a day prints the day's. -/
structure ZSeries (tables : DayTables) : Prop where
  numbered : ∀ scope, Lib.Numbering.Numbered (tables.numberOf scope) (tables.journalOf scope)
  closed : ∀ day ∈ tables.days, day.tbdStatus = .CLOSED → day.tbdZNo ≠ none
  journalled : ∀ event ∈ tables.journal, event.tevDayId < tables.days.length

/-! ## Sessions -/

/-- What a transaction makes of a session: it stays the day's, and what rests goes on
resting. -/
structure Turned (session later : TillSession) : Prop where
  day : later.tssDayId = session.tssDayId
  holding : session.tssStatus ∉ HOLDING_SESSION_STATUSES →
    later.tssStatus ∉ HOLDING_SESSION_STATUSES ∧ later.awaiting ≤ session.awaiting

theorem Turned.refl (session : TillSession) : Turned session session :=
  ⟨rfl, fun holding => ⟨holding, le_rfl⟩⟩

variable {later session : TillSession}

theorem Turned.rests (turned : Turned session later) (rests : Rests session) : Rests later := by
  obtain ⟨holding, fewer⟩ := turned.holding rests.holding
  exact ⟨holding, Nat.le_zero.mp (rests.awaiting ▸ fewer)⟩

theorem turned_closed (session : TillSession) :
    Turned session { session with tssStatus := .CLOSED } := by
  refine ⟨rfl, fun _ => ⟨?_, le_rfl⟩⟩
  show TillSessionStatus.CLOSED ∉ HOLDING_SESSION_STATUSES
  decide

theorem SessionTurn.turned {turn : SessionTurn} (applied : turn.apply session = some later) :
    Turned session later := by
  obtain ⟨day, status, awaiting⟩ := session
  cases turn <;> simp only [SessionTurn.apply, Option.ite_none_right_eq_some, Option.some.injEq]
    at applied
  case forceClose inTolerance awaits =>
    obtain ⟨live, applied⟩ := applied
    constructor
    · cases inTolerance <;> cases applied <;> rfl
    · intro holding
      exact (holding (List.mem_append_left _ live)).elim
  all_goals
    obtain ⟨required, rfl⟩ := applied
    refine ⟨rfl, fun holding => ?_⟩
    revert holding required
    cases status <;> simp [HOLDING_SESSION_STATUSES, LIVE_SESSION_STATUSES]

/-! ## The check -/

section Checks

variable {sessions : List TillSession} {forced : List ℕ} {day tssId : ℕ} {session : TillSession}

theorem mem_sessionsOf (found : sessions[tssId]? = some session) (ofDay : session.tssDayId = day)
    (unforced : tssId ∉ forced) : (session, tssId) ∈ sessionsOf sessions forced day := by
  apply List.mem_map.mpr
  refine ⟨(session, tssId), List.mem_filter.mpr ⟨?_, by simpa using ofDay⟩, if_neg unforced⟩
  exact List.mem_iff_getElem?.mpr ⟨tssId, by rw [List.getElem?_zipIdx, found]; simp⟩

/-- The sessions of the day hold no drawer, but those the close has closed itself. -/
def Closing.Quiet (closing : Closing) (sessions : List TillSession) : Prop :=
  ∀ (tssId : ℕ) (session : TillSession), sessions[tssId]? = some session →
    session.tssDayId = closing.tbdId →
    tssId ∈ closing.forced ∨ session.tssStatus ∉ HOLDING_SESSION_STATUSES

/-- No cash of the day waits. -/
def Closing.Cashless (closing : Closing) (sessions : List TillSession) : Prop :=
  ∀ session ∈ sessions, session.tssDayId = closing.tbdId → session.awaiting = 0

variable {closing : Closing} {reds more : List TillCloseCheckCode}

theorem Closing.left_of_append (clear : closing.left (reds ++ more) = []) :
    closing.left reds = [] ∧ closing.left more = [] := by
  unfold left uncovered at *
  split at clear
  · next approved =>
      rw [if_pos approved, if_pos approved, ← List.append_eq_nil_iff, ← List.filter_append]
      exact clear
  · next approved =>
      rw [if_neg approved, if_neg approved]
      exact List.append_eq_nil_iff.mp clear

theorem Closing.cashless (clear : closing.left (cashReds sessions closing.tbdId) = []) :
    closing.Cashless sessions := by
  intro session member ofDay
  obtain ⟨tssId, found⟩ := List.mem_iff_getElem?.mp member
  have listed := mem_sessionsOf found ofDay List.not_mem_nil
  by_contra waits
  have red : cashReds sessions closing.tbdId = [.CASH_TO_APPROVE] := by
    apply if_pos
    exact List.any_eq_true.mpr ⟨_, listed, by simpa using Nat.pos_of_ne_zero waits⟩
  rw [red, left] at clear
  split at clear
  · exact absurd clear (by decide)
  · cases clear

/-- An exception covers live sessions; the condition on it says there are none. -/
theorem Closing.quiet (clear : closing.left (sessionReds sessions closing.forced closing.tbdId) = [])
    (counted : closing.approved = true → ∀ entry ∈ sessionsOf sessions closing.forced closing.tbdId,
      entry.1.tssStatus ∉ LIVE_SESSION_STATUSES) : closing.Quiet sessions := by
  intro tssId session found ofDay
  by_cases forced : tssId ∈ closing.forced
  · exact Or.inl forced
  · right
    have listed := mem_sessionsOf found ofDay forced
    obtain ⟨live, pending⟩ := closing.left_of_append clear
    intro holds
    rcases List.mem_append.mp holds with isLive | isPending
    · rw [if_pos (List.any_eq_true.mpr ⟨_, listed, by simpa using isLive⟩), left] at live
      split at live
      · next approved => exact counted approved _ listed isLive
      · cases live
    · rw [if_pos (List.any_eq_true.mpr ⟨_, listed, by simpa using isPending⟩), left] at pending
      split at pending
      · exact absurd pending (by decide)
      · cases pending

end Checks

/-! ## What a transaction relies on -/

/-- A close past its lock: the day is as it was read, not closed, and the sessions it has
closed are its own. -/
structure Closing.Locked (closing : Closing) (tables : DayTables) (locks : List DayLock) :
    Prop where
  lock : .day closing.tbdId ∈ locks
  read : tables.days[closing.tbdId]? = some closing.day
  unclosed : closing.day.tbdStatus ≠ .CLOSED
  forced : ∀ tssId ∈ closing.forced, .session tssId ∈ locks

/-- The number a close prints: the day's, or the branch's next under its lock. -/
def Closing.Prints (closing : Closing) (tables : DayTables) (locks : List DayLock) (zNo : ℕ) :
    Prop :=
  closing.day.tbdZNo = some zNo ∨ closing.day.tbdZNo = none ∧
    .zSeries closing.day.scope.branchId ∈ locks ∧
    zNo = Lib.Numbering.next (tables.zNosOf closing.day.scope)

/-- What a transaction relies on, whatever the others do. -/
def Holds (tables : DayTables) (locks : List DayLock) : DayTask → Prop
  | .dayCreated _ day => day.tbdStatus = .OPEN ∧ day.tbdZNo = none
  | .sessionInserted tbdId => .day tbdId ∈ locks
  | .turnLocked tssId _ => .session tssId ∈ locks
  | .dayLocked tbdId _ => .day tbdId ∈ locks
  | .forceClose closing _ => closing.Locked tables locks
  | .forceLocked closing tssId _ => closing.Locked tables locks ∧ .session tssId ∈ locks
  | .sessionsChecked closing _ => closing.Locked tables locks
  | .cashChecked closing _ => closing.Locked tables locks
  | .nextZ closing => closing.Locked tables locks ∧ closing.day.tbdZNo = none ∧
      .zSeries closing.day.scope.branchId ∈ locks
  | .closed closing zNo => closing.Locked tables locks ∧ closing.Prints tables locks zNo
  | .reopenLocked tbdId => .day tbdId ∈ locks
  | .reopenable tbdId _ => .day tbdId ∈ locks
  | _ => True

/-- What a close relies on once it has checked again. -/
def Settles (tables : DayTables) : DayTask → Prop
  | .sessionsChecked closing reds => closing.left reds = [] → closing.Quiet tables.sessions
  | .cashChecked closing reds =>
      closing.left reds = [] → closing.Quiet tables.sessions ∧ closing.Cashless tables.sessions
  | .nextZ closing => closing.Quiet tables.sessions ∧ closing.Cashless tables.sessions
  | .closed closing _ => closing.Quiet tables.sessions ∧ closing.Cashless tables.sessions
  | _ => True

/-! ## What a commit does beside the locks of another -/

/-- What a commit leaves to a transaction that holds the locks of `held`. -/
structure Beside (held : List DayLock) (tables later : DayTables) : Prop where
  day : ∀ (tbdId : ℕ) (day : TillBusinessDay), .day tbdId ∈ held →
    tables.days[tbdId]? = some day → later.days[tbdId]? = some day
  session : ∀ (tssId : ℕ) (session : TillSession), .session tssId ∈ held →
    tables.sessions[tssId]? = some session → later.sessions[tssId]? = some session
  others : ∀ (tssId : ℕ) (now : TillSession), later.sessions[tssId]? = some now →
    (∃ session, tables.sessions[tssId]? = some session ∧ Turned session now) ∨
      .day now.tssDayId ∉ held ∨ tables.days[now.tssDayId]? = none
  numbers : ∀ scope : Scope, .zSeries scope.branchId ∈ held →
    later.zNosOf scope = tables.zNosOf scope

/-- What a transaction commits.  Where its last statement is orderly it adds no session to a
closed day, and closes none over what is live. -/
inductive Committed (tables : DayTables) (locks : List DayLock) (orderly : Prop) :
    DayTables → Prop where
  | newDay {day : TillBusinessDay} (opened : day.tbdStatus = .OPEN) (unnumbered : day.tbdZNo = none) :
      Committed tables locks orderly { tables with days := tables.days ++ [day] }
  | firstSession {day : TillBusinessDay} (opened : day.tbdStatus = .OPEN)
      (unnumbered : day.tbdZNo = none) : Committed tables locks orderly { tables with
        days := tables.days ++ [day]
        sessions := tables.sessions ++ [⟨tables.days.length, .OPEN, 0⟩] }
  | newSession {tbdId : ℕ} (own : .day tbdId ∈ locks)
      (unclosed : orderly → ∀ day ∈ tables.days[tbdId]?, day.tbdStatus ≠ .CLOSED) :
      Committed tables locks orderly { tables with sessions := tables.sessions ++ [⟨tbdId, .OPEN, 0⟩] }
  | turn {tssId : ℕ} {session turned : TillSession} (own : .session tssId ∈ locks)
      (found : tables.sessions[tssId]? = some session) (moved : Turned session turned) :
      Committed tables locks orderly { tables with sessions := tables.sessions.set tssId turned }
  | close {closing : Closing} {zNo : ℕ} (stands : closing.Locked tables locks)
      (prints : closing.Prints tables locks zNo)
      (settled : orderly → closing.Quiet tables.sessions ∧ closing.Cashless tables.sessions) :
      Committed tables locks orderly (tables.closeDay closing zNo)
  | reopen {tbdId : ℕ} (own : .day tbdId ∈ locks) : Committed tables locks orderly { tables with
      days := tables.days.modify tbdId fun day =>
        { day with tbdStatus := .OPEN, tbdReopenCount := day.tbdReopenCount + 1 } }

section Commits

variable {tables later : DayTables} {locks held : List DayLock} {other : DayTask} {orderly : Prop}

variable {day : TillBusinessDay} {tbdId tssId : ℕ}

theorem zNosOf_append (tables : DayTables) (unnumbered : day.tbdZNo = none) (scope : Scope) :
    DayTables.zNosOf { tables with days := tables.days ++ [day] } scope =
      tables.zNosOf scope := by
  simp [DayTables.zNosOf, unnumbered]

theorem beside_new_day (unnumbered : day.tbdZNo = none) :
    Beside held tables { tables with days := tables.days ++ [day] } where
  day := fun _ _ _ found => Places.getElem?_append_of_some found
  session := fun _ _ _ found => found
  others := fun _ now found => Or.inl ⟨now, found, Turned.refl now⟩
  numbers := fun scope _ => zNosOf_append tables unnumbered scope

/-- A session appended to a day whose row is not held. -/
theorem Beside.new_session (beside : Beside held tables later)
    (apart : .day tbdId ∉ held ∨ tables.days[tbdId]? = none) :
    Beside held tables { later with sessions := tables.sessions ++ [⟨tbdId, .OPEN, 0⟩] } where
  day := beside.day
  session := fun _ _ _ found => Places.getElem?_append_of_some found
  others := by
    intro tssId now found
    rcases Places.concat_cases found with before | ⟨_, rfl⟩
    · exact Or.inl ⟨now, before, Turned.refl now⟩
    · exact Or.inr apart
  numbers := beside.numbers

theorem beside_turn {session turned : TillSession} (apart : .session tssId ∉ held)
    (found : tables.sessions[tssId]? = some session) (moved : Turned session turned) :
    Beside held tables { tables with sessions := tables.sessions.set tssId turned } where
  day := fun _ _ _ found => found
  session := by
    intro other session locked found
    have different : tssId ≠ other := by
      rintro rfl
      exact apart locked
    rw [List.getElem?_set_ne different]
    exact found
  others := by
    intro other now placed
    left
    by_cases same : tssId = other
    · subst same
      rw [List.getElem?_set_self (List.getElem?_eq_some_iff.mp found).1] at placed
      rw [← Option.some.inj placed]
      exact ⟨session, found, moved⟩
    · rw [List.getElem?_set_ne same] at placed
      exact ⟨now, placed, Turned.refl now⟩
  numbers := fun _ _ => rfl

variable {closing : Closing} {zNo : ℕ}

theorem getElem?_closeDay :
    (tables.closeDay closing zNo).sessions[tssId]? = tables.sessions[tssId]?.map fun session =>
      if tssId ∈ closing.forced then { session with tssStatus := .CLOSED } else session := by
  rw [DayTables.closeDay, List.getElem?_mapIdx]

theorem beside_close (stands : closing.Locked tables locks)
    (prints : closing.Prints tables locks zNo) (disjoint : locks.Disjoint held) :
    Beside held tables (tables.closeDay closing zNo) where
  day := by
    intro tbdId day locked found
    have different : closing.tbdId ≠ tbdId := by
      rintro rfl
      exact disjoint stands.lock locked
    exact (List.getElem?_modify_ne _ _ different).trans found
  session := by
    intro tssId session locked found
    have unforced : tssId ∉ closing.forced := fun forced =>
      disjoint (stands.forced tssId forced) locked
    rw [getElem?_closeDay, found, Option.map_some, if_neg unforced]
  others := by
    intro tssId now found
    rw [getElem?_closeDay] at found
    obtain ⟨session, stood, rfl⟩ := Option.map_eq_some_iff.mp found
    refine Or.inl ⟨session, stood, ?_⟩
    split
    · exact turned_closed session
    · exact Turned.refl session
  numbers := by
    intro scope locked
    apply Places.filterMap_modify
    intro day found
    have read := stands.read
    rw [found] at read
    obtain rfl := Option.some.inj read
    rcases prints with same | ⟨_, own, _⟩
    · rw [same]
    · have different : closing.day.scope ≠ scope := by
        rintro rfl
        exact disjoint own locked
      rw [if_neg different, if_neg different]

theorem beside_reopen (apart : .day tbdId ∉ held) : Beside held tables { tables with
      days := tables.days.modify tbdId fun day =>
        { day with tbdStatus := .OPEN, tbdReopenCount := day.tbdReopenCount + 1 } } where
  day := by
    intro other day locked found
    have different : tbdId ≠ other := by
      rintro rfl
      exact apart locked
    exact (List.getElem?_modify_ne _ _ different).trans found
  session := fun _ _ _ found => found
  others := fun _ now found => Or.inl ⟨now, found, Turned.refl now⟩
  numbers := fun scope _ => Places.filterMap_modify fun _ _ => rfl

/-- Every commit. -/
theorem Committed.beside (committed : Committed tables locks orderly later)
    (disjoint : locks.Disjoint held) : Beside held tables later := by
  cases committed with
  | newDay opened unnumbered => exact beside_new_day unnumbered
  | firstSession opened unnumbered =>
      exact (beside_new_day unnumbered).new_session (Or.inr (List.getElem?_eq_none le_rfl))
  | newSession own unclosed =>
      have same : Beside held tables tables :=
        ⟨fun _ _ _ found => found, fun _ _ _ found => found,
          fun _ now found => Or.inl ⟨now, found, Turned.refl now⟩, fun _ _ => rfl⟩
      exact same.new_session (Or.inl fun locked => disjoint own locked)
  | turn own found moved => exact beside_turn (fun locked => disjoint own locked) found moved
  | close stands prints settled => exact beside_close stands prints disjoint
  | reopen own => exact beside_reopen fun locked => disjoint own locked

/-! ## What others leave -/

theorem Closing.Locked.beside (stands : closing.Locked tables held)
    (beside : Beside held tables later) : closing.Locked later held where
  lock := stands.lock
  read := beside.day _ _ stands.lock stands.read
  unclosed := stands.unclosed
  forced := stands.forced

theorem Closing.Prints.beside (prints : closing.Prints tables held zNo)
    (beside : Beside held tables later) : closing.Prints later held zNo := by
  rcases prints with same | ⟨first, own, next⟩
  · exact Or.inl same
  · refine Or.inr ⟨first, own, ?_⟩
    rw [next, beside.numbers _ own]

theorem Closing.Quiet.beside (quiet : closing.Quiet tables.sessions)
    (stands : closing.Locked tables held) (beside : Beside held tables later) :
    closing.Quiet later.sessions := by
  intro tssId now found ofDay
  rcases beside.others tssId now found with ⟨session, stood, turned⟩ | apart | absent
  · rcases quiet tssId session stood (turned.day ▸ ofDay) with forced | rests
    · exact Or.inl forced
    · exact Or.inr (turned.holding rests).1
  · rw [ofDay] at apart
    exact (apart stands.lock).elim
  · rw [ofDay, stands.read] at absent
    cases absent

theorem Closing.Cashless.beside (cashless : closing.Cashless tables.sessions)
    (quiet : closing.Quiet tables.sessions) (stands : closing.Locked tables held)
    (beside : Beside held tables later) : closing.Cashless later.sessions := by
  intro now member ofDay
  obtain ⟨tssId, found⟩ := List.mem_iff_getElem?.mp member
  rcases beside.others tssId now found with ⟨session, stood, turned⟩ | apart | absent
  · have ofDayBefore : session.tssDayId = closing.tbdId := turned.day ▸ ofDay
    have noCash := cashless session (List.mem_of_getElem? stood) ofDayBefore
    rcases quiet tssId session stood ofDayBefore with forced | rests
    · have same := beside.session tssId session (stands.forced tssId forced) stood
      rw [found] at same
      rw [Option.some.inj same]
      exact noCash
    · exact (turned.rests ⟨rests, noCash⟩).awaiting
  · rw [ofDay] at apart
    exact (apart stands.lock).elim
  · rw [ofDay, stands.read] at absent
    cases absent

theorem holds_beside (theirs : Holds tables held other) (beside : Beside held tables later) :
    Holds later held other := by
  cases other with
  | forceClose closing live => exact Closing.Locked.beside theirs beside
  | forceLocked closing tssId live => exact ⟨theirs.1.beside beside, theirs.2⟩
  | sessionsChecked closing reds => exact Closing.Locked.beside theirs beside
  | cashChecked closing reds => exact Closing.Locked.beside theirs beside
  | nextZ closing => exact ⟨theirs.1.beside beside, theirs.2⟩
  | closed closing zNo => exact ⟨theirs.1.beside beside, theirs.2.beside beside⟩
  | _ => exact theirs

theorem settles_beside (theirs : Holds tables held other) (settles : Settles tables other)
    (beside : Beside held tables later) : Settles later other := by
  cases other with
  | sessionsChecked closing reds =>
      intro clear
      exact (settles clear).beside theirs beside
  | cashChecked closing reds =>
      intro clear
      obtain ⟨quiet, cashless⟩ := settles clear
      exact ⟨quiet.beside theirs beside, cashless.beside quiet theirs beside⟩
  | nextZ closing =>
      exact ⟨settles.1.beside theirs.1 beside, settles.2.beside settles.1 theirs.1 beside⟩
  | closed closing zNo =>
      exact ⟨settles.1.beside theirs.1 beside, settles.2.beside settles.1 theirs.1 beside⟩
  | _ => trivial

end Commits

/-! ## What each statement keeps -/

section Statements

variable {tables : DayTables} {locks : List DayLock} {task : DayTask} {now : Outside}
variable {lock : DayLock}

theorem Closing.Locked.more {closing : Closing} (stands : closing.Locked tables locks) :
    closing.Locked tables (lock :: locks) where
  lock := List.mem_cons_of_mem _ stands.lock
  read := stands.read
  unclosed := stands.unclosed
  forced := fun tssId forced => List.mem_cons_of_mem _ (stands.forced tssId forced)

/-- Each statement keeps what the next one relies on. -/
theorem day_leads (relied : Holds tables locks task) :
    (dayProgram tables now task).Leads locks
      (fun locks next => Holds tables locks next ∧
        (Settles tables task ∧ Orderly tables now task → Settles tables next))
      (Committed tables locks (Settles tables task ∧ Orderly tables now task)) := by
  unfold dayProgram
  cases task with
  | dayKeyTaken scope openedBy businessDate =>
      simp only
      split
      · exact ⟨trivial, fun _ => trivial⟩
      · exact ⟨⟨rfl, rfl⟩, fun _ => trivial⟩
  | dayCreated openedBy day =>
      cases openedBy with
      | MANAGER => exact .newDay relied.1 relied.2
      | SESSION => exact .firstSession relied.1 relied.2
  | sessionInserted tbdId => exact .newSession relied And.right
  | turnLocked tssId turn =>
      simp only
      split
      · next turned applied =>
          obtain ⟨session, found, moved⟩ := Option.bind_eq_some_iff.mp applied
          exact .turn relied found (SessionTurn.turned moved)
      · trivial
  | dayLocked tbdId approved =>
      simp only
      split
      · next day found =>
          split
          · trivial
          · next unclosed => exact ⟨⟨relied, found, unclosed, by simp⟩, fun _ => trivial⟩
      · trivial
  | forceClose closing live =>
      cases live with
      | nil => exact ⟨relied, fun settles clear => closing.quiet clear settles.2⟩
      | cons tssId rest =>
          exact ⟨⟨Closing.Locked.more relied, List.mem_cons_self⟩, fun _ => trivial⟩
  | forceLocked closing tssId live =>
      simp only
      split
      · obtain ⟨stands, own⟩ := relied
        refine ⟨⟨stands.lock, stands.read, stands.unclosed, fun other forced => ?_⟩, fun _ => trivial⟩
        rcases List.mem_cons.mp forced with rfl | earlier
        · exact own
        · exact stands.forced other earlier
      · trivial
  | sessionsChecked closing reds =>
      refine ⟨relied, fun settles clear => ?_⟩
      obtain ⟨before, cash⟩ := closing.left_of_append clear
      exact ⟨settles.1 before, closing.cashless cash⟩
  | cashChecked closing reds =>
      simp only
      split
      · next clear =>
          have settled (settles : Settles tables (.cashChecked closing reds) ∧
              Orderly tables now (.cashChecked closing reds)) :=
            settles.1 (closing.left_of_append clear).1
          split
          · next zNo printed => exact ⟨⟨relied, Or.inl printed⟩, settled⟩
          · next unnumbered =>
              exact ⟨⟨Closing.Locked.more relied, unnumbered, List.mem_cons_self⟩, settled⟩
      · trivial
  | nextZ closing => exact ⟨⟨relied.1, Or.inr ⟨relied.2.1, relied.2.2, rfl⟩⟩, And.left⟩
  | closed closing zNo => exact .close relied.1 relied.2 And.left
  | reopenLocked tbdId =>
      simp only
      split
      · split
        · exact ⟨relied, fun _ => trivial⟩
        · trivial
      · trivial
  | reopenable tbdId day =>
      simp only
      split
      · trivial
      · exact .reopen relied
  | _ =>
      simp only
      repeat' split
      all_goals first | trivial | exact ⟨trivial, fun _ => trivial⟩ |
        exact ⟨List.mem_cons_self, fun _ => trivial⟩

end Statements

/-! ## A closed day rests -/

section Resting

variable {tables later : DayTables} {locks : List DayLock} {orderly : Prop}

/-- A commit that leaves the closed days as they are and only turns sessions, or adds one
to a day that is not closed. -/
theorem ClosedOverNothing.of_turned (rests : ClosedOverNothing tables)
    (days : ∀ (tbdId : ℕ) (day : TillBusinessDay), later.days[tbdId]? = some day →
      day.tbdStatus = .CLOSED → tables.days[tbdId]? = some day)
    (sessions : ∀ session ∈ later.sessions,
      (∃ before ∈ tables.sessions, Turned before session) ∨
        ∀ day ∈ later.days[session.tssDayId]?, day.tbdStatus ≠ .CLOSED) :
    ClosedOverNothing later := by
  intro session day member found closed
  rcases sessions session member with ⟨before, beforeMem, turned⟩ | unclosed
  · apply turned.rests
    apply rests before day beforeMem _ closed
    rw [← turned.day]
    exact days _ day found closed
  · exact (unclosed day found closed).elim

theorem ClosedOverNothing.commit (rests : ClosedOverNothing tables)
    (committed : Committed tables locks orderly later) (meets : orderly) :
    ClosedOverNothing later := by
  have unmoved : ∀ session ∈ tables.sessions, ∃ before ∈ tables.sessions, Turned before session :=
    fun session member => ⟨session, member, Turned.refl session⟩
  have newDay {day : TillBusinessDay} (opened : day.tbdStatus = .OPEN) (tbdId : ℕ)
      (other : TillBusinessDay) (found : (tables.days ++ [day])[tbdId]? = some other)
      (closed : other.tbdStatus = .CLOSED) : tables.days[tbdId]? = some other := by
    rcases Places.concat_cases found with before | ⟨_, rfl⟩
    · exact before
    · rw [opened] at closed
      cases closed
  cases committed with
  | newDay opened unnumbered =>
      exact rests.of_turned (newDay opened) fun session member => Or.inl (unmoved session member)
  | @firstSession day opened unnumbered =>
      refine rests.of_turned (newDay opened) ?_
      intro session member
      rcases List.mem_append.mp member with old | new
      · exact Or.inl (unmoved session old)
      · right
        intro other found
        rw [List.mem_singleton.mp new] at found
        have same : day = other := by simpa using found
        rw [← same, opened]
        decide
  | newSession own unclosed =>
      refine rests.of_turned (fun _ _ found _ => found) ?_
      intro session member
      rcases List.mem_append.mp member with old | new
      · exact Or.inl (unmoved session old)
      · right
        rw [List.mem_singleton.mp new]
        exact unclosed meets
  | @turn tssId session turned own found moved =>
      refine rests.of_turned (fun _ _ found _ => found) ?_
      intro other member
      left
      rcases List.mem_or_eq_of_mem_set member with old | rfl
      · exact unmoved other old
      · exact ⟨session, List.mem_of_getElem? found, moved⟩
  | @close closing zNo stands prints settled =>
      obtain ⟨quiet, cashless⟩ := settled meets
      intro session day member found closed
      obtain ⟨tssId, placed⟩ := List.mem_iff_getElem?.mp member
      rw [getElem?_closeDay] at placed
      obtain ⟨before, stood, turned⟩ := Option.map_eq_some_iff.mp placed
      have moved : Turned before session := by
        rw [← turned]
        split
        · exact turned_closed before
        · exact Turned.refl before
      by_cases ofDay : before.tssDayId = closing.tbdId
      · have noCash := cashless before (List.mem_of_getElem? stood) ofDay
        rcases quiet tssId before stood ofDay with forced | rested
        · rw [← turned, if_pos forced]
          exact ⟨by show TillSessionStatus.CLOSED ∉ HOLDING_SESSION_STATUSES; decide, noCash⟩
        · exact moved.rests ⟨rested, noCash⟩
      · apply moved.rests
        apply rests before day (List.mem_of_getElem? stood) _ closed
        rw [moved.day] at found
        rw [← found]
        exact (List.getElem?_modify_ne _ _ (Ne.symm ofDay)).symm
  | @reopen tbdId own =>
      refine rests.of_turned ?_ fun session member => Or.inl (unmoved session member)
      intro other day found closed
      rcases Places.modify_cases found with ⟨_, before⟩ | ⟨_, _, _, rfl⟩
      · exact before
      · cases closed

end Resting

/-! ## The numbers go on -/

section Numbers

variable {tables later : DayTables} {locks : List DayLock} {orderly : Prop}

/-- A commit that numbers no day and closes none. -/
theorem ZSeries.of_days (series : ZSeries tables) (journal : later.journal = tables.journal)
    (longer : tables.days.length ≤ later.days.length)
    (scopes : ∀ tbdId < tables.days.length, later.days[tbdId]?.map TillBusinessDay.scope =
      tables.days[tbdId]?.map TillBusinessDay.scope)
    (numbers : ∀ scope tbdId, later.numberOf scope tbdId = tables.numberOf scope tbdId)
    (closed : ∀ day ∈ later.days, day.tbdStatus = .CLOSED → day.tbdZNo ≠ none) : ZSeries later where
  numbered := by
    intro scope
    have sameJournal : later.journalOf scope = tables.journalOf scope := by
      unfold DayTables.journalOf
      rw [journal]
      congr 1
      apply List.filter_congr
      intro event member
      rw [scopes _ (series.journalled event member)]
    rw [sameJournal, show later.numberOf scope = tables.numberOf scope from funext (numbers scope)]
    exact series.numbered scope
  closed := closed
  journalled := by
    rw [journal]
    exact fun event member => (series.journalled event member).trans_le longer

theorem ZSeries.new_day (series : ZSeries tables) {day : TillBusinessDay}
    (opened : day.tbdStatus = .OPEN) (unnumbered : day.tbdZNo = none) (sessions : List TillSession) :
    ZSeries { tables with days := tables.days ++ [day], sessions } := by
  apply ZSeries.of_days series
  · rfl
  · simp
  · intro tbdId within
    rw [List.getElem?_append_left within]
  · intro scope tbdId
    rw [DayTables.numberOf, DayTables.numberOf]
    cases found : tables.days[tbdId]? with
    | some other => rw [Places.getElem?_append_of_some found]
    | none =>
        cases added : (tables.days ++ [day])[tbdId]? with
        | none => rfl
        | some other =>
            rcases Places.concat_cases added with before | ⟨_, rfl⟩
            · rw [found] at before
              cases before
            · simp [unnumbered]
  · intro other member isClosed
    rcases List.mem_append.mp member with old | new
    · exact series.closed other old isClosed
    · rw [List.mem_singleton.mp new, opened] at isClosed
      cases isClosed

theorem ZSeries.reopen (series : ZSeries tables) (tbdId : ℕ) :
    ZSeries { tables with
      days := tables.days.modify tbdId fun day =>
        { day with tbdStatus := .OPEN, tbdReopenCount := day.tbdReopenCount + 1 } } := by
  apply ZSeries.of_days series
  · rfl
  · simp
  · intro other _
    exact Places.getElem?_modify_map fun _ => rfl
  · intro scope other
    exact Places.getElem?_modify_bind fun _ => rfl
  · intro other member isClosed
    obtain ⟨was, wasMember, rfl | rfl⟩ := Places.mem_modify member
    · exact series.closed other wasMember isClosed
    · cases isClosed

theorem mem_zNosOf {scope : Scope} {number : ℕ} :
    number ∈ tables.zNosOf scope ↔ ∃ tbdId, tables.numberOf scope tbdId = some number := by
  unfold DayTables.zNosOf DayTables.numberOf
  rw [List.mem_filterMap]
  constructor
  · rintro ⟨day, member, owns⟩
    obtain ⟨tbdId, found⟩ := List.mem_iff_getElem?.mp member
    exact ⟨tbdId, by rw [found, Option.bind_some, owns]⟩
  · rintro ⟨tbdId, owns⟩
    obtain ⟨day, found, number⟩ := Option.bind_eq_some_iff.mp owns
    exact ⟨day, List.mem_of_getElem? found, number⟩

section Close

variable {closing : Closing} {zNo : ℕ}

theorem numberOf_closeDay (read : tables.days[closing.tbdId]? = some closing.day) (scope : Scope) :
    (tables.closeDay closing zNo).numberOf scope =
      if closing.day.scope = scope then
        Function.update (tables.numberOf scope) closing.tbdId (some zNo)
      else tables.numberOf scope := by
  funext tbdId
  by_cases same : closing.tbdId = tbdId
  · subst same
    rw [DayTables.numberOf, DayTables.closeDay, List.getElem?_modify_eq, read]
    by_cases ofScope : closing.day.scope = scope
    · simp [ofScope]
    · simp [ofScope, DayTables.numberOf, read]
  · rw [DayTables.numberOf, DayTables.closeDay, List.getElem?_modify_ne _ _ same]
    split
    · rw [Function.update_of_ne (Ne.symm same)]
      rfl
    · rfl

theorem journalOf_closeDay (read : tables.days[closing.tbdId]? = some closing.day) (scope : Scope) :
    (tables.closeDay closing zNo).journalOf scope =
      tables.journalOf scope ++
        if closing.day.scope = scope then [(closing.tbdId, zNo)] else [] := by
  have scopes (tbdId : ℕ) : (tables.closeDay closing zNo).days[tbdId]?.map TillBusinessDay.scope =
      tables.days[tbdId]?.map TillBusinessDay.scope :=
    Places.getElem?_modify_map fun _ => rfl
  unfold DayTables.journalOf
  simp only [scopes]
  rw [show (tables.closeDay closing zNo).journal =
    tables.journal ++ [⟨closing.tbdId, zNo, closing.day.tbdReopenCount⟩] from rfl]
  rw [List.filter_append, List.map_append, List.filter_singleton, read]
  by_cases ofScope : closing.day.scope = scope <;> simp [ofScope]

theorem ZSeries.close (series : ZSeries tables) (stands : closing.Locked tables locks)
    (prints : closing.Prints tables locks zNo) : ZSeries (tables.closeDay closing zNo) where
  numbered := by
    intro scope
    rw [numberOf_closeDay stands.read, journalOf_closeDay stands.read]
    by_cases ofScope : closing.day.scope = scope
    · rw [if_pos ofScope, if_pos ofScope]
      have owns : tables.numberOf scope closing.tbdId = closing.day.tbdZNo := by
        rw [DayTables.numberOf, stands.read, Option.bind_some, if_pos ofScope]
      rcases prints with same | ⟨first, _, next⟩
      · rw [same] at owns
        rw [← owns, Function.update_eq_self]
        exact (series.numbered scope).again owns
      · rw [first] at owns
        apply (series.numbered scope).first owns
        rw [next, ofScope]
        exact (series.numbered scope).next_eq fun number => mem_zNosOf
    · rw [if_neg ofScope, if_neg ofScope, List.append_nil]
      exact series.numbered scope
  closed := by
    intro day member isClosed
    obtain ⟨was, wasMember, rfl | rfl⟩ := Places.mem_modify member
    · exact series.closed day wasMember isClosed
    · simp
  journalled := by
    intro event member
    rw [DayTables.closeDay, List.length_modify]
    rcases List.mem_append.mp member with old | new
    · exact series.journalled event old
    · rw [List.mem_singleton.mp new]
      exact (List.getElem?_eq_some_iff.mp stands.read).1

end Close

theorem ZSeries.commit (series : ZSeries tables) (committed : Committed tables locks orderly later) :
    ZSeries later := by
  cases committed with
  | newDay opened unnumbered | firstSession opened unnumbered =>
      exact series.new_day opened unnumbered _
  | newSession _ _ | turn _ _ _ => exact ⟨series.numbered, series.closed, series.journalled⟩
  | close stands prints _ => exact series.close stands prints
  | @reopen tbdId _ => exact series.reopen tbdId

end Numbers

/-! ## Every run -/

def Leaves (tables : DayTables) (locks : List DayLock) (later : DayTables) : Prop :=
  ∃ orderly, Committed tables locks orderly later

/-- Transactions in any order keep a branch's numbers. -/
theorem series_keeps : Keeps dayProgram (fun _ _ _ => True) ZSeries Holds := by
  apply @keeps_of_leads _ _ _ _ _ _ _ _ Leaves
  · intro tables now task locks series relied _
    exact (day_leads relied).imp (fun _ _ next => next.1) fun _ committed =>
      ⟨series.commit committed, _, committed⟩
  · intro tables locks later held other _ ⟨_, left⟩ disjoint theirs
    exact holds_beside theirs (left.beside disjoint)

/-- Orderly ones keep the closed days closed over nothing. -/
theorem rests_keeps : Keeps dayProgram Orderly ClosedOverNothing
    (fun tables locks task => Holds tables locks task ∧ Settles tables task) := by
  apply @keeps_of_leads _ _ _ _ _ _ _ _ Leaves
  · intro tables now task locks rests ⟨holds, settles⟩ orderly
    exact (day_leads holds).imp (fun _ _ next => ⟨next.1, next.2 ⟨settles, orderly⟩⟩)
      fun _ committed => ⟨rests.commit committed ⟨settles, orderly⟩, _, committed⟩
  · intro tables locks later held other _ ⟨_, left⟩ disjoint theirs
    have beside := left.beside disjoint
    exact ⟨holds_beside theirs.1 beside, settles_beside theirs.1 theirs.2 beside⟩

/-- A closed day is closed over nothing live in every orderly run, and the Z numbers of a
branch are consecutive, distinct and kept in every run. -/
theorem day_stays_closed (tables : DayTables) (transactions : List DayTransaction)
    (rests : ClosedOverNothing tables) (series : ZSeries tables) :
    (∀ server, Reaches dayProgram Orderly (dayServer tables transactions) server →
      ClosedOverNothing server.database) ∧
    ∀ server, Reaches dayProgram (fun _ _ _ => True) (dayServer tables transactions) server →
      ZSeries server.database := by
  have begun (task : DayTask) (member : task ∈ transactions.map DayTransaction.task) :
      Holds tables [] task ∧ Settles tables task := by
    obtain ⟨transaction, _, rfl⟩ := List.mem_map.mp member
    cases transaction <;> exact ⟨trivial, trivial⟩
  constructor
  · intro server reached
    exact (reached.ok rests_keeps (Server.ok_of_tasks rests begun)).database
  · intro server reached
    exact (reached.ok series_keeps
      (Server.ok_of_tasks series fun task member => (begun task member).1)).database

def store : Scope := ⟨"company", "branch"⟩

def noDays : DayTables := ⟨[], [], []⟩

/-- A session opens the day and is closed, its cash approved; the day is closed, reopened
and closed again. -/
def storeDay : List DayTransaction :=
  [.openSession store true, .turn 0 .endBilling, .turn 0 (.close true), .turn 0 .approveCash,
    .close 0 none, .reopen 0, .close 0 none]

def storeSchedule : List (Action Outside) :=
  List.replicate 4 (.advance 0 {}) ++ List.replicate 2 (.advance 1 {}) ++
    List.replicate 2 (.advance 2 {}) ++ List.replicate 2 (.advance 3 {}) ++
    List.replicate 11 (.advance 4 {}) ++ List.replicate 4 (.advance 5 {}) ++
    List.replicate 10 (.advance 6 {})

theorem noDays_rests : ClosedOverNothing noDays :=
  fun _ _ member => absurd member List.not_mem_nil

theorem noDays_series : ZSeries noDays where
  numbered := fun _ => Lib.Numbering.Numbered.empty
  closed := fun _ member => absurd member List.not_mem_nil
  journalled := fun _ member => absurd member List.not_mem_nil

theorem storeDay_stays_closed :
    ∃ server, runAllowed dayProgram Orderly (dayServer noDays storeDay) storeSchedule = some server ∧
      server.database.journal.map DayCloseEvent.zNo = [1, 1] ∧
      ClosedOverNothing server.database := by
  have runs : (runAllowed dayProgram Orderly (dayServer noDays storeDay) storeSchedule).any
      (fun server => server.database.journal.map DayCloseEvent.zNo = [1, 1]) = true := by
    decide +kernel
  obtain ⟨server, moved, runs⟩ := (Option.any_eq_true _ _).mp runs
  rw [decide_eq_true_eq] at runs
  have stays := day_stays_closed noDays storeDay noDays_rests noDays_series
  exact ⟨server, moved, runs, stays.1 server (reaches_of_runAllowed _ _ .start moved)⟩

/-- A session reads its day open, the day closes, and the session is inserted into it. -/
theorem session_on_closed_day :
    ¬∀ (transactions : List DayTransaction) (schedule : List (Action Outside))
      (server : Server DayTables DayTask DayLock),
      runSchedule dayProgram (dayServer noDays transactions) schedule = some server →
      ClosedOverNothing server.database ∧ ZSeries server.database := by
  intro always
  let transactions : List DayTransaction :=
    [.openDay store, .openSession store false, .close 0 none]
  let schedule : List (Action Outside) := List.replicate 4 (.advance 0 {}) ++
    List.replicate 3 (.advance 1 {}) ++ List.replicate 11 (.advance 2 {}) ++
    List.replicate 2 (.advance 1 {})
  have runs : (runSchedule dayProgram (dayServer noDays transactions) schedule).any
      (fun server => server.database.days.map TillBusinessDay.tbdStatus = [.CLOSED] ∧
        server.database.sessions = [⟨0, .OPEN, 0⟩]) = true := by
    decide +kernel
  obtain ⟨server, moved, runs⟩ := (Option.any_eq_true _ _).mp runs
  rw [decide_eq_true_eq] at runs
  obtain ⟨closed, sessions⟩ := runs
  obtain ⟨day, oneDay, isClosed⟩ := List.map_eq_singleton_iff.mp closed
  have rests := (always transactions schedule server moved).1 ⟨0, .OPEN, 0⟩ day
    (by rw [sessions]; exact List.mem_cons_self) (by rw [oneDay]; rfl) isClosed
  exact absurd rests (by decide)

end ErpServer.Till.DayClose
