import Mathlib.Data.List.Nodup
import Mathlib.Data.List.Pairwise
import Mathlib.Order.Basic
import ErpServer.Sequence.Maintenance

/-!
# Counters under READ COMMITTED

Documents being numbered and the sequence master being maintained, statement by
statement, as a database runs them side by side.  A statement sees what had been committed
when it began, and what its own transaction wrote.  A row that is written stays locked
until its transaction ends, and a write that waited for it changes the row as it then is.
An allocation holds the advisory lock of its scope, a maintenance that counts that of its
group, both until the end of the transaction.
-/

namespace ErpServer.Sequence

/-- A number a document was given, in the format it was printed in. -/
structure IssuedNumber where
  scope : SequenceScope
  lastNo : ℕ
  format : RefnoFormat
  refno : String
  deriving DecidableEq, Repr

/-! ## The statements -/

/-- What a transaction has still to do. -/
inductive Task where
  | allocate (calls : List VoucherNumberScope)
  | locked (type : AccVoucherType) (scope : SequenceScope) (rest : List VoucherNumberScope)
  | absent (type : AccVoucherType) (scope : SequenceScope) (rest : List VoucherNumberScope)
  | found (scope : SequenceScope) (id : ℕ) (rest : List VoucherNumberScope)
  | create (dto : CreateSequenceDto)
  | createLocked (dto : CreateSequenceDto) (scope : SequenceScope)
  | createCounted (dto : CreateSequenceDto) (scope : SequenceScope) (seen : List AccVoucherSeq)
  | createAbsent (dto : CreateSequenceDto) (scope : SequenceScope) (seen : List AccVoucherSeq)
  | createFound (dto : CreateSequenceDto) (scope : SequenceScope) (seen : List AccVoucherSeq) (id : ℕ)
  | update (id : ℕ) (dto : UpdateSequenceDto)
  | updateRead (dto : UpdateSequenceDto) (existing : AccVoucherSeq) (scope : SequenceScope)
  | updateUnique (dto : UpdateSequenceDto) (existing : AccVoucherSeq) (scope : SequenceScope)
  | updateLocked (dto : UpdateSequenceDto) (id : ℕ) (group : SequenceLastNoScope)
  | updateCounted (dto : UpdateSequenceDto) (id : ℕ)
      (counted : Option (SequenceLastNoScope × List AccVoucherSeq))
  | softDelete (id : ℕ)
  | done
  | ended
  deriving DecidableEq

/-- A transaction: what is left of it, the rows it wrote, the locks it holds, and the
numbers it drew. -/
structure Thread where
  task : Task
  pending : List AccVoucherSeq := []
  scopeLocks : List SequenceScope := []
  groupLock : Option SequenceLastNoScope := none
  drawn : List IssuedNumber := []
  deriving DecidableEq

/-- What is committed, the documents in the order they were, and the transactions. -/
structure Server where
  rows : List AccVoucherSeq
  issued : List IssuedNumber
  threads : List Thread
  nextId : ℕ
  deriving DecidableEq

/-- Committed rows as a transaction sees them that wrote some. -/
def overlay (rows pending : List AccVoucherSeq) : List AccVoucherSeq :=
  rows.map (fun row => (pending.find? fun written => written.id = row.id).getD row) ++
    pending.filter fun written => rows.all fun row => row.id ≠ written.id

/-- A row written again takes the place of what was written before. -/
def put (row : AccVoucherSeq) (pending : List AccVoucherSeq) : List AccVoucherSeq :=
  row :: pending.filter fun written => written.id ≠ row.id

namespace Server

variable (server : Server) (i : ℕ) (thread : Thread)

/-- The other transactions. -/
def others : List Thread := server.threads.eraseIdx i

def visible : List AccVoucherSeq := overlay server.rows thread.pending

def move (next : Thread) : Server := { server with threads := server.threads.set i next }

def goTo (task : Task) : Server := server.move i { thread with task }

/-- Nothing it wrote stays, and every lock is let go. -/
def abort : Server := server.move i { task := .ended }

def commit : Server :=
  { server.abort i with
    rows := overlay server.rows thread.pending
    issued := server.issued ++ thread.drawn }

/-- Another transaction has the row written. -/
def rowLocked (id : ℕ) : Bool :=
  (server.others i).any fun other => other.pending.any fun row => row.id = id

/-- Another transaction holds the scope in the unique index, or has the row that does. -/
def scopeWaits (scope : SequenceScope) : Bool :=
  (server.others i).any fun other => other.pending.any fun row => row.scope = scope ||
    server.rows.any fun committed => committed.id = row.id && committed.scope = scope

/-- A row written, its scope checked against the unique index: the next server, or a wait. -/
def write (row : AccVoucherSeq) (task : Task) : Option Server :=
  if server.scopeWaits i row.scope then none
  else if (server.visible thread).any fun other => other.id ≠ row.id && other.scope = row.scope then
    some (server.abort i)
  else some (server.move i { thread with task, pending := put row thread.pending })

/-- `UPDATE … WHERE id = …`, on the row as it is once nobody else has it. -/
def writeById (id : ℕ) (change : AccVoucherSeq → Except SequenceErrorDetail AccVoucherSeq)
    (task : Task) : Option Server :=
  if server.rowLocked i id then none
  else match (server.visible thread).find? fun row => row.id = id with
    | none => some (server.abort i)
    | some row =>
        match change row with
        | .error _ => some (server.abort i)
        | .ok changed => server.write i thread changed task

end Server

/-! ## One statement -/

section Step

variable (masters : SequenceMasters) (server : Server) (i : ℕ) (thread : Thread)

/-- The next statement of a document being numbered. -/
def stepAllocate : Task → Option Server
  | .allocate [] => some (server.goTo i thread .done)
  | .allocate (call :: rest) =>
      match resolveScope masters call with
      | .error _ => some (server.abort i)
      | .ok (type, scope) =>
          if (server.others i).any fun other => scope ∈ other.scopeLocks then none
          else some (server.move i
            { thread with task := .locked type scope rest, scopeLocks := scope :: thread.scopeLocks })
  | .locked type scope rest =>
      match (server.visible thread).find? fun row => row.scope = scope with
      | none => some (server.goTo i thread (.absent type scope rest))
      | some row =>
          if row.isDeleted || !row.isActive then some (server.abort i)
          else some (server.goTo i thread (.found scope row.id rest))
  | .absent type scope rest =>
      match openedSequence masters scope type server.nextId with
      | .error _ => some (server.abort i)
      | .ok row =>
          { server with nextId := server.nextId + 1 }.write i thread row (.found scope row.id rest)
  | .found scope id rest =>
      -- The second update, of the printed number, is of the row just locked.
      if server.rowLocked i id then none
      else match (server.visible thread).find? fun row => row.id = id with
        | none => some (server.abort i)
        | some row =>
            match row.consumed with
            | .error _ => some (server.abort i)
            | .ok (consumed, refno) =>
                some (server.move i
                  { thread with
                    task := .allocate rest
                    pending := put consumed thread.pending
                    drawn := thread.drawn ++ [⟨scope, consumed.lastNo, consumed.format, refno⟩] })
  | _ => none

/-- The next statement of a create of the sequence master. -/
def stepCreate : Task → Option Server
  | .create dto =>
      match buildCreateScope dto with
      | .error _ => some (server.abort i)
      | .ok scope =>
          match ensureReferencesExist masters scope with
          | .error _ => some (server.abort i)
          | .ok () =>
              let group := createLastNoScope dto scope
              if (server.others i).any fun other => other.groupLock = some group then none
              else some (server.move i
                { thread with task := .createLocked dto scope, groupLock := some group })
  | .createLocked dto scope =>
      some (server.goTo i thread (.createCounted dto scope (server.visible thread)))
  | .createCounted dto scope seen =>
      match (server.visible thread).find? fun row => row.scope = scope with
      | none => some (server.goTo i thread (.createAbsent dto scope seen))
      | some row => some (server.goTo i thread (.createFound dto scope seen row.id))
  | .createAbsent dto scope seen =>
      let next := getNextLastNo seen (createLastNoScope dto scope) none
      match createdSequence dto scope next server.nextId with
      | .error _ => some (server.abort i)
      | .ok row => { server with nextId := server.nextId + 1 }.write i thread row .done
  | .createFound dto scope seen id =>
      let next := getNextLastNo seen (createLastNoScope dto scope) none
      server.writeById i thread id
        (fun row => (buildDuplicateScopeUpdateData dto next).map fun data => data.set row) .done
  | _ => none

/-- The next statement of an update of the sequence master. -/
def stepUpdate : Task → Option Server
  | .update id dto =>
      match (server.visible thread).find? fun row => row.id = id && !row.isDeleted with
      | none => some (server.abort i)
      | some existing =>
          match scopeData dto with
          | .error _ => some (server.abort i)
          | .ok data =>
              match ensureReferencesExist masters (data existing.scope) with
              | .error _ => some (server.abort i)
              | .ok () => some (server.goTo i thread (.updateRead dto existing (data existing.scope)))
  | .updateRead dto existing scope =>
      if (server.visible thread).any fun row => row.scope = scope && row.id ≠ existing.id then
        some (server.abort i)
      else some (server.goTo i thread (.updateUnique dto existing scope))
  | .updateUnique dto existing scope =>
      let group := resolveLastNoScope dto existing scope
      if existing.lastNoScope = group then
        some (server.goTo i thread (.updateCounted dto existing.id none))
      else if (server.others i).any fun other => other.groupLock = some group then none
      else some (server.move i
        { thread with task := .updateLocked dto existing.id group, groupLock := some group })
  | .updateLocked dto id group =>
      some (server.goTo i thread (.updateCounted dto id (some (group, server.visible thread))))
  | .updateCounted dto id counted =>
      let lastNo := counted.map fun (group, seen) => getNextLastNo seen group (some id)
      server.writeById i thread id
        (fun row => (buildUpdateData dto lastNo).map fun data => data.set row) .done
  | _ => none

/-- The next statement of a soft delete: one, which waits for the row and looks again. -/
def stepDelete (id : ℕ) : Option Server :=
  server.writeById i thread id
    (fun row => if row.isDeleted then .error ⟨"id", .NOT_FOUND⟩ else .ok (deletedData.set row)) .done

end Step

/-- The next statement of a transaction, unless it waits or has ended. -/
def step (masters : SequenceMasters) (server : Server) (i : ℕ) : Option Server :=
  match server.threads[i]? with
  | none => none
  | some thread =>
      match thread.task with
      | .ended => none
      | .done => some (server.commit i thread)
      | .softDelete id => stepDelete server i thread id
      | .allocate _ | .locked .. | .absent .. | .found .. =>
          stepAllocate masters server i thread thread.task
      | .create _ | .createLocked .. | .createCounted .. | .createAbsent .. | .createFound .. =>
          stepCreate masters server i thread thread.task
      | .update .. | .updateRead .. | .updateUnique .. | .updateLocked .. | .updateCounted .. =>
          stepUpdate masters server i thread thread.task

/-- What happens next: a statement, or a transaction rolled back. -/
inductive Action where
  | advance (i : ℕ)
  | rollback (i : ℕ)
  deriving DecidableEq, Repr

def act (masters : SequenceMasters) (server : Server) : Action → Option Server
  | .advance i => step masters server i
  | .rollback i => if i < server.threads.length then some (server.abort i) else none

/-- A schedule of statements and rollbacks. -/
def runSchedule (masters : SequenceMasters) (server : Server) (schedule : List Action) :
    Option Server :=
  schedule.foldlM (act masters) server

/-- What runs side by side. -/
inductive Transaction where
  | document (calls : List VoucherNumberScope)
  | create (dto : CreateSequenceDto)
  | update (id : ℕ) (dto : UpdateSequenceDto)
  | softDelete (id : ℕ)
  deriving DecidableEq

def Transaction.task : Transaction → Task
  | document calls => .allocate calls
  | create dto => .create dto
  | update id dto => .update id dto
  | softDelete id => .softDelete id

/-- Transactions that have not begun, over counters of which each scope has one and from
which no number has been drawn. -/
structure Start (server : Server) : Prop where
  ids : (server.rows.map (·.id)).Nodup
  scopes : (server.rows.map (·.scope)).Nodup
  fresh : ∀ row ∈ server.rows, row.id < server.nextId
  issued : server.issued = []
  threads : ∀ thread ∈ server.threads, ∃ transaction : Transaction,
    thread = { task := transaction.task }

end ErpServer.Sequence

namespace ErpServer.Sequence

/-! ## Counters never fall behind

A counter in its scope is at least every number issued in it, committed or in flight, as
long as no maintenance writes a lower one and none moves a counter to another scope. -/

/-! ## Rows under writes -/

section Rows

variable {rows pending : List AccVoucherSeq} {row other : AccVoucherSeq}

theorem eq_of_id (nodup : (rows.map (·.id)).Nodup) (member : row ∈ rows) (otherMember : other ∈ rows)
    (same : row.id = other.id) : row = other :=
  List.inj_on_of_nodup_map nodup member otherMember same

theorem eq_of_scope (nodup : (rows.map (·.scope)).Nodup) (member : row ∈ rows)
    (otherMember : other ∈ rows) (same : row.scope = other.scope) : row = other :=
  List.inj_on_of_nodup_map nodup member otherMember same

theorem mem_put : other ∈ put row pending ↔ other = row ∨ other ∈ pending ∧ other.id ≠ row.id := by
  simp [put]

theorem nodup_put {κ : Type} {key : AccVoucherSeq → κ} (nodup : (pending.map key).Nodup)
    (alone : ∀ written ∈ pending, written.id ≠ row.id → key written ≠ key row) :
    ((put row pending).map key).Nodup := by
  rw [put, List.map_cons, List.nodup_cons]
  constructor
  · intro member
    obtain ⟨written, writtenMember, same⟩ := List.mem_map.mp member
    have kept := List.mem_filter.mp writtenMember
    exact alone written kept.1 (of_decide_eq_true kept.2) same
  · exact nodup.sublist (List.filter_sublist.map key)

/-- What was written stands over what is committed. -/
theorem mem_overlay (nodup : (pending.map (·.id)).Nodup) :
    row ∈ overlay rows pending ↔
      row ∈ pending ∨ row ∈ rows ∧ ∀ written ∈ pending, written.id ≠ row.id := by
  simp only [overlay, List.mem_append, List.mem_map, List.mem_filter, List.all_eq_true,
    decide_eq_true_eq]
  constructor
  · rintro (⟨committed, member, standing⟩ | ⟨member, _⟩)
    · cases found : pending.find? fun written => written.id = committed.id with
      | none =>
          rw [found, Option.getD_none] at standing
          subst standing
          right
          refine ⟨member, ?_⟩
          intro written writtenMember
          simpa using List.find?_eq_none.mp found written writtenMember
      | some written =>
          rw [found, Option.getD_some] at standing
          subst standing
          exact Or.inl (List.mem_of_find?_eq_some found)
    · exact Or.inl member
  · rintro (member | ⟨member, untouched⟩)
    · by_cases fresh : ∀ committed ∈ rows, committed.id ≠ row.id
      · exact Or.inr ⟨member, fresh⟩
      · push Not at fresh
        obtain ⟨committed, committedMember, same⟩ := fresh
        left
        refine ⟨committed, committedMember, ?_⟩
        cases found : pending.find? fun written => written.id = committed.id with
        | none =>
            have missed := List.find?_eq_none.mp found row member
            simp [same] at missed
        | some written =>
            have named : written.id = committed.id := by simpa using List.find?_some found
            exact eq_of_id nodup (List.mem_of_find?_eq_some found) member (named.trans same)
    · left
      refine ⟨row, member, ?_⟩
      have none : pending.find? (fun written => written.id = row.id) = none := by
        apply List.find?_eq_none.mpr
        intro written writtenMember
        simpa using untouched written writtenMember
      rw [none, Option.getD_none]

/-- Rows that stay apart in a key stay apart under what was written. -/
theorem nodup_overlay {κ : Type} {key : AccVoucherSeq → κ} (nodup : (rows.map key).Nodup)
    (pendingNodup : (pending.map key).Nodup)
    (kept : ∀ row ∈ rows, ∀ written ∈ pending, written.id = row.id → key written = key row)
    (apart : ∀ written ∈ pending, ∀ row ∈ rows, key row = key written → row.id = written.id) :
    ((overlay rows pending).map key).Nodup := by
  have standing : ∀ row ∈ rows,
      key ((pending.find? fun written => written.id = row.id).getD row) = key row := by
    intro row member
    cases found : pending.find? fun written => written.id = row.id with
    | none => rfl
    | some written =>
        have named : written.id = row.id := by simpa using List.find?_some found
        exact kept row member written (List.mem_of_find?_eq_some found) named
  rw [overlay, List.map_append, List.map_map, List.nodup_append]
  refine ⟨?_, pendingNodup.sublist (List.filter_sublist.map key), ?_⟩
  · have same := List.map_congr_left standing
    exact same ▸ nodup
  · intro first firstMember second secondMember same
    obtain ⟨row, member, rfl⟩ := List.mem_map.mp firstMember
    obtain ⟨written, writtenMember, rfl⟩ := List.mem_map.mp secondMember
    have fresh := List.mem_filter.mp writtenMember
    rw [List.all_eq_true] at fresh
    have different : row.id ≠ written.id := by simpa using fresh.2 row member
    exact different (apart written fresh.1 row member ((standing row member).symm.trans same))

end Rows

/-! ## The invariant -/

/-- A number drawn and not yet committed. -/
structure Drawn (issued : List IssuedNumber) (thread : Thread) (doc : IssuedNumber) : Prop where
  locked : doc.scope ∈ thread.scopeLocks
  printed : doc.refno = doc.format.print doc.lastNo
  held : ∃ row ∈ thread.pending, row.scope = doc.scope ∧ doc.lastNo ≤ row.lastNo
  later : ∀ earlier ∈ issued, earlier.scope = doc.scope → earlier.lastNo < doc.lastNo

/-- What a transaction relies on at its next statement. -/
def Task.Ready (rows : List AccVoucherSeq) (thread : Thread) : Task → Prop
  | .locked _ scope _ | .absent _ scope _ => scope ∈ thread.scopeLocks
  | .found scope id _ => scope ∈ thread.scopeLocks ∧
      ∃ row, (row ∈ thread.pending ∨ row ∈ rows) ∧ row.id = id ∧ row.scope = scope
  | .allocate _ | .done | .ended => True
  | _ => thread.pending = []

structure Thread.Ok (rows : List AccVoucherSeq) (issued : List IssuedNumber) (nextId : ℕ)
    (thread : Thread) : Prop where
  ids : (thread.pending.map (·.id)).Nodup
  scopes : (thread.pending.map (·.scope)).Nodup
  fresh : ∀ row ∈ thread.pending, row.id < nextId
  above : ∀ row ∈ thread.pending, ∀ committed ∈ rows, committed.id = row.id →
    row.scope = committed.scope ∧ committed.lastNo ≤ row.lastNo
  owns : ∀ row ∈ thread.pending, ∀ committed ∈ rows, committed.scope = row.scope →
    committed.id = row.id
  drawn : ∀ doc ∈ thread.drawn, Drawn issued thread doc
  increasing : thread.drawn.Pairwise fun earlier later =>
    earlier.scope = later.scope → earlier.lastNo < later.lastNo
  ready : thread.task.Ready rows thread

/-- Two transactions have written no row, hold no scope and lock none in common. -/
structure Apart (thread other : Thread) : Prop where
  rows : ∀ row ∈ thread.pending, ∀ written ∈ other.pending,
    row.id ≠ written.id ∧ row.scope ≠ written.scope
  locks : ∀ scope ∈ thread.scopeLocks, scope ∉ other.scopeLocks

theorem Apart.symm {thread other : Thread} (apart : Apart thread other) : Apart other thread where
  rows := by
    intro row member written writtenMember
    have different := apart.rows written writtenMember row member
    exact ⟨different.1.symm, different.2.symm⟩
  locks := fun scope member locked => apart.locks scope locked member

structure Server.Ok (server : Server) : Prop where
  ids : (server.rows.map (·.id)).Nodup
  scopes : (server.rows.map (·.scope)).Nodup
  fresh : ∀ row ∈ server.rows, row.id < server.nextId
  counters : ∀ doc ∈ server.issued, ∃ row ∈ server.rows,
    row.scope = doc.scope ∧ doc.lastNo ≤ row.lastNo
  printed : ∀ doc ∈ server.issued, doc.refno = doc.format.print doc.lastNo
  increasing : server.issued.Pairwise fun earlier later =>
    earlier.scope = later.scope → earlier.lastNo < later.lastNo
  threads : ∀ (i : ℕ) (thread : Thread), server.threads[i]? = some thread →
    thread.Ok server.rows server.issued server.nextId
  apart : ∀ (i j : ℕ) (thread other : Thread), i ≠ j → server.threads[i]? = some thread →
    server.threads[j]? = some other → Apart thread other

theorem Start.ok {server : Server} (start : Start server) : server.Ok where
  ids := start.ids
  scopes := start.scopes
  fresh := start.fresh
  counters := by simp [start.issued]
  printed := by simp [start.issued]
  increasing := by simp [start.issued]
  threads := by
    intro i thread found
    obtain ⟨transaction, rfl⟩ := start.threads thread (List.mem_of_getElem? found)
    constructor
    case ready => cases transaction <;> simp [Transaction.task, Task.Ready]
    all_goals simp
  apart := by
    intro i j thread other _ found _
    obtain ⟨transaction, rfl⟩ := start.threads thread (List.mem_of_getElem? found)
    constructor <;> simp

/-! ## What a transaction writes -/

section Thread

variable {rows : List AccVoucherSeq} {issued : List IssuedNumber} {nextId : ℕ} {thread : Thread}

theorem Thread.Ok.goTo (ok : thread.Ok rows issued nextId) {task : Task}
    (ready : task.Ready rows thread) : Thread.Ok rows issued nextId { thread with task } where
  ids := ok.ids
  scopes := ok.scopes
  fresh := ok.fresh
  above := ok.above
  owns := ok.owns
  drawn := fun doc member => ⟨(ok.drawn doc member).locked, (ok.drawn doc member).printed,
    (ok.drawn doc member).held, (ok.drawn doc member).later⟩
  increasing := ok.increasing
  ready := by cases task <;> exact ready

/-- A transaction that ended, or that has nothing written and nothing locked. -/
theorem Thread.ok_ended : Thread.Ok rows issued nextId { task := .ended } := by
  constructor
  case ready => trivial
  all_goals simp

/-- A row a transaction may write: no other row has its scope, and it is no lower than
the row was. -/
structure Writable (rows : List AccVoucherSeq) (thread : Thread) (row : AccVoucherSeq) : Prop where
  above : ∀ committed ∈ rows, committed.id = row.id →
    row.scope = committed.scope ∧ committed.lastNo ≤ row.lastNo
  owns : ∀ committed ∈ rows, committed.scope = row.scope → committed.id = row.id
  raises : ∀ written ∈ thread.pending, written.id = row.id →
    written.scope = row.scope ∧ written.lastNo ≤ row.lastNo
  alone : ∀ written ∈ thread.pending, written.id ≠ row.id → written.scope ≠ row.scope

variable {row : AccVoucherSeq} {doc : IssuedNumber}

theorem Thread.Ok.put (ok : thread.Ok rows issued nextId) {later : ℕ} (grows : nextId ≤ later)
    (fresh : row.id < later) (writable : Writable rows thread row) {task : Task}
    (ready : task.Ready rows { thread with pending := put row thread.pending }) :
    Thread.Ok rows issued later { thread with task, pending := Sequence.put row thread.pending } where
  ids := nodup_put ok.ids fun _ _ different => different
  scopes := nodup_put ok.scopes writable.alone
  fresh := by
    intro written member
    rcases mem_put.mp member with rfl | ⟨old, _⟩
    · exact fresh
    · exact (ok.fresh written old).trans_le grows
  above := by
    intro written member
    rcases mem_put.mp member with rfl | ⟨old, _⟩
    · exact writable.above
    · exact ok.above written old
  owns := by
    intro written member
    rcases mem_put.mp member with rfl | ⟨old, _⟩
    · exact writable.owns
    · exact ok.owns written old
  drawn := by
    intro doc member
    have drawn := ok.drawn doc member
    refine ⟨drawn.locked, drawn.printed, ?_, drawn.later⟩
    obtain ⟨held, heldMember, scope, within⟩ := drawn.held
    by_cases same : held.id = row.id
    · have raised := writable.raises held heldMember same
      exact ⟨row, mem_put.mpr (Or.inl rfl), raised.1.symm.trans scope, within.trans raised.2⟩
    · exact ⟨held, mem_put.mpr (Or.inr ⟨heldMember, same⟩), scope, within⟩
  increasing := ok.increasing
  ready := by cases task <;> exact ready

/-- A row that stays in its scope and does not go down may be written. -/
theorem Thread.Ok.writable (ok : thread.Ok rows issued nextId) (ids : (rows.map (·.id)).Nodup)
    (scopes : (rows.map (·.scope)).Nodup) {changed : AccVoucherSeq}
    (member : row ∈ overlay rows thread.pending) (id : changed.id = row.id)
    (scope : changed.scope = row.scope) (raises : row.lastNo ≤ changed.lastNo) :
    Writable rows thread changed := by
  rcases (mem_overlay ok.ids).mp member with written | ⟨committed, untouched⟩
  · constructor
    · intro other otherMember same
      have above := ok.above row written other otherMember (same.trans id)
      exact ⟨scope.trans above.1, above.2.trans raises⟩
    · intro other otherMember same
      exact (ok.owns row written other otherMember (same.trans scope)).trans id.symm
    · intro other otherMember same
      obtain rfl := eq_of_id ok.ids otherMember written (same.trans id)
      exact ⟨scope.symm, raises⟩
    · intro other otherMember different same
      obtain rfl := eq_of_scope ok.scopes otherMember written (same.trans scope)
      exact different id.symm
  · constructor
    · intro other otherMember same
      obtain rfl := eq_of_id ids otherMember committed (same.trans id)
      exact ⟨scope, raises⟩
    · intro other otherMember same
      obtain rfl := eq_of_scope scopes otherMember committed (same.trans scope)
      exact id.symm
    · intro other otherMember same
      exact (untouched other otherMember (same.trans id)).elim
    · intro other otherMember _ same
      exact untouched other otherMember
        (ok.owns other otherMember row committed (scope.symm.trans same.symm)).symm

/-- A counter seen in a scope that is locked is at least every number issued in it. -/
theorem Thread.Ok.issued_le (ok : thread.Ok rows issued nextId)
    (scopes : (rows.map (·.scope)).Nodup)
    (counters : ∀ doc ∈ issued, ∃ row ∈ rows, row.scope = doc.scope ∧ doc.lastNo ≤ row.lastNo)
    (member : row ∈ overlay rows thread.pending) (docMember : doc ∈ issued)
    (scope : doc.scope = row.scope) : doc.lastNo ≤ row.lastNo := by
  obtain ⟨counter, counterMember, same, within⟩ := counters doc docMember
  rcases (mem_overlay ok.ids).mp member with written | ⟨committed, _⟩
  · have owns := ok.owns row written counter counterMember (same.trans scope)
    exact within.trans (ok.above row written counter counterMember owns).2
  · obtain rfl := eq_of_scope scopes counterMember committed (same.trans scope)
    exact within

/-- A number drawn in a scope that is locked is at most the counter seen in it. -/
theorem Thread.Ok.drawn_le (ok : thread.Ok rows issued nextId)
    (member : row ∈ overlay rows thread.pending) (docMember : doc ∈ thread.drawn)
    (scope : doc.scope = row.scope) : doc.lastNo ≤ row.lastNo := by
  obtain ⟨held, heldMember, same, within⟩ := (ok.drawn doc docMember).held
  rcases (mem_overlay ok.ids).mp member with written | ⟨committed, untouched⟩
  · obtain rfl := eq_of_scope ok.scopes heldMember written (same.trans scope)
    exact within
  · exact (untouched held heldMember
      (ok.owns held heldMember row committed (scope.symm.trans same.symm)).symm).elim

/-- A number drawn. -/
theorem Thread.Ok.draw (ok : thread.Ok rows issued nextId) (drawn : Drawn issued thread doc)
    (later : ∀ earlier ∈ thread.drawn, earlier.scope = doc.scope → earlier.lastNo < doc.lastNo)
    {rest : List VoucherNumberScope} : Thread.Ok rows issued nextId
      { thread with task := .allocate rest, drawn := thread.drawn ++ [doc] } where
  ids := ok.ids
  scopes := ok.scopes
  fresh := ok.fresh
  above := ok.above
  owns := ok.owns
  drawn := by
    intro other member
    rcases List.mem_append.mp member with old | new
    · have was := ok.drawn other old
      exact ⟨was.locked, was.printed, was.held, was.later⟩
    · rw [List.mem_singleton.mp new]
      exact ⟨drawn.locked, drawn.printed, drawn.held, drawn.later⟩
  increasing := by
    rw [List.pairwise_append]
    refine ⟨ok.increasing, List.pairwise_singleton _ _, ?_⟩
    intro earlier earlierMember last lastMember
    rw [List.mem_singleton.mp lastMember]
    exact later earlier earlierMember
  ready := trivial

end Thread

end ErpServer.Sequence
