import ErpServer.Sequence.Counters

/-!
# No number is issued twice

Statement by statement, the counters stay at least the numbers drawn from them, so that
the documents of a scope are numbered upwards in the order they commit.  A maintenance
that sets a counter to an absolute value, or moves it to another scope, can lose that.
-/

namespace ErpServer.Sequence

/-! ## One transaction moves -/

section Server

variable {server : Server} {i : ℕ} {thread : Thread}

variable {other : Thread} {task : Task} {id : ℕ} {row : AccVoucherSeq} {next : Server}
variable {masters : SequenceMasters}

theorem mem_others : other ∈ server.others i ↔ ∃ j, j ≠ i ∧ server.threads[j]? = some other := by
  rw [Server.others, List.mem_eraseIdx_iff_getElem?]

theorem Server.Ok.apart_others (ok : server.Ok) (found : server.threads[i]? = some thread)
    (member : other ∈ server.others i) : Apart thread other := by
  obtain ⟨j, different, otherFound⟩ := mem_others.mp member
  exact ok.apart i j thread other different.symm found otherFound

variable {rows : List AccVoucherSeq} {issued : List IssuedNumber} {nextId : ℕ}
variable {scope : SequenceScope} {consumed : AccVoucherSeq} {refno : String}

theorem Thread.Ok.later {later : ℕ} (ok : thread.Ok rows issued nextId) (grows : nextId ≤ later) :
    thread.Ok rows issued later where
  ids := ok.ids
  scopes := ok.scopes
  fresh := fun row member => (ok.fresh row member).trans_le grows
  above := ok.above
  owns := ok.owns
  drawn := ok.drawn
  increasing := ok.increasing
  ready := ok.ready

/-- A thread of the moved server is the one that moved, or one of the others. -/
theorem getElem?_move (found : server.threads[i]? = some thread) {next : Thread} {j : ℕ}
    (otherFound : (server.move i next).threads[j]? = some other) :
    i = j ∧ other = next ∨ i ≠ j ∧ server.threads[j]? = some other := by
  change (server.threads.set i next)[j]? = some other at otherFound
  rw [List.getElem?_set] at otherFound
  have within : i < server.threads.length := by
    by_contra outside
    rw [List.getElem?_eq_none (not_lt.mp outside)] at found
    cases found
  split at otherFound
  · next same => exact Or.inl ⟨same, (Option.some.inj otherFound).symm⟩
  · next different => exact Or.inr ⟨different, otherFound⟩

/-- One transaction moved, the others are as they were. -/
theorem Server.Ok.replace (ok : server.Ok) (found : server.threads[i]? = some thread)
    {next : Thread} {later : ℕ} (grows : server.nextId ≤ later)
    (nextOk : next.Ok server.rows server.issued later)
    (apart : ∀ other ∈ server.others i, Apart next other) :
    Server.Ok { server.move i next with nextId := later } where
  ids := ok.ids
  scopes := ok.scopes
  fresh := fun row member => (ok.fresh row member).trans_le grows
  counters := ok.counters
  printed := ok.printed
  increasing := ok.increasing
  threads := by
    intro j other otherFound
    rcases getElem?_move found otherFound with ⟨_, rfl⟩ | ⟨_, stands⟩
    · exact nextOk
    · exact (ok.threads j other stands).later grows
  apart := by
    intro j k first second different firstFound secondFound
    rcases getElem?_move found firstFound with ⟨rfl, rfl⟩ | ⟨firstElse, firstStands⟩
    · rcases getElem?_move found secondFound with ⟨same, _⟩ | ⟨_, secondStands⟩
      · exact (different same).elim
      · exact apart second (mem_others.mpr ⟨k, different.symm, secondStands⟩)
    · rcases getElem?_move found secondFound with ⟨rfl, rfl⟩ | ⟨_, secondStands⟩
      · exact (apart first (mem_others.mpr ⟨j, different, firstStands⟩)).symm
      · exact ok.apart j k first second different firstStands secondStands

theorem Server.Ok.goTo (ok : server.Ok) (found : server.threads[i]? = some thread)
    (ready : task.Ready server.rows thread) : (server.goTo i thread task).Ok := by
  apply ok.replace found le_rfl ((ok.threads i thread found).goTo ready)
  intro other member
  have apart := ok.apart_others found member
  exact ⟨apart.rows, apart.locks⟩

theorem Server.Ok.abort (ok : server.Ok) (found : server.threads[i]? = some thread) :
    (server.abort i).Ok := by
  apply ok.replace found le_rfl Thread.ok_ended
  intro other _
  constructor <;> simp

/-- A row another transaction found stays in its scope when it is committed anew. -/
theorem Task.Ready.commit (ready : task.Ready rows other) (ok : thread.Ok rows issued nextId) :
    task.Ready (overlay rows thread.pending) other := by
  cases task with
  | found scope id rest =>
      obtain ⟨locked, row, member, sameId, sameScope⟩ := ready
      refine ⟨locked, ?_⟩
      rcases member with own | committed
      · exact ⟨row, Or.inl own, sameId, sameScope⟩
      · by_cases untouched : ∀ written ∈ thread.pending, written.id ≠ row.id
        · exact ⟨row, Or.inr ((mem_overlay ok.ids).mpr (Or.inr ⟨committed, untouched⟩)), sameId,
            sameScope⟩
        · push Not at untouched
          obtain ⟨written, writtenMember, same⟩ := untouched
          have above := ok.above written writtenMember row committed same.symm
          exact ⟨written, Or.inr ((mem_overlay ok.ids).mpr (Or.inl writtenMember)),
            same.trans sameId, above.1.trans sameScope⟩
  | _ => exact ready

/-- What is committed was apart from what the others wrote. -/
theorem Server.Ok.commit (ok : server.Ok) (found : server.threads[i]? = some thread) :
    (server.commit i thread).Ok := by
  have own := ok.threads i thread found
  have committed {row : AccVoucherSeq} (member : row ∈ overlay server.rows thread.pending) :=
    (mem_overlay own.ids).mp member
  constructor
  · apply nodup_overlay ok.ids own.ids
    · intro _ _ _ _ same
      exact same
    · intro _ _ _ _ same
      exact same
  · apply nodup_overlay ok.scopes own.scopes
    · intro row member written writtenMember same
      exact (own.above written writtenMember row member same.symm).1
    · exact own.owns
  · intro row member
    rcases committed member with written | ⟨old, _⟩
    · exact own.fresh row written
    · exact ok.fresh row old
  · intro doc member
    rcases List.mem_append.mp member with old | drawn
    · obtain ⟨row, rowMember, scope, within⟩ := ok.counters doc old
      by_cases untouched : ∀ written ∈ thread.pending, written.id ≠ row.id
      · exact ⟨row, (mem_overlay own.ids).mpr (Or.inr ⟨rowMember, untouched⟩), scope, within⟩
      · push Not at untouched
        obtain ⟨written, writtenMember, same⟩ := untouched
        have above := own.above written writtenMember row rowMember same.symm
        exact ⟨written, (mem_overlay own.ids).mpr (Or.inl writtenMember), above.1.trans scope,
          within.trans above.2⟩
    · obtain ⟨row, rowMember, held⟩ := (own.drawn doc drawn).held
      exact ⟨row, (mem_overlay own.ids).mpr (Or.inl rowMember), held⟩
  · intro doc member
    rcases List.mem_append.mp member with old | drawn
    · exact ok.printed doc old
    · exact (own.drawn doc drawn).printed
  · change (server.issued ++ thread.drawn).Pairwise _
    rw [List.pairwise_append]
    refine ⟨ok.increasing, own.increasing, ?_⟩
    intro earlier earlierMember later laterMember same
    exact (own.drawn later laterMember).later earlier earlierMember same
  · intro j other otherFound
    rcases getElem?_move found otherFound with ⟨_, rfl⟩ | ⟨different, stands⟩
    · exact Thread.ok_ended
    · have otherOk := ok.threads j other stands
      have apart := ok.apart i j thread other different found stands
      constructor
      · exact otherOk.ids
      · exact otherOk.scopes
      · exact otherOk.fresh
      · intro row member standing standingMember same
        rcases committed standingMember with written | ⟨old, _⟩
        · exact ((apart.rows standing written row member).1 same).elim
        · exact otherOk.above row member standing old same
      · intro row member standing standingMember same
        rcases committed standingMember with written | ⟨old, _⟩
        · exact ((apart.rows standing written row member).2 same).elim
        · exact otherOk.owns row member standing old same
      · intro doc member
        have drawn := otherOk.drawn doc member
        refine ⟨drawn.locked, drawn.printed, drawn.held, ?_⟩
        intro earlier earlierMember same
        rcases List.mem_append.mp earlierMember with old | new
        · exact drawn.later earlier old same
        · have locked := (own.drawn earlier new).locked
          rw [same] at locked
          exact (apart.locks doc.scope locked drawn.locked).elim
      · exact otherOk.increasing
      · exact otherOk.ready.commit own
  · intro j k first second different firstFound secondFound
    rcases getElem?_move found firstFound with ⟨_, rfl⟩ | ⟨_, firstStands⟩
    · constructor <;> simp
    · rcases getElem?_move found secondFound with ⟨_, rfl⟩ | ⟨_, secondStands⟩
      · constructor <;> simp
      · exact ok.apart j k first second different firstStands secondStands

/-! ## What a transaction writes -/

theorem Server.Ok.free_of_rowLocked (free : server.rowLocked i id = false)
    (member : other ∈ server.others i) : ∀ written ∈ other.pending, id ≠ written.id := by
  intro written writtenMember same
  have unlocked := List.any_eq_false.mp free other member
  apply unlocked
  apply List.any_eq_true.mpr
  exact ⟨written, writtenMember, by simp [same]⟩

theorem Server.Ok.free_of_scopeWaits (free : server.scopeWaits i scope = false)
    (member : other ∈ server.others i) : ∀ written ∈ other.pending, scope ≠ written.scope := by
  intro written writtenMember same
  have unlocked := List.any_eq_false.mp free other member
  apply unlocked
  apply List.any_eq_true.mpr
  exact ⟨written, writtenMember, by simp [same]⟩

/-- A row written under the unique index. -/
theorem Server.Ok.write (ok : server.Ok) (found : server.threads[i]? = some thread) {later : ℕ}
    (moved : { server with nextId := later }.write i thread row task = some next)
    (grows : server.nextId ≤ later) (fresh : row.id < later)
    (writable : (∀ other ∈ overlay server.rows thread.pending, other.id ≠ row.id →
      other.scope ≠ row.scope) → Writable server.rows thread row)
    (free : ∀ other ∈ server.others i, ∀ written ∈ other.pending, row.id ≠ written.id)
    (ready : task.Ready server.rows { thread with pending := put row thread.pending }) :
    next.Ok := by
  unfold Server.write at moved
  split at moved
  · cases moved
  next noWait =>
  split at moved
  · cases moved
    exact ok.replace found grows Thread.ok_ended (by
      intro other _
      constructor <;> simp)
  next unique =>
    cases moved
    have alone : ∀ other ∈ overlay server.rows thread.pending, other.id ≠ row.id →
        other.scope ≠ row.scope := by
      intro other member different same
      apply unique
      apply List.any_eq_true.mpr
      exact ⟨other, member, by simp [different, same]⟩
    apply ok.replace found grows
      ((ok.threads i thread found).put grows fresh (writable alone) ready)
    intro other member
    have apart := ok.apart_others found member
    constructor
    · intro written writtenMember theirs theirsMember
      rcases mem_put.mp writtenMember with rfl | ⟨old, _⟩
      · have unheld : server.scopeWaits i written.scope = false :=
          eq_false_of_ne_true noWait
        exact ⟨free other member theirs theirsMember,
          Server.Ok.free_of_scopeWaits unheld member theirs theirsMember⟩
      · exact apart.rows written old theirs theirsMember
    · exact apart.locks

/-- A row changed by id that stays in its scope and does not go down. -/
theorem Server.Ok.writeById (ok : server.Ok) (found : server.threads[i]? = some thread)
    {change : AccVoucherSeq → Except SequenceErrorDetail AccVoucherSeq}
    (moved : server.writeById i thread id change .done = some next)
    (kept : ∀ row ∈ overlay server.rows thread.pending, row.id = id → ∀ changed,
      change row = .ok changed →
        changed.id = row.id ∧ changed.scope = row.scope ∧ row.lastNo ≤ changed.lastNo) :
    next.Ok := by
  have own := ok.threads i thread found
  unfold Server.writeById at moved
  split at moved
  · cases moved
  next unlocked =>
  split at moved
  · cases moved
    exact ok.abort found
  next row seen =>
  split at moved
  · cases moved
    exact ok.abort found
  next changed change =>
    have member := List.mem_of_find?_eq_some seen
    have named : row.id = id := by simpa using List.find?_some seen
    obtain ⟨sameId, sameScope, raises⟩ := kept row member named changed change
    have within : row.id < server.nextId := by
      rcases (mem_overlay own.ids).mp member with written | ⟨old, _⟩
      · exact own.fresh row written
      · exact ok.fresh row old
    have free : server.rowLocked i id = false := by simpa using unlocked
    apply ok.write found moved le_rfl (sameId ▸ within)
    · intro _
      exact own.writable ok.ids ok.scopes member sameId sameScope raises
    · intro other otherMember written writtenMember same
      exact Server.Ok.free_of_rowLocked free otherMember written writtenMember
        (named.symm.trans (sameId.symm.trans same))
    · trivial

/-- A row opened in a scope nobody else has. -/
theorem Server.Ok.opened (ok : server.Ok) (found : server.threads[i]? = some thread)
    (id : row.id = server.nextId)
    (moved : { server with nextId := server.nextId + 1 }.write i thread row task = some next)
    (ready : task.Ready server.rows { thread with pending := put row thread.pending }) :
    next.Ok := by
  have own := ok.threads i thread found
  apply ok.write found moved (Nat.le_succ _) (by rw [id]; exact Nat.lt_succ_self _) _ _ ready
  · intro alone
    constructor
    · intro committed member same
      exact ((ok.fresh committed member).ne (same.trans id)).elim
    · intro committed member same
      by_cases untouched : ∀ written ∈ thread.pending, written.id ≠ committed.id
      · by_contra different
        exact alone committed ((mem_overlay own.ids).mpr (Or.inr ⟨member, untouched⟩)) different same
      · push Not at untouched
        obtain ⟨written, writtenMember, sameId⟩ := untouched
        have above := own.above written writtenMember committed member sameId.symm
        by_contra different
        exact alone written ((mem_overlay own.ids).mpr (Or.inl writtenMember))
          (sameId ▸ different) (above.1.trans same)
    · intro written member same
      exact ((own.fresh written member).ne (same.trans id)).elim
    · intro written member different
      exact alone written ((mem_overlay own.ids).mpr (Or.inl member)) different
  · intro other otherMember written writtenMember same
    obtain ⟨j, _, otherFound⟩ := mem_others.mp otherMember
    have fresh := (ok.threads j other otherFound).fresh written writtenMember
    exact fresh.ne (same.symm.trans id)

/-! ## One statement -/

theorem consumed_ok (drawn : row.consumed = .ok (consumed, refno)) :
    consumed.id = row.id ∧ consumed.scope = row.scope ∧ consumed.lastNo = row.lastNo + 1 ∧
      refno = consumed.format.print consumed.lastNo := by
  unfold AccVoucherSeq.consumed buildRefno at drawn
  dsimp only at drawn
  split at drawn
  · cases drawn
  · cases drawn
    exact ⟨rfl, rfl, rfl, rfl⟩

/-- A number drawn from the row found in a scope that is locked. -/
theorem Server.Ok.consume (ok : server.Ok) (found : server.threads[i]? = some thread)
    {rest : List VoucherNumberScope} (ready : Task.Ready server.rows thread (.found scope id rest))
    (free : server.rowLocked i id = false) (seen : row ∈ overlay server.rows thread.pending)
    (named : row.id = id) (drawn : row.consumed = .ok (consumed, refno)) : (server.move i
      { thread with
        task := .allocate rest
        pending := put consumed thread.pending
        drawn := thread.drawn ++ [⟨scope, consumed.lastNo, consumed.format, refno⟩] }).Ok := by
  have own := ok.threads i thread found
  obtain ⟨sameId, sameScope, next, printed⟩ := consumed_ok drawn
  have writable : Writable server.rows thread consumed :=
    own.writable ok.ids ok.scopes seen sameId sameScope (by omega)
  -- The row that was found is still in the scope that is locked.
  have inScope : row.scope = scope := by
    obtain ⟨_, entry, entryMember, entryId, entryScope⟩ := ready
    rcases entryMember with written | committed
    · have raised := writable.raises entry written (entryId.trans (named.symm.trans sameId.symm))
      exact sameScope.symm.trans (raised.1.symm.trans entryScope)
    · have above := writable.above entry committed (entryId.trans (named.symm.trans sameId.symm))
      exact sameScope.symm.trans (above.1.trans entryScope)
  have within : consumed.id < server.nextId := by
    rw [sameId]
    rcases (mem_overlay own.ids).mp seen with written | ⟨old, _⟩
    · exact own.fresh row written
    · exact ok.fresh row old
  have putOk : Thread.Ok server.rows server.issued server.nextId
      { thread with task := .done, pending := put consumed thread.pending } :=
    own.put le_rfl within writable trivial
  apply ok.replace found le_rfl
  · apply putOk.draw
    · constructor
      · exact ready.1
      · exact printed
      · exact ⟨consumed, mem_put.mpr (Or.inl rfl), sameScope.trans inScope, le_rfl⟩
      · intro earlier member same
        have bound := own.issued_le ok.scopes ok.counters seen member (same.trans inScope.symm)
        change earlier.lastNo < consumed.lastNo
        omega
    · intro earlier member same
      have bound := own.drawn_le seen member (same.trans inScope.symm)
      change earlier.lastNo < consumed.lastNo
      omega
  · intro other member
    have apart := ok.apart_others found member
    constructor
    · intro written writtenMember theirs theirsMember
      rcases mem_put.mp writtenMember with rfl | ⟨old, _⟩
      · have different := Server.Ok.free_of_rowLocked free member theirs theirsMember
        constructor
        · rw [sameId, named]
          exact different
        · intro same
          obtain ⟨j, _, otherFound⟩ := mem_others.mp member
          have otherOk := ok.threads j other otherFound
          rcases (mem_overlay own.ids).mp seen with mine | ⟨committed, _⟩
          · exact (apart.rows row mine theirs theirsMember).2 (sameScope.symm.trans same)
          · exact different (named.symm.trans
              (otherOk.owns theirs theirsMember row committed (sameScope.symm.trans same)))
      · exact apart.rows written old theirs theirsMember
    · exact apart.locks

theorem stepAllocate_ok (ok : server.Ok) (found : server.threads[i]? = some thread)
    (moved : stepAllocate masters server i thread thread.task = some next) : next.Ok := by
  have own := ok.threads i thread found
  have ready := own.ready
  cases stage : thread.task with
  | allocate calls =>
      rw [stage] at moved
      cases calls with
      | nil =>
          cases moved
          exact ok.goTo found trivial
      | cons call rest =>
          simp only [stepAllocate] at moved
          split at moved
          · cases moved
            exact ok.abort found
          next type scope resolved =>
          split at moved
          · cases moved
          next unlocked =>
            cases moved
            apply ok.replace found le_rfl
            · constructor
              · exact own.ids
              · exact own.scopes
              · exact own.fresh
              · exact own.above
              · exact own.owns
              · intro doc member
                have drawn := own.drawn doc member
                exact ⟨List.mem_cons_of_mem _ drawn.locked, drawn.printed, drawn.held, drawn.later⟩
              · exact own.increasing
              · exact List.mem_cons_self
            · intro other member
              have apart := ok.apart_others found member
              refine ⟨apart.rows, ?_⟩
              intro locked lockedMember theirs
              rcases List.mem_cons.mp lockedMember with rfl | old
              · apply unlocked
                apply List.any_eq_true.mpr
                exact ⟨other, member, by simpa using theirs⟩
              · exact apart.locks locked old theirs
  | locked type scope rest =>
      rw [stage] at moved ready
      simp only [stepAllocate] at moved
      split at moved
      · cases moved
        exact ok.goTo found ready
      next row seen =>
      split at moved
      · cases moved
        exact ok.abort found
      · cases moved
        apply ok.goTo found
        refine ⟨ready, row, ?_, rfl, by simpa using List.find?_some seen⟩
        exact ((mem_overlay own.ids).mp (List.mem_of_find?_eq_some seen)).imp_right And.left
  | absent type scope rest =>
      rw [stage] at moved ready
      simp only [stepAllocate] at moved
      split at moved
      · cases moved
        exact ok.abort found
      next row opens =>
        have opened : row.id = server.nextId ∧ row.scope = scope := by
          unfold openedSequence at opens
          split at opens
          · cases opens
          split at opens
          · cases opens
          · cases opens
            exact ⟨rfl, rfl⟩
        apply ok.opened found opened.1 moved
        exact ⟨ready, row, Or.inl (mem_put.mpr (Or.inl rfl)), rfl, opened.2⟩
  | found scope id rest =>
      rw [stage] at moved ready
      simp only [stepAllocate] at moved
      split at moved
      · cases moved
      next unlocked =>
      split at moved
      · cases moved
        exact ok.abort found
      next row seen =>
      split at moved
      · cases moved
        exact ok.abort found
      next consumed refno drawn =>
        cases moved
        exact ok.consume found ready (eq_false_of_ne_true unlocked)
          (List.mem_of_find?_eq_some seen) (by simpa using List.find?_some seen) drawn
  | _ =>
      rw [stage] at moved
      cases moved

/-- A lock of a group touches no counter. -/
theorem Server.Ok.lockGroup (ok : server.Ok) (found : server.threads[i]? = some thread)
    {group : SequenceLastNoScope} (ready : task.Ready server.rows thread) :
    (server.move i { thread with task, groupLock := some group }).Ok := by
  have own := (ok.threads i thread found).goTo ready
  apply ok.replace found le_rfl
  · constructor
    · exact own.ids
    · exact own.scopes
    · exact own.fresh
    · exact own.above
    · exact own.owns
    · intro doc member
      have drawn := own.drawn doc member
      exact ⟨drawn.locked, drawn.printed, drawn.held, drawn.later⟩
    · exact own.increasing
    · cases task <;> exact own.ready
  · intro other member
    have apart := ok.apart_others found member
    exact ⟨apart.rows, apart.locks⟩

/-- An update that names no other scope for a row. -/
def Stays (dto : UpdateSequenceDto) (row : AccVoucherSeq) : Prop :=
  match scopeData dto with
  | .ok data => data row.scope = row.scope
  | .error _ => True

instance (dto : UpdateSequenceDto) (row : AccVoucherSeq) : Decidable (Stays dto row) :=
  match given : scopeData dto with
  | .ok data => decidable_of_iff (data row.scope = row.scope) (by rw [Stays, given])
  | .error _ => isTrue (by rw [Stays, given]; trivial)

/-- What a maintenance may be trusted with: it sets the counter of a scope no lower than
it is when it is written, and leaves every counter in its scope. -/
def Task.Careful (row : AccVoucherSeq) : Task → Prop
  | .createFound dto scope seen id =>
      row.id = id → row.lastNo ≤ getNextLastNo seen (createLastNoScope dto scope) none
  | .updateCounted dto id counted =>
      row.id = id → Stays dto row ∧
        ∀ count ∈ counted.toList, row.lastNo ≤ getNextLastNo count.2 count.1 (some id)
  | _ => True

instance (row : AccVoucherSeq) : (task : Task) → Decidable (task.Careful row)
  | .createFound dto scope seen id =>
      inferInstanceAs (Decidable (row.id = id →
        row.lastNo ≤ getNextLastNo seen (createLastNoScope dto scope) none))
  | .updateCounted dto id counted =>
      inferInstanceAs (Decidable (row.id = id → Stays dto row ∧
        ∀ count ∈ counted.toList, row.lastNo ≤ getNextLastNo count.2 count.1 (some id)))
  | .allocate _ | .locked .. | .absent .. | .found .. | .create _ | .createLocked ..
  | .createCounted .. | .createAbsent .. | .update .. | .updateRead .. | .updateUnique ..
  | .updateLocked .. | .softDelete _ | .done | .ended => isTrue trivial

/-- The next statement is none of a careless maintenance. -/
def Careful (server : Server) : Action → Prop
  | .rollback _ => True
  | .advance i => ∀ thread ∈ server.threads[i]?.toList, ∀ row ∈ server.rows,
      thread.task.Careful row

instance (server : Server) : (action : Action) → Decidable (Careful server action)
  | .rollback _ => isTrue trivial
  | .advance i => inferInstanceAs (Decidable (∀ thread ∈ server.threads[i]?.toList,
      ∀ row ∈ server.rows, thread.task.Careful row))

/-- A maintenance has written nothing before it writes. -/
theorem mem_rows_of_unwritten (unwritten : thread.pending = [])
    (member : row ∈ overlay server.rows thread.pending) : row ∈ server.rows := by
  rw [unwritten] at member
  simpa [overlay] using member

theorem stepCreate_ok (ok : server.Ok) (found : server.threads[i]? = some thread)
    (careful : Careful server (.advance i))
    (moved : stepCreate masters server i thread thread.task = some next) : next.Ok := by
  have own := ok.threads i thread found
  have ready := own.ready
  have cared := careful thread (Option.mem_toList.mpr found)
  cases stage : thread.task with
  | create dto =>
      rw [stage] at moved ready
      simp only [stepCreate] at moved
      split at moved
      · cases moved
        exact ok.abort found
      split at moved
      · cases moved
        exact ok.abort found
      split at moved
      · cases moved
      · cases moved
        exact ok.lockGroup found ready
  | createLocked dto scope =>
      rw [stage] at moved ready
      cases moved
      exact ok.goTo found ready
  | createCounted dto scope seen =>
      rw [stage] at moved ready
      simp only [stepCreate] at moved
      split at moved
      · cases moved
        exact ok.goTo found ready
      · cases moved
        exact ok.goTo found ready
  | createAbsent dto scope seen =>
      rw [stage] at moved ready
      simp only [stepCreate] at moved
      split at moved
      · cases moved
        exact ok.abort found
      next row opens =>
        exact ok.opened found (createdSequence_ok opens).1 moved trivial
  | createFound dto scope seen id =>
      rw [stage] at moved ready
      apply ok.writeById found moved
      intro row member named changed change
      have committed := mem_rows_of_unwritten ready member
      have raised := cared row committed
      rw [stage] at raised
      cases given : buildDuplicateScopeUpdateData dto
          (getNextLastNo seen (createLastNoScope dto scope) none) with
      | error problem =>
          rw [given] at change
          cases change
      | ok data =>
          rw [given] at change
          cases change
          obtain ⟨sameScope, absolute⟩ := buildDuplicateScopeUpdateData_ok given
          refine ⟨rfl, ?_, ?_⟩
          · simp [SequenceData.set, sameScope]
          · simpa [SequenceData.set, absolute] using raised named
  | _ =>
      rw [stage] at moved
      cases moved

theorem stepUpdate_ok (ok : server.Ok) (found : server.threads[i]? = some thread)
    (careful : Careful server (.advance i))
    (moved : stepUpdate masters server i thread thread.task = some next) : next.Ok := by
  have own := ok.threads i thread found
  have ready := own.ready
  have cared := careful thread (Option.mem_toList.mpr found)
  cases stage : thread.task with
  | update id dto =>
      rw [stage] at moved ready
      simp only [stepUpdate] at moved
      split at moved
      · cases moved
        exact ok.abort found
      split at moved
      · cases moved
        exact ok.abort found
      split at moved
      · cases moved
        exact ok.abort found
      · cases moved
        exact ok.goTo found ready
  | updateRead dto existing scope =>
      rw [stage] at moved ready
      simp only [stepUpdate] at moved
      split at moved
      · cases moved
        exact ok.abort found
      · cases moved
        exact ok.goTo found ready
  | updateUnique dto existing scope =>
      rw [stage] at moved ready
      simp only [stepUpdate] at moved
      split at moved
      · cases moved
        exact ok.goTo found ready
      split at moved
      · cases moved
      · cases moved
        exact ok.lockGroup found ready
  | updateLocked dto id group =>
      rw [stage] at moved ready
      cases moved
      exact ok.goTo found ready
  | updateCounted dto id counted =>
      rw [stage] at moved ready
      apply ok.writeById found moved
      intro row member named changed change
      have committed := mem_rows_of_unwritten ready member
      have raised := cared row committed
      rw [stage] at raised
      obtain ⟨stays, counts⟩ := raised named
      dsimp only at change
      cases given : buildUpdateData dto
          (counted.map fun counted => getNextLastNo counted.2 counted.1 (some id)) with
      | error problem =>
          rw [given] at change
          cases change
      | ok data =>
          rw [given] at change
          cases change
          obtain ⟨scopeGiven, absolute⟩ := buildUpdateData_ok given
          rw [Stays, scopeGiven] at stays
          refine ⟨rfl, stays, ?_⟩
          simp only [SequenceData.set, absolute]
          cases counted with
          | none => exact le_rfl
          | some count => exact counts count (Option.mem_toList.mpr rfl)
  | _ =>
      rw [stage] at moved
      cases moved

theorem stepDelete_ok (ok : server.Ok) (found : server.threads[i]? = some thread)
    (moved : stepDelete server i thread id = some next) : next.Ok := by
  apply ok.writeById found moved
  intro row member named changed change
  split at change
  · cases change
  · cases change
    exact ⟨rfl, rfl, le_rfl⟩

end Server

variable {masters : SequenceMasters} {server : Server}

/-- Every statement of a careful schedule, and every rollback, keeps the counters. -/
theorem act_ok {next : Server} {action : Action} (ok : server.Ok) (careful : Careful server action)
    (moved : act masters server action = some next) : next.Ok := by
  cases action with
  | rollback i =>
      simp only [act] at moved
      split at moved
      next within =>
        cases moved
        exact ok.abort (List.getElem?_eq_getElem within)
      next => cases moved
  | advance i =>
      simp only [act, step] at moved
      split at moved
      · cases moved
      next thread found =>
      split at moved
      · cases moved
      · cases moved
        exact ok.commit found
      · exact stepDelete_ok ok found moved
      all_goals first
        | exact stepAllocate_ok ok found moved
        | exact stepCreate_ok ok found careful moved
        | exact stepUpdate_ok ok found careful moved

/-! ## Whole schedules -/

/-- The states a server comes to, each maintenance careful. -/
inductive Reaches (masters : SequenceMasters) (start : Server) : Server → Prop where
  | start : Reaches masters start start
  | step {server after : Server} (action : Action) (before : Reaches masters start server)
      (careful : Careful server action) (moved : act masters server action = some after) :
      Reaches masters start after

variable {start : Server}

theorem reaches_ok (ok : start.Ok) (reaches : Reaches masters start server) : server.Ok := by
  induction reaches with
  | start => exact ok
  | step action before careful moved ih => exact act_ok ih careful moved

/-- The documents of a scope are numbered upwards in the order they committed, no two of
one format are printed alike, and no counter is below a number issued in its scope. -/
structure NeverTwice (server : Server) : Prop where
  increasing : server.issued.Pairwise fun earlier later =>
    earlier.scope = later.scope → earlier.lastNo < later.lastNo
  printed : server.issued.Pairwise fun earlier later =>
    earlier.scope = later.scope → earlier.format = later.format → earlier.refno ≠ later.refno
  counters : ∀ doc ∈ server.issued, ∀ row ∈ server.rows, row.scope = doc.scope →
    doc.lastNo ≤ row.lastNo

/-- However many documents and maintenances interleave and roll back: as long as each
maintenance is careful, no number is issued twice. -/
theorem careful_neverTwice {masters : SequenceMasters} {start server : Server} (begins : Start start)
    (reaches : Reaches masters start server) : NeverTwice server := by
  have ok := reaches_ok begins.ok reaches
  constructor
  · exact ok.increasing
  · apply ok.increasing.imp_of_mem
    intro earlier later earlierMember laterMember increasing scope format same
    rw [ok.printed earlier earlierMember, ok.printed later laterMember, format] at same
    exact (increasing scope).ne (later.format.print_injective same)
  · intro doc member row rowMember scope
    obtain ⟨counter, counterMember, sameScope, within⟩ := ok.counters doc member
    obtain rfl := eq_of_scope ok.scopes counterMember rowMember (sameScope.trans scope.symm)
    exact within

/-- The statements of a schedule, as long as they are careful. -/
def runCareful (masters : SequenceMasters) (server : Server) (schedule : List Action) :
    Option Server :=
  schedule.foldlM (fun server action =>
    if Careful server action then act masters server action else none) server

theorem reaches_of_runCareful {after : Server} {schedule : List Action}
    (reaches : Reaches masters start server)
    (moved : runCareful masters server schedule = some after) : Reaches masters start after := by
  induction schedule generalizing server with
  | nil =>
      cases moved
      exact reaches
  | cons action rest ih =>
      obtain ⟨next, first, later⟩ := Option.bind_eq_some_iff.mp moved
      dsimp only at first
      split at first
      · next careful => exact ih (.step action reaches careful first) later
      · cases first

/-! ## A counter set again under another device -/

def salesBill : AccVoucherType := ⟨1, some "B-", none, 5, .YEARLY⟩

def oneBranch : SequenceMasters := ⟨[salesBill], [1], [(1, 1)]⟩

def billCall : VoucherNumberScope := ⟨1, 1, 1, "2025-26", none, none, ⟨2025, 6, 1⟩⟩

/-- The scope of the bills, saved for a device or for none. -/
def billsDto (deviceId : Given Uuid) : CreateSequenceDto where
  vchrTypeId := 1
  companyId := 1
  branchId := 1
  accYear := "2025-26"
  deviceCode := none
  periodKey := "2025-26"
  deviceId := deviceId
  noWidth := none
  voucherPrefix := none
  voucherSuffix := none
  lastRefno := none
  isActive := none

/-- Two bills in one transaction, the counter saved again, and a third bill. -/
def savedAgain (deviceId : Given Uuid) : Server where
  rows := []
  issued := []
  threads := [Transaction.document [billCall, billCall], Transaction.create (billsDto deviceId),
    Transaction.document [billCall]].map fun transaction => { task := transaction.task }
  nextId := 0

theorem savedAgain_start (deviceId : Given Uuid) : Start (savedAgain deviceId) := by
  constructor
  · exact List.nodup_nil
  · exact List.nodup_nil
  · intro row member
    cases member
  · rfl
  · intro thread member
    obtain ⟨transaction, _, rfl⟩ := List.mem_map.mp member
    exact ⟨transaction, rfl⟩

/-- One after the other, nothing in between. -/
def oneAfterTheOther : List Action :=
  (List.replicate 9 0 ++ List.replicate 5 1 ++ List.replicate 5 2).map Action.advance

/-- Saved for no device the counter goes on past both bills. -/
theorem documents_neverTwice :
    ∃ server, runCareful oneBranch (savedAgain none) oneAfterTheOther = some server ∧
      NeverTwice server ∧ server.issued.map (·.lastNo) = [1, 2, 4] := by
  have runs : (runCareful oneBranch (savedAgain none) oneAfterTheOther).any
      (fun server => server.issued.map (·.lastNo) = [1, 2, 4]) = true := by
    decide +kernel
  obtain ⟨server, moved, numbers⟩ := (Option.any_eq_true _ _).mp runs
  exact ⟨server, moved, careful_neverTwice (savedAgain_start none)
    (reaches_of_runCareful .start moved), of_decide_eq_true numbers⟩

/-- Saved for a device the counter does not carry, it gives the third bill the number of the
second. -/
theorem savedAgain_issuedTwice :
    ¬∀ (masters : SequenceMasters) (start server : Server) (schedule : List Action),
      Start start → runSchedule masters start schedule = some server → NeverTwice server := by
  intro always
  have runs : (runSchedule oneBranch (savedAgain (some (some 7))) oneAfterTheOther).any (fun server =>
      !decide (server.issued.Pairwise fun earlier later =>
        earlier.scope = later.scope → earlier.lastNo < later.lastNo)) = true := by
    decide +kernel
  obtain ⟨server, moved, runs⟩ := (Option.any_eq_true _ _).mp runs
  have never := always oneBranch _ server oneAfterTheOther (savedAgain_start _) moved
  rw [decide_eq_true never.increasing] at runs
  cases runs

end ErpServer.Sequence
