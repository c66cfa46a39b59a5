import ErpServer.Loyalty.Transactions

/-!
# Interleaved transactions

A transaction that has the wallet locked finds it as it read it.  One that has not may
find that another has committed in between, and then takes the same points again.
-/

namespace ErpServer.Loyalty

open Lib
open Receipt (Decimal)

/-! ## The statements make up the movement -/

theorem run_drawProgram (wallets : Wallets) (member : LoyaltyMember) (memberId : String)
    (points : Decimal) (txnType : LoyaltyConsumeType) (opts : LoyaltyConsumeOptions)
    (spendable : List LedgerRow) (firstRowNo : ℕ) :
    (drawProgram member memberId points txnType opts spendable firstRowNo).run wallets =
      let drawn := drawLots (drawRow member memberId txnType opts) spendable firstRowNo points
      if 0 < drawn.2 then .error (.disagree memberId drawn.2 points opts.txnDate)
      else writeLedgerRows wallets drawn.1 := by
  unfold drawProgram
  dsimp only
  split
  · rfl
  · rfl

theorem run_consumeProgram (wallets : Wallets) (memberId : String) (points : Decimal)
    (txnType : LoyaltyConsumeType) (opts : LoyaltyConsumeOptions) :
    (consumeProgram memberId points txnType opts).run wallets =
      consume wallets memberId points txnType opts := by
  unfold consumeProgram consume
  split
  · rfl
  split
  · rfl
  split
  · rfl
  split
  · rfl
  · change (lockedProgram memberId points txnType opts wallets).run wallets = _
    unfold lockedProgram
    cases wallets.members.find? fun member => member.lmbId = memberId with
    | none => rfl
    | some member =>
        change (if _ then _ else _ : Program).run wallets = if _ then _ else _
        split
        · rfl
        · obtain ⟨accYear, txnDate, src, tenderId, approvedBy⟩ := opts
          cases src with
          | none => exact run_drawProgram wallets member memberId points txnType _ _ _
          | some src => exact run_drawProgram wallets member memberId points txnType _ _ _

theorem run_program (wallets : Wallets) (transaction : Transaction) :
    transaction.program.run wallets = run wallets transaction.movement := by
  cases transaction with
  | consume memberId points txnType opts =>
      exact run_consumeProgram wallets memberId points txnType opts
  | reverseForCancel doc =>
      change (if _ then _ else _ : Program).run wallets = reverseForCancel wallets doc
      unfold reverseForCancel reverseRows
      split
      · next none =>
          rw [none]
          rfl
      · rfl
  | clawbackForReturn ret share earnedOnBill ignores =>
      change (clawbackForReturnProgram ret share earnedOnBill ignores).run wallets =
        clawbackForReturn wallets ret share earnedOnBill ignores
      unfold clawbackForReturnProgram clawbackForReturn
      split
      · rfl
      dsimp only
      split
      · rfl
      change (if _ then _ else _ : Program).run wallets = _
      split
      · rfl
      · exact run_consumeProgram wallets ret.memberId _ .EXPIRE _
  | expiryRun companyId accYear on => rfl

/-! ## What a transaction may go on to write -/

/-- Statements that leave sound wallets sound, with nothing in between. -/
def Program.Keeps (wallets : Wallets) (program : Program) : Prop :=
  ∀ after, program.run wallets = .ok after → Sound after

/-- Statements that, once they lock the wallet, keep whatever wallets they then find. -/
def Program.Guarded : Program → Prop
  | .read next => ∀ wallets, (next wallets).Guarded
  | .lock next => ∀ wallets, (next wallets).Guarded ∧ (Sound wallets → (next wallets).Keeps wallets)
  | .write _ => True
  | .stop _ => True

theorem Transaction.keeps (transaction : Transaction) {wallets : Wallets} (sound : Sound wallets) :
    transaction.program.Keeps wallets := by
  intro after moved
  rw [run_program] at moved
  exact run_sound sound transaction.movement moved

theorem guarded_drawProgram (member : LoyaltyMember) (memberId : String) (points : Decimal)
    (txnType : LoyaltyConsumeType) (opts : LoyaltyConsumeOptions) (spendable : List LedgerRow)
    (firstRowNo : ℕ) :
    (drawProgram member memberId points txnType opts spendable firstRowNo).Guarded := by
  unfold drawProgram
  dsimp only
  split
  · trivial
  · trivial

theorem guarded_lockedProgram (memberId : String) (points : Decimal)
    (txnType : LoyaltyConsumeType) (opts : LoyaltyConsumeOptions) (locked : Wallets) :
    (lockedProgram memberId points txnType opts locked).Guarded := by
  unfold lockedProgram
  split
  · trivial
  · intro avail
    dsimp only
    by_cases short : redeemable avail memberId opts.txnDate < points
    · rw [if_pos short]
      trivial
    · rw [if_neg short]
      intro spendable
      cases opts.src with
      | none => exact guarded_drawProgram _ memberId points txnType opts _ _
      | some src =>
          intro used
          exact guarded_drawProgram _ memberId points txnType opts _ _

theorem guarded_consumeProgram (memberId : String) (points : Decimal)
    (txnType : LoyaltyConsumeType) (opts : LoyaltyConsumeOptions) :
    (consumeProgram memberId points txnType opts).Guarded := by
  have keeps := @Transaction.keeps (.consume memberId points txnType opts)
  change ∀ {wallets}, Sound wallets →
    (consumeProgram memberId points txnType opts).Keeps wallets at keeps
  unfold consumeProgram at keeps ⊢
  split
  · trivial
  split
  · trivial
  split
  · trivial
  split
  · trivial
  · next notZero noTender noGift noAdjust =>
      intro wallets
      refine ⟨guarded_lockedProgram memberId points txnType opts wallets, ?_⟩
      intro sound after moved
      have kept := keeps sound
      rw [if_neg notZero, if_neg noTender, if_neg noGift, if_neg noAdjust] at kept
      exact kept after moved

theorem Transaction.guarded (transaction : Transaction) : transaction.program.Guarded := by
  cases transaction with
  | consume memberId points txnType opts => exact guarded_consumeProgram memberId points txnType opts
  | reverseForCancel doc =>
      intro seen
      dsimp only
      split
      · trivial
      · intro already used
        trivial
  | clawbackForReturn ret share earnedOnBill ignores =>
      change (clawbackForReturnProgram ret share earnedOnBill ignores).Guarded
      unfold clawbackForReturnProgram
      split
      · trivial
      dsimp only
      split
      · trivial
      · intro avail
        dsimp only
        split
        · trivial
        · exact guarded_consumeProgram ret.memberId _ .EXPIRE _
  | expiryRun companyId accYear on =>
      intro seen
      trivial

/-! ## The invariant -/

/-- A batch as the database took it. -/
structure Inserts (wallets : Wallets) (rows : List LoyaltyLedgerRowInput) : Prop where
  some : rows ≠ []
  taken : insertRows wallets.ledger rows = .ok (wallets.withRows rows).ledger
  keeps : (Program.write rows).Keeps wallets

/-- A transaction whose wallets are still as it read them. -/
def Stage.Current (wallets : Wallets) : Stage → Prop
  | running program => program.Keeps wallets
  | inserted rows => Inserts wallets rows
  | lotsRead rows lotsSaw | lotsWritten rows lotsSaw =>
      Inserts wallets rows ∧ lotsSaw = (wallets.withRows rows).entries
  | membersRead rows lotsSaw membersSaw | membersWritten rows lotsSaw membersSaw =>
      Inserts wallets rows ∧ lotsSaw = (wallets.withRows rows).entries ∧
        membersSaw = (wallets.withRows rows).entries
  | ended _ => True

/-- The last stage before the commit, in which the row of the wallet is locked. -/
def Stage.isMembersWritten : Stage → Bool
  | membersWritten _ _ _ => true
  | _ => false

/-- Whether a transaction has the row of the wallet locked. -/
def Thread.holds (thread : Thread) : Bool :=
  thread.locks && !thread.stage.isEnded || thread.stage.isMembersWritten

structure Thread.Ok (wallets : Wallets) (commits : ℕ) (thread : Thread) : Prop where
  guarded : ∀ program, thread.stage = .running program → program.Guarded
  past : ∀ seen, thread.since = some seen → seen ≤ commits
  unread : thread.since = none → ∀ program, thread.stage = .running program →
    ∀ wallets, Sound wallets → program.Keeps wallets
  begun : thread.since = none → (∃ program, thread.stage = .running program) ∨
    thread.stage.isEnded = true
  current : thread.since = some commits → thread.stage.Current wallets
  locked : thread.locks = true → thread.stage.isEnded = false → thread.since = some commits

structure Server.Ok (server : Server) : Prop where
  sound : Sound server.wallets
  threads : ∀ (i : ℕ) (thread : Thread), server.threads[i]? = some thread →
    thread.Ok server.wallets server.commits
  holder : ∀ (i : ℕ) (thread : Thread), server.threads[i]? = some thread → thread.holds = true →
    server.holder = some i

variable {server : Server} {thread : Thread} {i : ℕ}

theorem Start.ok {memberId : String} (start : Start memberId server) : server.Ok := by
  constructor
  · exact reachable_sound start.reachable
  · intro i thread found
    obtain ⟨transaction, -, rfl⟩ := start.threads thread (List.mem_of_getElem? found)
    constructor
    · intro program running
      cases running
      exact transaction.guarded
    · intro seen read
      cases read
    · intro _ program running wallets sound
      cases running
      exact transaction.keeps sound
    · intro _
      exact Or.inl ⟨_, rfl⟩
    · intro read
      cases read
    · intro locks
      cases locks
  · intro i thread found holds
    obtain ⟨transaction, -, rfl⟩ := start.threads thread (List.mem_of_getElem? found)
    cases holds

/-! ## One statement -/

section Thread

variable {wallets : Wallets} {commits : ℕ} {thread : Thread}

/-- A transaction that has ended. -/
theorem Thread.Ok.ended (ok : thread.Ok wallets commits) (outcome : Except LoyaltyError Unit) :
    Thread.Ok wallets commits { thread with stage := .ended outcome } := by
  constructor
  · intro program running
    cases running
  · exact ok.past
  · intro _ program running
    cases running
  · intro _
    exact Or.inr rfl
  · intro _
    trivial
  · intro _ live
    cases live

/-- A transaction past its reads that goes on to its next stage. -/
theorem Thread.Ok.advance (ok : thread.Ok wallets commits) {stage : Stage}
    (read : thread.since ≠ none) (live : thread.stage.isEnded = false)
    (past : ∀ program, stage ≠ .running program)
    (current : thread.stage.Current wallets → stage.Current wallets) :
    Thread.Ok wallets commits { thread with stage := stage } := by
  constructor
  · intro program running
    exact (past program running).elim
  · exact ok.past
  · intro unread
    exact (read unread).elim
  · intro unread
    exact (read unread).elim
  · intro now
    exact current (ok.current now)
  · intro locks _
    exact ok.locked locks live

/-- A batch in flight was composed from something read. -/
theorem Thread.Ok.hasRead (ok : thread.Ok wallets commits)
    (past : ∀ program, thread.stage ≠ .running program) (live : thread.stage.isEnded = false) :
    thread.since ≠ none := by
  intro unread
  rcases ok.begun unread with ⟨program, running⟩ | ended
  · exact past program running
  · rw [live] at ended
    cases ended

/-- Where a transaction that goes on reads from: the first time, from now. -/
theorem Thread.Ok.sinceNow (ok : thread.Ok wallets commits) (sound : Sound wallets)
    {program : Program} (running : thread.stage = .running program)
    (now : thread.since.or (some commits) = some commits) : program.Keeps wallets := by
  cases read : thread.since with
  | none => exact ok.unread read program running wallets sound
  | some seen =>
      rw [read, Option.some_or] at now
      have current := ok.current (read.trans now)
      rw [running] at current
      exact current

theorem Thread.Ok.pastOr (ok : thread.Ok wallets commits) (seen : ℕ)
    (read : thread.since.or (some commits) = some seen) : seen ≤ commits := by
  cases before : thread.since with
  | none =>
      rw [before, Option.none_or] at read
      exact (Option.some.inj read).ge
  | some first =>
      rw [before, Option.some_or] at read
      exact ok.past seen (before.trans read)

theorem Thread.Ok.lockedOr (ok : thread.Ok wallets commits) (locks : thread.locks = true)
    (live : thread.stage.isEnded = false) : thread.since.or (some commits) = some commits := by
  rw [ok.locked locks live, Option.some_or]

variable {next : Wallets → Program}

theorem Thread.Ok.read (ok : thread.Ok wallets commits) (sound : Sound wallets)
    (running : thread.stage = .running (.read next)) : Thread.Ok wallets commits { thread with
      stage := .running (next wallets), since := thread.since.or (some commits) } := by
  constructor
  · intro program same
    cases same
    exact ok.guarded _ running wallets
  · exact ok.pastOr
  · intro unread
    cases before : thread.since with
    | none => simp [before] at unread
    | some seen => simp [before] at unread
  · intro _
    exact Or.inl ⟨_, rfl⟩
  · intro now
    have kept := ok.sinceNow sound running now
    exact kept
  · intro locks _
    apply ok.lockedOr locks
    rw [running]
    rfl

theorem Thread.Ok.lock (ok : thread.Ok wallets commits) (sound : Sound wallets)
    (running : thread.stage = .running (.lock next)) : Thread.Ok wallets commits
      { stage := .running (next wallets), locks := true, since := some commits } := by
  have guarded := ok.guarded _ running wallets
  constructor
  · intro program same
    cases same
    exact guarded.1
  · intro seen same
    cases same
    exact le_rfl
  · intro unread
    cases unread
  · intro unread
    cases unread
  · intro _
    exact guarded.2 sound
  · intro _ _
    rfl

theorem Thread.Ok.insert (ok : thread.Ok wallets commits) (sound : Sound wallets)
    {rows : List LoyaltyLedgerRowInput} (running : thread.stage = .running (.write rows))
    (some : rows ≠ []) {ledger : List LedgerRow}
    (taken : insertRows wallets.ledger rows = .ok ledger) :
    Thread.Ok wallets commits { thread with
      stage := .inserted rows, since := thread.since.or (.some commits) } := by
  constructor
  · intro program same
    cases same
  · exact ok.pastOr
  · intro _ program same
    cases same
  · intro unread
    cases before : thread.since with
    | none => simp [before] at unread
    | some seen => simp [before] at unread
  · intro now
    have placed := (insertRows_ok taken).1
    refine ⟨some, ?_, ok.sinceNow sound running now⟩
    rw [taken, placed]
    rfl
  · intro locks _
    apply ok.lockedOr locks
    rw [running]
    rfl

end Thread

/-- One transaction moved: the others are as they were, and keep their locks. -/
theorem Server.Ok.replace (ok : server.Ok) {holder : Option ℕ}
    (threadOk : thread.Ok server.wallets server.commits)
    (own : thread.holds = true → holder = some i)
    (others : ∀ j, j ≠ i → server.holder = some j → holder = some j) :
    Server.Ok { server.move i thread with holder := holder } := by
  have found {j : ℕ} {other : Thread}
      (member : (server.threads.set i thread)[j]? = some other) :
      i = j ∧ other = thread ∨ j ≠ i ∧ server.threads[j]? = some other := by
    rw [List.getElem?_set] at member
    split at member
    · next same =>
        split at member
        · cases member
          exact Or.inl ⟨same, rfl⟩
        · cases member
    · next different => exact Or.inr ⟨Ne.symm different, member⟩
  constructor
  · exact ok.sound
  · intro j other member
    rcases found member with ⟨-, rfl⟩ | ⟨-, before⟩
    · exact threadOk
    · exact ok.threads j other before
  · intro j other member holds
    rcases found member with ⟨rfl, rfl⟩ | ⟨different, before⟩
    · exact own holds
    · exact others j different (ok.holder j other before holds)

/-- One transaction went on to its next stage, short of the lock of the wallet. -/
theorem Server.Ok.advance (ok : server.Ok) (found : server.threads[i]? = some thread)
    {before after : Stage} (stage : thread.stage = before)
    (past : ∀ program, before ≠ .running program) (live : before.isEnded = false)
    (afterPast : ∀ program, after ≠ .running program) (unwritten : after.isMembersWritten = false)
    (current : before.Current server.wallets → after.Current server.wallets) :
    (server.move i { thread with stage := after }).Ok := by
  have threadOk := ok.threads i thread found
  subst stage
  apply ok.replace
  · exact threadOk.advance (threadOk.hasRead past live) live afterPast current
  · intro holds
    apply ok.holder i thread found
    rw [Thread.holds, unwritten, Bool.or_false, Bool.and_eq_true] at holds
    rw [Thread.holds, holds.1, live]
    rfl
  · intro j _ held
    exact held

theorem Server.Ok.finish (ok : server.Ok) (found : server.threads[i]? = some thread)
    (outcome : Except LoyaltyError Unit) : (server.finish i thread outcome).Ok := by
  apply ok.replace
  · exact (ok.threads i thread found).ended outcome
  · intro holds
    simp [Thread.holds, Stage.isEnded, Stage.isMembersWritten] at holds
  · intro j different held
    rw [held, if_neg]
    intro same
    exact different (Option.some.inj same)

variable {rows : List LoyaltyLedgerRowInput} {after start : Server}

/-- What was committed when nothing had been committed since the transaction read: what
the movement writes with nothing in between. -/
theorem commitRows_eq {wallets : Wallets} (inserts : Inserts wallets rows) :
    writeLedgerRows wallets rows = .ok (commitRows wallets rows
      (wallets.withRows rows).entries (wallets.withRows rows).entries) := by
  unfold writeLedgerRows
  rw [if_neg inserts.some, inserts.taken]
  change Except.ok (recomputeMembers _ (recomputeLots _ (wallets.withRows rows))) = _
  unfold recomputeMembers
  rw [entries_recomputeLots]
  rfl

/-- A transaction that finds the wallets as it read them commits what keeps them sound. -/
theorem Server.Ok.commit (ok : server.Ok) (found : server.threads[i]? = some thread)
    {lotsSaw membersSaw : List LedgerEntry}
    (stage : thread.stage = .membersWritten rows lotsSaw membersSaw)
    (since : thread.since = some server.commits) : Server.Ok { server.finish i thread (.ok ()) with
      wallets := commitRows server.wallets rows lotsSaw membersSaw
      commits := server.commits + 1 } := by
  have finished := ok.finish found (.ok ())
  have current := (ok.threads i thread found).current since
  rw [stage] at current
  obtain ⟨inserts, rfl, rfl⟩ := current
  have held : server.holder = some i := by
    apply ok.holder i thread found
    rw [Thread.holds, stage]
    simp [Stage.isMembersWritten]
  constructor
  · exact inserts.keeps _ (commitRows_eq inserts)
  · intro j other member
    have before := finished.threads j other member
    constructor
    · exact before.guarded
    · intro seen read
      exact (before.past seen read).trans (Nat.le_succ _)
    · exact before.unread
    · exact before.begun
    · intro now
      exact absurd (before.past _ now) (Nat.not_succ_le_self _)
    · -- Nobody else has the wallet locked while one commits.
      intro locks live
      have holds : other.holds = true := by
        rw [Thread.holds, locks, live]
        rfl
      have other := finished.holder j other member holds
      change (if server.holder = some i then none else server.holder) = some j at other
      rw [if_pos held] at other
      cases other
  · exact finished.holder

/-- Nothing was committed on the wallet between a transaction's reads and its commit,
unless the transaction has the wallet locked. -/
def Undisturbed (server : Server) (i : ℕ) : Prop :=
  ∀ thread ∈ server.threads[i]?, thread.stage.isMembersWritten = true →
    thread.locks = true ∨ thread.since = some server.commits

instance (server : Server) (i : ℕ) : Decidable (Undisturbed server i) :=
  inferInstanceAs (Decidable (∀ thread ∈ server.threads[i]?, _))

/-- One undisturbed statement. -/
theorem step_ok (ok : server.Ok) (undisturbed : Undisturbed server i)
    (moved : step server i = some after) : after.Ok := by
  unfold step at moved
  cases found : server.threads[i]? with
  | none =>
      rw [found] at moved
      cases moved
  | some thread =>
      rw [found] at moved
      have threadOk := ok.threads i thread found
      have holds := ok.holder i thread found
      have stays : ∀ j, j ≠ i → server.holder = some j → server.holder = some j :=
        fun _ _ held => held
      dsimp only at moved
      cases stage : thread.stage with
      | running program =>
          rw [stage] at moved
          have live : thread.stage.isEnded = false := by
            rw [stage]
            rfl
          have locksHeld (locks : thread.locks = true) : server.holder = some i := by
            apply holds
            rw [Thread.holds, locks, live]
            rfl
          cases program with
          | read next =>
              cases moved
              apply ok.replace (threadOk.read ok.sound stage) _ stays
              intro held
              apply locksHeld
              simpa [Thread.holds, Stage.isEnded, Stage.isMembersWritten] using held
          | lock next =>
              dsimp only at moved
              split at moved
              · next free =>
                  cases moved
                  apply ok.replace (threadOk.lock ok.sound stage)
                  · intro _
                    rfl
                  · intro j _ held
                    rw [free] at held
                    cases held
              · cases moved
          | write rows =>
              dsimp only at moved
              split at moved
              · cases moved
                exact ok.finish found _
              · next some =>
                  split at moved
                  · cases moved
                  · cases taken : insertRows server.wallets.ledger rows with
                    | error error =>
                        rw [taken] at moved
                        cases moved
                        exact ok.finish found _
                    | ok ledger =>
                        rw [taken] at moved
                        cases moved
                        apply ok.replace (threadOk.insert ok.sound stage some taken) _ stays
                        intro held
                        apply locksHeld
                        simpa [Thread.holds, Stage.isEnded, Stage.isMembersWritten] using held
          | stop outcome =>
              cases moved
              exact ok.finish found outcome
      | inserted rows =>
          rw [stage] at moved
          cases moved
          apply ok.advance found stage (by simp) rfl (by simp) rfl
          intro current
          exact ⟨current, rfl⟩
      | lotsRead rows lotsSaw =>
          rw [stage] at moved
          dsimp only at moved
          split at moved
          · cases moved
          · cases moved
            apply ok.advance found stage (by simp) rfl (by simp) rfl
            intro current
            exact current
      | lotsWritten rows lotsSaw =>
          rw [stage] at moved
          cases moved
          apply ok.advance found stage (by simp) rfl (by simp) rfl
          intro current
          exact ⟨current.1, current.2, rfl⟩
      | membersRead rows lotsSaw membersSaw =>
          rw [stage] at moved
          dsimp only at moved
          split at moved
          · next free =>
              cases moved
              have read := threadOk.hasRead (by simp [stage]) (by rw [stage]; rfl)
              apply ok.replace
              · apply threadOk.advance read (by rw [stage]; rfl) (by simp)
                intro current
                rw [stage] at current
                exact current
              · intro _
                rfl
              · intro j different held
                rcases free with none | own
                · rw [none] at held
                  cases held
                · rw [own] at held
                  exact absurd (Option.some.inj held).symm different
          · cases moved
      | membersWritten rows lotsSaw membersSaw =>
          rw [stage] at moved
          cases moved
          apply ok.commit found stage
          rcases undisturbed thread found (by rw [stage]; rfl) with locks | since
          · apply threadOk.locked locks
            rw [stage]
            rfl
          · exact since
      | ended outcome =>
          rw [stage] at moved
          cases moved

/-! ## Whole schedules -/

/-- The states a server comes to, statement by statement, each undisturbed. -/
inductive Reaches (start : Server) : Server → Prop where
  | start : Reaches start start
  | step {server after : Server} (i : ℕ) (before : Reaches start server)
      (undisturbed : Undisturbed server i) (moved : step server i = some after) :
      Reaches start after

theorem reaches_ok (ok : start.Ok) (reaches : Reaches start server) : server.Ok := by
  induction reaches with
  | start => exact ok
  | step i before undisturbed moved ih => exact step_ok ih undisturbed moved

/-- No lot is overdrawn, and no wallet holds less than its lots. -/
structure SpentOnce (wallets : Wallets) : Prop where
  lots : ∀ row ∈ wallets.ledger, opensLot row.toLoyaltyLedgerRowInput = true →
    0 ≤ row.lotBalance
  members : ∀ member ∈ wallets.members,
    ((wallets.ledger.filter fun row =>
      row.memberId = member.lmbId && opensLot row.toLoyaltyLedgerRowInput).map
        LedgerRow.lotBalance).sum ≤ member.balancePoints

/-- However any number of transactions on a wallet interleave: as long as each of them
that has not locked the wallet commits before anything else on it does, no point is spent
twice. -/
theorem undisturbed_spentOnce {memberId : String} {start server : Server}
    (begins : Start memberId start) (reaches : Reaches start server) :
    SpentOnce server.wallets := by
  have sound := (reaches_ok begins.ok reaches).sound
  constructor
  · intro row rowMember opens
    exact sound.lotBalance_nonneg rowMember (sound.isLot rowMember opens)
  · intro member memberOf
    exact (balance_eq_lots sound memberOf).ge

/-! ## A cancel that read before a redemption -/

/-- A wallet of one award. -/
def awardedWallet : Wallets where
  ledger :=
    [⟨⟨{ compId := "C1", accYear := "2025-26", memberId := "M1", txnType := .EARN, rowNo := 1,
         points := 100, txnDate := 10, src := some ⟨.SALE_BILL, "B1"⟩ }, 0⟩, 0⟩]
  members := [⟨"M1", "C1", .ACTIVE, false, 100, 0, 0, 0, 0⟩]

/-- The bill of the award is cancelled while another bill redeems points. -/
def cancelAndRedeem (points : Decimal) : Server where
  wallets := awardedWallet
  threads := [Transaction.reverseForCancel ⟨⟨.SALE_BILL, "B1"⟩, "2025-26"⟩,
    Transaction.consume "M1" points .REDEEM
      ⟨"2025-26", 20, some ⟨.SALE_BILL, "B2"⟩, some "T1", none⟩].map fun transaction =>
        { stage := .running transaction.program }

theorem cancelAndRedeem_start (points : Decimal) : Start "M1" (cancelAndRedeem points) := by
  have opening : Opening emptyWallet := ⟨rfl, by decide +kernel⟩
  have earned : runAll emptyWallet
      [.earn ⟨"C1", "2025-26", "M1", ⟨.SALE_BILL, "B1"⟩, 10, 100, none, none⟩] =
        .ok awardedWallet := by decide +kernel
  constructor
  · exact runAll_reachable (.opening opening) earned
  · change ∀ row ∈ awardedWallet.ledger, row.memberId = "M1"
    decide +kernel
  · intro thread member
    obtain ⟨transaction, within, rfl⟩ := List.mem_map.mp member
    refine ⟨transaction, ?_, rfl⟩
    rcases List.mem_pair.mp within with rfl | rfl
    · trivial
    · rfl
  · rfl
  · rfl

/-- The statements of a schedule, as long as they are undisturbed. -/
def runUndisturbed (server : Server) (schedule : List ℕ) : Option Server :=
  schedule.foldlM (fun server i => if Undisturbed server i then step server i else none) server

theorem reaches_of_runUndisturbed {schedule : List ℕ} (reaches : Reaches start server)
    (moved : runUndisturbed server schedule = some after) : Reaches start after := by
  induction schedule generalizing server with
  | nil =>
      cases moved
      exact reaches
  | cons i rest ih =>
      obtain ⟨next, first, later⟩ := Option.bind_eq_some_iff.mp moved
      dsimp only at first
      split at first
      · next undisturbed => exact ih (.step i reaches undisturbed first) later
      · cases first

/-- Between the reads of the cancel and its rows, the other bill asks for more than there is,
and is refused: the cancel has not been disturbed. -/
def refusedInBetween : List ℕ := List.replicate 3 0 ++ List.replicate 3 1 ++ List.replicate 6 0

theorem refusedInBetween_spentOnce :
    ∃ server, runUndisturbed (cancelAndRedeem 150) refusedInBetween = some server ∧
      SpentOnce server.wallets := by
  have runs : (runUndisturbed (cancelAndRedeem 150) refusedInBetween).any (fun server =>
      server.threads.map (fun thread => (thread.stage.isEnded, thread.stage.isCommitted)) =
        [(true, true), (true, false)]) = true := by
    decide +kernel
  obtain ⟨server, moved, -⟩ := (Option.any_eq_true _ _).mp runs
  refine ⟨server, moved, ?_⟩
  exact undisturbed_spentOnce (cancelAndRedeem_start 150) (reaches_of_runUndisturbed .start moved)

/-- The cancel reads, the redemption runs from end to end, the cancel writes. -/
def redeemedInBetween : List ℕ := List.replicate 3 0 ++ List.replicate 10 1 ++ List.replicate 6 0

/-- The same points are taken twice. -/
theorem interleaved_spentTwice :
    ¬∀ (memberId : String) (start server : Server) (schedule : List ℕ),
      Start memberId start → runSchedule start schedule = some server →
        (∀ thread ∈ server.threads, thread.stage.isCommitted = true) →
          SpentOnce server.wallets := by
  intro always
  have runs : (runSchedule (cancelAndRedeem 100) redeemedInBetween).any (fun server =>
      server.threads.all (fun thread => thread.stage.isCommitted) &&
        server.wallets.ledger.any fun row =>
          opensLot row.toLoyaltyLedgerRowInput && decide (row.lotBalance < 0)) = true := by
    decide +kernel
  obtain ⟨server, moved, runs⟩ := (Option.any_eq_true _ _).mp runs
  rw [Bool.and_eq_true, List.all_eq_true, List.any_eq_true] at runs
  obtain ⟨committed, row, rowMember, overdrawn⟩ := runs
  rw [Bool.and_eq_true, decide_eq_true_eq] at overdrawn
  have spent := always "M1" (cancelAndRedeem 100) server redeemedInBetween
    (cancelAndRedeem_start 100) moved committed
  exact (spent.lots row rowMember overdrawn.1).not_gt overdrawn.2

end ErpServer.Loyalty
