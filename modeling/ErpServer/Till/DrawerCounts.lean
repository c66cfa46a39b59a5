import ErpServer.Till.Drawer

/-!
# No drawer cash escapes the count

Once a session is closed every document that did not come late is in the expectation its
final count froze, and no document pays out more than the drawer holds, as long as
documents and counts commit in time.
-/

namespace ErpServer.Till

open Lib.Interleaving

/-! ## What a closed drawer shows -/

/-- The drawer never goes below nothing through a document that pays out. -/
def NeverShort (shop : TillShop) (documents : List PostedDocument) : Prop :=
  ∀ before posted, before ++ [posted] <+: documents → 0 < posted.document.cashOut →
    0 ≤ shop.expected posted.document.session
      (stampedOn (before ++ [posted]) posted.document.session)

/-- A closed session was judged on every document on it but the late ones, and where the
drawer must hold what is paid out, it did. -/
structure Drawn (shop : TillShop) (tables : TillTables) : Prop where
  included : ∀ id session, tables.sessions[id]? = some session → session.tssStatus = .CLOSED →
    ∃ variance, session.variance = some variance ∧
      variance.tvrExpected = shop.expected id variance.inside ∧
      Included tables.documents id variance.inside
  covered : shop.settings.cashOutOverExpected = .REFUSE → NeverShort shop tables.documents

/-! ## Documents -/

section Documents

variable {shop : TillShop} {documents : List PostedDocument} {posted : PostedDocument} {id : ℕ}

theorem zipIdx_concat : (documents ++ [posted]).zipIdx = documents.zipIdx ++ [(posted, documents.length)] := by
  simp [List.zipIdx_append]

theorem stampedOn_concat : stampedOn (documents ++ [posted]) id = stampedOn documents id ++
    if posted.document.session = id then [(posted.document.rows, documents.length)] else [] := by
  rw [stampedOn, zipIdx_concat, List.filter_append, List.map_append, ← stampedOn]
  by_cases here : posted.document.session = id <;> simp [here]

/-- A document moves its drawer by what its rows bring or take. -/
theorem expected_concat : shop.expected posted.document.session
      (stampedOn (documents ++ [posted]) posted.document.session) =
    shop.expected posted.document.session (stampedOn documents posted.document.session) -
      posted.document.taken := by
  simp only [stampedOn_concat, if_true, TillShop.expected, cashExpectation_expected, MoneyDocument.taken,
    List.flatMap_append, List.flatMap_singleton, List.map_append, List.sum_append]
  ring

theorem Included.concat {inside : List (List TenderRow × ℕ)} (included : Included documents id inside)
    (apart : posted.document.session = id → posted.late = true) :
    Included (documents ++ [posted]) id inside := by
  intro entry member here inTime
  rw [zipIdx_concat] at member
  rcases List.mem_append.mp member with old | new
  · exact included entry old here inTime
  · rw [List.mem_singleton.mp new] at here inTime
    rw [apart here] at inTime
    cases inTime

theorem NeverShort.concat (covered : NeverShort shop documents)
    (covers : 0 < posted.document.cashOut → posted.document.taken ≤
      shop.expected posted.document.session (stampedOn documents posted.document.session)) :
    NeverShort shop (documents ++ [posted]) := by
  intro before last within pays
  rcases List.prefix_concat_iff.mp within with whole | earlier
  · obtain ⟨rfl, same⟩ := List.append_inj' whole rfl
    cases same
    rw [expected_concat]
    exact sub_nonneg.mpr (covers pays)
  · exact covered before last earlier pays

end Documents

/-! ## Invariants -/

/-- What a session shows of its final count. -/
structure Frozen (shop : TillShop) (id : ℕ) (session : TillSession) : Prop where
  expected : ∀ variance ∈ session.variance, variance.tvrExpected = shop.expected id variance.inside
  counted : session.tssCloseCount = true → session.variance ≠ none
  closed : session.tssStatus = .CLOSED → session.tssCloseCount = true

/-- A final count that stands was made of every document but the late ones. -/
def Stands (documents : List PostedDocument) (id : ℕ) (session : TillSession) : Prop :=
  session.tssCloseCount = true → ∀ variance ∈ session.variance, Included documents id variance.inside

/-- Between statements. -/
structure Kept (shop : TillShop) (tables : TillTables) : Prop where
  frozen : ∀ id session, tables.sessions[id]? = some session → Frozen shop id session
  stands : ∀ id session, tables.sessions[id]? = some session → Stands tables.documents id session
  covered : shop.settings.cashOutOverExpected = .REFUSE → NeverShort shop tables.documents

/-- What a transaction relies on at its next statement. -/
def Holds (shop : TillShop) (tables : TillTables) (locks : List SessionLock) : TillTask → Prop
  | .endBillingLocked id | .countLocked id _ _ | .decideLocked id _ | .closeLocked id => id ∈ locks
  | .counting id row _ _ => id ∈ locks ∧ Frozen shop id row ∧ row.tssStatus = .COUNTING
  | .counted id row => id ∈ locks ∧ Frozen shop id row
  | .updated id row => id ∈ locks ∧ Frozen shop id row ∧ Stands tables.documents id row ∧
      (row.tssCloseCount = true → tables.counted id = true)
  | _ => True

section Keeping

variable {shop : TillShop} {tables later : TillTables} {now : Instant} {task next : TillTask}
variable {locks held : List SessionLock} {id : ℕ} {session : TillSession}

theorem countIn_frozen (frozen : Frozen shop id session) (counted : Decimal) (othersOut : Bool)
    (inside : List (List TenderRow × ℕ)) (counting : session.tssStatus ≠ .CLOSED) :
    Frozen shop id
      (countIn shop.settings session counted (shop.expected id inside) othersOut inside) := by
  simp only [countIn]
  split
  · refine ⟨?_, by simp, by simp⟩
    intro variance member
    cases member
    rfl
  · split
    · refine ⟨?_, by simp, by simp⟩
      intro variance member
      cases member
      rfl
    · exact ⟨frozen.expected, frozen.counted, fun closed => (counting closed).elim⟩

theorem decideVariance_frozen (frozen : Frozen shop id session)
    (approval : Option TillVarianceTreatment) : Frozen shop id (decideVariance session approval) := by
  cases approval with
  | some treatment =>
      refine ⟨?_, ?_, by simp [decideVariance]⟩
      · intro variance member
        obtain ⟨was, found, rfl⟩ := Option.map_eq_some_iff.mp member
        split
        · exact frozen.expected was found
        · exact frozen.expected was found
      · intro counted none
        exact frozen.counted counted (Option.map_eq_none_iff.mp none)
  | none =>
      refine ⟨frozen.expected, ?_, ?_⟩
      · intro counted
        cases counted
      · intro closed
        cases closed

variable {documents : List PostedDocument} {late : Bool}

theorem decideVariance_stands (stands : Stands documents id session)
    (approval : Option TillVarianceTreatment) :
    Stands documents id (decideVariance session approval) := by
  cases approval with
  | some treatment =>
      intro counted variance member
      obtain ⟨was, found, rfl⟩ := Option.map_eq_some_iff.mp member
      split
      · exact stands counted was found
      · exact stands counted was found
  | none =>
      intro counted
      cases counted

theorem counted_of_found (found : tables.sessions[id]? = some session) :
    tables.counted id = session.tssCloseCount := by
  simp [TillTables.counted, found]

/-- A document in time leaves what every final count was made of. -/
theorem Stands.document {document : MoneyDocument} (stands : Stands documents id session)
    (inTime : document.session = id → session.tssCloseCount = true → late = true) :
    Stands (documents ++ [⟨document, late⟩]) id session := by
  intro counted variance member
  apply (stands counted variance member).concat
  intro here
  exact inTime here counted

theorem Kept.document {document : MoneyDocument} (kept : Kept shop tables)
    (inTime : InTime shop tables now (.written document late)) :
    Kept shop { tables with documents := tables.documents ++ [⟨document, late⟩] } where
  frozen := kept.frozen
  stands := by
    intro id session found
    have stood : tables.sessions[id]? = some session := found
    apply (kept.stands id session found).document
    intro here counted
    cases late with
    | true => rfl
    | false =>
        have uncounted := inTime.document document rfl
        rw [here, counted_of_found stood, counted] at uncounted
        cases uncounted
  covered := by
    intro refuse
    apply (kept.covered refuse).concat
    exact inTime.covered refuse document late rfl

theorem Kept.setSession {row : TillSession} (kept : Kept shop tables) (frozen : Frozen shop id row)
    (stands : Stands tables.documents id row) :
    Kept shop { tables with sessions := tables.sessions.set id row } := by
  have each : ∀ other session, (tables.sessions.set id row)[other]? = some session →
      (other = id ∧ session = row) ∨ tables.sessions[other]? = some session := by
    intro other session found
    rw [List.getElem?_set] at found
    split at found
    · next same =>
        split at found
        · cases found
          exact Or.inl ⟨same.symm, rfl⟩
        · cases found
    · exact Or.inr found
  refine ⟨?_, ?_, kept.covered⟩
  · intro other session found
    rcases each other session found with ⟨rfl, rfl⟩ | unchanged
    · exact frozen
    · exact kept.frozen other session unchanged
  · intro other session found
    rcases each other session found with ⟨rfl, rfl⟩ | unchanged
    · exact stands
    · exact kept.stands other session unchanged

/-- What a commit adds or changes: a document, or a session under its lock. -/
def Leaves (tables : TillTables) (locks : List SessionLock) (later : TillTables) : Prop :=
  (∃ document late, (late = false → tables.counted document.session = false) ∧
    later = { tables with documents := tables.documents ++ [⟨document, late⟩] }) ∨
  ∃ id row, id ∈ locks ∧ later = { tables with sessions := tables.sessions.set id row }

/-- Each statement keeps what the next one relies on, and a commit keeps the tills. -/
theorem till_leads (kept : Kept shop tables) (relied : Holds shop tables locks task)
    (inTime : InTime shop tables now task) :
    (tillProgram shop tables now task).Leads locks (Holds shop tables) fun later =>
      Kept shop later ∧ Leaves tables locks later := by
  cases task with
  | post document =>
      simp only [tillProgram]
      split <;> trivial
  | live document | unblocked document =>
      simp only [tillProgram]
      split <;> trivial
  | written document late =>
      refine ⟨kept.document inTime, Or.inl ⟨document, late, ?_, rfl⟩⟩
      rintro rfl
      exact inTime.document document rfl
  | endBilling session | count session counted othersOut | decide session approval | close session =>
      exact List.mem_cons_self
  | endBillingLocked id =>
      simp only [tillProgram]
      split
      · next row found =>
          split
          · have frozen := kept.frozen id row found
            refine ⟨relied, ⟨frozen.expected, frozen.counted, fun closed => by cases closed⟩,
              kept.stands id row found, ?_⟩
            intro counted
            exact (counted_of_found found).trans counted
          · trivial
      · trivial
  | countLocked id counted othersOut =>
      simp only [tillProgram]
      split
      · next row found =>
          split
          · next counting => exact ⟨relied, kept.frozen id row found, counting.1⟩
          · trivial
      · trivial
  | counting id row counted othersOut =>
      refine ⟨relied.1, countIn_frozen relied.2.1 counted othersOut _ ?_⟩
      rw [relied.2.2]
      simp
  | counted id row =>
      exact ⟨kept.setSession relied.2 fun counted => inTime.count id row rfl counted,
        Or.inr ⟨id, row, relied.1, rfl⟩⟩
  | decideLocked id approval =>
      simp only [tillProgram]
      split
      · next row found =>
          split
          · refine ⟨relied, decideVariance_frozen (kept.frozen id row found) approval,
              decideVariance_stands (kept.stands id row found) approval, ?_⟩
            intro counted
            rw [counted_of_found found]
            cases approval with
            | some treatment => exact counted
            | none => cases counted
          · trivial
      · trivial
  | closeLocked id =>
      simp only [tillProgram]
      split
      · next row found =>
          split
          · next closable =>
              simp only [TillSession.closable, Bool.and_eq_true] at closable
              have frozen := kept.frozen id row found
              refine ⟨relied, ⟨frozen.expected, frozen.counted, fun _ => closable.1.2⟩,
                kept.stands id row found, ?_⟩
              intro counted
              exact (counted_of_found found).trans counted
          · trivial
      · trivial
  | updated id row =>
      exact ⟨kept.setSession relied.2.1 relied.2.2.1, Or.inr ⟨id, row, relied.1, rfl⟩⟩

/-- What one relies on under a session's lock stays when others commit. -/
theorem holds_others {other : TillTask} (left : Leaves tables locks later)
    (disjoint : locks.Disjoint held) (theirs : Holds shop tables held other) :
    Holds shop later held other := by
  cases other with
  | updated id row =>
      obtain ⟨locked, frozen, stands, standing⟩ := theirs
      rcases left with ⟨document, late, inTime, rfl⟩ | ⟨written, session, own, rfl⟩
      · refine ⟨locked, frozen, stands.document ?_, standing⟩
        intro here counted
        cases late with
        | true => rfl
        | false =>
            have uncounted := inTime rfl
            rw [here, standing counted] at uncounted
            cases uncounted
      · refine ⟨locked, frozen, stands, ?_⟩
        have apart : written ≠ id := by
          rintro rfl
          exact disjoint own locked
        intro counted
        rw [TillTables.counted, List.getElem?_set_ne apart]
        exact standing counted
  | _ => exact theirs

theorem till_keeps (shop : TillShop) :
    Keeps (tillProgram shop) (InTime shop) (Kept shop) (Holds shop) :=
  keeps_of_leads till_leads fun _ => holds_others

theorem Kept.drawn (kept : Kept shop tables) : Drawn shop tables where
  included := by
    intro id session found closed
    have frozen := kept.frozen id session found
    have counted := frozen.closed closed
    obtain ⟨variance, isFrozen⟩ := Option.ne_none_iff_exists'.mp (frozen.counted counted)
    exact ⟨variance, isFrozen, frozen.expected variance isFrozen,
      kept.stands id session found counted variance isFrozen⟩
  covered := kept.covered

end Keeping

/-! ## Every run -/

/-- As long as documents and counts commit in time, no cash escapes a drawer's count and
none is paid out that the drawer does not hold. -/
theorem drawer_counted (shop : TillShop) (transactions : List TillTransaction)
    (server : Server TillTables TillTask SessionLock)
    (reached : Reaches (tillProgram shop) (InTime shop) (tillServer shop transactions) server) :
    Drawn shop server.database := by
  have start : (tillServer shop transactions).Ok (Kept shop) (Holds shop) := by
    apply Server.ok_of_tasks
    · have fresh : ∀ (id : ℕ) (session : TillSession),
          (shop.drawers.map fun _ => TillSession.opened)[id]? = some session →
          session = TillSession.opened := by
        intro id session found
        rw [List.getElem?_map] at found
        obtain ⟨_, _, rfl⟩ := Option.map_eq_some_iff.mp found
        rfl
      refine ⟨?_, ?_, ?_⟩
      · intro id session found
        rw [fresh id session found]
        exact ⟨by simp [TillSession.opened], by simp [TillSession.opened], by simp [TillSession.opened]⟩
      · intro id session found
        rw [fresh id session found]
        intro counted
        cases counted
      · intro _ before posted within _
        exact absurd (List.prefix_nil.mp within) (by simp)
    · intro task member
      obtain ⟨transaction, _, rfl⟩ := List.mem_map.mp member
      cases transaction <;> trivial
  exact (reached.ok (till_keeps shop) start).database.drawn

/-- One drawer with a float of a hundred, its cash refused below nothing. -/
def counterShop : TillShop := ⟨⟨.REFUSE, 1, 5, 0⟩, [⟨100, 0, 0⟩]⟩

def cashBill (amount : Decimal) : MoneyDocument :=
  { session := 0, named := true, cashIn := true, rows := [⟨.SALE_BILL, .DR, amount, 0⟩] }

def cashPayment (amount : Decimal) : MoneyDocument :=
  { session := 0, named := false, paysOut := true, rows := [⟨.PAYMENT, .CR, amount, 0⟩] }

/-- A bill, a payment, the drawer ended, counted and closed, and a bill made before the
end that reaches the server after the close. -/
def counterDay : List TillTransaction :=
  [.post (cashBill 50), .post (cashPayment 120), .endBilling 0, .count 0 28 false, .close 0,
    .post { cashBill 20 with docTime := some 1, arrivedAt := some 9, lateArrivalOk := true }]

def counterSchedule : List (Action Instant) :=
  List.replicate 4 (.advance 0 1) ++ List.replicate 4 (.advance 1 2) ++
    List.replicate 3 (.advance 2 3) ++ List.replicate 4 (.advance 3 4) ++
    List.replicate 3 (.advance 4 5) ++ List.replicate 2 (.advance 5 9)

theorem counterDay_counted :
    ∃ server, runAllowed (tillProgram counterShop) (InTime counterShop)
        (tillServer counterShop counterDay) counterSchedule = some server ∧
      Drawn counterShop server.database := by
  have runs : (runAllowed (tillProgram counterShop) (InTime counterShop)
      (tillServer counterShop counterDay) counterSchedule).isSome = true := by
    decide +kernel
  obtain ⟨server, moved⟩ := Option.isSome_iff_exists.mp runs
  exact ⟨server, moved, drawer_counted counterShop counterDay server
    (reaches_of_runAllowed _ _ .start moved)⟩

/-- A bill that read its session open commits once the drawer is counted and closed: its
cash is in no expectation. -/
theorem bill_escapes :
    ¬∀ (shop : TillShop) (transactions : List TillTransaction) (schedule : List (Action Instant))
      (server : Server TillTables TillTask SessionLock),
      runSchedule (tillProgram shop) (tillServer shop transactions) schedule = some server →
      Drawn shop server.database := by
  intro always
  let start := tillServer counterShop
    [.post (cashBill 50), .endBilling 0, .count 0 100 false, .close 0]
  let schedule : List (Action Instant) := List.replicate 3 (.advance 0 1) ++
    List.replicate 3 (.advance 1 2) ++ List.replicate 4 (.advance 2 3) ++
    List.replicate 3 (.advance 3 4) ++ [.advance 0 5]
  have runs : (runSchedule (tillProgram counterShop) start schedule).any (fun server =>
      server.database.sessions[0]?.any fun session => session.tssStatus = .CLOSED &&
        !session.variance.any fun variance =>
          decide (Included server.database.documents 0 variance.inside)) = true := by
    decide +kernel
  obtain ⟨server, moved, runs⟩ := (Option.any_eq_true _ _).mp runs
  have drawn := always counterShop _ schedule server moved
  cases found : server.database.sessions[0]? with
  | none =>
      rw [found] at runs
      cases runs
  | some session =>
      rw [found, Option.any_some, Bool.and_eq_true, decide_eq_true_eq] at runs
      obtain ⟨variance, frozen, _, included⟩ := drawn.included 0 session found runs.1
      have escaped := runs.2
      rw [frozen] at escaped
      simp [included] at escaped

/-- Two payments checked against the same hundred. -/
example : (runSchedule (tillProgram counterShop)
    (tillServer counterShop [.post (cashPayment 100), .post (cashPayment 100)])
    (List.replicate 3 (.advance 0 1) ++ List.replicate 4 (.advance 1 2) ++ [.advance 0 3])).map
      (fun server => counterShop.cash server.database 0) = some (-100) := by
  decide +kernel

end ErpServer.Till
