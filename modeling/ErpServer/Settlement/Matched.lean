import ErpServer.Settlement.Match

/-!
# A statement is matched soundly

A row is taken only while it is free for the line's kind and only for a line without a
verdict, so what is matched is an injection.  A reference is looked for among the rows that
were free before any line: no other line has it, so the order of the lines does not matter.
-/

namespace ErpServer.Settlement

open Lib
open Receipt (Decimal)

/-! ## The law -/

section Law

variable (cases : Text.CaseMapping) (input : MatchInput)

/-- The row is of the line's tender and of its kind. -/
def Fits (line : MatchLine) (c : MatchCandidate) : Prop :=
  some c.tenderId = line.tenderId ∧ kindTakes line.kind c = true

/-- The same reference, the amount within the tolerance. -/
def RefRule (line : MatchLine) (c : MatchCandidate) : Prop :=
  ∃ ref, given line.refNo = some ref ∧ sameRef cases input line ref c = true

/-- The same code and last four, the same amount, and within a day if the line tells one. -/
def AuthRule (line : MatchLine) (c : MatchCandidate) : Prop :=
  ∃ auth last4, given line.authCode = some auth ∧ given line.cardLast4 = some last4 ∧
    sameAuth cases line auth last4 c = true

/-- The row is the line's only one, and the line is the only one the row is left for. -/
def AmountTimeRule (line : MatchLine) (c : MatchCandidate) : Prop :=
  line ∈ waitingLines cases input ∧ (afterAuth cases input).optionsOf input line = [c] ∧
    ∀ other ∈ waitingLines cases input,
      c.tdId ∈ ((afterAuth cases input).optionsOf input other).map (·.tdId) → other = line

/-- A line's verdict names the row, and the row satisfies the rule. -/
structure Pairs (line : MatchLine) (c : MatchCandidate) (verdict : MatchVerdict) : Prop where
  candidate : c ∈ input.candidates
  fits : Fits line c
  free : (line.kind, c.tdId) ∉ input.taken
  aslId : verdict.aslId = line.aslId
  tdId : verdict.tdId = some c.tdId
  tdAccYear : verdict.tdAccYear = some c.tdAccYear
  diff : verdict.diff = line.gross - c.amount
  rule : (verdict.rule = some .REF ∧ verdict.status = .MATCHED ∧ RefRule cases input line c) ∨
    (verdict.rule = some .AUTH ∧ verdict.status = .MATCHED ∧ AuthRule cases line c) ∨
    (verdict.rule = some .AMOUNT_TIME ∧ verdict.status = .SUGGESTED ∧
      AmountTimeRule cases input line c)

/-- No row that is free at the end passes the reference test. -/
def RefExhausted (verdictOf : MatchLine → MatchVerdict) (line : MatchLine) : Prop :=
  ∀ c ∈ input.candidates, Fits line c → RefRule cases input line c →
    (line.kind, c.tdId) ∈ input.taken ∨
      ∃ other ∈ input.lines, other.kind = line.kind ∧ (verdictOf other).tdId = some c.tdId

/-- Every line has one verdict; a matched one names a row that satisfies its rule, no row
twice for a kind; and an unmatched one has no row left by the reference. -/
structure MatchedSoundly (verdictOf : MatchLine → MatchVerdict) (verdicts : List MatchVerdict) :
    Prop where
  each : verdicts = input.lines.map verdictOf
  named : ∀ line ∈ input.lines, (verdictOf line).aslId = line.aslId
  pairs : ∀ line ∈ input.lines, verdictOf line = unmatched line.aslId ∨
    ∃ c, Pairs cases input line c (verdictOf line)
  once : ∀ line ∈ input.lines, ∀ other ∈ input.lines, line.kind = other.kind →
    (verdictOf line).tdId = (verdictOf other).tdId → (verdictOf line).tdId ≠ none → line = other
  exhausted : ∀ line ∈ input.lines, verdictOf line = unmatched line.aslId →
    RefExhausted cases input verdictOf line

/-- No two lines of a kind have the same reference. -/
def DistinctRefs : Prop :=
  ∀ line ∈ input.lines, ∀ other ∈ input.lines, line.kind = other.kind →
    ∀ ref, given line.refNo = some ref → ∀ otherRef, given other.refNo = some otherRef →
      normal cases ref = normal cases otherRef → line = other

/-- The line is matched to the row by the reference. -/
def RefMatched (aslId tdId : Uuid) : Prop :=
  ∃ verdict ∈ matchLines cases input,
    verdict.aslId = aslId ∧ verdict.rule = some .REF ∧ verdict.tdId = some tdId

end Law

/-! ## The nearest row -/

variable {line : MatchLine} {input : MatchInput}

variable {hits : List MatchCandidate} {c : MatchCandidate}

theorem closest_mem (found : closest line hits = some c) : c ∈ hits := by
  unfold closest at found
  have member := List.mem_of_head? found
  rwa [List.mem_insertionSort] at member

theorem closest_none (none : closest line hits = none) : hits = [] := by
  unfold closest at none
  rw [List.head?_eq_none_iff] at none
  have length := List.length_insertionSort (fun a b => distance line a < distance line b ∨
    (distance line a = distance line b ∧ a.createdOn ≤ b.createdOn)) hits
  rw [none] at length
  exact List.eq_nil_of_length_eq_zero length.symm

theorem eq_of_aslId {other : MatchLine} (lineMem : line ∈ input.lines)
    (otherMem : other ∈ input.lines) (same : line.aslId = other.aslId) : line = other :=
  List.inj_on_of_nodup_map input.lineIds lineMem otherMem same

theorem eq_of_tdId {d : MatchCandidate} (cMem : c ∈ input.candidates) (dMem : d ∈ input.candidates)
    (same : c.tdId = d.tdId) : c = d :=
  List.inj_on_of_nodup_map input.candidateIds cMem dMem same

theorem mem_customerLines (member : line ∈ customerLines input) : line ∈ input.lines :=
  (List.mem_filter.1 member).1

theorem mem_waitingLines {cases : Text.CaseMapping} (member : line ∈ waitingLines cases input) :
    line ∈ customerLines input :=
  (List.mem_filter.1 member).1

/-! ## What holds through the run -/

/-- The rows used are those held outside and those of the verdicts, no row twice for a
kind. -/
structure Held (cases : Text.CaseMapping) (input : MatchInput) (run : MatchRun) : Prop where
  used : ∀ key, key ∈ run.used → key ∈ input.taken ∨
    ∃ line ∈ customerLines input, line.kind = key.1 ∧
      ∃ verdict, run.verdicts.get? line.aslId = some verdict ∧ verdict.tdId = some key.2
  taken : ∀ key ∈ input.taken, key ∈ run.used
  judged : ∀ line ∈ customerLines input, ∀ verdict,
    run.verdicts.get? line.aslId = some verdict →
      ∃ c, Pairs cases input line c verdict ∧ (line.kind, c.tdId) ∈ run.used
  once : ∀ line ∈ customerLines input, ∀ other ∈ customerLines input, line.kind = other.kind →
    ∀ verdict, run.verdicts.get? line.aslId = some verdict →
      ∀ otherVerdict, run.verdicts.get? other.aslId = some otherVerdict →
        verdict.tdId = otherVerdict.tdId → line = other
  known : ∀ aslId verdict, run.verdicts.get? aslId = some verdict →
    ∃ line ∈ customerLines input, line.aslId = aslId

section Steps

variable {cases : Text.CaseMapping} {input : MatchInput} {run : MatchRun} {line : MatchLine}
  {c : MatchCandidate}

theorem held_start : Held cases input (.start input) where
  used := fun _ member => Or.inl member
  taken := fun _ member => member
  judged := fun _ _ _ found => by cases found
  once := fun _ _ _ _ _ _ found => by cases found
  known := fun _ _ found => by cases found

theorem MatchRun.take_get? (rule : SettlementMatchRule) (status : SettlementMatchStatus)
    (aslId : Uuid) :
    (run.take line c rule status).verdicts.get? aslId =
      if aslId = line.aslId then
        some ⟨line.aslId, status, some rule, some c.tdId, some c.tdAccYear, line.gross - c.amount⟩
      else run.verdicts.get? aslId :=
  OrderedMap.get?_set _ _ _ _

theorem MatchRun.eligible_iff : run.eligible line c = true ↔
    Fits line c ∧ (line.kind, c.tdId) ∉ run.used := by
  simp only [MatchRun.eligible, decide_eq_true_eq, Fits]
  constructor
  · rintro ⟨tender, free, kind⟩
    exact ⟨⟨tender, kind⟩, free⟩
  · rintro ⟨⟨tender, kind⟩, free⟩
    exact ⟨tender, free, kind⟩

variable {rule : SettlementMatchRule}

/-- A free row taken for a line without a verdict keeps what holds. -/
theorem Held.take (held : Held cases input run) (lineMem : line ∈ customerLines input)
    (unjudged : run.verdicts.get? line.aslId = none) (eligible : run.eligible line c = true)
    {status : SettlementMatchStatus}
    (pairs : (line.kind, c.tdId) ∉ input.taken → Pairs cases input line c
      ⟨line.aslId, status, some rule, some c.tdId, some c.tdAccYear, line.gross - c.amount⟩) :
    Held cases input (run.take line c rule status) := by
  have free : (line.kind, c.tdId) ∉ run.used := (MatchRun.eligible_iff.1 eligible).2
  have untaken : (line.kind, c.tdId) ∉ input.taken := fun member => free (held.taken _ member)
  have others : ∀ other ∈ customerLines input, other ≠ line →
      (run.take line c rule status).verdicts.get? other.aslId =
        run.verdicts.get? other.aslId := by
    intro other otherMem different
    rw [MatchRun.take_get?, if_neg]
    intro same
    exact different (eq_of_aslId (mem_customerLines otherMem) (mem_customerLines lineMem) same)
  have own : (run.take line c rule status).verdicts.get? line.aslId =
      some ⟨line.aslId, status, some rule, some c.tdId, some c.tdAccYear,
        line.gross - c.amount⟩ := by
    rw [MatchRun.take_get?, if_pos rfl]
  -- A row of another verdict is used, so it is not the one taken.
  have apart : ∀ other ∈ customerLines input, other.kind = line.kind → ∀ verdict,
      run.verdicts.get? other.aslId = some verdict → verdict.tdId ≠ some c.tdId := by
    intro other otherMem kind verdict found same
    obtain ⟨d, paired, usedBy⟩ := held.judged other otherMem verdict found
    rw [paired.tdId, Option.some.injEq] at same
    rw [kind, same] at usedBy
    exact free usedBy
  exact
    { used := by
        intro key member
        rcases List.mem_append.1 member with before | now
        · rcases held.used key before with outside | ⟨other, otherMem, kind, verdict, found, tdId⟩
          · exact Or.inl outside
          · right
            refine ⟨other, otherMem, kind, verdict, ?_, tdId⟩
            rw [others other otherMem]
            · exact found
            · rintro rfl
              rw [unjudged] at found
              cases found
        · rw [List.mem_singleton.1 now]
          exact Or.inr ⟨line, lineMem, rfl, _, own, rfl⟩
      taken := fun key member => List.mem_append_left _ (held.taken key member)
      judged := by
        intro other otherMem verdict found
        by_cases same : other = line
        · subst same
          rw [own] at found
          cases found
          exact ⟨c, pairs untaken, List.mem_append_right _ (List.mem_singleton.2 rfl)⟩
        · rw [others other otherMem same] at found
          obtain ⟨d, paired, usedBy⟩ := held.judged other otherMem verdict found
          exact ⟨d, paired, List.mem_append_left _ usedBy⟩
      once := by
        intro first firstMem second secondMem kind verdict found otherVerdict otherFound same
        by_cases firstLine : first = line
        · by_cases secondLine : second = line
          · rw [firstLine, secondLine]
          · rw [firstLine, own] at found
            cases found
            rw [others second secondMem secondLine] at otherFound
            rw [firstLine] at kind
            exact absurd same.symm (apart second secondMem kind.symm otherVerdict otherFound)
        · rw [others first firstMem firstLine] at found
          by_cases secondLine : second = line
          · rw [secondLine, own] at otherFound
            cases otherFound
            rw [secondLine] at kind
            exact absurd same (apart first firstMem kind verdict found)
          · rw [others second secondMem secondLine] at otherFound
            exact held.once first firstMem second secondMem kind verdict found otherVerdict
              otherFound same
      known := by
        intro aslId verdict found
        rw [MatchRun.take_get?] at found
        split at found
        next same => exact ⟨line, lineMem, same.symm⟩
        next => exact held.known aslId verdict found }

variable {test : MatchCandidate → Bool}

theorem MatchRun.best_spec (found : run.best input line test = some c) :
    c ∈ input.candidates ∧ run.eligible line c = true ∧ test c = true := by
  have member := closest_mem found
  rw [List.mem_filter, Bool.and_eq_true] at member
  exact ⟨member.1, member.2.1, member.2.2⟩

theorem MatchRun.best_none (none : run.best input line test = none)
    (candidate : c ∈ input.candidates) (fits : Fits line c) (passes : test c = true) :
    (line.kind, c.tdId) ∈ run.used := by
  by_contra free
  have hit : c ∈ input.candidates.filter fun c => run.eligible line c && test c := by
    rw [List.mem_filter, Bool.and_eq_true]
    exact ⟨candidate, MatchRun.eligible_iff.2 ⟨fits, free⟩, passes⟩
  rw [closest_none none] at hit
  cases hit

/-- A line matched to the nearest row that passes the test. -/
theorem Held.matchBest (held : Held cases input run) (lineMem : line ∈ customerLines input)
    (unjudged : run.verdicts.get? line.aslId = none)
    (holds : ∀ c, test c = true → (rule = .REF ∧ RefRule cases input line c) ∨
      (rule = .AUTH ∧ AuthRule cases line c)) :
    Held cases input (run.matchBest input line rule test) := by
  unfold MatchRun.matchBest
  cases found : run.best input line test with
  | none => exact held
  | some c =>
      obtain ⟨candidate, eligible, passes⟩ := MatchRun.best_spec found
      apply held.take lineMem unjudged eligible
      intro untaken
      exact
        { candidate
          fits := (MatchRun.eligible_iff.1 eligible).1
          free := untaken
          aslId := rfl
          tdId := rfl
          tdAccYear := rfl
          diff := rfl
          rule := by
            rcases holds c passes with ⟨rfl, ref⟩ | ⟨rfl, auth⟩
            · exact Or.inl ⟨rfl, rfl, ref⟩
            · exact Or.inr (Or.inl ⟨rfl, rfl, auth⟩) }

end Steps

/-! ## From one run to a later one -/

/-- A later run uses every row the earlier one used, and keeps its verdicts. -/
structure Extends (run later : MatchRun) : Prop where
  used : ∀ key ∈ run.used, key ∈ later.used
  kept : ∀ aslId verdict, run.verdicts.get? aslId = some verdict →
    later.verdicts.get? aslId = some verdict

/-- What is new in a later run was not matched by the reference. -/
def NoNewRefs (run later : MatchRun) : Prop :=
  ∀ aslId verdict, later.verdicts.get? aslId = some verdict → verdict.rule = some .REF →
    run.verdicts.get? aslId = some verdict

section Later

variable {cases : Text.CaseMapping} {input : MatchInput} {run middle later : MatchRun}
  {line : MatchLine} {c : MatchCandidate}

theorem Extends.refl (run : MatchRun) : Extends run run :=
  ⟨fun _ member => member, fun _ _ found => found⟩

theorem Extends.trans (first : Extends run middle) (second : Extends middle later) :
    Extends run later where
  used := fun key member => second.used key (first.used key member)
  kept := fun aslId verdict found => second.kept aslId verdict (first.kept aslId verdict found)

theorem NoNewRefs.trans (first : NoNewRefs run middle) (second : NoNewRefs middle later) :
    NoNewRefs run later :=
  fun aslId verdict found rule => first aslId verdict (second aslId verdict found rule) rule

theorem extends_take (unjudged : run.verdicts.get? line.aslId = none)
    (rule : SettlementMatchRule) (status : SettlementMatchStatus) :
    Extends run (run.take line c rule status) where
  used := fun _ member => List.mem_append_left _ member
  kept := by
    intro aslId verdict found
    rw [MatchRun.take_get?, if_neg]
    · exact found
    · rintro rfl
      rw [unjudged] at found
      cases found

variable {rule : SettlementMatchRule}

theorem noNewRefs_take (other : rule ≠ .REF) (status : SettlementMatchStatus) :
    NoNewRefs run (run.take line c rule status) := by
  intro aslId verdict found isRef
  rw [MatchRun.take_get?] at found
  split at found
  · cases found
    exact absurd (Option.some.inj isRef) other
  · exact found

theorem extends_matchBest (unjudged : run.verdicts.get? line.aslId = none)
    (rule : SettlementMatchRule) (test : MatchCandidate → Bool) :
    Extends run (run.matchBest input line rule test) := by
  unfold MatchRun.matchBest
  split
  · exact Extends.refl run
  · exact extends_take unjudged rule _

theorem noNewRefs_matchBest (other : rule ≠ .REF) (test : MatchCandidate → Bool) :
    NoNewRefs run (run.matchBest input line rule test) := by
  unfold MatchRun.matchBest
  split
  · exact fun _ _ found _ => found
  · exact noNewRefs_take other _

/-- Only the line itself gets a verdict. -/
theorem matchBest_get?_of_ne {aslId : Uuid} (different : aslId ≠ line.aslId)
    (rule : SettlementMatchRule) (test : MatchCandidate → Bool) :
    (run.matchBest input line rule test).verdicts.get? aslId = run.verdicts.get? aslId := by
  unfold MatchRun.matchBest
  split
  · rfl
  · rw [MatchRun.take_get?, if_neg different]

end Later

/-! ## By the reference -/

section Ref

variable {cases : Text.CaseMapping} {input : MatchInput} {run : MatchRun} {line : MatchLine}
  {c : MatchCandidate}

theorem held_refLine (held : Held cases input run) (lineMem : line ∈ customerLines input)
    (unjudged : run.verdicts.get? line.aslId = none) :
    Held cases input (run.refLine cases input line) := by
  unfold MatchRun.refLine
  cases ref : given line.refNo with
  | none => exact held
  | some text =>
      exact held.matchBest lineMem unjudged fun c passes => Or.inl ⟨rfl, text, ref, passes⟩

theorem extends_refLine (unjudged : run.verdicts.get? line.aslId = none) :
    Extends run (run.refLine cases input line) := by
  unfold MatchRun.refLine
  split
  · exact Extends.refl run
  · exact extends_matchBest unjudged _ _

theorem refLine_get?_of_ne {aslId : Uuid} (different : aslId ≠ line.aslId) :
    (run.refLine cases input line).verdicts.get? aslId = run.verdicts.get? aslId := by
  unfold MatchRun.refLine
  split
  · rfl
  · exact matchBest_get?_of_ne different _ _

/-- A line that is not matched leaves no free row with its reference. -/
theorem refLine_exhausts
    (unmatched : (run.refLine cases input line).verdicts.get? line.aslId = none)
    (candidate : c ∈ input.candidates) (fits : Fits line c) (rule : RefRule cases input line c) :
    (line.kind, c.tdId) ∈ run.used := by
  obtain ⟨ref, isGiven, passes⟩ := rule
  simp only [MatchRun.refLine, isGiven, MatchRun.matchBest] at unmatched
  cases found : run.best input line (sameRef cases input line ref) with
  | none => exact MatchRun.best_none found candidate fits passes
  | some d =>
      rw [found] at unmatched
      simp only [MatchRun.take_get?, if_true] at unmatched
      cases unmatched

/-- The lines of the pass have ids of their own. -/
theorem ids_ne_of_nodup {rest : List MatchLine} (inside : ∀ other ∈ line :: rest,
    other ∈ customerLines input) (nodup : (line :: rest).Nodup) {other : MatchLine}
    (otherMem : other ∈ rest) : other.aslId ≠ line.aslId := by
  intro same
  have equal := eq_of_aslId (mem_customerLines (inside other (List.mem_cons_of_mem _ otherMem)))
    (mem_customerLines (inside line List.mem_cons_self)) same
  rw [equal] at otherMem
  exact (List.nodup_cons.1 nodup).1 otherMem

/-- The pass over lines without a verdict, by induction on them. -/
theorem refLines_held {todo : List MatchLine} (held : Held cases input run)
    (inside : ∀ line ∈ todo, line ∈ customerLines input) (nodup : todo.Nodup)
    (unjudged : ∀ line ∈ todo, run.verdicts.get? line.aslId = none) :
    Held cases input (todo.foldl (MatchRun.refLine cases input) run) ∧
      Extends run (todo.foldl (MatchRun.refLine cases input) run) ∧
      ∀ line ∈ todo,
        (todo.foldl (MatchRun.refLine cases input) run).verdicts.get? line.aslId = none →
        ∀ c ∈ input.candidates, Fits line c → RefRule cases input line c →
          (line.kind, c.tdId) ∈ (todo.foldl (MatchRun.refLine cases input) run).used := by
  induction todo generalizing run with
  | nil => exact ⟨held, Extends.refl run, by simp⟩
  | cons line rest ih =>
      have lineMem := inside line List.mem_cons_self
      have lineUnjudged := unjudged line List.mem_cons_self
      have extended : Extends run (run.refLine cases input line) := extends_refLine lineUnjudged
      have ⟨restHeld, restExtends, restExhausted⟩ := ih (held_refLine held lineMem lineUnjudged)
        (fun other otherMem => inside other (List.mem_cons_of_mem _ otherMem))
        (List.nodup_cons.1 nodup).2
        (fun other otherMem => by
          rw [refLine_get?_of_ne (ids_ne_of_nodup inside nodup otherMem)]
          exact unjudged other (List.mem_cons_of_mem _ otherMem))
      rw [List.foldl_cons]
      refine ⟨restHeld, extended.trans restExtends, ?_⟩
      intro other otherMem unmatched c candidate fits rule
      rcases List.mem_cons.1 otherMem with rfl | later
      · have noneYet : (run.refLine cases input other).verdicts.get? other.aslId = none := by
          rw [Option.eq_none_iff_forall_ne_some]
          intro verdict found
          rw [restExtends.kept _ _ found] at unmatched
          cases unmatched
        apply restExtends.used
        apply extended.used
        exact refLine_exhausts noneYet candidate fits rule
      · exact restExhausted other later unmatched c candidate fits rule

end Ref

/-! ## By the authorisation -/

section Auth

variable {cases : Text.CaseMapping} {input : MatchInput} {run : MatchRun} {line : MatchLine}

theorem has_eq_false {aslId : Uuid} (unjudged : ¬run.verdicts.has aslId = true) :
    run.verdicts.get? aslId = none := by
  simpa [OrderedMap.has] using unjudged

theorem authLine_step (held : Held cases input run) (lineMem : line ∈ customerLines input) :
    Held cases input (run.authLine cases input line) ∧
      Extends run (run.authLine cases input line) ∧
      NoNewRefs run (run.authLine cases input line) := by
  have same : Held cases input run ∧ Extends run run ∧ NoNewRefs run run :=
    ⟨held, Extends.refl run, fun _ _ found _ => found⟩
  unfold MatchRun.authLine
  split
  · exact same
  next unjudged =>
    have none := has_eq_false unjudged
    split
    next auth last4 authGiven last4Given =>
      refine ⟨?_, extends_matchBest none _ _, noNewRefs_matchBest (by decide) _⟩
      apply held.matchBest lineMem none
      intro c passes
      exact Or.inr ⟨rfl, auth, last4, authGiven, last4Given, passes⟩
    next => exact same

theorem authLines_step {todo : List MatchLine} (held : Held cases input run)
    (inside : ∀ line ∈ todo, line ∈ customerLines input) :
    Held cases input (todo.foldl (MatchRun.authLine cases input) run) ∧
      Extends run (todo.foldl (MatchRun.authLine cases input) run) ∧
      NoNewRefs run (todo.foldl (MatchRun.authLine cases input) run) := by
  induction todo generalizing run with
  | nil => exact ⟨held, Extends.refl run, fun _ _ found _ => found⟩
  | cons line rest ih =>
      have ⟨inLine, inRest⟩ := List.forall_mem_cons.1 inside
      have ⟨stepHeld, stepExtends, stepRefs⟩ := authLine_step held inLine
      have ⟨restHeld, restExtends, restRefs⟩ := ih stepHeld inRest
      exact ⟨restHeld, stepExtends.trans restExtends, stepRefs.trans restRefs⟩

end Auth

/-! ## By the amount and the time -/

section AmountTime

variable {cases : Text.CaseMapping} {input : MatchInput} {before run : MatchRun}
  {line : MatchLine} {c : MatchCandidate}

/-- A row claimed once is in the list of no other line. -/
theorem claimed_once {lines : List MatchLine} {other : MatchLine} (lineMem : line ∈ lines)
    (own : c.tdId ∈ (before.optionsOf input line).map (·.tdId))
    (claimed : before.claimsOf input lines c.tdId = 1) (otherMem : other ∈ lines)
    (its : c.tdId ∈ (before.optionsOf input other).map (·.tdId)) : other = line := by
  by_contra different
  obtain ⟨front, back, split⟩ := List.append_of_mem lineMem
  have elsewhere : other ∈ front ∨ other ∈ back := by
    rw [split, List.mem_append, List.mem_cons] at otherMem
    rcases otherMem with inFront | same | inBack
    · exact Or.inl inFront
    · exact absurd same different
    · exact Or.inr inBack
  have ownCount : 0 < ((before.optionsOf input line).map (·.tdId)).count c.tdId :=
    List.count_pos_iff.2 own
  have listed : ∀ part : List MatchLine, other ∈ part →
      0 < (part.flatMap fun line => (before.optionsOf input line).map (·.tdId)).count c.tdId :=
    fun part member => List.count_pos_iff.2 (List.mem_flatMap.2 ⟨other, member, its⟩)
  rw [MatchRun.claimsOf, split, List.flatMap_append, List.flatMap_cons, List.count_append,
    List.count_append] at claimed
  rcases elsewhere with inFront | inBack
  · have := listed front inFront
    omega
  · have := listed back inBack
    omega

/-- The line's only row, if it is still free and no other line's. -/
theorem suggestLine_eq (before run : MatchRun) (lines : List MatchLine) :
    MatchRun.suggestLine input before lines run line = run ∨
      ∃ c, before.optionsOf input line = [c] ∧ before.claimsOf input lines c.tdId = 1 ∧
        run.eligible line c = true ∧
        MatchRun.suggestLine input before lines run line =
          run.take line c .AMOUNT_TIME .SUGGESTED := by
  unfold MatchRun.suggestLine
  split
  next c only =>
    split
    next claimed => exact Or.inr ⟨c, only, claimed.1, claimed.2, rfl⟩
    next => exact Or.inl rfl
  next => exact Or.inl rfl

variable {later : MatchRun}

/-- One line of the pass, over a run of the rows the earlier passes left. -/
theorem suggestLine_step (held : Held cases input run) (waiting : line ∈ waitingLines cases input)
    (unjudged : run.verdicts.get? line.aslId = none)
    (step : later = MatchRun.suggestLine input (afterAuth cases input)
      (waitingLines cases input) run line) :
    Held cases input later ∧ Extends run later ∧ NoNewRefs run later ∧
      ∀ aslId ≠ line.aslId, later.verdicts.get? aslId = run.verdicts.get? aslId := by
  rcases suggestLine_eq (afterAuth cases input) run (waitingLines cases input) with
    same | ⟨c, only, claimed, eligible, taken⟩
  · rw [step, same]
    exact ⟨held, Extends.refl run, fun _ _ found _ => found, fun _ _ => rfl⟩
  · rw [step, taken]
    have listed : c ∈ (afterAuth cases input).optionsOf input line := by
      rw [only]
      exact List.mem_singleton.2 rfl
    have option := List.mem_filter.1 listed
    have own : c.tdId ∈ ((afterAuth cases input).optionsOf input line).map (·.tdId) :=
      List.mem_map_of_mem listed
    refine ⟨?_, extends_take unjudged _ _, noNewRefs_take (by decide) _, ?_⟩
    · apply held.take (mem_waitingLines waiting) unjudged eligible
      intro untaken
      exact
        { candidate := option.1
          fits := (MatchRun.eligible_iff.1 eligible).1
          free := untaken
          aslId := rfl
          tdId := rfl
          tdAccYear := rfl
          diff := rfl
          rule := by
            right
            right
            refine ⟨rfl, rfl, waiting, only, ?_⟩
            intro other otherMem its
            exact claimed_once waiting own claimed otherMem its }
    · intro aslId different
      rw [MatchRun.take_get?, if_neg different]

theorem suggestLines_step {todo : List MatchLine} (held : Held cases input run)
    (waiting : ∀ line ∈ todo, line ∈ waitingLines cases input) (nodup : todo.Nodup)
    (unjudged : ∀ line ∈ todo, run.verdicts.get? line.aslId = none)
    (steps : later = todo.foldl (MatchRun.suggestLine input (afterAuth cases input)
      (waitingLines cases input)) run) :
    Held cases input later ∧ Extends run later ∧ NoNewRefs run later := by
  induction todo generalizing run with
  | nil =>
      rw [steps]
      exact ⟨held, Extends.refl run, fun _ _ found _ => found⟩
  | cons line rest ih =>
      have inside : ∀ other ∈ line :: rest, other ∈ customerLines input :=
        fun other otherMem => mem_waitingLines (waiting other otherMem)
      have ⟨stepHeld, stepExtends, stepRefs, stepOthers⟩ :=
        suggestLine_step held (waiting line List.mem_cons_self)
          (unjudged line List.mem_cons_self) rfl
      have ⟨restHeld, restExtends, restRefs⟩ := ih stepHeld
        (fun other otherMem => waiting other (List.mem_cons_of_mem _ otherMem))
        (List.nodup_cons.1 nodup).2
        (fun other otherMem => by
          rw [stepOthers _ (ids_ne_of_nodup inside nodup otherMem)]
          exact unjudged other (List.mem_cons_of_mem _ otherMem))
        steps
      exact ⟨restHeld, stepExtends.trans restExtends, stepRefs.trans restRefs⟩

end AmountTime

/-! ## The whole run -/

section Whole

variable (cases : Text.CaseMapping) (input : MatchInput)

theorem lines_nodup : input.lines.Nodup := List.Nodup.of_map _ input.lineIds

theorem customerLines_nodup : (customerLines input).Nodup := (lines_nodup input).filter _

theorem afterRef_held :
    Held cases input (afterRef cases input) ∧
      ∀ line ∈ customerLines input,
        (afterRef cases input).verdicts.get? line.aslId = none →
        ∀ c ∈ input.candidates, Fits line c → RefRule cases input line c →
          (line.kind, c.tdId) ∈ (afterRef cases input).used := by
  have begun : Held cases input (.start input) := held_start
  obtain ⟨held, -, exhausted⟩ := refLines_held begun (fun _ member => member)
    (customerLines_nodup input) (fun _ _ => rfl)
  exact ⟨held, exhausted⟩

theorem afterAuth_held :
    Held cases input (afterAuth cases input) ∧
      Extends (afterRef cases input) (afterAuth cases input) ∧
      NoNewRefs (afterRef cases input) (afterAuth cases input) :=
  authLines_step (afterRef_held cases input).1 fun _ member => member

theorem afterAmountTime_held :
    Held cases input (afterAmountTime cases input) ∧
      Extends (afterRef cases input) (afterAmountTime cases input) ∧
      NoNewRefs (afterRef cases input) (afterAmountTime cases input) := by
  have ⟨authHeld, authExtends, authRefs⟩ := afterAuth_held cases input
  have waitingUnjudged : ∀ line ∈ waitingLines cases input,
      (afterAuth cases input).verdicts.get? line.aslId = none := by
    intro line member
    have waits := (List.mem_filter.1 member).2
    rw [Bool.and_eq_true, Bool.not_eq_true'] at waits
    exact has_eq_false (Bool.eq_false_iff.1 waits.1)
  have steps : afterAmountTime cases input = _ := rfl
  have ⟨held, extended, refs⟩ := suggestLines_step authHeld (fun _ member => member)
    ((customerLines_nodup input).filter _) waitingUnjudged steps
  exact ⟨held, authExtends.trans extended, authRefs.trans refs⟩

/-- The verdict a line ends with. -/
def verdictOf (line : MatchLine) : MatchVerdict :=
  ((afterAmountTime cases input).verdicts.get? line.aslId).getD (unmatched line.aslId)

theorem verdictOf_unmatched (unjudged : verdictOf cases input line = unmatched line.aslId) :
    (afterAmountTime cases input).verdicts.get? line.aslId = none := by
  have held := (afterAmountTime_held cases input).1
  rw [Option.eq_none_iff_forall_ne_some]
  intro verdict found
  obtain ⟨other, otherMem, same⟩ := held.known _ _ found
  rw [← same] at found
  obtain ⟨c, paired, -⟩ := held.judged other otherMem verdict found
  rw [verdictOf, ← same, found, Option.getD_some] at unjudged
  have tdId := paired.tdId
  rw [unjudged] at tdId
  cases tdId

/-- A line with a row is one of a customer, and its verdict is that of the run. -/
theorem verdictOf_judged (lineMem : line ∈ input.lines)
    (matched : (verdictOf cases input line).tdId ≠ none) : line ∈ customerLines input ∧
      (afterAmountTime cases input).verdicts.get? line.aslId =
        some (verdictOf cases input line) := by
  have held := (afterAmountTime_held cases input).1
  cases found : (afterAmountTime cases input).verdicts.get? line.aslId with
  | none =>
      rw [verdictOf, found] at matched
      exact absurd rfl matched
  | some verdict =>
      obtain ⟨other, otherMem, same⟩ := held.known _ _ found
      rw [← eq_of_aslId (mem_customerLines otherMem) lineMem same]
      refine ⟨otherMem, ?_⟩
      rw [verdictOf, same, found, Option.getD_some]

theorem matchLines_soundly :
    MatchedSoundly cases input (verdictOf cases input) (matchLines cases input) := by
  have ⟨held, extended, _⟩ := afterAmountTime_held cases input
  have exhausted := (afterRef_held cases input).2
  have judged : ∀ line ∈ input.lines, verdictOf cases input line = unmatched line.aslId ∨
      ∃ c, Pairs cases input line c (verdictOf cases input line) := by
    intro line lineMem
    cases found : (afterAmountTime cases input).verdicts.get? line.aslId with
    | none =>
        left
        rw [verdictOf, found, Option.getD_none]
    | some verdict =>
        right
        obtain ⟨other, otherMem, same⟩ := held.known _ _ found
        rw [eq_of_aslId (mem_customerLines otherMem) lineMem same] at otherMem
        obtain ⟨c, paired, -⟩ := held.judged line otherMem verdict found
        refine ⟨c, ?_⟩
        rw [verdictOf, found, Option.getD_some]
        exact paired
  exact
    { each := rfl
      named := by
        intro line lineMem
        rcases judged line lineMem with none | ⟨c, paired⟩
        · rw [none]
          rfl
        · exact paired.aslId
      pairs := judged
      once := by
        intro line lineMem other otherMem kind same matched
        obtain ⟨lineCustomer, found⟩ := verdictOf_judged cases input lineMem matched
        obtain ⟨otherCustomer, otherFound⟩ :=
          verdictOf_judged cases input otherMem (same ▸ matched)
        exact held.once line lineCustomer other otherCustomer kind _ found _ otherFound same
      exhausted := by
        intro line lineMem isUnmatched c candidate fits rule
        have unjudged := verdictOf_unmatched cases input isUnmatched
        have customer : line ∈ customerLines input := by
          rw [customerLines, List.mem_filter, Bool.and_eq_true]
          refine ⟨lineMem, ?_, ?_⟩
          · have takes := fits.2
            cases kind : line.kind with
            | SALE => rfl
            | REFUND => rfl
            | CHARGEBACK => rfl
            | FEE =>
                rw [kind] at takes
                cases takes
            | ADJUSTMENT =>
                rw [kind] at takes
                cases takes
          · rw [← fits.1]
            rfl
        have unjudgedRef : (afterRef cases input).verdicts.get? line.aslId = none := by
          rw [Option.eq_none_iff_forall_ne_some]
          intro verdict found
          rw [extended.kept _ _ found] at unjudged
          cases unjudged
        have used := extended.used _ (exhausted line customer unjudgedRef c candidate fits rule)
        rcases held.used _ used with outside | ⟨other, otherMem, kind, verdict, found, tdId⟩
        · exact Or.inl outside
        · right
          refine ⟨other, mem_customerLines otherMem, kind, ?_⟩
          rw [verdictOf, found, Option.getD_some]
          exact tdId }

end Whole

/-! ## The order of the lines -/

section Order

variable (cases : Text.CaseMapping) (input : MatchInput)

/-- The row a line is matched to by its reference, among those free before any line. -/
def refBest (line : MatchLine) : Option MatchCandidate :=
  (given line.refNo).bind fun ref =>
    (MatchRun.start input).best input line (sameRef cases input line ref)

def refVerdict (line : MatchLine) (c : MatchCandidate) : MatchVerdict :=
  ⟨line.aslId, .MATCHED, some .REF, some c.tdId, some c.tdAccYear, line.gross - c.amount⟩

/-- Beside the rows held outside, those the lines so far found are used. -/
def UsedBy (done : List MatchLine) (run : MatchRun) : Prop :=
  ∀ key, key ∈ run.used ↔ key ∈ input.taken ∨
    ∃ line ∈ done, ∃ c, refBest cases input line = some c ∧ key = (line.kind, c.tdId)

variable {cases : Text.CaseMapping} {input : MatchInput} {run : MatchRun} {line : MatchLine}

variable {c : MatchCandidate} {done : List MatchLine}

theorem refBest_spec (found : refBest cases input line = some c) :
    c ∈ input.candidates ∧ ∃ ref, given line.refNo = some ref ∧
      sameRef cases input line ref c = true := by
  obtain ⟨ref, isGiven, best⟩ := Option.bind_eq_some_iff.1 found
  obtain ⟨candidate, -, passes⟩ := MatchRun.best_spec best
  exact ⟨candidate, ref, isGiven, passes⟩

theorem sameRef_normal {ref : Text} (passes : sameRef cases input line ref c = true) :
    c.refNo.map (normal cases) = some (normal cases ref) := by
  simp only [sameRef, decide_eq_true_eq] at passes
  exact passes.1

/-- No line so far took a row with this line's reference. -/
theorem refLine_best (distinct : DistinctRefs cases input) (usedBy : UsedBy cases input done run)
    (doneMem : ∀ other ∈ done, other ∈ input.lines) (lineMem : line ∈ input.lines)
    (notDone : line ∉ done) : run.refLine cases input line =
      match refBest cases input line with
      | none => run
      | some c => run.take line c .REF .MATCHED := by
  unfold MatchRun.refLine refBest
  cases isGiven : given line.refNo with
  | none => rfl
  | some ref =>
      have same : run.best input line (sameRef cases input line ref) =
          (MatchRun.start input).best input line (sameRef cases input line ref) := by
        unfold MatchRun.best
        congr 1
        apply List.filter_congr
        intro c candidate
        by_cases passes : sameRef cases input line ref c = true
        · rw [passes, Bool.and_true, Bool.and_true, Bool.eq_iff_iff, MatchRun.eligible_iff,
            MatchRun.eligible_iff]
          apply and_congr_right
          intro fits
          rw [not_iff_not, usedBy]
          constructor
          · rintro (outside | ⟨other, otherMem, d, found, key⟩)
            · exact outside
            · exfalso
              obtain ⟨dMem, otherRef, otherGiven, otherPasses⟩ := refBest_spec found
              have kind : line.kind = other.kind := congrArg Prod.fst key
              have equal := eq_of_tdId candidate dMem (congrArg Prod.snd key)
              have refs := sameRef_normal passes
              rw [equal, sameRef_normal otherPasses, Option.some.injEq] at refs
              have again := distinct line lineMem other (doneMem other otherMem) kind ref isGiven
                otherRef otherGiven refs.symm
              rw [again] at notDone
              exact notDone otherMem
          · exact Or.inl
        · rw [Bool.not_eq_true] at passes
          rw [passes, Bool.and_false, Bool.and_false]
      rw [Option.bind_some, ← same]
      rfl

/-- What a line is matched to by its reference does not depend on the lines before it. -/
theorem refLines_best (distinct : DistinctRefs cases input) {todo : List MatchLine}
    (nodup : (done ++ todo).Nodup) (inside : ∀ other ∈ done ++ todo, other ∈ customerLines input)
    (usedBy : UsedBy cases input done run)
    (judged : ∀ aslId verdict, run.verdicts.get? aslId = some verdict ↔
      ∃ other ∈ done, other.aslId = aslId ∧ ∃ c, refBest cases input other = some c ∧
        verdict = refVerdict other c) : ∀ aslId verdict,
      (todo.foldl (MatchRun.refLine cases input) run).verdicts.get? aslId = some verdict ↔
        ∃ other ∈ done ++ todo, other.aslId = aslId ∧
          ∃ c, refBest cases input other = some c ∧ verdict = refVerdict other c := by
  induction todo generalizing run done with
  | nil => simpa using judged
  | cons line rest ih =>
      have lineMem := mem_customerLines (inside line (by simp))
      have notDone : line ∉ done := by
        intro member
        exact (List.nodup_append.1 nodup).2.2 line member line List.mem_cons_self rfl
      have step := refLine_best distinct usedBy
        (fun other otherMem => mem_customerLines (inside other (List.mem_append_left _ otherMem)))
        lineMem notDone
      have regroup : done ++ line :: rest = (done ++ [line]) ++ rest := by
        rw [List.append_assoc, List.singleton_append]
      rw [List.foldl_cons, regroup]
      rw [regroup] at nodup inside
      apply ih nodup inside
      · intro key
        rw [step]
        cases found : refBest cases input line with
        | none =>
            simp only
            rw [usedBy]
            simp [found]
        | some c =>
            have usedIff := usedBy key
            simp only [MatchRun.take, List.mem_append, List.mem_singleton, usedIff]
            constructor
            · rintro ((outside | ⟨other, otherMem, d, otherFound, same⟩) | own)
              · exact Or.inl outside
              · exact Or.inr ⟨other, Or.inl otherMem, d, otherFound, same⟩
              · exact Or.inr ⟨line, Or.inr rfl, c, found, own⟩
            · rintro (outside | ⟨other, otherMem | rfl, d, otherFound, same⟩)
              · exact Or.inl (Or.inl outside)
              · exact Or.inl (Or.inr ⟨other, otherMem, d, otherFound, same⟩)
              · rw [found, Option.some.injEq] at otherFound
                rw [otherFound]
                exact Or.inr same
      · intro aslId verdict
        rw [step]
        cases found : refBest cases input line with
        | none =>
            simp only
            rw [judged]
            constructor
            · rintro ⟨other, otherMem, id, c, otherFound, same⟩
              exact ⟨other, List.mem_append_left _ otherMem, id, c, otherFound, same⟩
            · rintro ⟨other, otherMem, id, c, otherFound, same⟩
              rcases List.mem_append.1 otherMem with before | now
              · exact ⟨other, before, id, c, otherFound, same⟩
              · rw [List.mem_singleton.1 now, found] at otherFound
                cases otherFound
        | some c =>
            simp only
            rw [MatchRun.take_get?]
            split
            next own =>
              constructor
              · intro same
                cases same
                exact ⟨line, by simp, own.symm, c, found, rfl⟩
              · rintro ⟨other, otherMem, id, d, otherFound, same⟩
                have equal : other = line :=
                  eq_of_aslId (mem_customerLines (inside other (List.mem_append_left _ otherMem)))
                    lineMem (id.trans own)
                rw [equal, found, Option.some.injEq] at otherFound
                rw [same, equal, ← otherFound]
                rfl
            next different =>
              rw [judged]
              constructor
              · rintro ⟨other, otherMem, id, d, otherFound, same⟩
                exact ⟨other, List.mem_append_left _ otherMem, id, d, otherFound, same⟩
              · rintro ⟨other, otherMem, id, d, otherFound, same⟩
                rcases List.mem_append.1 otherMem with before | now
                · exact ⟨other, before, id, d, otherFound, same⟩
                · rw [List.mem_singleton.1 now] at id
                  exact absurd id.symm different

theorem afterRef_get? (distinct : DistinctRefs cases input) (aslId : Uuid)
    (verdict : MatchVerdict) :
    (afterRef cases input).verdicts.get? aslId = some verdict ↔
      ∃ line ∈ customerLines input, line.aslId = aslId ∧
        ∃ c, refBest cases input line = some c ∧ verdict = refVerdict line c := by
  have none : UsedBy cases input [] (.start input) := by
    intro key
    simp [MatchRun.start]
  have all := refLines_best distinct (customerLines_nodup input) (fun _ member => member) none
    (by simp [MatchRun.start]) aslId verdict
  rw [List.nil_append] at all
  exact all

/-- A line is matched by its reference to the row that was free before any line. -/
theorem refMatched_iff (distinct : DistinctRefs cases input) (aslId tdId : Uuid) :
    RefMatched cases input aslId tdId ↔
      ∃ line ∈ customerLines input, line.aslId = aslId ∧
        ∃ c, refBest cases input line = some c ∧ c.tdId = tdId := by
  have ⟨held, extended, refs⟩ := afterAmountTime_held cases input
  have sound := matchLines_soundly cases input
  constructor
  · rintro ⟨verdict, member, id, rule, row⟩
    obtain ⟨line, lineMem, rfl⟩ := List.mem_map.1 member
    have judged := (verdictOf_judged cases input lineMem (by
      show (verdictOf cases input line).tdId ≠ none
      rw [show (verdictOf cases input line).tdId = some tdId from row]
      simp)).2
    obtain ⟨other, otherMem, same, c, found, verdictEq⟩ :=
      (afterRef_get? distinct _ _).1 (refs _ _ judged rule)
    refine ⟨other, otherMem, ?_, c, found, ?_⟩
    · rw [same]
      exact (sound.named line lineMem).symm.trans id
    · have row' : (verdictOf cases input line).tdId = some tdId := row
      rw [verdictEq] at row'
      exact Option.some.inj row'
  · rintro ⟨line, lineMem, rfl, c, found, rfl⟩
    have early := (afterRef_get? distinct line.aslId (refVerdict line c)).2
      ⟨line, lineMem, rfl, c, found, rfl⟩
    refine ⟨refVerdict line c, ?_, rfl, rfl, rfl⟩
    rw [matchLines, List.mem_map]
    refine ⟨line, mem_customerLines lineMem, ?_⟩
    rw [extended.kept _ _ early, Option.getD_some]

/-- The same statement with its lines in another order. -/
def MatchInput.reordered (input : MatchInput) {lines : List MatchLine}
    (perm : input.lines.Perm lines) : MatchInput :=
  { input with
    lines
    lineIds := (perm.map _).nodup_iff.1 input.lineIds }

/-- The matching is sound, and with references of their own what the reference matches is the
same in every order of the lines. -/
theorem matchLines_sound (cases : Text.CaseMapping) (input : MatchInput) :
    MatchedSoundly cases input (verdictOf cases input) (matchLines cases input) ∧
      ∀ (lines : List MatchLine) (perm : input.lines.Perm lines), DistinctRefs cases input →
        ∀ aslId tdId, RefMatched cases input aslId tdId ↔
          RefMatched cases (input.reordered perm) aslId tdId := by
  refine ⟨matchLines_soundly cases input, ?_⟩
  intro lines perm distinct aslId tdId
  have others : DistinctRefs cases (input.reordered perm) := by
    intro line lineMem other otherMem
    exact distinct line (perm.mem_iff.2 lineMem) other (perm.mem_iff.2 otherMem)
  rw [refMatched_iff distinct, refMatched_iff others]
  have members : ∀ line, line ∈ customerLines input ↔
      line ∈ customerLines (input.reordered perm) := by
    intro line
    rw [customerLines, customerLines, List.mem_filter, List.mem_filter]
    exact and_congr_left fun _ => perm.mem_iff
  constructor
  · rintro ⟨line, lineMem, rest⟩
    exact ⟨line, (members line).1 lineMem, rest⟩
  · rintro ⟨line, lineMem, rest⟩
    exact ⟨line, (members line).2 lineMem, rest⟩

end Order

/-! ## Two lines in two orders -/

private def latinCases : Text.CaseMapping :=
  ⟨List.map Char.toUpper, List.map Char.toLower⟩

private def scannedLine (aslId : Uuid) (refNo : String) : MatchLine :=
  ⟨aslId, .SALE, some 7, some refNo.toList, none, none, 100, none⟩

private def scannedRow (tdId : Uuid) (refNo : String) : MatchCandidate :=
  ⟨tdId, "2026-2027", 7, .DR, .PENDING, some refNo.toList, none, none, 100, 20734, 1791435600000⟩

private theorem two_lines : ([scannedLine 1 "upi1", scannedLine 2 "upi2"].map (·.aslId)).Nodup := by
  decide

private theorem two_rows : ([scannedRow 3 "UPI2", scannedRow 4 "UPI1 "].map (·.tdId)).Nodup := by
  decide

private def scannedStatement : MatchInput :=
  ⟨[scannedLine 1 "upi1", scannedLine 2 "upi2"], [scannedRow 3 "UPI2", scannedRow 4 "UPI1 "], 0, 30,
    [], two_lines, two_rows⟩

/-- Two payments of a hundred find the same rows whichever comes first. -/
theorem scanned_reordered :
    RefMatched latinCases (scannedStatement.reordered (List.Perm.swap _ _ [])) 1 4 := by
  have distinct : DistinctRefs latinCases scannedStatement := by
    have apart : ∀ line ∈ scannedStatement.lines, ∀ other ∈ scannedStatement.lines,
        (given line.refNo).map (normal latinCases) = (given other.refNo).map (normal latinCases) →
          line = other := by decide +kernel
    intro line lineMem other otherMem _ ref told otherRef otherTold same
    apply apart line lineMem other otherMem
    rw [told, otherTold, Option.map_some, Option.map_some, same]
  have found : RefMatched latinCases scannedStatement 1 4 :=
    ⟨⟨1, .MATCHED, some .REF, some 4, some "2026-2027", 0⟩, by decide +kernel, rfl, rfl, rfl⟩
  exact ((matchLines_sound latinCases scannedStatement).2 _ (List.Perm.swap _ _ []) distinct 1 4).mp
    found

/-! ## A line without a time -/

/-- Every line matched by its authorisation tells a time within a day of its row's. -/
def AuthWithinDay (cases : Text.CaseMapping) (input : MatchInput) : Prop :=
  ∀ line ∈ input.lines, ∀ verdict ∈ matchLines cases input, verdict.aslId = line.aslId →
    verdict.rule = some .AUTH →
      ∃ on ∈ line.txnOn, ∃ c ∈ input.candidates,
        some c.tdId = verdict.tdId ∧ withinDays on c.docDate 1 = true

private def undatedLine : MatchLine :=
  ⟨1, .SALE, some 7, none, some "a81k2z".toList, some "4432".toList, 100, none⟩

private def cardRow : MatchCandidate :=
  ⟨2, "2026-2027", 7, .DR, .PENDING, none, some "A81K2Z".toList, some "4432".toList, 100, 20734,
    1791435600000⟩

private theorem one_line : ([undatedLine].map (·.aslId)).Nodup := by
  decide

private theorem one_row : ([cardRow].map (·.tdId)).Nodup := by
  decide

private def undatedStatement : MatchInput :=
  ⟨[undatedLine], [cardRow], 0, 30, [], one_line, one_row⟩

/-- A card line that tells no time is matched by its code alone. -/
theorem undated_matched : ¬AuthWithinDay latinCases undatedStatement := by
  intro within
  have verdicts : matchLines latinCases undatedStatement =
      [⟨1, .MATCHED, some .AUTH, some 2, some "2026-2027", 0⟩] := by
    decide +kernel
  obtain ⟨on, told, -⟩ := within undatedLine (List.mem_singleton.2 rfl)
    ⟨1, .MATCHED, some .AUTH, some 2, some "2026-2027", 0⟩
    (by rw [verdicts]; exact List.mem_singleton.2 rfl) rfl rfl
  cases told

end ErpServer.Settlement
