import ErpServer.Print.SqlReread

/-!
# What binding does to a query

The bound query has its parameters replaced by the numbers of their values and nothing else
changed.  A `$n` of the query's own is left as it is, and so may take a value; and the cap is
written after the query, on the same line, so that a line comment the query ends in takes it in.
-/

namespace ErpServer.Print

open Lib
open Sql

/-! ## Binding -/

section Binding

variable {V : Type} {sql : Text} {tokens : List SqlToken} {values : OrderedMap Text V}

theorem scanParams_eq (lexed : Lexes sql tokens) :
    scanParams sql = (paramsOf tokens).foldl named [] := lexed.scan []

theorem scanParams_nodup (lexed : Lexes sql tokens) : (scanParams sql).Nodup := by
  rw [scanParams_eq lexed]
  exact (foldl_named _ List.nodup_nil).1

theorem mem_scanParams (lexed : Lexes sql tokens) (name : Text) :
    name ∈ scanParams sql ↔ name ∈ paramsOf tokens := by
  rw [scanParams_eq lexed, (foldl_named _ List.nodup_nil).2]
  simp

/-- There are as many values as there are different parameters. -/
theorem length_scanParams (lexed : Lexes sql tokens) :
    (scanParams sql).length = (paramsOf tokens).dedup.length := by
  apply List.Perm.length_eq
  rw [List.perm_ext_iff_of_nodup (scanParams_nodup lexed) (List.nodup_dedup _)]
  intro name
  rw [mem_scanParams lexed, List.mem_dedup]

/-- A query is refused where it names what has no value. -/
theorem bindDatasetSql_error_iff (lexed : Lexes sql tokens) :
    (∃ problem, bindDatasetSql sql values = .error problem) ↔
      ∃ name ∈ paramsOf tokens, values.get? name = none := by
  have unknown : (scanParams sql).filter (fun name => !values.has name) ≠ [] ↔
      ∃ name ∈ paramsOf tokens, values.get? name = none := by
    rw [ne_eq, List.filter_eq_nil_iff]
    simp only [not_forall, OrderedMap.has, mem_scanParams lexed]
    constructor
    · rintro ⟨name, member, lacks⟩
      exact ⟨name, member, by simpa using lacks⟩
    · rintro ⟨name, member, lacks⟩
      exact ⟨name, member, by simpa using lacks⟩
  rw [← unknown, bindDatasetSql]
  constructor
  · rintro ⟨problem, refused⟩
    intro known
    simp only [known, ne_eq, not_true_eq_false, if_false] at refused
    cases refused
  · intro some
    exact ⟨_, if_pos some⟩

variable {bound : BoundQuery V}

/-- What an accepted query is bound to. -/
theorem bindDatasetSql_ok (lexed : Lexes sql tokens)
    (accepted : bindDatasetSql sql values = .ok bound) :
    bound.sql = tokens.flatMap (rewritten (ordinals (scanParams sql))) ∧
      bound.bound = scanParams sql ∧ bound.params.map some = (scanParams sql).map values.get? := by
  by_cases known : (scanParams sql).filter (fun name => !values.has name) = []
  · simp only [bindDatasetSql, known, ne_eq, not_true_eq_false, if_false] at accepted
    rw [List.filter_eq_nil_iff] at known
    cases accepted
    refine ⟨lexed.rewrite _ [], rfl, ?_⟩
    have present : ∀ name ∈ scanParams sql, (values.get? name).isSome = true := by
      intro name member
      simpa [OrderedMap.has, Option.isSome_iff_ne_none] using known name member
    clear known
    generalize scanParams sql = names at present
    induction names with
    | nil => rfl
    | cons name names ih =>
        obtain ⟨value, found⟩ := Option.isSome_iff_exists.1 (present name List.mem_cons_self)
        have rest := ih fun other member => present other (List.mem_cons_of_mem _ member)
        rw [List.filterMap_cons, List.map_cons, found]
        simpa using rest
  · simp only [bindDatasetSql, known, ne_eq, not_false_eq_true, if_true] at accepted
    cases accepted

/-- A parameter has the number of its value. -/
theorem ordinal_of_param (lexed : Lexes sql tokens)
    (accepted : bindDatasetSql sql values = .ok bound) {name : Text}
    (member : name ∈ paramsOf tokens) :
    ∃ i, (ordinals (scanParams sql)).get? name = some (i + 1) ∧ i < bound.params.length ∧
      bound.params[i]? = values.get? name := by
  obtain ⟨i, placed⟩ := List.mem_iff_getElem?.1 ((mem_scanParams lexed name).2 member)
  obtain ⟨-, -, params⟩ := bindDatasetSql_ok lexed accepted
  have listed := congrArg (·[i]?) params
  simp only [List.getElem?_map, placed, Option.map_some] at listed
  cases value : bound.params[i]? with
  | none =>
      rw [value] at listed
      cases listed
  | some held =>
      rw [value] at listed
      exact ⟨i, get?_ordinals (scanParams_nodup lexed) placed,
        (List.getElem?_eq_some_iff.1 value).1, value.trans (Option.some.inj listed)⟩

/-- The parameter tokens replaced, every other token as it was. -/
def SqlToken.replaced (place : Text → ℕ) : SqlToken → Text
  | .param name => '$' :: Rendering.digits 10 1 (place name)
  | token => token.text

/-- A number is that of one of the values. -/
def isTaken (count : ℕ) (number : ℕ) : Bool := 1 ≤ number ∧ number ≤ count

/-- The cap's part after the query. -/
def capTail (count : ℕ) : Text :=
  ") AS ptd_rows LIMIT $".toList ++ Rendering.digits 10 1 (count + 1)

/-- What binding promises of a query read as these tokens. -/
structure Binds (sql : Text) (tokens : List SqlToken) (values : OrderedMap Text V) (limit : V) :
    Prop where
  refuses : (∃ problem, bindDatasetSql sql values = .error problem) ↔
    ∃ name ∈ paramsOf tokens, values.get? name = none
  /-- Each parameter token becomes the number of its value. -/
  replaces : ∀ bound, bindDatasetSql sql values = .ok bound → ∃ place : Text → ℕ,
    bound.sql = tokens.flatMap (SqlToken.replaced place) ∧
      ∀ name ∈ paramsOf tokens, 1 ≤ place name ∧ place name ≤ bound.params.length ∧
        bound.params[place name - 1]? = values.get? name
  independent : ∀ (bound : BoundQuery V) (others : OrderedMap Text V) (otherBound : BoundQuery V),
    bindDatasetSql sql values = .ok bound → bindDatasetSql sql others = .ok otherBound →
      otherBound.sql = bound.sql
  /-- The live placeholders with a value are no more than the parameters. -/
  noOther : ∀ bound, bindDatasetSql sql values = .ok bound → ∀ boundTokens,
    Lexes bound.sql boundTokens →
      (placeholders boundTokens).countP (isTaken bound.params.length) = (paramsOf tokens).length
  /-- The cap's closing bracket and limit are live. -/
  capped : ∀ bound, bindDatasetSql sql values = .ok bound → Complete tokens →
    (∃ front, Lexes (withRowLimit bound limit).sql
      (front ++ (capTail bound.params.length).map .char)) ∧
    (withRowLimit bound limit).params[bound.params.length]? = some limit

/-- The numbers of the query's own placeholders are none of the values', and a query that is
complete does not end in a line comment. -/
def StandsClear (tokens : List SqlToken) : Prop :=
  (∀ number ∈ placeholders tokens, isTaken (paramsOf tokens).dedup.length number = false) ∧
    (Complete tokens → ¬ EndsInLine tokens)

theorem isPlain_capHead : ∀ sign ∈ "SELECT * FROM (".toList, isPlain sign = true :=
  List.all_eq_true.mp (by decide)

theorem isPlain_capTail (count : ℕ) : ∀ sign ∈ capTail count, isPlain sign = true := by
  intro sign member
  cases List.mem_append.1 member with
  | inl word =>
      have plain : ") AS ptd_rows LIMIT $".toList.all isPlain = true := by decide
      exact List.all_eq_true.mp plain sign word
  | inr figure => exact isPlain_digits sign figure

theorem capTail_oneLine (count : ℕ) : ∀ sign ∈ capTail count, sign ≠ '\n' := by
  intro sign member
  rintro rfl
  cases List.mem_append.1 member with
  | inl word => exact absurd word (by decide)
  | inr figure =>
      exact Rendering.not_mem_digits (by decide) (by decide) (by decide) figure

theorem withRowLimit_sql (bound : BoundQuery V) (limit : V) : (withRowLimit bound limit).sql =
    "SELECT * FROM (".toList ++ (bound.sql ++ capTail bound.params.length) := by
  have written : (withRowLimit bound limit).sql = "SELECT * FROM (".toList ++ bound.sql ++
      ") AS ptd_rows LIMIT $".toList ++ Rendering.digits 10 1 (bound.params.length + 1) := rfl
  unfold capTail
  exact written.trans ((List.append_assoc _ _ _).trans (List.append_assoc _ _ _))

theorem capTail_head (count : ℕ) : (capTail count).head? = some ')' := by
  have first : ") AS ptd_rows LIMIT $".toList.head? = some ')' := by decide +kernel
  unfold capTail
  rw [List.head?_append, first]
  exact Option.some_or

/-- What a token is reread as is closed where it is, and no line comment but it. -/
theorem reread_kinds (ordinal : OrderedMap Text ℕ) (token : SqlToken) :
    reread ordinal token ≠ [] ∧
      (∀ other ∈ reread ordinal token, other.closed = token.closed) ∧
      ∀ other ∈ reread ordinal token, other.isLineComment = token.isLineComment := by
  cases token with
  | param name =>
      refine ⟨List.cons_ne_nil _ _, ?_, ?_⟩
      · intro other member
        obtain ⟨sign, -, rfl⟩ := List.mem_map.1 member
        rfl
      · intro other member
        obtain ⟨sign, -, rfl⟩ := List.mem_map.1 member
        rfl
  | _ =>
      refine ⟨List.cons_ne_nil _ _, ?_, ?_⟩
      · intro other member
        rw [List.mem_singleton.1 member]
      · intro other member
        rw [List.mem_singleton.1 member]

theorem complete_reread (ordinal : OrderedMap Text ℕ) (complete : Complete tokens) :
    Complete (tokens.flatMap (reread ordinal)) := by
  intro other member
  obtain ⟨token, listed, inToken⟩ := List.mem_flatMap.1 member
  rw [(reread_kinds ordinal token).2.1 other inToken]
  exact complete token listed

theorem endsInLine_reread (ordinal : OrderedMap Text ℕ) :
    EndsInLine (tokens.flatMap (reread ordinal)) ↔ EndsInLine tokens := by
  induction tokens using List.reverseRecOn with
  | nil => rfl
  | append_singleton front token _ =>
      obtain ⟨nonempty, -, kinds⟩ := reread_kinds ordinal token
      obtain ⟨last, isLast⟩ := Option.isSome_iff_exists.1 (List.getLast?_isSome.2 nonempty)
      rw [EndsInLine, EndsInLine, List.flatMap_append, List.flatMap_singleton,
        List.getLast?_append, isLast, Option.some_or, List.getLast?_concat, Option.any_some,
        Option.any_some, kinds last (List.mem_of_getLast? isLast)]

/-- A reading whose last token is a character ends in no comment. -/
theorem ends_in_char {front before : List SqlToken} {body tail : Text} (nonempty : tail ≠ [])
    (same : front ++ tail.map .char = before ++ [.lineComment body]) : False := by
  have last := congrArg List.getLast? same
  obtain ⟨sign, isLast⟩ := Option.isSome_iff_exists.1 (List.getLast?_isSome.2 nonempty)
  rw [List.getLast?_append, List.getLast?_map, isLast, List.getLast?_concat] at last
  cases last

/-- The cap is live exactly where the query does not end in a line comment. -/
theorem capped_iff (lexed : Lexes sql tokens) (complete : Complete tokens)
    (accepted : bindDatasetSql sql values = .ok bound) (limit : V) :
    (∃ front, Lexes (withRowLimit bound limit).sql
      (front ++ (capTail bound.params.length).map .char)) ↔ ¬ EndsInLine tokens := by
  obtain ⟨written, -, -⟩ := bindDatasetSql_ok lexed accepted
  have boundLexed := lexed.reread (ordinals (scanParams sql))
  rw [← written] at boundLexed
  have nonempty : capTail bound.params.length ≠ [] := by
    intro empty
    have head := capTail_head bound.params.length
    rw [empty] at head
    cases head
  rw [withRowLimit_sql]
  constructor
  · rintro ⟨front, read⟩ ends
    obtain ⟨before, body, swallowed⟩ := boundLexed.append_comment
      ((endsInLine_reread _).2 ends) (capTail_oneLine bound.params.length)
    have whole := Lexes.plain isPlain_capHead swallowed
    rw [← List.append_assoc (_ : List SqlToken)] at whole
    exact ends_in_char nonempty (read.unique whole)
  · intro past
    have tail := Lexes.plain (isPlain_capTail bound.params.length) .nil
    rw [List.append_nil, List.append_nil] at tail
    have read := boundLexed.append (complete_reread _ complete)
      (mt (endsInLine_reread _).1 past) (capTail_head _) tail
    have whole := Lexes.plain isPlain_capHead read
    rw [← List.append_assoc (_ : List SqlToken)] at whole
    exact ⟨_, whole⟩

/-- The live placeholders with a value are the parameters' exactly where the query's own have
none. -/
theorem noOther_iff (lexed : Lexes sql tokens) (accepted : bindDatasetSql sql values = .ok bound) :
    (∀ boundTokens, Lexes bound.sql boundTokens →
      (placeholders boundTokens).countP (isTaken bound.params.length) =
        (paramsOf tokens).length) ↔
      ∀ number ∈ placeholders tokens, isTaken (paramsOf tokens).dedup.length number = false := by
  obtain ⟨written, -, params⟩ := bindDatasetSql_ok lexed accepted
  have boundLexed := lexed.reread (ordinals (scanParams sql))
  rw [← written] at boundLexed
  have size : bound.params.length = (paramsOf tokens).dedup.length := by
    have lengths := congrArg List.length params
    rw [List.length_map, List.length_map, length_scanParams lexed] at lengths
    exact lengths
  have counted := countP_placeholders (ordinals (scanParams sql)) lexed
    (isTaken bound.params.length) fun name member => by
      obtain ⟨i, found, small, -⟩ := ordinal_of_param lexed accepted member
      refine ⟨i + 1, found, ?_⟩
      rw [isTaken, decide_eq_true_eq]
      omega
  rw [← size]
  constructor
  · intro onlyParams
    have same := onlyParams _ boundLexed
    rw [counted] at same
    have none : (placeholders tokens).countP (isTaken bound.params.length) = 0 := by omega
    intro number member
    simpa using List.countP_eq_zero.1 none number member
  · intro clear boundTokens other
    rw [other.unique boundLexed, counted]
    have none : (placeholders tokens).countP (isTaken bound.params.length) = 0 := by
      rw [List.countP_eq_zero]
      intro number member
      simp [clear number member]
    omega

theorem replaces_params (lexed : Lexes sql tokens)
    (accepted : bindDatasetSql sql values = .ok bound) : ∃ place : Text → ℕ,
    bound.sql = tokens.flatMap (SqlToken.replaced place) ∧
      ∀ name ∈ paramsOf tokens, 1 ≤ place name ∧ place name ≤ bound.params.length ∧
        bound.params[place name - 1]? = values.get? name := by
  obtain ⟨written, -, -⟩ := bindDatasetSql_ok lexed accepted
  refine ⟨fun name => ((ordinals (scanParams sql)).get? name).getD 0, ?_, ?_⟩
  · rw [written]
    apply List.flatMap_congr
    intro token member
    cases token with
    | param name =>
        have isParam : name ∈ paramsOf tokens :=
          List.mem_filterMap.2 ⟨_, member, rfl⟩
        obtain ⟨i, found, -, -⟩ := ordinal_of_param lexed accepted isParam
        rw [rewritten, SqlToken.replaced, found]
        rfl
    | _ => rfl
  · intro name member
    obtain ⟨i, found, small, value⟩ := ordinal_of_param lexed accepted member
    simp only [found, Option.getD_some, Nat.add_sub_cancel]
    exact ⟨by omega, small, value⟩

/-- A query reads in one way, and binding keeps its promises exactly where no placeholder of the
query's own has the number of a value and, if the query is complete, it does not end in a line
comment; a query with a parameter that has no value is refused whatever it holds. -/
theorem bindDatasetSql_binds (sql : Text) (values : OrderedMap Text V) (limit : V) :
    ∃ tokens, Lexes sql tokens ∧ (∀ others, Lexes sql others → others = tokens) ∧
      (Binds sql tokens values limit ↔
        ((∀ name ∈ paramsOf tokens, (values.get? name).isSome) → StandsClear tokens)) := by
  obtain ⟨tokens, lexed⟩ := lexes_exists sql
  refine ⟨tokens, lexed, fun others other => other.unique lexed, ?_⟩
  constructor
  · intro held supplied
    cases outcome : bindDatasetSql sql values with
    | error problem =>
        obtain ⟨name, member, lacks⟩ := held.refuses.1 ⟨problem, outcome⟩
        have present := supplied name member
        rw [lacks] at present
        cases present
    | ok bound =>
        refine ⟨(noOther_iff lexed outcome).1 (held.noOther bound outcome), fun complete => ?_⟩
        exact (capped_iff lexed complete outcome limit).1 (held.capped bound outcome complete).1
  · intro clear
    have clearOf {bound : BoundQuery V} (accepted : bindDatasetSql sql values = .ok bound) :
        StandsClear tokens := by
      refine clear fun name member => ?_
      obtain ⟨i, -, small, value⟩ := ordinal_of_param lexed accepted member
      rw [← value, List.getElem?_eq_getElem small]
      rfl
    exact
      { refuses := bindDatasetSql_error_iff lexed
        replaces := fun bound accepted => replaces_params lexed accepted
        independent := by
          intro bound others otherBound accepted otherAccepted
          rw [(bindDatasetSql_ok lexed accepted).1, (bindDatasetSql_ok lexed otherAccepted).1]
        noOther := fun bound accepted => (noOther_iff lexed accepted).2 (clearOf accepted).1
        capped := by
          intro bound accepted complete
          refine ⟨(capped_iff lexed complete accepted limit).2
            ((clearOf accepted).2 complete), ?_⟩
          exact List.getElem?_concat_length }

end Binding

/-- A query that ends in a line comment takes the cap into it; and a `$1` of the query's own takes
the first parameter's value. -/
theorem commented_cap_lost :
    ¬ (∀ tokens, Lexes "SELECT 1 -- all rows".toList tokens →
        Binds "SELECT 1 -- all rows".toList tokens (.empty : OrderedMap Text ℕ) 10) ∧
      bindDatasetSql "SELECT $1, :a".toList (OrderedMap.empty.set "a".toList 7) =
        .ok ⟨"SELECT $1, $1".toList, [7], ["a".toList]⟩ := by
  refine ⟨fun binds => ?_, by decide +kernel⟩
  have split : "SELECT 1 -- all rows".toList =
      "SELECT 1 ".toList ++ '-' :: '-' :: (" all rows".toList ++ []) := by decide +kernel
  have plain : ∀ sign ∈ "SELECT 1 ".toList, isPlain sign = true :=
    List.all_eq_true.mp (by decide)
  have oneLine : ∀ sign ∈ " all rows".toList, sign ≠ '\n' := by
    rintro sign member rfl
    exact absurd member (by decide)
  have lexed := Lexes.plain plain (.lineComment oneLine (.inl rfl) .nil)
  rw [← split] at lexed
  have accepted : bindDatasetSql "SELECT 1 -- all rows".toList (.empty : OrderedMap Text ℕ) =
      .ok ⟨"SELECT 1 -- all rows".toList, [], []⟩ := by decide +kernel
  have complete : Complete ("SELECT 1 ".toList.map .char ++
      [.lineComment ('-' :: '-' :: " all rows".toList)]) := by
    unfold Complete
    decide +kernel
  have live := ((binds _ lexed).capped _ accepted complete).1
  have ends : EndsInLine ("SELECT 1 ".toList.map .char ++
      [.lineComment ('-' :: '-' :: " all rows".toList)]) := by
    rw [EndsInLine, List.getLast?_concat]
    rfl
  exact (capped_iff lexed complete accepted 10).1 live ends

end ErpServer.Print
