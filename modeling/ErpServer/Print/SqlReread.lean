import ErpServer.Lib.Places
import ErpServer.Print.SqlTokens

/-!
# Reading what is written

Both scanners find the parameters of the one reading of a query, so the bound text is the query
with its parameter tokens replaced.  It is read as the same tokens, with a placeholder where a
parameter was, and what is written after a complete query is read after it, unless the query
ends in a line comment.
-/

namespace ErpServer.Print

open Lib
open Sql

namespace Sql

/-- The parameters of a reading, as often as they stand in it. -/
def paramsOf (tokens : List SqlToken) : List Text :=
  tokens.filterMap fun token =>
    match token with
    | .param name => some name
    | _ => none

/-- A token as it is written in the bound query. -/
def rewritten (ordinal : OrderedMap Text ℕ) : SqlToken → Text
  | .param name => placeholder (ordinal.get? name)
  | token => token.text

/-! ## The two scanners -/

section Steps

variable {names : List Text} {ordinal : OrderedMap Text ℕ} {out : Text}

variable {char : Char}

theorem Ordinary.scan {rest : Text} (ordinary : Ordinary char rest) :
    scanFrom names (char :: rest) = scanFrom names rest := by
  rw [scanFrom, if_neg ordinary.quote, if_neg ordinary.doubleQuote, if_neg ordinary.dash,
    if_neg ordinary.slash, if_neg ordinary.cast, if_neg ordinary.name]

theorem Ordinary.rewrite {rest : Text} (ordinary : Ordinary char rest) :
    rewriteFrom ordinal out (char :: rest) = rewriteFrom ordinal (out ++ [char]) rest := by
  rw [rewriteFrom, if_neg (not_or.2 ⟨ordinary.quote, ordinary.doubleQuote⟩), if_neg ordinary.dash,
    if_neg ordinary.slash, if_neg ordinary.cast, if_neg ordinary.name]

end Steps

variable {tokens : List SqlToken} {other rest sql tail : Text} {names : List Text}

/-- The first scanner lists the parameters of the reading. -/
theorem Lexes.scan (lexed : Lexes sql tokens) (names : List Text) :
    scanFrom names sql = (paramsOf tokens).foldl named names := by
  induction lexed generalizing names with
  | nil => rw [scanFrom]; rfl
  | quoted isQuote inside ends _ ih =>
      rw [scanFrom]
      rcases isQuote with rfl | rfl
      · rw [if_pos rfl, inside.past _ ends]
        exact ih names
      · rw [if_neg (by decide), if_pos rfl, inside.past _ ends]
        exact ih names
  | @lineComment body rest tokens oneLine ends _ ih =>
      have line := line_run oneLine ends
      rw [scanFrom, if_neg (by decide), if_neg (by decide), if_pos ⟨rfl, rfl⟩, pastLine,
        ← List.cons_append, line.2]
      exact ih names
  | blockComment inside ends _ ih =>
      rw [scanFrom, if_neg (by decide), if_neg (by decide), if_neg (by simp), if_pos ⟨rfl, rfl⟩,
        List.tail_cons, inside.past _ ends]
      exact ih names
  | cast _ ih =>
      rw [scanFrom, if_neg (by decide), if_neg (by decide), if_neg (by simp), if_neg (by simp),
        if_pos ⟨rfl, rfl⟩, List.tail_cons]
      exact ih names
  | @param name rest tokens starts isName ends _ ih =>
      have word := takeWhile_append_of_head isName ends
      have single := opensName_single starts rest
      rw [scanFrom, if_neg (by decide), if_neg (by decide), if_neg (by simp), if_neg (by simp),
        if_neg single, if_pos ⟨rfl, opensName_append starts rest⟩, word.1, word.2]
      exact ih (named names name)
  | char ordinary _ ih =>
      rw [ordinary.scan]
      exact ih names

/-- The second scanner rewrites the parameters of the reading and nothing else. -/
theorem Lexes.rewrite (lexed : Lexes sql tokens) (ordinal : OrderedMap Text ℕ) (out : Text) :
    rewriteFrom ordinal out sql = out ++ tokens.flatMap (rewritten ordinal) := by
  induction lexed generalizing out with
  | nil => rw [rewriteFrom]; simp
  | @quoted quote closed body rest tokens isQuote inside ends _ ih =>
      have span := span_eq (quotedSpan_whole quote (body ++ rest))
        ((quotedSpan_past quote (body ++ rest)).trans (inside.past _ ends))
      rw [rewriteFrom, if_pos isQuote, span, ih]
      simp [rewritten, SqlToken.text]
  | @lineComment body rest tokens oneLine ends _ ih =>
      have line := line_run oneLine ends
      rw [rewriteFrom, if_neg (by decide), if_pos ⟨rfl, rfl⟩, ← List.cons_append, line.1, line.2,
        ih]
      simp [rewritten, SqlToken.text]
  | @blockComment closed body rest tokens inside ends _ ih =>
      have span := span_eq (blockSpan_whole 1 (body ++ rest))
        ((blockSpan_past 1 (body ++ rest)).trans (inside.past _ ends))
      rw [rewriteFrom, if_neg (by decide), if_neg (by simp), if_pos ⟨rfl, rfl⟩, List.tail_cons,
        span, ih]
      simp [rewritten, SqlToken.text]
  | cast _ ih =>
      rw [rewriteFrom, if_neg (by decide), if_neg (by simp), if_neg (by simp), if_pos ⟨rfl, rfl⟩,
        List.tail_cons, ih]
      simp [rewritten, SqlToken.text]
  | @param name rest tokens starts isName ends _ ih =>
      have word := takeWhile_append_of_head isName ends
      have single := opensName_single starts rest
      rw [rewriteFrom, if_neg (by decide), if_neg (by simp), if_neg (by simp), if_neg single,
        if_pos ⟨rfl, opensName_append starts rest⟩, word.1, word.2, ih]
      simp [rewritten]
  | char ordinary _ ih =>
      rw [ordinary.rewrite, ih]
      simp [rewritten, SqlToken.text]

/-! ## Reading what is written -/

/-- A character that never begins a longer token. -/
def isPlain (sign : Char) : Bool := sign ∉ [QUOTE, '"', '-', '/', ':']

variable {sign : Char} {name : Text}

theorem Ordinary.of_plain (plain : isPlain sign = true) (rest : Text) : Ordinary sign rest := by
  simp only [isPlain, decide_eq_true_eq, List.mem_cons, List.not_mem_nil, or_false, not_or]
    at plain
  obtain ⟨quote, doubleQuote, dash, slash, colon⟩ := plain
  exact ⟨quote, doubleQuote, fun both => dash both.1, fun both => slash both.1,
    fun both => colon both.1, fun both => colon both.1⟩

theorem Lexes.plain {text : Text} (plain : ∀ sign ∈ text, isPlain sign = true)
    (later : Lexes rest tokens) : Lexes (text ++ rest) (text.map .char ++ tokens) := by
  induction text with
  | nil => exact later
  | cons sign text ih =>
      have after := ih fun other member => plain other (List.mem_cons_of_mem _ member)
      exact .char (.of_plain (plain sign List.mem_cons_self) _) after

theorem isPlain_digits {k : ℕ} : ∀ sign ∈ Rendering.digits 10 1 k, isPlain sign = true := by
  intro sign member
  have other (special : Char) (foreign : ∀ digit < 16, digit.digitChar ≠ special) :
      sign ≠ special := by
    rintro rfl
    exact Rendering.not_mem_digits (by decide) (by decide) foreign member
  rw [isPlain, decide_eq_true_eq]
  simp only [List.mem_cons, List.not_mem_nil, or_false, not_or]
  exact ⟨other _ (by decide), other _ (by decide), other _ (by decide), other _ (by decide),
    other _ (by decide)⟩

theorem isPlain_placeholder (ordinal : Option ℕ) :
    ∀ sign ∈ placeholder ordinal, isPlain sign = true := by
  intro sign member
  rw [placeholder, List.mem_cons] at member
  cases member with
  | inl dollar => rw [dollar]; decide
  | inr inName =>
      cases ordinal with
      | none =>
          have plain : "undefined".toList.all isPlain = true := by decide
          exact List.all_eq_true.mp plain sign inName
      | some k => exact isPlain_digits sign inName

/-- A rest that does to the token before it what another does: it begins with the same sign, or
with a dollar for a colon, or with a bracket for nothing. -/
def StandsFor (rest other : Text) : Prop :=
  other.head? = rest.head? ∨ (rest.head? = some ':' ∧ other.head? = some '$') ∨
    (rest = [] ∧ other.head? = some ')')

theorem Ordinary.standsFor (ordinary : Ordinary sign rest) (stands : StandsFor rest other) :
    Ordinary sign other := by
  have next (char : Char) (begins : other.head? = some char) :
      rest.head? = some char ∨ char = '$' ∨ char = ')' := by
    rcases stands with same | ⟨-, dollar⟩ | ⟨-, bracket⟩
    · exact .inl (same.symm.trans begins)
    · exact .inr (.inl (Option.some.inj (begins.symm.trans dollar)))
    · exact .inr (.inr (Option.some.inj (begins.symm.trans bracket)))
  have sameSign (char : Char) (special : char ≠ '$' ∧ char ≠ ')')
      (begins : other.head? = some char) : rest.head? = some char := by
    rcases next char begins with same | dollar | bracket
    · exact same
    · exact (special.1 dollar).elim
    · exact (special.2 bracket).elim
  refine ⟨ordinary.quote, ordinary.doubleQuote, ?_, ?_, ?_, ?_⟩
  · rintro ⟨dash, begins⟩
    exact ordinary.dash ⟨dash, sameSign '-' (by decide) begins⟩
  · rintro ⟨slash, begins⟩
    exact ordinary.slash ⟨slash, sameSign '*' (by decide) begins⟩
  · rintro ⟨colon, begins⟩
    exact ordinary.cast ⟨colon, sameSign ':' (by decide) begins⟩
  · rintro ⟨colon, opens⟩
    rw [opensName] at opens
    cases begins : other.head? with
    | none => simp [begins] at opens
    | some char =>
        rw [begins, Option.any_some] at opens
        have inRest := sameSign char (by constructor <;> rintro rfl <;> cases opens) begins
        exact ordinary.name ⟨colon, by rw [opensName, inRest]; exact opens⟩

theorem QuoteEnds.standsFor {quote : Char} {closed : Bool} (isQuote : quote = QUOTE ∨ quote = '"')
    (ends : QuoteEnds quote closed rest) (stands : StandsFor rest other)
    (filled : closed = false → rest = [] → other = []) : QuoteEnds quote closed other := by
  cases closed with
  | false => exact filled rfl (by simpa [QuoteEnds] using ends)
  | true =>
      have differs : rest.head? ≠ some quote := by simpa [QuoteEnds] using ends
      have goal : other.head? ≠ some quote := by
        intro begins
        rcases stands with same | ⟨-, dollar⟩ | ⟨-, bracket⟩
        · exact differs (same.symm.trans begins)
        · rw [begins, Option.some.injEq] at dollar
          rw [dollar] at isQuote
          exact absurd isQuote (by decide)
        · rw [begins, Option.some.injEq] at bracket
          rw [bracket] at isQuote
          exact absurd isQuote (by decide)
      simpa [QuoteEnds] using goal

theorem nameEnds_standsFor (ends : rest.head?.any isNameChar = false)
    (stands : StandsFor rest other) : other.head?.any isNameChar = false := by
  rcases stands with same | ⟨-, dollar⟩ | ⟨-, bracket⟩
  · rw [same]
    exact ends
  · rw [dollar]
    rfl
  · rw [bracket]
    rfl

/-! ### The bound query -/

/-- A token as it is read in the bound query. -/
def reread (ordinal : OrderedMap Text ℕ) : SqlToken → List SqlToken
  | .param name => (placeholder (ordinal.get? name)).map .char
  | token => [token]

theorem standsFor_rewritten (lexed : Lexes rest tokens) (ordinal : OrderedMap Text ℕ) :
    StandsFor rest (tokens.flatMap (rewritten ordinal)) := by
  cases lexed with
  | param => exact .inr (.inl ⟨rfl, rfl⟩)
  | _ => exact .inl rfl

/-- The bound query is read as the query is, a placeholder where a parameter was. -/
theorem Lexes.reread (lexed : Lexes sql tokens) (ordinal : OrderedMap Text ℕ) :
    Lexes (tokens.flatMap (rewritten ordinal)) (tokens.flatMap (reread ordinal)) := by
  induction lexed with
  | nil => exact .nil
  | quoted isQuote inside ends later ih =>
      refine .quoted isQuote inside (ends.standsFor isQuote (standsFor_rewritten later ordinal) ?_)
        ih
      rintro - rfl
      cases later
      rfl
  | @lineComment body rest tokens oneLine ends later ih =>
      refine .lineComment oneLine ?_ ih
      cases ends with
      | inl empty =>
          subst empty
          cases later
          exact .inl rfl
      | inr line =>
          right
          rcases standsFor_rewritten later ordinal with same | ⟨colon, -⟩ | ⟨empty, -⟩
          · exact same.trans line
          · rw [line] at colon
            cases colon
          · rw [empty] at line
            cases line
  | blockComment inside ends later ih =>
      refine .blockComment inside ?_ ih
      intro endless
      cases ends endless
      cases later
      rfl
  | cast _ ih => exact .cast ih
  | param _ _ _ _ ih => exact .plain (isPlain_placeholder _) ih
  | char ordinary later ih => exact .char (ordinary.standsFor (standsFor_rewritten later ordinal)) ih

/-! ### Text after a query -/

/-- What may run out unclosed is closed. -/
def SqlToken.closed : SqlToken → Bool
  | quoted closed _ => closed
  | blockComment closed _ => closed
  | _ => true

def SqlToken.isLineComment : SqlToken → Bool
  | lineComment _ => true
  | _ => false

/-- No token of a query runs out. -/
def Complete (tokens : List SqlToken) : Prop := ∀ token ∈ tokens, token.closed = true

/-- The query ends within a line comment. -/
def EndsInLine (tokens : List SqlToken) : Prop := tokens.getLast?.any SqlToken.isLineComment = true

theorem standsFor_append (rest : Text) (bracket : tail.head? = some ')') :
    StandsFor rest (rest ++ tail) := by
  cases rest with
  | nil => exact .inr (.inr ⟨rfl, bracket⟩)
  | cons => exact .inl rfl

/-- A bracket after a complete query that is past its comments is read as one. -/
theorem Lexes.append {tailTokens : List SqlToken} (lexed : Lexes sql tokens)
    (complete : Complete tokens) (past : ¬ EndsInLine tokens) (bracket : tail.head? = some ')') (after : Lexes tail tailTokens) :
    Lexes (sql ++ tail) (tokens ++ tailTokens) := by
  have laterComplete {token : SqlToken} {tokens : List SqlToken}
      (complete : Complete (token :: tokens)) : Complete tokens :=
    fun other member => complete other (List.mem_cons_of_mem _ member)
  have laterPast {token : SqlToken} {tokens : List SqlToken}
      (past : ¬ EndsInLine (token :: tokens)) : ¬ EndsInLine tokens := by
    intro ends
    cases tokens with
    | nil => cases ends
    | cons => exact past ends
  induction lexed with
  | nil => exact after
  | @quoted quote closed body rest tokens isQuote inside ends later ih =>
      have isClosed : closed = true := complete _ List.mem_cons_self
      rw [List.cons_append, List.append_assoc]
      refine .quoted isQuote inside (ends.standsFor isQuote (standsFor_append rest bracket) ?_)
        (ih (laterComplete complete) (laterPast past))
      intro endless
      rw [isClosed] at endless
      cases endless
  | @lineComment body rest tokens oneLine ends later ih =>
      rw [List.cons_append, List.cons_append, List.append_assoc]
      refine .lineComment oneLine ?_ (ih (laterComplete complete) (laterPast past))
      cases ends with
      | inl empty =>
          subst empty
          cases later
          exact (past rfl).elim
      | inr line =>
          cases rest with
          | nil => cases line
          | cons => exact .inr line
  | @blockComment closed body rest tokens inside ends later ih =>
      have isClosed : closed = true := complete _ List.mem_cons_self
      rw [List.cons_append, List.cons_append, List.append_assoc]
      refine .blockComment inside ?_ (ih (laterComplete complete) (laterPast past))
      intro endless
      rw [isClosed] at endless
      cases endless
  | cast _ ih => exact .cast (ih (laterComplete complete) (laterPast past))
  | @param name rest tokens starts isName ends later ih =>
      rw [List.cons_append, List.append_assoc]
      exact .param starts isName (nameEnds_standsFor ends (standsFor_append rest bracket))
        (ih (laterComplete complete) (laterPast past))
  | @char sign rest tokens ordinary later ih =>
      exact .char (ordinary.standsFor (standsFor_append rest bracket))
        (ih (laterComplete complete) (laterPast past))

/-- The last token of a query ends it. -/
theorem EndsInLine.later {token : SqlToken} (ends : EndsInLine (token :: tokens))
    (other : token.isLineComment = false) (lexed : Lexes rest tokens) :
    EndsInLine tokens ∧ rest ≠ [] := by
  cases tokens with
  | nil =>
      have isLine : token.isLineComment = true := ends
      rw [other] at isLine
      cases isLine
  | cons next tokens =>
      refine ⟨ends, ?_⟩
      rintro rfl
      cases lexed

theorem head?_append_of_ne_nil (nonempty : rest ≠ []) (tail : Text) :
    (rest ++ tail).head? = rest.head? := by
  cases rest with
  | nil => exact (nonempty rfl).elim
  | cons => rfl

/-- Text on the line of a comment a query ends in is part of the comment. -/
theorem Lexes.append_comment (lexed : Lexes sql tokens) (ends : EndsInLine tokens)
    (oneLine : ∀ sign ∈ tail, sign ≠ '\n') :
    ∃ front body, Lexes (sql ++ tail) (front ++ [.lineComment body]) := by
  induction lexed with
  | nil => cases ends
  | @quoted quote closed body rest tokens isQuote inside quoteEnds later ih =>
      obtain ⟨laterEnds, nonempty⟩ := ends.later rfl later
      obtain ⟨front, comment, read⟩ := ih laterEnds
      refine ⟨.quoted closed (quote :: body) :: front, comment, ?_⟩
      rw [List.cons_append, List.append_assoc]
      refine .quoted isQuote inside ?_ read
      cases closed with
      | false => exact (nonempty (by simpa [QuoteEnds] using quoteEnds)).elim
      | true =>
          rw [QuoteEnds, if_pos rfl, head?_append_of_ne_nil nonempty]
          simpa [QuoteEnds] using quoteEnds
  | @lineComment body rest tokens plain lineEnds later ih =>
      by_cases nonempty : rest = []
      · subst nonempty
        cases later
        refine ⟨[], '-' :: '-' :: (body ++ tail), ?_⟩
        have whole : ∀ sign ∈ body ++ tail, sign ≠ '\n' := by
          intro sign member
          exact (List.mem_append.1 member).elim (plain sign) (oneLine sign)
        have read := Lexes.lineComment whole (.inl rfl) .nil
        simpa using read
      · cases tokens with
        | nil =>
            cases later
            exact (nonempty rfl).elim
        | cons next tokens =>
            obtain ⟨front, comment, read⟩ := ih ends
            refine ⟨.lineComment ('-' :: '-' :: body) :: front, comment, ?_⟩
            rw [List.cons_append, List.cons_append, List.append_assoc]
            refine .lineComment plain ?_ read
            rw [head?_append_of_ne_nil nonempty]
            exact .inr (lineEnds.resolve_left nonempty)
  | @blockComment closed body rest tokens inside commentEnds later ih =>
      obtain ⟨laterEnds, nonempty⟩ := ends.later rfl later
      obtain ⟨front, comment, read⟩ := ih laterEnds
      refine ⟨.blockComment closed ('/' :: '*' :: body) :: front, comment, ?_⟩
      rw [List.cons_append, List.cons_append, List.append_assoc]
      exact .blockComment inside (fun endless => (nonempty (commentEnds endless)).elim) read
  | cast later ih =>
      obtain ⟨laterEnds, -⟩ := ends.later rfl later
      obtain ⟨front, comment, read⟩ := ih laterEnds
      exact ⟨.cast :: front, comment, .cast read⟩
  | @param name rest tokens starts isName nameEnds later ih =>
      obtain ⟨laterEnds, nonempty⟩ := ends.later rfl later
      obtain ⟨front, comment, read⟩ := ih laterEnds
      refine ⟨.param name :: front, comment, ?_⟩
      rw [List.cons_append, List.append_assoc]
      refine .param starts isName ?_ read
      rw [head?_append_of_ne_nil nonempty]
      exact nameEnds
  | @char sign rest tokens ordinary later ih =>
      obtain ⟨laterEnds, nonempty⟩ := ends.later rfl later
      obtain ⟨front, comment, read⟩ := ih laterEnds
      refine ⟨.char sign :: front, comment, .char ?_ read⟩
      exact ordinary.standsFor (.inl (head?_append_of_ne_nil nonempty tail))

/-! ## Placeholders -/

/-- The digits a reading goes on with. -/
def digitsAhead : List SqlToken → Text
  | .char sign :: rest => if sign.isDigit then sign :: digitsAhead rest else []
  | _ => []

/-- The numbers of the live placeholders of a reading: a dollar and the digits after it. -/
def placeholders : List SqlToken → List ℕ
  | [] => []
  | token :: rest =>
      if token = .char '$' ∧ digitsAhead rest ≠ [] then
        Rendering.numeral (digitsAhead rest) :: placeholders rest
      else placeholders rest

section Placeholders

variable (ordinal : OrderedMap Text ℕ)

theorem digitsAhead_reread (tokens : List SqlToken) :
    digitsAhead (tokens.flatMap (reread ordinal)) = digitsAhead tokens := by
  induction tokens with
  | nil => rfl
  | cons token rest ih =>
      cases token with
      | char sign =>
          show digitsAhead (.char sign :: rest.flatMap (reread ordinal)) = _
          rw [digitsAhead, digitsAhead, ih]
      | param name => rfl
      | _ => rfl

theorem digitsAhead_append (figures : Text) (all : ∀ sign ∈ figures, sign.isDigit = true)
    {rest : List SqlToken} (stops : digitsAhead rest = []) :
    digitsAhead (figures.map .char ++ rest) = figures := by
  induction figures with
  | nil => exact stops
  | cons sign figures ih =>
      rw [List.map_cons, List.cons_append, digitsAhead, if_pos (all sign List.mem_cons_self),
        ih fun other member => all other (List.mem_cons_of_mem _ member)]

theorem placeholders_append (figures : Text) (all : ∀ sign ∈ figures, sign.isDigit = true)
    (rest : List SqlToken) :
    placeholders (figures.map .char ++ rest) = placeholders rest := by
  induction figures with
  | nil => rfl
  | cons sign figures ih =>
      have digit := all sign List.mem_cons_self
      have other : SqlToken.char sign ≠ .char '$' := by
        intro same
        rw [SqlToken.char.inj same] at digit
        cases digit
      rw [List.map_cons, List.cons_append, placeholders, if_neg fun both => other both.1,
        ih fun other member => all other (List.mem_cons_of_mem _ member)]

/-- After a parameter no digit follows, so the digits of its placeholder are its own. -/
theorem digitsAhead_after (lexed : Lexes rest tokens) (ends : rest.head?.any isNameChar = false) :
    digitsAhead tokens = [] := by
  cases lexed with
  | char ordinary later =>
      rename_i sign rest tokens
      have notName : isNameChar sign = false := by simpa using ends
      rw [digitsAhead, if_neg]
      intro digit
      simp [isNameChar, Char.isAlphanum, digit] at notName
  | _ => rfl

theorem placeholders_placeholder (k : ℕ) {rest : List SqlToken} (stops : digitsAhead rest = []) :
    placeholders ((placeholder (some k)).map .char ++ rest) = k :: placeholders rest := by
  have ahead := digitsAhead_append (Rendering.digits 10 1 k) Rendering.isDigit_digits stops
  show placeholders (.char '$' :: ((Rendering.digits 10 1 k).map .char ++ rest)) = _
  rw [placeholders, ahead, if_pos ⟨rfl, Rendering.digits_ne_nil Nat.one_pos k⟩,
    Rendering.numeral_digits, placeholders_append _ Rendering.isDigit_digits]

/-- The live placeholders of the bound query among some numbers: one for every parameter, and
the query's own. -/
theorem countP_placeholders (lexed : Lexes sql tokens) (taken : ℕ → Bool)
    (numbered : ∀ name ∈ paramsOf tokens, ∃ k, ordinal.get? name = some k ∧ taken k = true) :
    (placeholders (tokens.flatMap (reread ordinal))).countP taken =
      (paramsOf tokens).length + (placeholders tokens).countP taken := by
  induction lexed with
  | nil => rfl
  | @param name rest tokens starts isName ends later ih =>
      obtain ⟨k, found, isTaken⟩ := numbered name List.mem_cons_self
      have after := ih fun other member => numbered other (List.mem_cons_of_mem name member)
      have stops : digitsAhead (tokens.flatMap (reread ordinal)) = [] := by
        rw [digitsAhead_reread]
        exact digitsAhead_after later ends
      have written : (SqlToken.param name :: tokens).flatMap (reread ordinal) =
          (placeholder (some k)).map .char ++ tokens.flatMap (reread ordinal) := by
        rw [List.flatMap_cons, reread, found]
      rw [written, placeholders_placeholder k stops, List.countP_cons_of_pos isTaken, after]
      show _ = (paramsOf tokens).length + 1 + (placeholders tokens).countP taken
      omega
  | @char sign rest tokens ordinary later ih =>
      have after := ih numbered
      show (placeholders (.char sign :: tokens.flatMap (reread ordinal))).countP taken = _
      rw [placeholders, placeholders, digitsAhead_reread]
      split
      · rw [List.countP_cons, List.countP_cons, after]
        show _ = (paramsOf tokens).length + _
        omega
      · exact after
  | quoted _ _ _ _ ih => exact ih numbered
  | lineComment _ _ _ ih => exact ih numbered
  | blockComment _ _ _ ih => exact ih numbered
  | cast _ ih => exact ih numbered

end Placeholders

/-! ## Numbering the parameters -/

theorem named_nodup (nodup : names.Nodup) (name : Text) : (named names name).Nodup := by
  rw [named]
  split
  · exact nodup
  · next absent => exact nodup.append (List.nodup_singleton name) (by simpa using absent)

theorem mem_named : other ∈ named names name ↔ other ∈ names ∨ other = name := by
  rw [named]
  split
  next listed =>
    constructor
    · exact .inl
    · rintro (member | rfl)
      · exact member
      · exact listed
  next => simp

/-- The names found are those of the parameters, once each. -/
theorem foldl_named (parameters : List Text) (nodup : names.Nodup) :
    (parameters.foldl named names).Nodup ∧
      ∀ name, name ∈ parameters.foldl named names ↔ name ∈ names ∨ name ∈ parameters := by
  induction parameters generalizing names with
  | nil => exact ⟨nodup, by simp⟩
  | cons parameter parameters ih =>
      obtain ⟨laterNodup, members⟩ := ih (named_nodup nodup parameter)
      refine ⟨laterNodup, fun name => ?_⟩
      rw [List.foldl_cons, members, mem_named, List.mem_cons, or_assoc]

theorem ordinals_append (front : List Text) (last : Text) :
    ordinals (front ++ [last]) = (ordinals front).set last (front.length + 1) := by
  rw [ordinals, ordinals, List.zipIdx_append, List.foldl_append]
  simp

/-- A name has the number of its place. -/
theorem get?_ordinals (nodup : names.Nodup) {i : ℕ} (placed : names[i]? = some name) :
    (ordinals names).get? name = some (i + 1) := by
  induction names using List.reverseRecOn with
  | nil => cases placed
  | append_singleton front last ih =>
      have frontNodup : front.Nodup := nodup.sublist (List.sublist_append_left _ _)
      have absent : last ∉ front := by
        intro member
        exact (List.nodup_append.1 nodup).2.2 last member last (List.mem_singleton_self last) rfl
      rw [ordinals_append, OrderedMap.get?_set]
      rcases Places.concat_cases placed with before | ⟨rfl, rfl⟩
      · have member := List.mem_of_getElem? before
        rw [if_neg (by rintro rfl; exact absent member)]
        exact ih frontNodup before
      · rw [if_pos rfl]

end Sql

end ErpServer.Print
