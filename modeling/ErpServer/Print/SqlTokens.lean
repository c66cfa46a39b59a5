import ErpServer.Print.SqlBinder
import Mathlib.Data.List.TakeWhile

/-!
# The lexical rules of a query

A query is a sequence of tokens: literals and quoted identifiers in which a doubled quote stands
for one, comments to the end of the line, block comments that nest, casts, parameters, and
single characters.  There is one way to read it so, and both scanners read it that way.
-/

namespace ErpServer.Print.Sql

open Lib

/-- What may run out unclosed says whether it is closed. -/
inductive SqlToken where
  | quoted (closed : Bool) (text : Text)
  | lineComment (text : Text)
  | blockComment (closed : Bool) (text : Text)
  | cast
  | param (name : Text)
  | char (char : Char)
  deriving DecidableEq, Repr

def SqlToken.text : SqlToken → Text
  | quoted _ text => text
  | lineComment text => text
  | blockComment _ text => text
  | cast => [':', ':']
  | param name => ':' :: name
  | .char sign => [sign]

/-- What follows an opening quote, and whether it is closed. -/
inductive Inside (quote : Char) : Bool → Text → Prop where
  | closing : Inside quote true [quote]
  | runsOut : Inside quote false []
  | doubled {closed : Bool} {rest : Text} (inside : Inside quote closed rest) :
      Inside quote closed (quote :: quote :: rest)
  | char {closed : Bool} {char : Char} {rest : Text} (other : char ≠ quote)
      (inside : Inside quote closed rest) : Inside quote closed (char :: rest)

/-- A comment is opened, or closed, here. -/
def opensComment (char : Char) (rest : Text) : Prop := char = '/' ∧ rest.head? = some '*'

def closesComment (char : Char) (rest : Text) : Prop := char = '*' ∧ rest.head? = some '/'

/-- What follows the opening of block comments so many of which are open, and whether all of
them are closed. -/
inductive Commented : ℕ → Bool → Text → Prop where
  | closed : Commented 0 true []
  | runsOut {depth : ℕ} : Commented (depth + 1) false []
  | opens {depth : ℕ} {closed : Bool} {rest : Text}
      (inside : Commented (depth + 2) closed rest) :
      Commented (depth + 1) closed ('/' :: '*' :: rest)
  | closes {depth : ℕ} {closed : Bool} {rest : Text} (inside : Commented depth closed rest) :
      Commented (depth + 1) closed ('*' :: '/' :: rest)
  | char {depth : ℕ} {closed : Bool} {char : Char} {rest : Text}
      (plain : ¬ opensComment char rest ∧ ¬ closesComment char rest)
      (inside : Commented (depth + 1) closed rest) : Commented (depth + 1) closed (char :: rest)

/-- A character that begins no longer token before this rest. -/
structure Ordinary (char : Char) (rest : Text) : Prop where
  quote : char ≠ QUOTE
  doubleQuote : char ≠ '"'
  dash : ¬ (char = '-' ∧ rest.head? = some '-')
  slash : ¬ (char = '/' ∧ rest.head? = some '*')
  cast : ¬ (char = ':' ∧ rest.head? = some ':')
  name : ¬ (char = ':' ∧ opensName rest = true)

/-- A quotation ends where no further quote follows, or with the query. -/
def QuoteEnds (quote : Char) (closed : Bool) (rest : Text) : Prop :=
  if closed = true then rest.head? ≠ some quote else rest = []

/-- A query read as tokens. -/
inductive Lexes : Text → List SqlToken → Prop where
  | nil : Lexes [] []
  | quoted {quote : Char} {closed : Bool} {body rest : Text} {tokens : List SqlToken}
      (isQuote : quote = QUOTE ∨ quote = '"') (inside : Inside quote closed body)
      (ends : QuoteEnds quote closed rest) (later : Lexes rest tokens) :
      Lexes (quote :: (body ++ rest)) (.quoted closed (quote :: body) :: tokens)
  | lineComment {body rest : Text} {tokens : List SqlToken} (oneLine : ∀ char ∈ body, char ≠ '\n')
      (ends : rest = [] ∨ rest.head? = some '\n') (later : Lexes rest tokens) :
      Lexes ('-' :: '-' :: (body ++ rest)) (.lineComment ('-' :: '-' :: body) :: tokens)
  | blockComment {closed : Bool} {body rest : Text} {tokens : List SqlToken}
      (inside : Commented 1 closed body) (ends : closed = false → rest = [])
      (later : Lexes rest tokens) :
      Lexes ('/' :: '*' :: (body ++ rest)) (.blockComment closed ('/' :: '*' :: body) :: tokens)
  | cast {rest : Text} {tokens : List SqlToken} (later : Lexes rest tokens) :
      Lexes (':' :: ':' :: rest) (.cast :: tokens)
  | param {name rest : Text} {tokens : List SqlToken} (starts : opensName name = true)
      (isName : ∀ char ∈ name, isNameChar char = true)
      (ends : rest.head?.any isNameChar = false) (later : Lexes rest tokens) :
      Lexes (':' :: (name ++ rest)) (.param name :: tokens)
  | char {char : Char} {rest : Text} {tokens : List SqlToken} (ordinary : Ordinary char rest)
      (later : Lexes rest tokens) : Lexes (char :: rest) (.char char :: tokens)

/-! ## One token at a time -/

variable {quote : Char} {closed : Bool} {body name otherBody otherRest rest : Text} {depth : ℕ}

variable {char : Char} {otherClosed : Bool}

theorem pastQuoted_other (other : char ≠ quote) (rest : Text) :
    pastQuoted quote (char :: rest) = pastQuoted quote rest := by
  rw [pastQuoted.eq_def]
  simp only [other, if_false]

theorem Inside.past (inside : Inside quote closed body) (rest : Text)
    (ends : QuoteEnds quote closed rest) : pastQuoted quote (body ++ rest) = rest := by
  induction inside with
  | closing =>
      cases rest with
      | nil => simp [pastQuoted]
      | cons next later =>
          have different : next ≠ quote := by simpa [QuoteEnds] using ends
          simp [pastQuoted, different]
  | runsOut =>
      have empty : rest = [] := by simpa [QuoteEnds] using ends
      rw [empty]
      rfl
  | doubled _ ih => simpa [pastQuoted] using ih ends
  | char other _ ih =>
      rw [List.cons_append, pastQuoted_other other]
      exact ih ends

theorem quotedSpan_whole (quote : Char) (text : Text) :
    (quotedSpan quote text).1 ++ (quotedSpan quote text).2 = text := by
  fun_induction quotedSpan quote text <;> simp_all

theorem quotedSpan_past (quote : Char) (text : Text) :
    (quotedSpan quote text).2 = pastQuoted quote text := by
  fun_induction quotedSpan quote text <;> grind [pastQuoted, pastQuoted_other]

theorem blockSpan_whole (depth : ℕ) (text : Text) :
    (blockSpan depth text).1 ++ (blockSpan depth text).2 = text := by
  fun_induction blockSpan depth text <;> simp_all

theorem blockSpan_past (depth : ℕ) (text : Text) :
    (blockSpan depth text).2 = pastBlock depth text := by
  fun_induction blockSpan depth text <;> grind [pastBlock]

theorem Commented.past (inside : Commented depth closed body) (rest : Text)
    (ends : closed = false → rest = []) : pastBlock depth (body ++ rest) = rest := by
  induction inside with
  | closed => cases rest <;> rfl
  | runsOut =>
      rw [ends rfl]
      rfl
  | opens _ ih => simpa [pastBlock] using ih ends
  | closes _ ih => simpa [pastBlock] using ih ends
  | @char depth closed char body plain inside ih =>
      have after := ih ends
      cases body with
      | nil =>
          cases inside with
          | runsOut =>
              rw [ends rfl]
              rfl
      | cons next later =>
          have first : ¬ (char = '/' ∧ next = '*') := by simpa [opensComment] using plain.1
          have second : ¬ (char = '*' ∧ next = '/') := by simpa [closesComment] using plain.2
          simpa [pastBlock, first, second] using after

/-- A span is the text up to what is past it. -/
theorem span_eq {span : Text × Text} (whole : span.1 ++ span.2 = body ++ rest)
    (past : span.2 = rest) : span = (body, rest) := by
  obtain ⟨taken, left⟩ := span
  obtain rfl : left = rest := past
  exact congrArg (·, left) (List.append_cancel_right whole)

theorem takeWhile_append_of_head {α : Type} {accepts : α → Bool} {body rest : List α}
    (all : ∀ item ∈ body, accepts item = true) (ends : rest.head?.any accepts = false) :
    (body ++ rest).takeWhile accepts = body ∧ (body ++ rest).dropWhile accepts = rest := by
  induction body with
  | nil =>
      cases rest with
      | nil => exact ⟨rfl, rfl⟩
      | cons next later =>
          have stops : accepts next = false := by simpa using ends
          simp [stops]
  | cons item body ih =>
      have taken := ih fun other member => all other (List.mem_cons_of_mem _ member)
      have first := all item List.mem_cons_self
      simp [first, taken]

/-! ## One way to read a query -/

theorem Inside.exclusive (whole : Inside quote true body) (endless : Inside quote false body) :
    False := by
  generalize flag : true = closes at whole
  induction whole with
  | closing =>
      cases endless with
      | char other _ => exact other rfl
  | runsOut => cases flag
  | doubled _ ih =>
      cases endless with
      | doubled inside => exact ih inside flag
      | char other _ => exact other rfl
  | char other _ ih =>
      cases endless with
      | doubled _ => exact other rfl
      | char _ inside => exact ih inside flag

/-- What is not both closed and left open is closed in one way. -/
theorem closed_unique {Reads : Bool → Prop} {closed otherClosed : Bool} (reads : Reads closed)
    (other : Reads otherClosed) (exclusive : Reads true → Reads false → False) :
    closed = otherClosed := by
  cases closed <;> cases otherClosed
  · rfl
  · exact (exclusive other reads).elim
  · exact (exclusive reads other).elim
  · rfl

theorem Inside.unique (inside : Inside quote closed body) (ends : QuoteEnds quote closed rest)
    (other : Inside quote otherClosed otherBody) (otherEnds : QuoteEnds quote otherClosed otherRest)
    (same : body ++ rest = otherBody ++ otherRest) :
    closed = otherClosed ∧ body = otherBody ∧ rest = otherRest := by
  have rests : rest = otherRest := by
    rw [← inside.past rest ends, same, other.past otherRest otherEnds]
  subst rests
  obtain rfl := List.append_cancel_right same
  exact ⟨@closed_unique (Inside quote · body) _ _ inside other Inside.exclusive, rfl, rfl⟩

theorem Commented.exclusive (whole : Commented depth true body)
    (endless : Commented depth false body) : False := by
  generalize flag : true = closes at whole
  induction whole with
  | closed => cases endless
  | runsOut => cases flag
  | opens _ ih =>
      cases endless with
      | opens inside => exact ih inside flag
      | char plain _ => exact plain.1 ⟨rfl, rfl⟩
  | closes _ ih =>
      cases endless with
      | closes inside => exact ih inside flag
      | char plain _ => exact plain.2 ⟨rfl, rfl⟩
  | char plain _ ih =>
      cases endless with
      | opens _ => exact plain.1 ⟨rfl, rfl⟩
      | closes _ => exact plain.2 ⟨rfl, rfl⟩
      | char _ inside => exact ih inside flag

theorem Commented.unique (inside : Commented depth closed body) (ends : closed = false → rest = [])
    (other : Commented depth otherClosed otherBody)
    (otherEnds : otherClosed = false → otherRest = [])
    (same : body ++ rest = otherBody ++ otherRest) :
    closed = otherClosed ∧ body = otherBody ∧ rest = otherRest := by
  have rests : rest = otherRest := by
    rw [← inside.past rest ends, same, other.past otherRest otherEnds]
  subst rests
  obtain rfl := List.append_cancel_right same
  exact ⟨@closed_unique (Commented depth · body) _ _ inside other Commented.exclusive, rfl, rfl⟩

/-- A run that stops where its kind of character does is the same in any cut. -/
theorem run_unique {accepts : Char → Bool} (all : ∀ char ∈ body, accepts char = true)
    (ends : rest.head?.any accepts = false) (otherAll : ∀ char ∈ otherBody, accepts char = true)
    (otherEnds : otherRest.head?.any accepts = false) (same : body ++ rest = otherBody ++ otherRest) :
    body = otherBody ∧ rest = otherRest := by
  have left := takeWhile_append_of_head all ends
  have right := takeWhile_append_of_head otherAll otherEnds
  rw [same] at left
  exact ⟨left.1.symm.trans right.1, left.2.symm.trans right.2⟩

theorem opensName_append (starts : opensName name = true) (rest : Text) :
    opensName (name ++ rest) = true := by
  cases name with
  | nil => cases starts
  | cons first name => exact starts

/-- A colon before a name is no cast. -/
theorem opensName_single (starts : opensName name = true) (rest : Text) :
    ¬ (':' = ':' ∧ (name ++ rest).head? = some ':') := by
  cases name with
  | nil => cases starts
  | cons first name =>
      rintro ⟨-, second⟩
      rw [List.cons_append, List.head?_cons, Option.some.injEq] at second
      rw [second] at starts
      cases starts

theorem isNameChar_of_start (starts : isNameStart char = true) : isNameChar char = true := by
  rw [isNameStart, Bool.or_eq_true] at starts
  rw [isNameChar, Bool.or_eq_true, Char.isAlphanum, Bool.or_eq_true]
  exact starts.imp .inl id

/-- The run of a name's characters is not empty where a name opens. -/
theorem opensName_of_append (starts : opensName (name ++ rest) = true)
    (ends : rest.head?.any isNameChar = false) : opensName name = true := by
  cases name with
  | cons first name => exact starts
  | nil =>
      cases rest with
      | nil => cases starts
      | cons next rest =>
          have isName : isNameChar next = true :=
            isNameChar_of_start (by simpa [opensName] using starts)
          simp [isName] at ends

theorem isQuote_not (isQuote : quote = QUOTE ∨ quote = '"') :
    quote ≠ '-' ∧ quote ≠ '/' ∧ quote ≠ ':' := by
  rcases isQuote with rfl | rfl <;> decide

theorem lineEnds_any (ends : rest = [] ∨ rest.head? = some '\n') :
    (rest.head?.any fun char => decide (char ≠ '\n')) = false := by
  cases ends with
  | inl empty => rw [empty]; rfl
  | inr line => rw [line]; rfl

/-- A line comment's text after its first sign is a run within the line. -/
theorem line_run (oneLine : ∀ char ∈ body, char ≠ '\n') (ends : rest = [] ∨ rest.head? = some '\n') :
    (('-' :: body) ++ rest).takeWhile (fun char => decide (char ≠ '\n')) = '-' :: body ∧
      (('-' :: body) ++ rest).dropWhile (fun char => decide (char ≠ '\n')) = rest := by
  refine takeWhile_append_of_head ?_ (lineEnds_any ends)
  intro char member
  cases List.mem_cons.1 member with
  | inl dash => rw [dash]; rfl
  | inr inBody => exact decide_eq_true (oneLine char inBody)

theorem Lexes.unique {sql : Text} {tokens : List SqlToken} (lexed : Lexes sql tokens) :
    ∀ {others : List SqlToken}, Lexes sql others → tokens = others := by
  induction lexed with
  | nil =>
      intro others other
      cases other
      rfl
  | @quoted quote closed body rest tokens isQuote inside ends later ih =>
      intro others other
      have signs := isQuote_not isQuote
      generalize same : quote :: (body ++ rest) = text at other
      cases other with
      | nil => cases same
      | quoted _ otherInside otherEnds otherLater =>
          obtain ⟨rfl, bodies⟩ := List.cons.inj same
          obtain ⟨rfl, rfl, rfl⟩ := inside.unique ends otherInside otherEnds bodies
          rw [ih otherLater]
      | char ordinary _ =>
          obtain ⟨rfl, -⟩ := List.cons.inj same
          exact (isQuote.elim ordinary.quote ordinary.doubleQuote).elim
      | _ => simp_all
  | @lineComment body rest tokens oneLine ends later ih =>
      intro others other
      generalize same : '-' :: '-' :: (body ++ rest) = text at other
      cases other with
      | nil => cases same
      | quoted isQuote _ _ _ =>
          obtain ⟨rfl, -⟩ := List.cons.inj same
          exact ((isQuote_not isQuote).1 rfl).elim
      | lineComment otherOneLine otherEnds otherLater =>
          simp only [List.cons.injEq, true_and] at same
          have plain := fun char member => decide_eq_true (oneLine char member)
          have otherPlain := fun char member => decide_eq_true (otherOneLine char member)
          obtain ⟨rfl, rfl⟩ := run_unique plain (lineEnds_any ends) otherPlain
            (lineEnds_any otherEnds) same
          rw [ih otherLater]
      | char ordinary _ =>
          obtain ⟨rfl, rfl⟩ := List.cons.inj same
          exact (ordinary.dash ⟨rfl, rfl⟩).elim
      | _ => simp_all
  | @blockComment closed body rest tokens inside ends later ih =>
      intro others other
      generalize same : '/' :: '*' :: (body ++ rest) = text at other
      cases other with
      | nil => cases same
      | quoted isQuote _ _ _ =>
          obtain ⟨rfl, -⟩ := List.cons.inj same
          exact ((isQuote_not isQuote).2.1 rfl).elim
      | blockComment otherInside otherEnds otherLater =>
          simp only [List.cons.injEq, true_and] at same
          obtain ⟨rfl, rfl, rfl⟩ := inside.unique ends otherInside otherEnds same
          rw [ih otherLater]
      | char ordinary _ =>
          obtain ⟨rfl, rfl⟩ := List.cons.inj same
          exact (ordinary.slash ⟨rfl, rfl⟩).elim
      | _ => simp_all
  | @cast rest tokens later ih =>
      intro others other
      generalize same : ':' :: ':' :: rest = text at other
      cases other with
      | nil => cases same
      | quoted isQuote _ _ _ =>
          obtain ⟨rfl, -⟩ := List.cons.inj same
          exact ((isQuote_not isQuote).2.2 rfl).elim
      | cast otherLater =>
          simp only [List.cons.injEq, true_and] at same
          subst same
          rw [ih otherLater]
      | param starts _ _ _ =>
          simp only [List.cons.injEq, true_and] at same
          exact (opensName_single starts _ ⟨rfl, congrArg List.head? same.symm⟩).elim
      | char ordinary _ =>
          obtain ⟨rfl, rfl⟩ := List.cons.inj same
          exact (ordinary.cast ⟨rfl, rfl⟩).elim
      | _ => simp_all
  | @param name rest tokens starts isName ends later ih =>
      intro others other
      generalize same : ':' :: (name ++ rest) = text at other
      cases other with
      | nil => cases same
      | quoted isQuote _ _ _ =>
          obtain ⟨rfl, -⟩ := List.cons.inj same
          exact ((isQuote_not isQuote).2.2 rfl).elim
      | cast _ =>
          simp only [List.cons.injEq, true_and] at same
          exact (opensName_single starts rest ⟨rfl, congrArg List.head? same⟩).elim
      | param _ otherName otherEnds otherLater =>
          simp only [List.cons.injEq, true_and] at same
          obtain ⟨rfl, rfl⟩ := run_unique isName ends otherName otherEnds same
          rw [ih otherLater]
      | char ordinary _ =>
          obtain ⟨rfl, rfl⟩ := List.cons.inj same
          exact (ordinary.name ⟨rfl, opensName_append starts rest⟩).elim
      | _ => simp_all
  | @char char rest tokens ordinary later ih =>
      intro others other
      generalize same : char :: rest = text at other
      cases other with
      | nil => cases same
      | quoted isQuote _ _ _ =>
          obtain ⟨rfl, -⟩ := List.cons.inj same
          exact (isQuote.elim ordinary.quote ordinary.doubleQuote).elim
      | lineComment _ _ _ =>
          obtain ⟨rfl, rfl⟩ := List.cons.inj same
          exact (ordinary.dash ⟨rfl, rfl⟩).elim
      | blockComment _ _ _ =>
          obtain ⟨rfl, rfl⟩ := List.cons.inj same
          exact (ordinary.slash ⟨rfl, rfl⟩).elim
      | cast _ =>
          obtain ⟨rfl, rfl⟩ := List.cons.inj same
          exact (ordinary.cast ⟨rfl, rfl⟩).elim
      | param starts _ _ _ =>
          obtain ⟨rfl, rfl⟩ := List.cons.inj same
          exact (ordinary.name ⟨rfl, opensName_append starts _⟩).elim
      | char _ otherLater =>
          obtain ⟨rfl, rfl⟩ := List.cons.inj same
          rw [ih otherLater]

/-! ## Every query is read -/

theorem inside_exists (quote : Char) (text : Text) : ∃ closed body rest, text = body ++ rest ∧
    Inside quote closed body ∧ QuoteEnds quote closed rest := by
  fun_induction pastQuoted quote text with
  | case1 => exact ⟨false, [], [], rfl, .runsOut, by simp [QuoteEnds]⟩
  | case2 later ih =>
      obtain ⟨closed, body, rest, rfl, inside, ends⟩ := ih
      exact ⟨closed, _, rest, rfl, inside.doubled, ends⟩
  | case3 next later different =>
      exact ⟨true, [quote], next :: later, rfl, .closing, by simpa [QuoteEnds] using different⟩
  | case4 => exact ⟨true, [quote], [], rfl, .closing, by simp [QuoteEnds]⟩
  | case5 char rest other ih =>
      obtain ⟨closed, body, rest, rfl, inside, ends⟩ := ih
      exact ⟨closed, _, rest, rfl, inside.char other, ends⟩

theorem commented_exists (depth : ℕ) (text : Text) : ∃ closed body rest, text = body ++ rest ∧
    Commented depth closed body ∧ (closed = false → rest = []) := by
  fun_induction pastBlock depth text with
  | case1 text => exact ⟨true, [], text, rfl, .closed, by simp⟩
  | case2 => exact ⟨false, [], [], rfl, .runsOut, fun _ => rfl⟩
  | case3 depth char =>
      have plain : ¬ opensComment char [] ∧ ¬ closesComment char [] := by
        simp [opensComment, closesComment]
      exact ⟨false, [char], [], rfl, .char plain .runsOut, fun _ => rfl⟩
  | case4 depth char next later opens ih =>
      obtain ⟨closed, body, rest, rfl, inside, ends⟩ := ih
      obtain ⟨rfl, rfl⟩ := opens
      exact ⟨closed, _, rest, rfl, inside.opens, ends⟩
  | case5 depth char next later _ closes ih =>
      obtain ⟨closed, body, rest, rfl, inside, ends⟩ := ih
      obtain ⟨rfl, rfl⟩ := closes
      exact ⟨closed, _, rest, rfl, inside.closes, ends⟩
  | case6 depth char next later notOpen notClosed ih =>
      obtain ⟨closed, body, rest, split, inside, ends⟩ := ih
      refine ⟨closed, char :: body, rest, by rw [split, List.cons_append], .char ?_ inside, ends⟩
      cases body with
      | nil => simp [opensComment, closesComment]
      | cons first body =>
          rw [List.cons_append, List.cons.injEq] at split
          rw [← split.1]
          exact ⟨by simpa [opensComment] using notOpen, by simpa [closesComment] using notClosed⟩

theorem run_exists (accepts : Char → Bool) (text : Text) : ∃ body rest, text = body ++ rest ∧
    (∀ char ∈ body, accepts char = true) ∧ rest.head?.any accepts = false := by
  refine ⟨text.takeWhile accepts, text.dropWhile accepts,
    (List.takeWhile_append_dropWhile).symm, fun char member => List.mem_takeWhile_imp member, ?_⟩
  have stops := List.head?_dropWhile_not accepts text
  cases first : (text.dropWhile accepts).head? with
  | none => rfl
  | some char =>
      rw [first] at stops
      simpa using stops

theorem lexes_exists (sql : Text) : ∃ tokens, Lexes sql tokens := by
  induction size : sql.length using Nat.strong_induction_on generalizing sql with
  | _ size ih =>
      cases sql with
      | nil => exact ⟨[], .nil⟩
      | cons char rest =>
          have shorter (text : Text) (less : text.length ≤ rest.length) :
              ∃ tokens, Lexes text tokens :=
            ih text.length (by rw [← size, List.length_cons]; omega) text rfl
          by_cases isQuote : char = QUOTE ∨ char = '"'
          · obtain ⟨closed, body, after, rfl, inside, ends⟩ := inside_exists char rest
            obtain ⟨tokens, later⟩ := shorter after (by simp)
            exact ⟨_, .quoted isQuote inside ends later⟩
          by_cases dash : char = '-' ∧ rest.head? = some '-'
          · obtain ⟨rfl, second⟩ := dash
            obtain ⟨rest, rfl⟩ := List.head?_eq_some_iff.1 second
            obtain ⟨body, after, rfl, plain, ends⟩ :=
              run_exists (fun char => decide (char ≠ '\n')) rest
            obtain ⟨tokens, later⟩ := shorter after (by simp; omega)
            refine ⟨_, .lineComment (fun char member => of_decide_eq_true (plain char member)) ?_
              later⟩
            cases after with
            | nil => exact .inl rfl
            | cons next after => exact .inr (by simpa using ends)
          by_cases slash : char = '/' ∧ rest.head? = some '*'
          · obtain ⟨rfl, second⟩ := slash
            obtain ⟨rest, rfl⟩ := List.head?_eq_some_iff.1 second
            obtain ⟨closed, body, after, rfl, inside, ends⟩ := commented_exists 1 rest
            obtain ⟨tokens, later⟩ := shorter after (by simp; omega)
            exact ⟨_, .blockComment inside ends later⟩
          by_cases cast : char = ':' ∧ rest.head? = some ':'
          · obtain ⟨rfl, second⟩ := cast
            obtain ⟨rest, rfl⟩ := List.head?_eq_some_iff.1 second
            obtain ⟨tokens, later⟩ := shorter rest (by simp)
            exact ⟨_, .cast later⟩
          by_cases name : char = ':' ∧ opensName rest = true
          · obtain ⟨rfl, starts⟩ := name
            obtain ⟨body, after, rfl, isName, ends⟩ := run_exists isNameChar rest
            obtain ⟨tokens, later⟩ := shorter after (by simp)
            refine ⟨_, .param (opensName_of_append starts ends) isName ends later⟩
          obtain ⟨tokens, later⟩ := shorter rest le_rfl
          rw [not_or] at isQuote
          exact ⟨_, .char ⟨isQuote.1, isQuote.2, dash, slash, cast, name⟩ later⟩

end ErpServer.Print.Sql
