import Mathlib.Data.Char
import Mathlib.Data.List.Lex
import ErpServer.Lib.OrderedMap
import ErpServer.Lib.Rendering
import ErpServer.Lib.Text

/-!
# Binding a dataset's SQL

A stored query names its parameters `:name`.  They are rewritten as `$n` and their values handed
over beside the text, so that no value is ever part of the SQL.  What a literal, a quoted
identifier or a comment holds is no parameter.
-/

namespace ErpServer.Print

open Lib

namespace Sql

/-- The quote of a literal. -/
def QUOTE : Char := Char.ofNat 39

def isNameStart (char : Char) : Bool := char.isAlpha || char = '_'

def isNameChar (char : Char) : Bool := char.isAlphanum || char = '_'

/-- A parameter is a colon and the name after it. -/
def opensName (rest : Text) : Bool := rest.head?.any isNameStart

/-! ## Finding the parameters -/

/-- What follows a literal or a quoted identifier, a doubled quote standing for one inside. -/
def pastQuoted (quote : Char) : Text → Text
  | [] => []
  | char :: rest =>
      if char = quote then
        match rest with
        | next :: later => if next = quote then pastQuoted quote later else next :: later
        | [] => []
      else pastQuoted quote rest

def pastLine (text : Text) : Text := text.dropWhile fun char => char ≠ '\n'

/-- What follows a block comment `depth` of which are open. -/
def pastBlock : ℕ → Text → Text
  | 0, text => text
  | _ + 1, [] => []
  | _ + 1, [_] => []
  | depth + 1, char :: next :: later =>
      if char = '/' ∧ next = '*' then pastBlock (depth + 2) later
      else if char = '*' ∧ next = '/' then pastBlock depth later
      else pastBlock (depth + 1) (next :: later)

theorem length_pastQuoted (quote : Char) (text : Text) :
    (pastQuoted quote text).length ≤ text.length := by
  fun_induction pastQuoted quote text <;> grind

theorem length_pastLine (text : Text) : (pastLine text).length ≤ text.length :=
  (List.dropWhile_sublist _).length_le

theorem length_pastBlock (depth : ℕ) (text : Text) :
    (pastBlock depth text).length ≤ text.length := by
  fun_induction pastBlock depth text <;> grind

/-- A name is listed where it first appears. -/
def named (names : List Text) (name : Text) : List Text :=
  if name ∈ names then names else names ++ [name]

/-- The loop of `scanParams` over what is left of the query. -/
def scanFrom (names : List Text) : Text → List Text
  | [] => names
  | char :: rest =>
      if char = QUOTE then scanFrom names (pastQuoted QUOTE rest)
      else if char = '"' then scanFrom names (pastQuoted '"' rest)
      else if char = '-' ∧ rest.head? = some '-' then scanFrom names (pastLine rest)
      else if char = '/' ∧ rest.head? = some '*' then scanFrom names (pastBlock 1 rest.tail)
      else if char = ':' ∧ rest.head? = some ':' then scanFrom names rest.tail
      else if char = ':' ∧ opensName rest then
        scanFrom (named names (rest.takeWhile isNameChar)) (rest.dropWhile isNameChar)
      else scanFrom names rest
termination_by text => text.length
decreasing_by
  · grind [length_pastQuoted]
  · grind [length_pastQuoted]
  · grind [length_pastLine]
  · grind [length_pastBlock]
  · grind
  · have := (List.dropWhile_sublist (p := isNameChar) (l := rest)).length_le; grind
  · grind

end Sql

/-- Every name that is really a parameter, in order of first appearance. -/
def scanParams (sql : Text) : List Text := Sql.scanFrom [] sql

namespace Sql

/-! ## Rewriting them -/

/-- A literal or a quoted identifier after its opening quote, and what follows it. -/
def quotedSpan (quote : Char) : Text → Text × Text
  | [] => ([], [])
  | char :: rest =>
      if char = quote then
        match rest with
        | next :: later =>
            if next = quote then
              (char :: next :: (quotedSpan quote later).1, (quotedSpan quote later).2)
            else ([char], next :: later)
        | [] => ([char], [])
      else (char :: (quotedSpan quote rest).1, (quotedSpan quote rest).2)

/-- A block comment after its opening, `depth` of which are open, and what follows it. -/
def blockSpan : ℕ → Text → Text × Text
  | 0, text => ([], text)
  | _ + 1, [] => ([], [])
  | _ + 1, [char] => ([char], [])
  | depth + 1, char :: next :: later =>
      if char = '/' ∧ next = '*' then
        (char :: next :: (blockSpan (depth + 2) later).1, (blockSpan (depth + 2) later).2)
      else if char = '*' ∧ next = '/' then
        (char :: next :: (blockSpan depth later).1, (blockSpan depth later).2)
      else
        (char :: (blockSpan (depth + 1) (next :: later)).1,
          (blockSpan (depth + 1) (next :: later)).2)

theorem length_quotedSpan (quote : Char) (text : Text) :
    (quotedSpan quote text).2.length ≤ text.length := by
  fun_induction quotedSpan quote text <;> grind

theorem length_blockSpan (depth : ℕ) (text : Text) :
    (blockSpan depth text).2.length ≤ text.length := by
  fun_induction blockSpan depth text <;> grind

/-- What an ordinal is written as; one that is not there is written as the word for it. -/
def placeholder (ordinal : Option ℕ) : Text :=
  '$' :: ordinal.elim "undefined".toList (Rendering.digits 10 1)

/-- The loop of `bindDatasetSql` over what is left of the query. -/
def rewriteFrom (ordinal : OrderedMap Text ℕ) (out : Text) : Text → Text
  | [] => out
  | char :: rest =>
      if char = QUOTE ∨ char = '"' then
        rewriteFrom ordinal (out ++ char :: (quotedSpan char rest).1) (quotedSpan char rest).2
      else if char = '-' ∧ rest.head? = some '-' then
        rewriteFrom ordinal (out ++ char :: rest.takeWhile fun char => char ≠ '\n')
          (rest.dropWhile fun char => char ≠ '\n')
      else if char = '/' ∧ rest.head? = some '*' then
        rewriteFrom ordinal (out ++ char :: '*' :: (blockSpan 1 rest.tail).1)
          (blockSpan 1 rest.tail).2
      else if char = ':' ∧ rest.head? = some ':' then
        rewriteFrom ordinal (out ++ "::".toList) rest.tail
      else if char = ':' ∧ opensName rest then
        rewriteFrom ordinal (out ++ placeholder (ordinal.get? (rest.takeWhile isNameChar)))
          (rest.dropWhile isNameChar)
      else rewriteFrom ordinal (out ++ [char]) rest
termination_by text => text.length
decreasing_by
  · grind [length_quotedSpan]
  · have := length_pastLine rest; grind [pastLine]
  · grind [length_blockSpan]
  · grind
  · have := (List.dropWhile_sublist (p := isNameChar) (l := rest)).length_le; grind
  · grind

/-- The names numbered from 1. -/
def ordinals (names : List Text) : OrderedMap Text ℕ :=
  names.zipIdx.foldl (fun ordinal name => ordinal.set name.1 (name.2 + 1)) .empty

end Sql

/-- A query and the values of its placeholders, `$1` the first. -/
structure BoundQuery (V : Type) where
  sql : Text
  params : List V
  bound : List Text
  deriving DecidableEq

/-- A query that names what nothing supplies. -/
structure DatasetBindError where
  message : Text
  unknownParams : List Text
  deriving DecidableEq

section Bind

variable {V : Type}

/-- The names of a message, each with its colon. -/
def colonNames (names : List Text) : Text := ", ".toList.intercalate (names.map (':' :: ·))

def unknownMessage (values : OrderedMap Text V) (unknown : List Text) : Text :=
  "The query binds ".toList ++ colonNames unknown ++ ", which nothing supplies. ".toList ++
    "Bindable here: ".toList ++
    colonNames (values.keys.mergeSort fun left right => left ≤ right) ++ ". ".toList ++
    "The context names are filled in automatically; anything else must be declared as an ".toList ++
    "operator prompt on the revision (ptvParams).".toList

/-- `values` is the only source of a value: a name it does not hold is refused. -/
def bindDatasetSql (sql : Text) (values : OrderedMap Text V) :
    Except DatasetBindError (BoundQuery V) :=
  let names := scanParams sql
  let unknown := names.filter fun name => !values.has name
  if unknown ≠ [] then .error ⟨unknownMessage values unknown, unknown⟩
  else
    .ok {
      sql := Sql.rewriteFrom (Sql.ordinals names) [] sql
      params := names.filterMap values.get?
      bound := names }

/-- The result is capped in the SQL; the limit is bound after the values. -/
def withRowLimit (bound : BoundQuery V) (limit : V) : BoundQuery V where
  sql := "SELECT * FROM (".toList ++ bound.sql ++ ") AS ptd_rows LIMIT $".toList ++
    Rendering.digits 10 1 (bound.params.length + 1)
  params := bound.params ++ [limit]
  bound := bound.bound

end Bind

end ErpServer.Print
