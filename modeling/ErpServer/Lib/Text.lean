import Mathlib.Data.List.Defs
import Mathlib.Data.List.Basic

/-!
# Texts

A text is the list of its characters.  White space is what a `trim` takes off either end; the
case mappings of a runtime are its own, so any two mappings stand for them.
-/

namespace Lib

abbrev Text := List Char

instance : LawfulBEq Text := inferInstance

namespace Text

/-- The white space and line terminators that `trim` takes off. -/
def isSpace (char : Char) : Bool :=
  char.toNat ∈ [0x9, 0xA, 0xB, 0xC, 0xD, 0x20, 0xA0, 0x1680, 0x2028, 0x2029, 0x202F, 0x205F,
    0x3000, 0xFEFF] ∨ (0x2000 ≤ char.toNat ∧ char.toNat ≤ 0x200A)

def trim (text : Text) : Text :=
  ((text.dropWhile isSpace).reverse.dropWhile isSpace).reverse

/-- The case mappings of a runtime. -/
structure CaseMapping where
  toUpperCase : Text → Text
  toLowerCase : Text → Text

end Text

/-! ## Phrases

A phrase is some words with one blank between each two.  Where no word holds white space the
words of a phrase are read back by splitting it, and tidying its white space changes nothing. -/

namespace Text

/-- The words with one blank between each two. -/
def phrase (words : List Text) : Text := [' '].intercalate words

/-- A text cut at its blanks. -/
def wordsOf (text : Text) : List Text := text.splitOn ' '

/-- Each run of white space as one blank; `inRun` tells whether one is going on. -/
def collapseFrom (inRun : Bool) : Text → Text
  | [] => []
  | char :: rest =>
      if isSpace char then
        if inRun then collapseFrom true rest else ' ' :: collapseFrom true rest
      else char :: collapseFrom false rest

def collapse (text : Text) : Text := collapseFrom false text

/-- A word has a character, and no white space. -/
structure IsWord (word : Text) : Prop where
  nonempty : word ≠ []
  solid : ∀ char ∈ word, isSpace char = false

instance (word : Text) : Decidable (IsWord word) :=
  letI := List.decidableBAll (fun char => isSpace char = false) word
  decidable_of_iff (word ≠ [] ∧ ∀ char ∈ word, isSpace char = false)
    ⟨fun isWord => ⟨isWord.1, isWord.2⟩, fun isWord => ⟨isWord.nonempty, isWord.solid⟩⟩

theorem phrase_cons_cons (first second : Text) (rest : List Text) :
    phrase (first :: second :: rest) = first ++ ' ' :: phrase (second :: rest) := by
  simp [phrase]

theorem phrase_singleton (word : Text) : phrase [word] = word := by
  simp [phrase]

theorem phrase_append {left right : List Text} (leftSome : left ≠ []) (rightSome : right ≠ []) :
    phrase (left ++ right) = phrase left ++ ' ' :: phrase right := by
  induction left with
  | nil => exact absurd rfl leftSome
  | cons word rest ih =>
      cases rest with
      | nil =>
          cases right with
          | nil => exact absurd rfl rightSome
          | cons second others => rw [List.singleton_append, phrase_cons_cons, phrase_singleton]
      | cons second others =>
          have joined := ih (List.cons_ne_nil _ _)
          rw [List.cons_append, List.cons_append, phrase_cons_cons, ← List.cons_append, joined,
            phrase_cons_cons, List.append_assoc, List.cons_append]

/-- A phrase of phrases is one of all their words. -/
theorem phrase_flatten {parts : List (List Text)} (parts_some : ∀ part ∈ parts, part ≠ []) :
    phrase (parts.map phrase) = phrase parts.flatten := by
  induction parts with
  | nil => rfl
  | cons part rest ih =>
      have ⟨part_some, rest_some⟩ := List.forall_mem_cons.1 parts_some
      have joined := ih rest_some
      cases rest with
      | nil => simp [phrase_singleton]
      | cons second others =>
          have later : (second :: others).flatten ≠ [] := by
            have second_some := rest_some second List.mem_cons_self
            simp [second_some]
          rw [List.flatten_cons, phrase_append part_some later, ← joined, List.map_cons,
            List.map_cons, phrase_cons_cons]

variable {words : List Text} {word : Text}

/-- The words of a phrase are read back. -/
theorem wordsOf_phrase (words_some : words ≠ []) (areWords : ∀ word ∈ words, IsWord word) :
    wordsOf (phrase words) = words := by
  apply List.splitOn_intercalate
  · intro word member blank
    have solid := (areWords word member).solid ' ' blank
    exact absurd solid (by decide)
  · exact words_some

theorem collapseFrom_append (isWord : IsWord word) (inRun : Bool) (rest : Text) :
    collapseFrom inRun (word ++ rest) = word ++ collapseFrom false rest := by
  have ⟨nonempty, solid⟩ := isWord
  clear isWord
  induction word generalizing inRun with
  | nil => exact absurd rfl nonempty
  | cons char others ih =>
      have ⟨charSolid, othersSolid⟩ := List.forall_mem_cons.1 solid
      simp only [List.cons_append, collapseFrom, charSolid, Bool.false_eq_true, if_false]
      cases others with
      | nil => rfl
      | cons next later => rw [ih false (List.cons_ne_nil _ _) othersSolid]

theorem collapseFrom_phrase (areWords : ∀ word ∈ words, IsWord word) (inRun : Bool) :
    collapseFrom inRun (phrase words) = phrase words := by
  induction words generalizing inRun with
  | nil => rfl
  | cons word rest ih =>
      have ⟨isWord, restWords⟩ := List.forall_mem_cons.1 areWords
      cases rest with
      | nil =>
          have alone := collapseFrom_append isWord inRun []
          simpa [phrase_singleton, collapseFrom] using alone
      | cons second others =>
          have blank : isSpace ' ' = true := by decide
          rw [phrase_cons_cons, collapseFrom_append isWord]
          simp only [collapseFrom, blank, if_true, Bool.false_eq_true, if_false]
          rw [ih restWords]

theorem collapse_phrase (areWords : ∀ word ∈ words, IsWord word) :
    collapse (phrase words) = phrase words :=
  collapseFrom_phrase areWords false

/-- A text whose ends are not white space is not trimmed. -/
theorem trim_of_solid {text : Text} (first : ∀ char ∈ text.head?, isSpace char = false)
    (last : ∀ char ∈ text.getLast?, isSpace char = false) : trim text = text := by
  have front : text.dropWhile isSpace = text := by
    cases text with
    | nil => rfl
    | cons char rest =>
        rw [List.dropWhile_cons_of_neg]
        simpa using first char rfl
  have back : text.reverse.dropWhile isSpace = text.reverse := by
    cases reversed : text.reverse with
    | nil => rfl
    | cons char rest =>
        rw [List.dropWhile_cons_of_neg]
        have isLast : text.getLast? = some char := by
          rw [← List.head?_reverse, reversed]
          rfl
        simpa using last char isLast
  rw [trim, front, back, List.reverse_reverse]

theorem phrase_head? {rest : List Text} (isWord : IsWord word) :
    (phrase (word :: rest)).head? = word.head? := by
  cases rest with
  | nil => rw [phrase_singleton]
  | cons second others =>
      rw [phrase_cons_cons, List.head?_append_of_ne_nil _ isWord.nonempty]

theorem phrase_getLast? (isWord : IsWord word) :
    (phrase (words ++ [word])).getLast? = word.getLast? := by
  cases words with
  | nil => rw [List.nil_append, phrase_singleton]
  | cons first rest =>
      have nonempty : ' ' :: word ≠ [] := List.cons_ne_nil _ _
      rw [phrase_append (List.cons_ne_nil _ _) (List.cons_ne_nil _ _), phrase_singleton,
        List.getLast?_append_of_ne_nil _ nonempty, List.getLast?_cons_of_ne_nil isWord.nonempty]

theorem trim_phrase (areWords : ∀ word ∈ words, IsWord word) :
    trim (phrase words) = phrase words := by
  apply trim_of_solid
  · cases words with
    | nil => simp [phrase]
    | cons word rest =>
        have isWord := areWords word List.mem_cons_self
        intro char isFirst
        rw [phrase_head? isWord] at isFirst
        exact isWord.solid char (List.mem_of_mem_head? isFirst)
  · rcases List.eq_nil_or_concat words with none | ⟨before, word, eq⟩
    · simp [none, phrase]
    · subst eq
      rw [List.concat_eq_append] at areWords ⊢
      have isWord := areWords word (by simp)
      intro char isLast
      rw [phrase_getLast? isWord] at isLast
      exact isWord.solid char (List.mem_of_getLast? isLast)

end Text

end Lib
