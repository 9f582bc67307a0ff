/-
This file spells names in snake case.
-/

import Formwork.Text.Lowercase

namespace Formwork.Text

/-- The case of the last cased character in the word so far. -/
inductive WordCase where
  | uncased
  | lower
  | upper
deriving DecidableEq

def WordCase.extend (word : WordCase) (c : Char) : WordCase :=
  if isLowercase c then .lower else if isUppercase c then .upper else word

/-- The words of a text of letters and numbers. A word ends after a lower case letter that an upper
case one follows, and before the last of several upper case letters that a lower case one follows. -/
def wordsFrom (word : WordCase) (reversed : List Char) : List Char → List (List Char)
  | [] => []
  | [c] => [(c :: reversed).reverse]
  | c :: next :: rest =>
      let extended := word.extend c
      if extended = .lower ∧ isUppercase next then
        (c :: reversed).reverse :: wordsFrom .uncased [] (next :: rest)
      else if word = .upper ∧ isUppercase c ∧ isLowercase next then
        reversed.reverse :: wordsFrom .uncased [c] (next :: rest)
      else
        wordsFrom extended (c :: reversed) (next :: rest)

/-- The text cut at every character that is neither letter nor number. -/
def alphanumericRuns : List Char → List (List Char)
  | [] => [[]]
  | c :: rest =>
      if isAlphanumeric c then
        match alphanumericRuns rest with
        | [] => [[c]]
        | first :: others => (c :: first) :: others
      else [] :: alphanumericRuns rest

/-- The lower case of a word, character by character but for a final sigma. -/
def lowerWord : List Char → List Char
  | [] => []
  | [c] => if c == 'Σ' then ['ς'] else lowerChar c
  | c :: next :: rest => lowerChar c ++ lowerWord (next :: rest)

def snakeCase (cs : List Char) : List Char :=
  ['_'].intercalate (((alphanumericRuns cs).flatMap (wordsFrom .uncased [])).map lowerWord)

end Formwork.Text
