import GrafuxMcp.Runtime.Exceptions
import Mathlib.Data.List.Basic

/-! # UUIDs

A UUID is its 32 hexadecimal digits. `parse` is `uuid.UUID(text)` and `str` is
`str(uuid)`.
-/

namespace GrafuxMcp

def isHexDigit (c : Char) : Bool := "0123456789abcdef".toList.contains c

structure Uuid where
  digits : Text
  length_digits : digits.length = 32
  hex_digits : digits.all isHexDigit = true

namespace Uuid

theorem ext {left right : Uuid} (equal : left.digits = right.digits) :
    left = right := by
  cases left
  cases right
  cases equal
  rfl

instance : DecidableEq Uuid := fun left right =>
  if equal : left.digits = right.digits then
    isTrue (ext equal)
  else
    isFalse fun same => equal (congrArg digits same)

/-- The nil UUID. -/
def zero : Uuid := ⟨List.replicate 32 '0', rfl, rfl⟩

/-- The digits in groups of 8, 4, 4, 4 and 12. -/
def str (uuid : Uuid) : Text :=
  uuid.digits.take 8 ++ '-' ::
    ((uuid.digits.drop 8).take 4 ++ '-' ::
      ((uuid.digits.drop 12).take 4 ++ '-' ::
        ((uuid.digits.drop 16).take 4 ++ '-' :: uuid.digits.drop 20)))

theorem filter_hyphen_digits {text : Text} (hex : ∀ c ∈ text, isHexDigit c = true) :
    text.filter (· ≠ '-') = text := by
  apply List.filter_eq_self.mpr
  intro c member
  have notHyphen : c ≠ '-' := by
    rintro rfl
    exact absurd (hex _ member) (by decide)
  simpa using notHyphen

/-- Without its hyphens the text is the digits again. -/
theorem filter_hyphen_str (uuid : Uuid) :
    uuid.str.filter (· ≠ '-') = uuid.digits := by
  have hex : ∀ c ∈ uuid.digits, isHexDigit c = true :=
    List.all_eq_true.mp uuid.hex_digits
  have part : ∀ n m, ((uuid.digits.drop n).take m).filter (· ≠ '-') =
      (uuid.digits.drop n).take m := by
    intro n m
    apply filter_hyphen_digits
    intro c member
    exact hex c (List.mem_of_mem_drop (List.mem_of_mem_take member))
  have first := part 0 8
  have last : (uuid.digits.drop 20).filter (· ≠ '-') = uuid.digits.drop 20 :=
    filter_hyphen_digits fun c member => hex c (List.mem_of_mem_drop member)
  rw [List.drop_zero] at first
  have hyphen : ∀ rest : Text, ('-' :: rest).filter (· ≠ '-') =
      rest.filter (· ≠ '-') := fun rest => List.filter_cons_of_neg (by decide)
  simp only [str, List.filter_append, hyphen, first, part, last]
  have step : ∀ n m, (uuid.digits.drop n).take m ++ uuid.digits.drop (n + m) =
      uuid.digits.drop n := by
    intro n m
    rw [← List.drop_drop, List.take_append_drop]
  rw [step 16 4, step 12 4, step 8 4, List.take_append_drop]

theorem str_injective {left right : Uuid} (same : left.str = right.str) :
    left = right := by
  apply ext
  rw [← filter_hyphen_str left, same, filter_hyphen_str right]

/-- `text.replace(word, "")`, after the first `skip` characters, which belong
to an occurrence already found. -/
def removeFrom (word : Text) : Nat → Text → Text
  | _, [] => []
  | skip + 1, _ :: rest => removeFrom word skip rest
  | 0, c :: rest =>
      if word.isPrefixOf (c :: rest) then
        removeFrom word (word.length - 1) rest
      else
        c :: removeFrom word 0 rest

def isBrace (c : Char) : Bool := c == '{' || c == '}'

/-- `text.strip('{}')`. -/
def stripBraces (text : Text) : Text :=
  ((text.dropWhile isBrace).reverse.dropWhile isBrace).reverse

/-- `uuid.UUID(text)`: 32 hexadecimal digits, where hyphens, curly braces and
a URN prefix are optional. Anything else is a `ValueError`. -/
def parse (text : Text) : Option Uuid :=
  let digits := ((stripBraces (removeFrom "uuid:".toList 0
    (removeFrom "urn:".toList 0 text))).filter (· ≠ '-')).map Char.toLower
  if valid : digits.length = 32 ∧ digits.all isHexDigit = true then
    some ⟨digits, valid.1, valid.2⟩
  else
    none

end Uuid

end GrafuxMcp
