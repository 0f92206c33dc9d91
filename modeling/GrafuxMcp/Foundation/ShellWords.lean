import Mathlib.Data.List.Basic

/-! # Words of a shell command

The quoting rules of the POSIX shell read a command character by character. A line that
is one simple command of literal words scans to these words. Operators, expansions and
quotes that are left open make it something else. -/

namespace GrafuxMcp.Shell

inductive Irregular
  | operator
  | expansion
  | openQuote
deriving DecidableEq, Repr

inductive Mode
  | plain
  | escaped
  | dollar
  | comment
  | single
  | double
  | doubleEscaped
  | doubleDollar
deriving DecidableEq, Repr

def isBlank (c : Char) : Bool := c == ' ' || c == '\t'

def isOperator (c : Char) : Bool := ['\n', ';', '&', '|', '<', '>', '(', ')'].contains c

/-- What a backslash escapes between double quotes. -/
def isEscapable (c : Char) : Bool := ['$', '`', '"', '\\', '\n'].contains c

/-- What makes a dollar sign before it an expansion: a name, a digit, a special
parameter or an opening bracket. Before anything else it stands for itself. -/
def startsExpansion (c : Char) : Bool :=
  c.isAlphanum || ['_', '{', '(', '@', '*', '#', '?', '-', '$', '!'].contains c

/-- How far a line is read. Between two words `word` is `none`. -/
structure Scan where
  mode : Mode
  word : Option (List Char)
  words : List (List Char)

namespace Scan

def start : Scan := ⟨.plain, none, []⟩

def goto (mode : Mode) (scan : Scan) : Scan := { scan with mode := mode }

def push (scan : Scan) (c : Char) : Scan :=
  { scan with word := some (scan.word.getD [] ++ [c]) }

/-- A quote begins a word, even if nothing stands in it. -/
def enter (mode : Mode) (scan : Scan) : Scan :=
  { scan with mode := mode, word := some (scan.word.getD []) }

def cut (scan : Scan) : Scan :=
  { scan with word := none, words := scan.words ++ scan.word.toList }

def stepPlain (scan : Scan) (c : Char) : Except Irregular Scan :=
  if isBlank c then .ok scan.cut
  else if isOperator c then .error .operator
  else if c = '`' then .error .expansion
  else if c = '$' then .ok (scan.goto .dollar)
  else if c = '\\' then .ok (scan.goto .escaped)
  else if c = '\'' then .ok (scan.enter .single)
  else if c = '"' then .ok (scan.enter .double)
  else if c = '#' ∧ scan.word = none then .ok (scan.goto .comment)
  else .ok (scan.push c)

def stepDouble (scan : Scan) (c : Char) : Except Irregular Scan :=
  if c = '"' then .ok (scan.goto .plain)
  else if c = '`' then .error .expansion
  else if c = '$' then .ok (scan.goto .doubleDollar)
  else if c = '\\' then .ok (scan.goto .doubleEscaped)
  else .ok (scan.push c)

def step (scan : Scan) (c : Char) : Except Irregular Scan :=
  match scan.mode with
  | .plain => scan.stepPlain c
  -- An escaped line break is no character at all.
  | .escaped => .ok ((if c = '\n' then scan else scan.push c).goto .plain)
  | .dollar =>
      if startsExpansion c || c == '\'' then .error .expansion
      else ((scan.push '$').goto .plain).stepPlain c
  | .comment => if c = '\n' then .error .operator else .ok scan
  | .single => .ok (if c = '\'' then scan.goto .plain else scan.push c)
  | .double => scan.stepDouble c
  | .doubleEscaped =>
      .ok ((if c = '\n' then scan
        else if isEscapable c then scan.push c
        else (scan.push '\\').push c).goto .double)
  | .doubleDollar =>
      if startsExpansion c then .error .expansion
      else ((scan.push '$').goto .double).stepDouble c

def finish (scan : Scan) : Except Irregular (List (List Char)) :=
  match scan.mode with
  | .plain | .comment => .ok scan.cut.words
  | .dollar => .ok (scan.push '$').cut.words
  | .escaped | .single | .double | .doubleEscaped | .doubleDollar => .error .openQuote

def read (scan : Scan) : List Char → Except Irregular (List (List Char))
  | [] => scan.finish
  | c :: text => do
      let next ← scan.step c
      next.read text

end Scan

/-- The words of a line that is one simple command without expansions. -/
def parse (text : List Char) : Except Irregular (List (List Char)) := Scan.start.read text

/-! ### What double quotes keep -/

/-- A character that stands for itself between double quotes, before this one. -/
def keepsBefore (c : Char) (next : Option Char) : Bool :=
  c != '"' && c != '`' && (c != '$' || !next.any startsExpansion) &&
    (c != '\\' || next.any fun d => !isEscapable d)

def kept : List Char → Bool
  | [] => true
  | c :: text => keepsBefore c text.head? && kept text

/-! ### Lengths -/

def Mode.pending : Mode → Nat
  | .escaped | .dollar | .doubleEscaped | .doubleDollar => 1
  | .plain | .comment | .single | .double => 0

def total (words : List (List Char)) : Nat := words.flatten.length

namespace Scan

/-- How many characters of the line have come into words or may still do so. -/
def size (scan : Scan) : Nat :=
  total scan.words + (scan.word.getD []).length + scan.mode.pending

variable (scan : Scan) (c : Char) (mode : Mode)

@[simp] theorem mode_push : (scan.push c).mode = scan.mode := rfl

@[simp] theorem mode_cut : scan.cut.mode = scan.mode := rfl

@[simp] theorem mode_goto : (scan.goto mode).mode = mode := rfl

@[simp] theorem mode_enter : (scan.enter mode).mode = mode := rfl

@[simp] theorem size_push : (scan.push c).size = scan.size + 1 := by
  simp only [size, push, Option.getD_some, List.length_append, List.length_singleton]
  omega

@[simp] theorem size_cut : scan.cut.size = scan.size := by
  cases word : scan.word with
  | none => simp [size, cut, word]
  | some letters => simp [size, cut, word, total]

theorem size_goto : (scan.goto mode).size + scan.mode.pending = scan.size + mode.pending := by
  simp only [size, goto]
  omega

theorem size_enter :
    (scan.enter mode).size + scan.mode.pending = scan.size + mode.pending := by
  simp only [size, enter, Option.getD_some]
  omega

variable {scan c} {next : Scan}

theorem stepPlain_cases (stepped : scan.stepPlain c = .ok next) :
    next = scan.cut ∨ (∃ mode, next = scan.goto mode) ∨ next = scan.enter .single ∨
      (c = '"' ∧ next = scan.enter .double) ∨ (c ≠ '"' ∧ next = scan.push c) := by
  have entersDouble : stepPlain scan '"' = .ok (scan.enter .double) := rfl
  by_cases quote : c = '"'
  · rw [quote, entersDouble] at stepped
    cases stepped
    simp [quote]
  · grind [stepPlain]

theorem stepDouble_cases (stepped : scan.stepDouble c = .ok next) :
    (∃ mode, next = scan.goto mode) ∨ (c ≠ '"' ∧ next = scan.push c) := by
  grind [stepDouble]

theorem pending_le_one : mode.pending ≤ 1 := by
  cases mode <;> decide

theorem size_stepPlain (plain : scan.mode = .plain) (stepped : scan.stepPlain c = .ok next) :
    next.size ≤ scan.size + 1 := by
  rcases stepPlain_cases stepped with rfl | ⟨mode, rfl⟩ | rfl | ⟨-, rfl⟩ | ⟨-, rfl⟩
  · rw [size_cut]
    omega
  · have went := scan.size_goto mode
    have small := pending_le_one mode
    omega
  · have entered := scan.size_enter .single
    rw [plain] at entered
    exact Nat.le_succ_of_le (Nat.le_of_eq entered)
  · have entered := scan.size_enter .double
    rw [plain] at entered
    exact Nat.le_succ_of_le (Nat.le_of_eq entered)
  · exact Nat.le_of_eq (size_push scan c)

theorem size_stepDouble (stepped : scan.stepDouble c = .ok next) :
    next.size ≤ scan.size + 1 := by
  rcases stepDouble_cases stepped with ⟨mode, rfl⟩ | ⟨-, rfl⟩
  · have went := scan.size_goto mode
    have small := pending_le_one mode
    omega
  · exact Nat.le_of_eq (size_push scan c)

/-- A character adds at most itself to the words. -/
theorem size_step (stepped : scan.step c = .ok next) : next.size ≤ scan.size + 1 := by
  rw [step] at stepped
  split at stepped
  case h_1 plain => exact size_stepPlain plain stepped
  case h_2 escaped =>
    cases stepped
    have went := fun scan : Scan => scan.size_goto .plain
    split
    · have there := went scan
      simp only [escaped, Mode.pending] at there
      omega
    · have there := went (scan.push c)
      simp only [mode_push, escaped, Mode.pending, size_push] at there
      omega
  case h_3 dollar =>
    split at stepped
    · cases stepped
    · have bound := size_stepPlain (mode_goto _ _) stepped
      have there := (scan.push '$').size_goto .plain
      simp only [mode_push, dollar, Mode.pending, size_push] at there
      omega
  case h_4 comment =>
    split at stepped
    · cases stepped
    · cases stepped
      omega
  case h_5 single =>
    cases stepped
    split
    · have there := scan.size_goto .plain
      simp only [single, Mode.pending] at there
      omega
    · exact Nat.le_of_eq (size_push scan c)
  case h_6 => exact size_stepDouble stepped
  case h_7 doubleEscaped =>
    cases stepped
    have went := fun scan : Scan => scan.size_goto .double
    split
    · have there := went scan
      simp only [doubleEscaped, Mode.pending] at there
      omega
    · split
      · have there := went (scan.push c)
        simp only [mode_push, doubleEscaped, Mode.pending, size_push] at there
        omega
      · have there := went ((scan.push '\\').push c)
        simp only [mode_push, doubleEscaped, Mode.pending, size_push] at there
        omega
  case h_8 doubleDollar =>
    split at stepped
    · cases stepped
    · have bound := size_stepDouble stepped
      have there := (scan.push '$').size_goto .double
      simp only [mode_push, doubleDollar, Mode.pending, size_push] at there
      omega

theorem total_cut_words (scan : Scan) : total scan.cut.words ≤ scan.size := by
  rw [← size_cut scan, size]
  omega

theorem total_finish_plain {words : List (List Char)} (plain : scan.mode = .plain)
    (finished : scan.finish = .ok words) : total words ≤ scan.size := by
  rw [finish, plain] at finished
  cases finished
  exact total_cut_words scan

/-- A line ends after one more character. -/
theorem read_singleton (stepped : scan.step c = .ok next) : scan.read [c] = next.finish := by
  simp only [read, stepped, bind, Except.bind]

/-- A double quote that ends the line does not come into a word. -/
theorem total_read_quote {words : List (List Char)}
    (finished : scan.read ['"'] = .ok words) : total words ≤ scan.size := by
  cases mode : scan.mode with
  | plain =>
      have stepped : scan.step '"' = .ok (scan.enter .double) := by
        rw [step, mode]
        rfl
      rw [read_singleton stepped] at finished
      cases finished
  | escaped =>
      have stepped : scan.step '"' = .ok ((scan.push '"').goto .plain) := by
        rw [step, mode]
        rfl
      rw [read_singleton stepped] at finished
      have bound := total_finish_plain (mode_goto _ _) finished
      have there := (scan.push '"').size_goto .plain
      simp only [mode_push, mode, Mode.pending, size_push] at there
      omega
  | dollar =>
      have stepped : scan.step '"' = .ok (((scan.push '$').goto .plain).enter .double) := by
        rw [step, mode]
        rfl
      rw [read_singleton stepped] at finished
      cases finished
  | comment =>
      have stepped : scan.step '"' = .ok scan := by
        rw [step, mode]
        rfl
      rw [read_singleton stepped, finish, mode] at finished
      cases finished
      exact total_cut_words scan
  | single =>
      have stepped : scan.step '"' = .ok (scan.push '"') := by
        rw [step, mode]
        rfl
      rw [read_singleton stepped, finish, mode_push, mode] at finished
      cases finished
  | double =>
      have stepped : scan.step '"' = .ok (scan.goto .plain) := by
        rw [step, mode]
        rfl
      rw [read_singleton stepped] at finished
      have bound := total_finish_plain (mode_goto _ _) finished
      have there := scan.size_goto .plain
      simp only [mode, Mode.pending] at there
      omega
  | doubleEscaped =>
      have stepped : scan.step '"' = .ok ((scan.push '"').goto .double) := by
        rw [step, mode]
        rfl
      rw [read_singleton stepped] at finished
      cases finished
  | doubleDollar =>
      have stepped : scan.step '"' = .ok ((scan.push '$').goto .plain) := by
        rw [step, mode]
        rfl
      rw [read_singleton stepped] at finished
      have bound := total_finish_plain (mode_goto _ _) finished
      have there := (scan.push '$').size_goto .plain
      simp only [mode_push, mode, Mode.pending, size_push] at there
      omega

/-- A double quote that ends the line is not among the characters that come into words. -/
theorem total_read_le {words : List (List Char)} (text : List Char)
    (finished : scan.read (text ++ ['"']) = .ok words) :
    total words ≤ scan.size + text.length := by
  induction text generalizing scan with
  | nil => exact total_read_quote finished
  | cons c text induction =>
      have ended : (do let next ← scan.step c; next.read (text ++ ['"'])) = Except.ok words :=
        finished
      cases stepped : scan.step c with
      | error irregular =>
          rw [stepped] at ended
          cases ended
      | ok next =>
          rw [stepped] at ended
          have bound := induction ended
          have step := size_step stepped
          rw [List.length_cons]
          omega

/-! ### Double quotes -/

/-- Between double quotes, in a word. -/
def quoted (words : List (List Char)) (word : List Char) : Scan := ⟨.double, some word, words⟩

variable (words : List (List Char)) (word text : List Char)

theorem size_quoted : (quoted words word).size = total words + word.length := rfl

theorem total_concat : total (words ++ [word]) = total words + word.length := by
  simp [total]

theorem read_quoted_nil : (quoted words word).read ['"'] = .ok (words ++ [word]) := rfl

variable (next) in
theorem read_cons_of_step (stepped : scan.step c = .ok next) :
    scan.read (c :: text) = next.read text := by
  simp only [read, stepped, bind, Except.bind]

theorem read_cons_of_error (irregular : Irregular) (stepped : scan.step c = .error irregular) :
    scan.read (c :: text) = .error irregular := by
  simp only [read, stepped, bind, Except.bind]

/-- A dollar sign before a character that starts no expansion. -/
theorem read_dollar (literal : startsExpansion c = false) :
    ((quoted words word).goto .doubleDollar).read (c :: text) =
      (quoted words (word ++ ['$'])).read (c :: text) := by
  have step : ((quoted words word).goto .doubleDollar).step c =
      (quoted words (word ++ ['$'])).step c := by
    simp only [Scan.step, mode_goto, literal]
    rfl
  simp only [read, step]

/-- A backslash before a character that it does not escape. -/
theorem read_backslash (literal : isEscapable c = false) :
    ((quoted words word).goto .doubleEscaped).read (c :: text) =
      (quoted words (word ++ ['\\'])).read (c :: text) := by
  have others : ∀ special ∈ ['$', '`', '"', '\\', '\n'], c ≠ special := by
    intro special member same
    rw [isEscapable, same, List.contains_iff_mem.mpr member] at literal
    cases literal
  simp only [List.forall_mem_cons] at others
  have step : ((quoted words word).goto .doubleEscaped).step c =
      (quoted words (word ++ ['\\'])).step c := by
    have double : (quoted words (word ++ ['\\'])).step c =
        (quoted words (word ++ ['\\'])).stepDouble c := rfl
    rw [double]
    simp only [Scan.step, mode_goto, stepDouble, others, literal, if_false, Bool.false_eq_true]
    rfl
  simp only [read, step]

/-- A character that is kept goes into the word. -/
theorem read_quoted_cons {c : Char} (keeps : keepsBefore c text.head? = true) :
    (quoted words word).read (c :: (text ++ ['"'])) =
      (quoted words (word ++ [c])).read (text ++ ['"']) := by
  simp only [keepsBefore, Bool.and_eq_true, Bool.or_eq_true, bne_iff_ne, ne_eq] at keeps
  obtain ⟨⟨⟨quote, tick⟩, dollar⟩, backslash⟩ := keeps
  by_cases isDollar : c = '$'
  · have literal := dollar.resolve_left (not_not_intro isDollar)
    rw [isDollar, read_cons_of_step ((quoted words word).goto .doubleDollar) _ rfl]
    cases text with
    | nil => exact read_dollar words word _ (by decide)
    | cons d text => exact read_dollar words word _ (by simpa using literal)
  by_cases isBackslash : c = '\\'
  · have literal := backslash.resolve_left (not_not_intro isBackslash)
    rw [isBackslash, read_cons_of_step ((quoted words word).goto .doubleEscaped) _ rfl]
    cases text with
    | nil => cases literal
    | cons d text => exact read_backslash words word _ (by simpa using literal)
  have stepped : (quoted words word).step c = .ok (quoted words (word ++ [c])) := by
    have double : (quoted words word).step c = (quoted words word).stepDouble c := rfl
    rw [double]
    simp only [stepDouble, quote, tick, isDollar, isBackslash, if_false]
    rfl
  exact read_cons_of_step _ _ stepped

/-- Where a character is not kept, the line has fewer characters in words. -/
theorem read_quoted_lost {c : Char} (lost : keepsBefore c text.head? = false)
    {all : List (List Char)}
    (finished : (quoted words word).read (c :: (text ++ ['"'])) = .ok all) :
    total all ≤ total words + word.length + text.length := by
  by_cases quote : c = '"'
  · rw [quote, read_cons_of_step ((quoted words word).goto .plain) _ rfl] at finished
    exact total_read_le text finished
  by_cases tick : c = '`'
  · rw [tick, read_cons_of_error _ .expansion rfl] at finished
    cases finished
  by_cases isDollar : c = '$'
  · rw [isDollar, read_cons_of_step ((quoted words word).goto .doubleDollar) _ rfl]
      at finished
    cases text with
    | nil => simp [keepsBefore, isDollar] at lost
    | cons d text =>
        have expands : startsExpansion d = true := by
          simpa [keepsBefore, isDollar] using lost
        have stepped : ((quoted words word).goto .doubleDollar).step d = .error .expansion := by
          simp only [Scan.step, mode_goto, expands, if_true]
        rw [List.cons_append, read_cons_of_error _ _ stepped] at finished
        cases finished
  by_cases isBackslash : c = '\\'
  · rw [isBackslash, read_cons_of_step ((quoted words word).goto .doubleEscaped) _ rfl]
      at finished
    cases text with
    | nil => cases finished
    | cons d text =>
        have escapable : isEscapable d = true := by
          simpa [keepsBefore, isBackslash] using lost
        rw [List.cons_append] at finished
        rw [List.length_cons]
        by_cases newline : d = '\n'
        · rw [newline, read_cons_of_step (quoted words word) _ rfl] at finished
          have bound := total_read_le text finished
          rw [size_quoted] at bound
          omega
        · have stepped : ((quoted words word).goto .doubleEscaped).step d =
              .ok (quoted words (word ++ [d])) := by
            simp only [Scan.step, mode_goto, newline, escapable, if_true, if_false]
            rfl
          rw [read_cons_of_step _ _ stepped] at finished
          have bound := total_read_le text finished
          rw [size_quoted, List.length_append, List.length_singleton] at bound
          omega
  · simp [keepsBefore, quote, tick, isDollar, isBackslash] at lost

/-- Double quotes keep a text if they keep its characters. -/
theorem read_quoted_iff :
    (quoted words word).read (text ++ ['"']) = .ok (words ++ [word ++ text]) ↔
      kept text = true := by
  induction text generalizing word with
  | nil =>
      rw [List.nil_append, List.append_nil, read_quoted_nil]
      simp [kept]
  | cons c text induction =>
      rw [kept, Bool.and_eq_true]
      cases keeps : keepsBefore c text.head? with
      | true =>
          have split : word ++ c :: text = (word ++ [c]) ++ text := by simp
          rw [List.cons_append, read_quoted_cons words word text keeps, split, induction]
          simp
      | false =>
          constructor
          · intro finished
            have bound := read_quoted_lost words word text keeps finished
            rw [total_concat, List.length_append, List.length_cons] at bound
            omega
          · intro impossible
            cases impossible.1

end Scan

end GrafuxMcp.Shell
