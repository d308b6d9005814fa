import Mathlib.Data.List.Basic

/-!
# Words of a shell command

How a POSIX shell splits a command line into words. The splitter gives up where a character would
do anything but stand for itself: an operator, an expansion, a comment, a second command.
-/

namespace CrosswireNm.Library

/-- A word; `bare` if some letter of it stands outside quotes, where a reserved word, an alias or
an assignment would be recognised. -/
structure ShellWord where
  text : List Char := []
  bare : Bool := false
  deriving DecidableEq, Repr

def ShellWord.quote (word : ShellWord) (c : Char) : ShellWord :=
  { word with text := word.text ++ [c] }

def ShellWord.push (word : ShellWord) (c : Char) : ShellWord :=
  { text := word.text ++ [c], bare := true }

/-- Where the splitter is: outside quotes, after a backslash, or between single quotes. Outside
quotes there may be no word yet. -/
inductive ShellMode
  | plain (word : Option ShellWord)
  | escaped (word : Option ShellWord)
  | quoted (word : ShellWord)
  deriving DecidableEq, Repr

def isShellBlank (c : Char) : Bool := c = ' ' || c = '\t'

def isShellSpecial (c : Char) : Bool :=
  "|&;<>()$\x60\"\n*?[]#~=%\x7b\x7d!^".toList.contains c

def shellSplitFrom : ShellMode → List Char → Option (List ShellWord)
  | .plain word, [] => some word.toList
  | .escaped _, [] => none
  | .quoted _, [] => none
  | .quoted word, c :: rest =>
    if c = '\'' then shellSplitFrom (.plain (some word)) rest
    else shellSplitFrom (.quoted (word.quote c)) rest
  | .escaped word, c :: rest =>
    -- a backslash in front of a line break continues the line
    if c = '\n' then shellSplitFrom (.plain word) rest
    else shellSplitFrom (.plain (some ((word.getD {}).quote c))) rest
  | .plain word, c :: rest =>
    if c = '\'' then shellSplitFrom (.quoted (word.getD {})) rest
    else if c = '\\' then shellSplitFrom (.escaped word) rest
    else if isShellBlank c then (shellSplitFrom (.plain none) rest).map (word.toList ++ ·)
    else if isShellSpecial c then none
    else shellSplitFrom (.plain (some ((word.getD {}).push c))) rest

def shellSplit (line : List Char) : Option (List ShellWord) := shellSplitFrom (.plain none) line

def quoteBody (text : List Char) : List Char :=
  text.flatMap fun c => if c = '\'' then ['\'', '\\', '\'', '\''] else [c]

theorem shellSplitFrom_quoteBody (text : List Char) (word : ShellWord) (rest : List Char) :
    shellSplitFrom (.quoted word) (quoteBody text ++ '\'' :: rest) =
      shellSplitFrom (.plain (some { word with text := word.text ++ text })) rest := by
  induction text generalizing word with
  | nil =>
    have hnil : quoteBody [] = [] := rfl
    rw [hnil, List.nil_append, shellSplitFrom, if_pos rfl, List.append_nil]
  | cons c text ih =>
    have hcons : quoteBody (c :: text) =
        (if c = '\'' then ['\'', '\\', '\'', '\''] else [c]) ++ quoteBody text := rfl
    have hword := ih (word.quote c)
    simp only [ShellWord.quote, List.append_assoc, List.singleton_append] at hword
    rw [hcons, List.append_assoc]
    by_cases hc : c = '\''
    · subst hc
      -- the quote is closed, escaped and opened again
      have hreopen : shellSplitFrom (.quoted word)
          ('\'' :: '\\' :: '\'' :: '\'' :: (quoteBody text ++ '\'' :: rest)) =
          shellSplitFrom (.quoted (word.quote '\'')) (quoteBody text ++ '\'' :: rest) := by
        simp [shellSplitFrom]
      rw [if_pos rfl]
      exact hreopen.trans hword
    · have hstep : shellSplitFrom (.quoted word) (c :: (quoteBody text ++ '\'' :: rest)) =
          shellSplitFrom (.quoted (word.quote c)) (quoteBody text ++ '\'' :: rest) := by
        rw [shellSplitFrom, if_neg hc]
      rw [if_neg hc]
      exact hstep.trans hword

theorem shellSplitFrom_quoted (text rest : List Char) :
    shellSplitFrom (.plain none) ('\'' :: (quoteBody text ++ '\'' :: rest)) =
      shellSplitFrom (.plain (some { text := text })) rest := by
  have hopen : shellSplitFrom (.plain none) ('\'' :: (quoteBody text ++ '\'' :: rest)) =
      shellSplitFrom (.quoted {}) (quoteBody text ++ '\'' :: rest) := by
    rw [shellSplitFrom, if_pos rfl]
    rfl
  rw [hopen, shellSplitFrom_quoteBody]
  rfl

theorem shellSplitFrom_blank (word : ShellWord) (rest : List Char) :
    shellSplitFrom (.plain (some word)) (' ' :: rest) = (shellSplit rest).map (word :: ·) := by
  rw [shellSplitFrom, if_neg (by decide), if_neg (by decide), if_pos (by decide)]
  rfl

/-- Texts in single quotes, one blank between each two, are read back word for word. -/
theorem shellSplit_quoted (texts : List (List Char)) :
    shellSplit ([' '].intercalate (texts.map fun text => '\'' :: (quoteBody text ++ ['\'']))) =
      some (texts.map fun text => { text := text }) := by
  induction texts with
  | nil => rfl
  | cons text texts ih =>
    cases texts with
    | nil =>
      have hlast := shellSplitFrom_quoted text []
      simpa [shellSplit, shellSplitFrom] using hlast
    | cons next texts =>
      rw [List.map_cons, List.map_cons] at ih ⊢
      have hline : [' '].intercalate
          (('\'' :: (quoteBody text ++ ['\''])) :: ('\'' :: (quoteBody next ++ ['\''])) ::
            texts.map fun text => '\'' :: (quoteBody text ++ ['\''])) =
          '\'' :: (quoteBody text ++ '\'' :: ' ' :: [' '].intercalate
            (('\'' :: (quoteBody next ++ ['\''])) ::
              texts.map fun text => '\'' :: (quoteBody text ++ ['\'']))) := by
        simp [List.intercalate]
      rw [hline, shellSplit, shellSplitFrom_quoted, shellSplitFrom_blank, ih]
      rfl

end CrosswireNm.Library
