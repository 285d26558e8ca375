import ActivityForge.Text.CaseMap

/-!
# Words of a name

`words` cuts a name into words: at every character that is neither letter nor number, before an
upper case letter that follows a lower case one, and before the last of several upper case
letters when a lower case one follows.  The case styles (`pascal`, `camel`, `snake`, `screaming`)
write the words of a name in one of the usual ways.
-/

namespace ActivityForge.Text

/-- The case of the last cased character of the word so far. -/
inductive WordCase
  | uncased
  | lowered
  | raised
deriving DecidableEq, Repr

/-- The case of a word after one more character. -/
def WordCase.next (m : WordCase) (c : Char) : WordCase :=
  if isLowercase c then .lowered else if isUppercase c then .raised else m

/-- Words of a run of letters and numbers, after the reversed `word` in progress. -/
def runWords (word : List Char) (m : WordCase) : List Char → List (List Char)
  | [] => if word.isEmpty then [] else [word.reverse]
  | [c] => [(c :: word).reverse]
  | c :: next :: rest =>
    if m.next c = .lowered && isUppercase next then
      (c :: word).reverse :: runWords [] .uncased (next :: rest)
    else if m = .raised && isUppercase c && isLowercase next then
      word.reverse :: runWords [c] .uncased (next :: rest)
    else runWords (c :: word) (m.next c) (next :: rest)

/-- The maximal runs of letters and numbers, after the reversed `run` in progress. -/
def runsFrom (run : List Char) : List Char → List (List Char)
  | [] => [run.reverse]
  | c :: rest =>
    if isAlphanumeric c then runsFrom (c :: run) rest else run.reverse :: runsFrom [] rest

def words (cs : List Char) : List (List Char) :=
  (runsFrom [] cs).flatMap (runWords [] .uncased)

/-! ## Case styles -/

/-- A word in lower case; a capital sigma at its end becomes a final sigma. -/
def lowerWord : List Char → List Char
  | [] => []
  | [c] => if c = 'Σ' then ['ς'] else lower c
  | c :: rest => lower c ++ lowerWord rest

def upperWord (w : List Char) : List Char := w.flatMap upper

/-- A word with its first letter in upper case and the rest in lower case. -/
def capitalWord : List Char → List Char
  | [] => []
  | c :: rest => upper c ++ lowerWord rest

def pascal (cs : List Char) : List Char := (words cs).flatMap capitalWord

def camel (cs : List Char) : List Char :=
  match words cs with
  | [] => []
  | w :: ws => lowerWord w ++ ws.flatMap capitalWord

def snake (cs : List Char) : List Char := ['_'].intercalate ((words cs).map lowerWord)

def screaming (cs : List Char) : List Char := ['_'].intercalate ((words cs).map upperWord)

end ActivityForge.Text
